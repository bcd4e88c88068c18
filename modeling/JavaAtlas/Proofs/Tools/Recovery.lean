import JavaAtlas.Proofs.Index.History
import JavaAtlas.Proofs.Tools.Phases

/-!
# Recovery from failed builds

No history of calls wedges a service. Whatever builds have failed and whatever others have done to
the disk, between two calls no build is under way; and once the sources are there and can be built,
the next question is answered.
-/

namespace JavaAtlas

namespace Tools

open Index

variable {c : Config} {s t : Service} {d d' : Disk} {amb : Ambient} {tool : String} {args : Json}
  {q : IndexQuery}

/-- The states that a service for a configuration comes to: started on any disk, called in any way,
with any change of the disk by others between two calls. -/
inductive Visited (c : Config) : Service → Prop
  /-- Nothing has been called yet. -/
  | start (d : Disk) : Visited c (.start c d)
  /-- Others change the disk. -/
  | changed {s : Service} (hs : Visited c s) (e : Disk) : Visited c { s with disk := e }
  /-- A call comes to its end. -/
  | called {s t : Service} {r : Except Failure Json} (hs : Visited c s) (amb : Ambient)
      (tool : String) (args : Json) (hrun : (callTool amb tool args).exec s = (r, t)) : Visited c t

lemma Visited.atRest (h : Visited c s) : AtRest s := by
  induction h with
  | start d => exact atRest_start c d
  | changed hs e ih => exact ⟨ih.phase, ih.error⟩
  | called hs amb tool args hrun ih =>
    have hrest := atRest_callTool amb tool args _ ih
    rwa [hrun] at hrest

lemma Visited.config (h : Visited c s) : s.config = c := by
  induction h with
  | start d => rfl
  | changed hs e ih => exact ih
  | called hs amb tool args hrun ih =>
    have hconfig := config_callTool amb tool args c _ ih
    rwa [hrun] at hconfig

/-- After a build that succeeds there is an index. -/
lemma isReady_of_run {j : Job} {summary : Summary} (h : j.run d = (.ok summary, d')) :
    Store.isReady j.config d' = .ok true := by
  obtain ⟨k, -, -, hstored⟩ := Job.stored_of_run h
  obtain ⟨serial, hget⟩ := Node.dataAt?_eq_some_iff.mp hstored.manifest.data
  exact Disk.doesExist_eq_ok j.config.isEntry_manifestPath.toIsNamed hstored.manifest.fits
    hstored.manifest.reaches hget

/-- Where a build succeeds, it can be told beforehand whether there is an index. -/
lemma exists_isReady_of_run {j : Job} {summary : Summary} (h : j.run d = (.ok summary, d')) :
    ∃ ready, Store.isReady j.config d = .ok ready := by
  have hchange := j.changesOnly_run d
  rw [h] at hchange
  match hready : Store.isReady j.config d with
  | .ok ready => exact ⟨ready, rfl⟩
  | .error failure =>
    have hfails := Disk.doesExist_error_of_directories hchange.cwd hchange.directories hready
    cases (isReady_of_run h).symm.trans hfails

/-- Where a service has made sure of an index there is one, and a manifest if it was built. -/
lemma indexed_of_ensures {r : Except Failure Unit} {store : Store}
    (h : Service.Ensures amb s r d' store) (hok : r = .ok ()) :
    Store.isReady s.config d' = .ok true ∧
      (Store.isReady s.config s.disk = .ok false →
        ∃ m, loadManifest s.config d' = .ok (some m)) := by
  cases h with
  | ready hready => exact ⟨hready, fun hnot => by cases hready.symm.trans hnot⟩
  | built _ _ hrun =>
    obtain ⟨k, -, -, hstored⟩ := Job.stored_of_run hrun
    exact ⟨isReady_of_run hrun, fun _ => ⟨_, hstored.serves.manifest⟩⟩
  | refused | broken => cases hok

/-- Where the sources are and can be built, a service at rest comes to have an index. -/
lemma tells_ensureIndex {summary : Summary} (hs : AtRest s)
    (hsource : s.disk.isDirectory s.sourceDir = .ok true)
    (hbuild : (cacheJob s.config amb none none).run s.disk = (.ok summary, d')) :
    ∃ t, (Service.ensureIndex amb).exec s = (.ok (), t) ∧ Tells .ready none t := by
  obtain ⟨ready, hready⟩ : ∃ ready, Store.isReady s.config s.disk = .ok ready :=
    exists_isReady_of_run hbuild
  rw [Service.ensureIndex]
  have husable := Service.exec_isUsable s
  rw [hready] at husable
  by_cases hnow : s.phase = .ready ∧ ready = true
  · obtain ⟨hphase, rfl⟩ := hnow
    rw [if_pos hphase] at husable
    rw [Action.exec_bind_of_ok husable]
    have herror : s.error = none := by
      by_contra h
      have hfailed := hs.error.mp h
      rw [hphase] at hfailed
      cases hfailed
    exact ⟨s, rfl, hphase, herror⟩
  · have hnot : Service.isUsable.exec s = (.ok false, s) := by
      rw [husable]
      by_cases hphase : s.phase = .ready
      · rw [if_pos hphase]
        simp_all
      · rw [if_neg hphase]
    rw [Action.exec_bind_of_ok hnot]
    simp only [Bool.false_eq_true, if_false]
    rw [Action.exec_bind_of_ok (Action.exec_modify ..)]
    obtain ⟨outcome, t, hrun, hensures, -⟩ :=
      Service.ensures_runInitialize amb { s with phase := .initializing }
    have hended := Service.ended_runInitialize hrun
    rw [Action.exec_bind_of_ok hrun, Action.exec_ofExcept]
    have hok : outcome = .ok () := by
      generalize t.disk = disk, t.store = store at hensures
      cases hensures with
      | ready | built => rfl
      | refused e hno hmissing =>
        cases ready with
        | true => exact absurd hready hno
        | false => exact absurd hsource (hmissing hready)
      | broken _ _ hrun' => cases hbuild.symm.trans hrun'
    subst hok
    exact ⟨t, rfl, hended⟩

/-- No history wedges a service: no build is under way and there is an error exactly if the last
build failed. Once the configured sources are a directory and building them succeeds, the next
question finds an index and is answered from it, and the service is ready without an error. The
index is there afterwards, with a manifest that loads if it had to be built. -/
theorem no_history_wedges (h : Visited c s) :
    (s.phase ≠ .initializing ∧ (s.error ≠ none ↔ s.phase = .failed)) ∧
      ∀ amb tool args q summary d', readRequest tool args = .ok (.query q) →
        s.disk.isDirectory (sourcesOf c c.version) = .ok true →
        (cacheJob c amb none none).run s.disk = (.ok summary, d') →
        (∃ t, (Service.ensureIndex amb).exec s = (.ok (), t) ∧
          (callTool amb tool args).exec s = (answerQuery q).exec t) ∧
        (∀ e, ((callTool amb tool args).exec s).1 ≠ .ok (unavailable e)) ∧
        ((callTool amb tool args).exec s).2.phase = .ready ∧
        ((callTool amb tool args).exec s).2.error = none ∧
        Store.isReady c ((callTool amb tool args).exec s).2.disk = .ok true ∧
        (Store.isReady c s.disk = .ok false →
          ∃ m, loadManifest c ((callTool amb tool args).exec s).2.disk = .ok (some m)) := by
  have hrest := h.atRest
  refine ⟨⟨hrest.phase, hrest.error⟩, ?_⟩
  intro amb tool args q summary d' hq hsource hbuild
  rw [← h.config] at hsource hbuild
  obtain ⟨t, hensure, htells⟩ := tells_ensureIndex hrest hsource hbuild
  have hcall : (callTool amb tool args).exec s = (answerQuery q).exec t := by
    rw [exec_callTool hq, exec_answer_of_ok hensure]
  have hafter := keeps_answerQuery q t htells
  have hensures := (Service.ensures_ensureIndex amb s).1
  rw [hensure] at hensures
  have hindexed := indexed_of_ensures hensures rfl
  rw [h.config] at hindexed
  rw [hcall, disk_answerQuery]
  exact ⟨⟨t, hensure, rfl⟩, answerQuery_ne_unavailable q t, hafter.phase, hafter.error, hindexed⟩

/-! ### Sources that come late -/

/-- A home with the sources of one type. -/
def lateDisk : Disk where
  root := .directory [("home", .directory [("cache", .directory [("1", .directory
    [("client", .directory [("A.java", .file 0 (.bytes "class A\x7b".toUTF8))])])])])]
  cwd := []
  nextSerial := 1

def listAll : Action Service Json := callTool plainAmbient "mc_list_classes" (.obj [])

/-- A service that was asked too early, once the sources are there. -/
def lateService : Service := { (listAll.exec (.start plainConfig bareDisk)).2 with disk := lateDisk }

lemma visited_lateService : Visited plainConfig lateService := by
  apply Visited.changed
  exact .called (.start bareDisk) plainAmbient "mc_list_classes" (.obj []) rfl

set_option maxRecDepth 100000 in
theorem no_history_wedges_late : lateService.phase = .failed ∧
    (listAll.exec lateService).2.phase = .ready ∧ (listAll.exec lateService).2.error = none ∧
    ∃ m, loadManifest plainConfig (listAll.exec lateService).2.disk = .ok (some m) := by
  have hfailed : lateService.phase = .failed := by decide +kernel
  have hnone : Store.isReady plainConfig lateService.disk = .ok false :=
    eq_ok_of_toOption (by decide +kernel)
  have hq : readRequest "mc_list_classes" (.obj []) = .ok (.query (.listTypes (.str ""))) := rfl
  have hsource : lateService.disk.isDirectory (sourcesOf plainConfig plainConfig.version) =
      .ok true := eq_ok_of_toOption (by decide +kernel)
  obtain ⟨summary, d', hrun⟩ : ∃ s d',
      (cacheJob plainConfig plainAmbient none none).run lateService.disk = (.ok s, d') :=
    exists_of_isOk (by decide +kernel)
  obtain ⟨-, -, hphase, herror, -, hloads⟩ :=
    (no_history_wedges visited_lateService).2 plainAmbient _ _ _ summary d' hq hsource hrun
  exact ⟨hfailed, hphase, herror, hloads hnone⟩

end Tools

end JavaAtlas

import JavaAtlas.Proofs.Tools.Steps

/-!
# The phase of a service

What a service tells of its index, the phase and the error, changes when a build begins and when it
ends, and at no other time. A build that has ended well leaves the service ready without an error,
one that has failed leaves it failed with the message of the failure.
-/

namespace JavaAtlas

namespace Tools

open Index

variable {α : Type} {phase : Phase} {error : Option String} {amb : Ambient} {s : Service}

/-- What a service tells of its index. -/
structure Tells (phase : Phase) (error : Option String) (s : Service) : Prop where
  phase : s.phase = phase
  error : s.error = error

/-- No build is under way, and there is an error exactly if the last one failed. -/
structure AtRest (s : Service) : Prop where
  phase : s.phase ≠ .initializing
  error : s.error ≠ none ↔ s.phase = .failed

/-- What a service tells once a build has ended. -/
def Ended : Except Failure α → Service → Prop
  | .ok _ => Tells .ready none
  | .error e => Tells .failed (some e.message)

lemma Ended.atRest {outcome : Except Failure α} (h : Ended outcome s) : AtRest s := by
  cases outcome with
  | ok a => exact ⟨by simp [h.phase], by simp [h.phase, h.error]⟩
  | error e => exact ⟨by simp [h.phase], by simp [h.phase, h.error]⟩

lemma atRest_start (c : Config) (d : Disk) : AtRest (.start c d) :=
  ⟨by simp [Service.start], by simp [Service.start]⟩

lemma Tells.atRest {t : Service} (h : Tells s.phase s.error t) (hs : AtRest s) : AtRest t := by
  constructor
  · rw [h.phase]
    exact hs.phase
  · rw [h.phase, h.error]
    exact hs.error

/-! ### What tells nothing new -/

lemma keeps_onStore (act : Disk → Action Store α) :
    (Service.onStore act).Keeps (Tells phase error) :=
  fun _ h => ⟨h.phase, h.error⟩

lemma keeps_onGraph (act : Disk → Action CallGraph.Store α) :
    (Service.onGraph act).Keeps (Tells phase error) :=
  fun _ h => ⟨h.phase, h.error⟩

lemma keeps_answerQuery (q : IndexQuery) : (answerQuery q).Keeps (Tells phase error) := by
  obtain ⟨α, ask, reply, hrun, -⟩ := exec_answerQuery q
  intro s h
  rw [hrun]
  exact ⟨h.phase, h.error⟩

lemma keeps_answerIngest (amb : Ambient) (dump : Json) :
    (answerIngest amb dump).Keeps (Tells phase error) := by
  intro s h
  obtain ⟨disk, graph, hdone⟩ := exec_answerIngest amb dump s
  rw [hdone]
  exact ⟨h.phase, h.error⟩

/-- To answer without an index tells nothing new of it. -/
lemma tells_answerDirect (amb : Ambient) (request : Request) :
    (answerDirect amb request).Keeps (Tells phase error) :=
  keeps_answerDirect amb (keeps_onStore _) (fun _ => keeps_onStore _) keeps_onGraph
    fun dump _ => keeps_answerIngest amb dump

namespace Service

/-! ### How a build ends -/

lemma ended_settle (outcome : Except Failure α) (s : Service) :
    Ended outcome ((settle outcome).exec s).2 := by
  cases outcome with
  | ok a => exact ⟨rfl, rfl⟩
  | error e => exact ⟨rfl, rfl⟩

lemma ended_runInitialize {outcome : Except Failure Unit} {t : Service}
    (h : (runInitialize amb).exec s = (.ok outcome, t)) : Ended outcome t := by
  have hended := ended_settle ((buildIfMissing amb).exec s).1 ((buildIfMissing amb).exec s).2
  obtain ⟨phase, error, hsettle⟩ :=
    exec_settle ((buildIfMissing amb).exec s).1 ((buildIfMissing amb).exec s).2
  rw [runInitialize, Action.exec_bind_of_ok (Action.exec_outcome ..),
    Action.exec_bind_of_ok hsettle] at h
  rw [hsettle] at hended
  cases h
  exact hended

lemma ended_runRebuild (amb : Ambient) (version secondaryVersion : Json) (s : Service) :
    ∃ outcome t, (runRebuild amb version secondaryVersion).exec s = (.ok outcome, t) ∧
      Ended outcome t := by
  rw [runRebuild, Action.exec_bind_of_ok (Action.exec_get ..),
    Action.exec_bind_of_ok (Action.exec_outcome ..),
    Action.exec_bind_of_ok (exec_forgetIndex _)]
  generalize ((onDisk (buildFromCache s.config amb.sizes amb.generatedAt version
    secondaryVersion)).exec s).1 = outcome
  generalize ((onDisk (buildFromCache s.config amb.sizes amb.generatedAt version
    secondaryVersion)).exec s).2 = t
  have hended := ended_settle outcome { t with store := t.store.forget }
  obtain ⟨phase, error, hsettle⟩ := exec_settle outcome { t with store := t.store.forget }
  rw [hsettle] at hended
  exact ⟨_, _, Action.exec_bind_of_ok hsettle, hended⟩

/-- To ask whether a question can be answered changes nothing. -/
lemma exec_isUsable (s : Service) : isUsable.exec s =
    (if s.phase = .ready then Store.isReady s.config s.disk else .ok false, s) := by
  rw [isUsable, Action.exec_bind_of_ok (Action.exec_get ..)]
  by_cases hphase : s.phase = .ready
  · simp only [hphase, beq_self_eq_true, if_true]
    exact exec_hasIndex s
  · simp [hphase]

/-- A service at rest is at rest after it has made sure of an index, or failed to. -/
lemma atRest_ensureIndex (amb : Ambient) : (ensureIndex amb).Keeps AtRest := by
  intro s hs
  rw [ensureIndex]
  cases husable : (if s.phase = .ready then Store.isReady s.config s.disk else .ok false) with
  | error e =>
    rw [Action.exec_bind_of_error ((exec_isUsable s).trans (by rw [husable]))]
    exact hs
  | ok usable =>
    rw [Action.exec_bind_of_ok ((exec_isUsable s).trans (by rw [husable]))]
    cases usable with
    | true => exact hs
    | false =>
      simp only [Bool.false_eq_true, if_false]
      rw [Action.exec_bind_of_ok (Action.exec_modify ..)]
      obtain ⟨outcome, t, hrun, -, -⟩ := ensures_runInitialize amb { s with phase := .initializing }
      rw [Action.exec_bind_of_ok hrun, Action.exec_ofExcept]
      exact (ended_runInitialize hrun).atRest

end Service

/-- Every call that has come to its end leaves a service at rest. -/
lemma atRest_callTool (amb : Ambient) (tool : String) (args : Json) :
    (callTool amb tool args).Keeps AtRest := by
  apply keeps_callTool (Service.atRest_ensureIndex amb)
  · exact fun q s hs => (keeps_answerQuery q s ⟨rfl, rfl⟩).atRest hs
  · intro version secondaryVersion s hs
    obtain ⟨outcome, t, hrun, hended⟩ :=
      Service.ended_runRebuild amb version secondaryVersion { s with phase := .initializing }
    rw [answer, Action.exec_bind_of_ok (Action.exec_modify ..), Action.exec_bind_of_ok hrun]
    exact hended.atRest
  · exact fun request s hs => (tells_answerDirect amb request s ⟨rfl, rfl⟩).atRest hs

/-- No call changes the configuration. -/
lemma config_callTool (amb : Ambient) (tool : String) (args : Json) (c : Config) :
    (callTool amb tool args).Keeps fun s => s.config = c := by
  apply keeps_callTool
  · exact fun s hs => (Service.ensures_ensureIndex amb s).2.trans hs
  · intro q s hs
    obtain ⟨α, ask, reply, hrun, -⟩ := exec_answerQuery q
    rw [hrun]
    exact hs
  · intro version secondaryVersion s hs
    obtain ⟨phase, error, hdone⟩ := exec_answer_rebuild amb version secondaryVersion s
    rw [hdone]
    exact hs
  · intro request
    refine keeps_answerDirect amb (fun _ hs => hs) (fun _ _ hs => hs) (fun _ _ hs => hs) ?_
    intro dump _ s hs
    obtain ⟨disk, graph, hdone⟩ := exec_answerIngest amb dump s
    rw [hdone]
    exact hs

end Tools

end JavaAtlas

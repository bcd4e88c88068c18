import Mathlib.Data.List.Perm.Basic
import Mathlib.Logic.Relation
import JavaAtlas.Proofs.Tools.Phases
import JavaAtlas.Tools.Together

/-!
# One build at a time

Calls arrive, wait and go on in any order. Whatever the order, at most one build has not ended, and
it is the newest. A question that arrives meanwhile begins no build and is answered with the
outcome of that one; and no build begins before all others have ended.
-/

namespace JavaAtlas

namespace Tools

namespace Calls

variable {c c' : Calls} {amb : Ambient} {id n i : Nat} {q : IndexQuery}

/-- A build has begun and not ended. -/
def Unfinished (c : Calls) (n : Nat) : Prop := ∃ build, c.builds[n]? = some ⟨build, none⟩

/-- The numbers of the calls that wait or are answered. -/
def ids (c : Calls) : List Nat := c.waiting.map Waiting.id ++ c.replies.map Prod.fst

/-- What can happen next while calls are in progress. -/
inductive Step (c : Calls) : Calls → Prop
  /-- A call arrives. -/
  | receive (amb : Ambient) {id : Nat} (hid : id ∉ c.ids) (tool : String) (args : Json) :
      Step c (c.receive amb id tool args)
  /-- A call goes on, if its build has ended. -/
  | goOn (i : Nat) : Step c (c.goOn i)
  /-- A build ends, if it has not ended yet. -/
  | land (amb : Ambient) (n : Nat) : Step c (c.land amb n)
  /-- The disk changes, by others or by a build that is still under way. -/
  | disturb (e : Disk) : Step c { c with service := { c.service with disk := e } }

/-- What can have happened after any number of steps. -/
def Leads : Calls → Calls → Prop := Relation.ReflTransGen Step

/-- The states of calls in progress, the first of them having come to a service at rest. -/
def Reachable (c : Calls) : Prop := ∃ s, AtRest s ∧ Leads (.start s) c

/-! ### How a call moves -/

/-- What a call does when it arrives or goes on. -/
inductive Moves (id : Nat) (c : Calls) : Calls → Prop
  /-- It is answered. -/
  | answered {s : Service} (hphase : s.phase = c.service.phase) (r : Except Failure Json) :
      Moves id c { c with service := s, replies := c.replies ++ [(id, r)] }
  /-- It waits for the build in flight. -/
  | joined {n : Nat} (h : c.inFlight? = some n) (w : Waiter) :
      Moves id c { c with waiting := c.waiting ++ [⟨id, w, n⟩] }
  /-- It begins a build. -/
  | began (h : c.inFlight? = none) (build : Build) (w : Waiter) :
      Moves id c (c.launch build id w)

lemma moves_reply (c : Calls) (id : Nat) {act : Action Service Json}
    (h : act.Keeps (Tells c.service.phase c.service.error)) : Moves id c (c.reply id act) :=
  .answered (h c.service ⟨rfl, rfl⟩).phase _

lemma moves_wait (c : Calls) (build : Build) (id : Nat) (begun joined : Waiter) :
    Moves id c (c.wait build id begun joined) := by
  rw [wait]
  cases hflight : c.inFlight? with
  | none => exact .began hflight build begun
  | some n => exact .joined hflight joined

lemma arrive_query (amb : Ambient) (c : Calls) (id : Nat) (q : IndexQuery) :
    c.arrive amb id (.query q) =
      match (if c.service.phase = .ready then Store.isReady c.service.config c.service.disk
        else .ok false) with
      | .error e => c.reply id (pure (unavailable e))
      | .ok true => c.reply id (answerQuery q)
      | .ok false => c.wait .first id (.question q) (.question q) := by
  have husable := Service.exec_isUsable c.service
  rw [Action.exec] at husable
  rw [arrive]
  generalize (if c.service.phase = .ready then Store.isReady c.service.config c.service.disk
    else .ok false) = usable at husable ⊢
  rcases usable with e | _ | _ <;> simp only [husable]

lemma moves_arrive (amb : Ambient) (c : Calls) (id : Nat) (request : Request) :
    Moves id c (c.arrive amb id request) := by
  cases request with
  | query q =>
    rw [arrive_query]
    split
    · exact moves_reply c id (.pure _)
    · exact moves_reply c id (keeps_answerQuery q)
    · exact moves_wait c _ id _ _
  | rebuild version secondaryVersion => exact moves_wait c _ id _ _
  | ingest | refs | searchMethods | callGraphStats | status | refused =>
    simp only [arrive]
    exact moves_reply c id (tells_answerDirect amb _)

lemma moves_receive (amb : Ambient) (c : Calls) (id : Nat) (tool : String) (args : Json) :
    Moves id c (c.receive amb id tool args) := by
  rw [receive]
  split
  · exact moves_arrive amb c id _
  · exact moves_reply c id (.throw _)

lemma keeps_questionAnswer (q : IndexQuery) (outcome : BuildOutcome) {phase : Phase}
    {error : Option String} : (questionAnswer q outcome).Keeps (Tells phase error) := by
  cases outcome with
  | ok summary => exact keeps_answerQuery q
  | error e => exact .pure _

lemma moves_resume (c : Calls) (id : Nat) (outcome : BuildOutcome) (w : Waiter) :
    Moves id c (c.resume id outcome w) := by
  cases w with
  | starter => exact moves_reply c id (.pure _)
  | nextBuild version secondaryVersion => exact moves_wait c _ id _ _
  | question q => exact moves_reply c id (keeps_questionAnswer q outcome)

/-- Calls without one that waits. -/
def without (c : Calls) (i : Nat) : Calls := { c with waiting := c.waiting.eraseIdx i }

/-- A call goes on only if it waits for a build that has ended. -/
lemma goOn_cases (c : Calls) (i : Nat) :
    c.goOn i = c ∨ ∃ w outcome, c.waiting[i]? = some w ∧ c.outcome? w.build = some outcome ∧
      c.goOn i = (c.without i).resume w.id outcome w.waiter := by
  rw [goOn]
  split
  · exact Or.inl rfl
  · next w hw =>
    split
    · exact Or.inl rfl
    · next outcome houtcome => exact Or.inr ⟨w, outcome, hw, houtcome, rfl⟩

/-- A build that ends leaves a service at rest. -/
lemma atRest_runBuild (amb : Ambient) (build : Build) (s : Service) :
    AtRest ((runBuild amb build).exec s).2 := by
  cases build with
  | first =>
    obtain ⟨outcome, t, hrun, -, -⟩ := Service.ensures_runInitialize amb s
    rw [runBuild, Action.exec_bind_of_ok hrun]
    exact (Service.ended_runInitialize hrun).atRest
  | asked version secondaryVersion =>
    obtain ⟨outcome, t, hrun, hended⟩ := Service.ended_runRebuild amb version secondaryVersion s
    rw [runBuild, Action.exec_bind_of_ok hrun]
    exact hended.atRest

lemma land_cases (amb : Ambient) (c : Calls) (n : Nat) :
    (¬ c.Unfinished n ∧ c.land amb n = c) ∨ ∃ build outcome s, AtRest s ∧
      c.builds[n]? = some ⟨build, none⟩ ∧
      c.land amb n = { c with service := s, builds := c.builds.set n ⟨build, some outcome⟩ } := by
  rw [land]
  split
  · next build hbuild =>
    exact Or.inr ⟨build, _, _, atRest_runBuild amb build c.service, hbuild, rfl⟩
  · next hnot =>
    exact Or.inl ⟨fun ⟨build, hbuild⟩ => hnot build hbuild, rfl⟩

/-! ### What every step keeps -/

/-- A build that has not ended is the newest one and the one that calls share, and the service is
initializing exactly while there is one. Calls wait for builds that have begun, and no two calls
have one number. -/
structure Sound (c : Calls) : Prop where
  newest : ∀ n, c.shared = some n → n + 1 = c.builds.length
  shared : ∀ n, c.Unfinished n → c.shared = some n
  phase : c.service.phase = .initializing ↔ ∃ n, c.Unfinished n
  waiting : ∀ w ∈ c.waiting, w.build < c.builds.length
  ids : c.ids.Nodup

lemma unfinished_iff : c.Unfinished n ↔ n < c.builds.length ∧ c.outcome? n = none := by
  constructor
  · rintro ⟨build, hbuild⟩
    exact ⟨(List.getElem?_eq_some_iff.mp hbuild).1, by rw [outcome?, hbuild]; rfl⟩
  · rintro ⟨hlt, hnone⟩
    rw [outcome?, List.getElem?_eq_getElem hlt, Option.bind_some] at hnone
    exact ⟨c.builds[n].build, by rw [List.getElem?_eq_getElem hlt, ← hnone]⟩

lemma Sound.inFlight?_eq_some (h : c.Sound) : c.inFlight? = some n ↔ c.Unfinished n := by
  rw [inFlight?, Option.filter_eq_some_iff, Option.isNone_iff_eq_none, unfinished_iff]
  constructor
  · rintro ⟨hshared, hnone⟩
    exact ⟨by have := h.newest n hshared; omega, hnone⟩
  · rintro ⟨hlt, hnone⟩
    exact ⟨h.shared n (unfinished_iff.mpr ⟨hlt, hnone⟩), hnone⟩

lemma Sound.inFlight?_eq_none (h : c.Sound) : c.inFlight? = none ↔ ∀ n, ¬ c.Unfinished n := by
  rw [Option.eq_none_iff_forall_ne_some]
  exact forall_congr' fun n => not_congr h.inFlight?_eq_some

lemma sound_start {s : Service} (h : AtRest s) : (start s).Sound where
  newest n hn := by cases hn
  shared n hn := by
    obtain ⟨build, hbuild⟩ := hn
    cases hbuild
  phase := by
    refine ⟨fun hphase => absurd hphase h.phase, fun ⟨n, build, hbuild⟩ => ?_⟩
    cases hbuild
  waiting w hw := by cases hw
  ids := List.nodup_nil

/-- After a build has begun it alone has not ended. -/
lemma unfinished_launch (h : ∀ n, ¬ c.Unfinished n) (build : Build) (w : Waiter) :
    (c.launch build id w).Unfinished n ↔ n = c.builds.length := by
  constructor
  · rintro ⟨other, hother⟩
    by_contra hne
    rw [launch, List.getElem?_append] at hother
    split at hother
    · exact h n ⟨other, hother⟩
    · next hle =>
      rw [List.getElem?_eq_none (by simp; omega)] at hother
      cases hother
  · rintro rfl
    exact ⟨build, by simp [launch]⟩

/-- A call that moves waits or is answered afterwards, and no other call is touched. -/
lemma ids_of_moves (hmoves : Moves id c c') : c'.ids.Perm (id :: c.ids) := by
  cases hmoves with
  | answered =>
    simp only [ids, List.map_append, List.map_cons, List.map_nil, ← List.append_assoc]
    exact List.perm_append_singleton id _
  | joined | began =>
    simp only [launch, ids, List.map_append, List.map_cons, List.map_nil, List.append_assoc,
      List.singleton_append]
    exact List.perm_middle

/-- Whatever a call does that was not there before, the calls stay sound. -/
lemma Sound.moves (h : c.Sound) (hid : id ∉ c.ids) (hmoves : Moves id c c') : c'.Sound := by
  have hids : c'.ids.Nodup :=
    (List.Perm.nodup_iff (ids_of_moves hmoves)).mpr (List.nodup_cons.mpr ⟨hid, h.ids⟩)
  cases hmoves with
  | answered hphase r => exact ⟨h.newest, h.shared, hphase ▸ h.phase, h.waiting, hids⟩
  | joined hflight w =>
    refine ⟨h.newest, h.shared, h.phase, ?_, hids⟩
    intro v hv
    rcases List.mem_append.mp hv with hold | hnew
    · exact h.waiting v hold
    · rw [List.mem_singleton.mp hnew]
      exact (unfinished_iff.mp (h.inFlight?_eq_some.mp hflight)).1
  | began hflight build w =>
    have hnone := h.inFlight?_eq_none.mp hflight
    refine ⟨?_, ?_, ?_, ?_, hids⟩
    · intro n hn
      cases hn
      simp [launch]
    · intro n hn
      rw [(unfinished_launch hnone build w).mp hn]
      rfl
    · exact iff_of_true rfl ⟨_, (unfinished_launch hnone build w).mpr rfl⟩
    · intro v hv
      rcases List.mem_append.mp hv with hold | hnew
      · have hlt := h.waiting v hold
        simp only [launch, List.length_append, List.length_singleton]
        omega
      · rw [List.mem_singleton.mp hnew]
        simp [launch]

/-- The number of a call that goes on is free while it does. -/
lemma ids_without {w : Waiting} (hw : c.waiting[i]? = some w) :
    c.ids.Perm (w.id :: (c.without i).ids) := by
  obtain ⟨hlt, rfl⟩ := List.getElem?_eq_some_iff.mp hw
  have hperm := (List.getElem_cons_eraseIdx_perm hlt).symm.map Waiting.id
  exact hperm.append_right (c.replies.map Prod.fst)

lemma Sound.without (h : c.Sound) (i : Nat) : (c.without i).Sound where
  newest := h.newest
  shared := h.shared
  phase := h.phase
  waiting w hw := h.waiting w (List.mem_of_mem_eraseIdx hw)
  ids := by
    refine h.ids.sublist ?_
    exact ((List.eraseIdx_sublist _ i).map _).append_right _

lemma Sound.goOn (h : c.Sound) (i : Nat) : (c.goOn i).Sound := by
  rcases c.goOn_cases i with hsame | ⟨w, outcome, hw, -, hgo⟩
  · rwa [hsame]
  · have hids := (List.Perm.nodup_iff (ids_without hw)).mp h.ids
    rw [hgo]
    exact (h.without i).moves (List.nodup_cons.mp hids).1 (moves_resume _ _ _ _)

/-- Once the build in flight has ended, none is left that has not. -/
lemma Sound.land (h : c.Sound) (amb : Ambient) (n : Nat) : (c.land amb n).Sound := by
  rcases land_cases amb c n with ⟨-, hsame⟩ | ⟨build, outcome, s, hrest, hbuild, hland⟩
  · rwa [hsame]
  · rw [hland]
    have hended : ∀ m, ¬ Unfinished
        { c with service := s, builds := c.builds.set n ⟨build, some outcome⟩ } m := by
      rintro m ⟨other, hother⟩
      rw [List.getElem?_set] at hother
      split at hother
      · split at hother <;> simp at hother
      · next hne =>
        have hm := h.shared m ⟨other, hother⟩
        rw [h.shared n ⟨build, hbuild⟩, Option.some.injEq] at hm
        exact hne hm
    refine ⟨?_, fun m hm => absurd hm (hended m), ?_, ?_, h.ids⟩
    · simpa using h.newest
    · exact iff_of_false hrest.phase fun ⟨m, hm⟩ => hended m hm
    · simpa using h.waiting

/-- Every step keeps calls sound. -/
lemma Sound.step (h : c.Sound) (hstep : Step c c') : c'.Sound := by
  cases hstep with
  | receive amb hid tool args => exact h.moves hid (moves_receive amb c _ tool args)
  | goOn i => exact h.goOn i
  | land amb n => exact h.land amb n
  | disturb e => exact ⟨h.newest, h.shared, h.phase, h.waiting, h.ids⟩

lemma Sound.leads (h : c.Sound) (hleads : Leads c c') : c'.Sound := by
  induction hleads with
  | refl => exact h
  | tail _ hstep ih => exact ih.step hstep

lemma Reachable.sound (h : c.Reachable) : c.Sound := by
  obtain ⟨s, hrest, hleads⟩ := h
  exact (sound_start hrest).leads hleads

/-! ### Builds begin and end -/

/-- A call begins a build only where none is in flight. -/
lemma builds_of_moves (hmoves : Moves id c c') : c'.builds = c.builds ∨
    c.inFlight? = none ∧ ∃ build, c'.builds = c.builds ++ [⟨build, none⟩] := by
  cases hmoves with
  | answered | joined => exact Or.inl rfl
  | began hflight build w => exact Or.inr ⟨hflight, build, rfl⟩

lemma outcome?_of_builds {outcome : BuildOutcome} (h : c.outcome? n = some outcome)
    (hbuilds : c'.builds = c.builds ∨ ∃ build, c'.builds = c.builds ++ [⟨build, none⟩]) :
    c'.outcome? n = some outcome := by
  rcases hbuilds with hsame | ⟨build, hmore⟩
  · rwa [outcome?, hsame]
  · obtain ⟨begun, hbegun, houtcome⟩ := Option.bind_eq_some_iff.mp h
    rw [outcome?, hmore, List.getElem?_append_left (List.getElem?_eq_some_iff.mp hbegun).1, hbegun]
    exact houtcome

/-- The outcome of a build does not change any more. -/
lemma outcome?_step {outcome : BuildOutcome} (h : c.outcome? n = some outcome)
    (hstep : Step c c') : c'.outcome? n = some outcome := by
  cases hstep with
  | receive amb hid tool args =>
    exact outcome?_of_builds h ((builds_of_moves (moves_receive amb c _ tool args)).imp_right And.right)
  | goOn i =>
    rcases c.goOn_cases i with hsame | ⟨w, outcome, hw, -, hgo⟩
    · rwa [hsame]
    · rw [hgo]
      have hmoves := moves_resume (c.without i) w.id outcome w.waiter
      exact outcome?_of_builds h ((builds_of_moves hmoves).imp_right And.right)
  | land amb m =>
    rcases land_cases amb c m with ⟨-, hsame⟩ | ⟨build, ended, s, -, hbuild, hland⟩
    · rwa [hsame]
    · rw [hland, outcome?, List.getElem?_set_ne]
      · exact h
      · rintro rfl
        rw [outcome?, hbuild] at h
        cases h
  | disturb e => exact h

/-- A step begins one build at most, and only once every other one has ended. -/
lemma Sound.begins (h : c.Sound) (hstep : Step c c') (hmore : c.builds.length < c'.builds.length) :
    (∀ n, ¬ c.Unfinished n) ∧ ∃ build, c'.builds = c.builds ++ [⟨build, none⟩] := by
  have hmoved : ∀ {e : Calls} {id : Nat}, e.Sound → e.builds = c.builds → Moves id e c' →
      (∀ n, ¬ c.Unfinished n) ∧ ∃ build, c'.builds = c.builds ++ [⟨build, none⟩] := by
    intro e id he hbuilds hmoves
    rcases builds_of_moves hmoves with hsame | ⟨hflight, hbegun⟩
    · rw [hsame, hbuilds] at hmore
      exact absurd hmore (Nat.lt_irrefl _)
    · rw [hbuilds] at hbegun
      refine ⟨fun n hn => he.inFlight?_eq_none.mp hflight n ?_, hbegun⟩
      rwa [Unfinished, hbuilds]
  cases hstep with
  | receive amb hid tool args => exact hmoved h rfl (moves_receive amb c _ tool args)
  | goOn i =>
    rcases c.goOn_cases i with hsame | ⟨w, outcome, hw, -, hgo⟩
    · rw [hsame] at hmore
      exact absurd hmore (Nat.lt_irrefl _)
    · exact hmoved (h.without i) rfl (hgo ▸ moves_resume (c.without i) w.id outcome w.waiter)
  | land amb m =>
    rcases land_cases amb c m with ⟨-, hsame⟩ | ⟨build, ended, s, -, -, hland⟩
    · rw [hsame] at hmore
      exact absurd hmore (Nat.lt_irrefl _)
    · rw [hland, List.length_set] at hmore
      exact absurd hmore (Nat.lt_irrefl _)
  | disturb e => exact absurd hmore (Nat.lt_irrefl _)

/-! ### A question that waits -/

/-- A question waits for a build and has no answer yet. -/
def Awaits (c : Calls) (id : Nat) (q : IndexQuery) (n : Nat) : Prop :=
  ⟨id, .question q, n⟩ ∈ c.waiting ∧ ∀ r, (id, r) ∉ c.replies

/-- On the way from a first state a question waited until its build had ended, and it has one
answer, which follows from the outcome and was given by the service as it was then. -/
def Served (first c : Calls) (id : Nat) (q : IndexQuery) (n : Nat) : Prop :=
  ∃ e outcome, Leads first e ∧ e.Awaits id q n ∧ e.outcome? n = some outcome ∧ Leads e c ∧
    c.outcome? n = some outcome ∧
    ∀ r, (id, r) ∈ c.replies ↔ r = ((questionAnswer q outcome).exec e.service).1

lemma Sound.awaits (h : c.Sound) (hw : ⟨id, .question q, n⟩ ∈ c.waiting) : c.Awaits id q n := by
  refine ⟨hw, fun r hr => ?_⟩
  have hdisjoint := List.disjoint_of_nodup_append h.ids
  exact hdisjoint (List.mem_map_of_mem hw) (List.mem_map_of_mem hr)

/-- A call has one reply at most. -/
lemma Sound.mem_replies_iff (h : c.Sound) {r : Except Failure Json} (hr : (id, r) ∈ c.replies)
    (r' : Except Failure Json) : (id, r') ∈ c.replies ↔ r' = r := by
  refine ⟨fun hr' => ?_, fun heq => heq ▸ hr⟩
  have hnodup := (List.nodup_append.mp h.ids).2.1
  exact congrArg Prod.snd (List.inj_on_of_nodup_map hnodup hr' hr rfl)

lemma mem_waiting_of_moves (hmoves : Moves id c c') {w : Waiting} (hw : w ∈ c.waiting) :
    w ∈ c'.waiting := by
  cases hmoves with
  | answered => exact hw
  | joined | began => exact List.mem_append_left _ hw

lemma mem_replies_of_moves (hmoves : Moves id c c') {r : Reply} (hr : r ∈ c.replies) :
    r ∈ c'.replies := by
  cases hmoves with
  | answered => exact List.mem_append_left _ hr
  | joined | began => exact hr

/-- No reply is taken back. -/
lemma mem_replies_step (hstep : Step c c') {r : Reply} (hr : r ∈ c.replies) : r ∈ c'.replies := by
  cases hstep with
  | receive amb hid tool args => exact mem_replies_of_moves (moves_receive amb c _ tool args) hr
  | goOn i =>
    rcases c.goOn_cases i with hsame | ⟨w, outcome, -, -, hgo⟩
    · rwa [hsame]
    · have hr' : r ∈ (c.without i).replies := hr
      rw [hgo]
      exact mem_replies_of_moves (moves_resume _ _ _ _) hr'
  | land amb m =>
    rcases land_cases amb c m with ⟨-, hsame⟩ | ⟨build, ended, s, -, -, hland⟩
    · rwa [hsame]
    · rwa [hland]
  | disturb e => exact hr

/-- A question goes on once its build has ended. -/
lemma Sound.served_goOn {first : Calls} (h : c.Sound) (hleads : Leads first c)
    {outcome : BuildOutcome} (hat : c.waiting[i]? = some ⟨id, .question q, n⟩)
    (houtcome : c.outcome? n = some outcome) : Served first (c.goOn i) id q n := by
  have hgo : c.goOn i = (c.without i).reply id (questionAnswer q outcome) := by
    rw [Calls.goOn, hat]
    simp only [houtcome]
    rfl
  have hreply : (id, ((questionAnswer q outcome).exec c.service).1) ∈ (c.goOn i).replies := by
    rw [hgo]
    exact List.mem_append_right _ (List.mem_singleton_self _)
  exact ⟨c, outcome, hleads, h.awaits (List.mem_of_getElem? hat), houtcome, .single (.goOn i),
    outcome?_step houtcome (.goOn i), (h.goOn i).mem_replies_iff hreply⟩

/-- A question that waits goes on waiting, or its build has ended and answers it. -/
lemma Sound.awaits_step {first : Calls} (h : c.Sound) (hleads : Leads first c)
    (hw : c.Awaits id q n) (hstep : Step c c') : c'.Awaits id q n ∨ Served first c' id q n := by
  have hsound := h.step hstep
  cases hstep with
  | receive amb hid tool args =>
    exact Or.inl (hsound.awaits (mem_waiting_of_moves (moves_receive amb c _ tool args) hw.1))
  | goOn i =>
    rcases c.goOn_cases i with hsame | ⟨w, outcome, hat, houtcome, hgo⟩
    · rw [hsame]
      exact Or.inl hw
    · by_cases hself : w = ⟨id, .question q, n⟩
      · subst hself
        exact Or.inr (h.served_goOn hleads hat houtcome)
      · -- another call goes on, which stands at another place of the queue
        obtain ⟨k, hk⟩ := List.mem_iff_getElem?.mp hw.1
        have hne : k ≠ i := by
          rintro rfl
          rw [hat, Option.some.injEq] at hk
          exact hself hk
        have hstays : ⟨id, .question q, n⟩ ∈ (c.without i).waiting :=
          List.mem_eraseIdx_iff_getElem?.mpr ⟨k, hne, hk⟩
        refine Or.inl (hsound.awaits ?_)
        rw [hgo]
        exact mem_waiting_of_moves (moves_resume _ _ _ _) hstays
  | land amb m =>
    refine Or.inl (hsound.awaits ?_)
    rcases land_cases amb c m with ⟨-, hsame⟩ | ⟨build, ended, s, -, -, hland⟩
    · rw [hsame]
      exact hw.1
    · rw [hland]
      exact hw.1
  | disturb e => exact Or.inl hw

lemma Sound.served_step {first : Calls} (h : c.Sound) (hserved : Served first c id q n)
    (hstep : Step c c') : Served first c' id q n := by
  obtain ⟨e, outcome, hbefore, hwaits, hended, hleads, houtcome, hreply⟩ := hserved
  refine ⟨e, outcome, hbefore, hwaits, hended, hleads.tail hstep, outcome?_step houtcome hstep, ?_⟩
  exact (h.step hstep).mem_replies_iff (mem_replies_step hstep ((hreply _).mpr rfl))

lemma Sound.awaits_leads {first : Calls} (h : first.Sound) (hw : first.Awaits id q n)
    (hleads : Leads first c) : c.Awaits id q n ∨ Served first c id q n := by
  induction hleads with
  | refl => exact Or.inl hw
  | tail hbefore hstep ih =>
    rcases ih with hwaits | hserved
    · exact (h.leads hbefore).awaits_step hbefore hwaits hstep
    · exact Or.inr ((h.leads hbefore).served_step hserved hstep)

/-- A question that waits can always be served: its build ends and the question goes on. -/
lemma Sound.exists_served {first : Calls} (h : c.Sound) (hbefore : Leads first c)
    (hw : c.Awaits id q n) : ∃ c', Leads c c' ∧ Served first c' id q n := by
  obtain ⟨e, hleads, hwaits, outcome, houtcome⟩ : ∃ e, Leads c e ∧ e.Awaits id q n ∧
      ∃ outcome, e.outcome? n = some outcome := by
    match houtcome : c.outcome? n with
    | some outcome => exact ⟨c, .refl, hw, outcome, houtcome⟩
    | none =>
      have hunfinished := unfinished_iff.mpr ⟨h.waiting _ hw.1, houtcome⟩
      rcases land_cases plainAmbient c n with ⟨hended, -⟩ | ⟨build, ended, s, -, -, hland⟩
      · exact absurd hunfinished hended
      · refine ⟨c.land plainAmbient n, .single (.land plainAmbient n), ?_, ended, ?_⟩
        · rw [hland]
          exact hw
        · rw [hland, outcome?, List.getElem?_set_self (h.waiting _ hw.1)]
          rfl
  obtain ⟨i, hi⟩ := List.mem_iff_getElem?.mp hwaits.1
  exact ⟨e.goOn i, hleads.tail (.goOn i),
    (h.leads hleads).served_goOn (hbefore.trans hleads) hi houtcome⟩

/-- A question that finds a build in flight waits for it. -/
lemma Sound.receive_query (h : c.Sound) (hn : c.Unfinished n) {tool : String} {args : Json}
    (hq : readRequest tool args = .ok (.query q)) (amb : Ambient) (id : Nat) :
    c.receive amb id tool args = { c with waiting := c.waiting ++ [⟨id, .question q, n⟩] } := by
  have hphase : c.service.phase ≠ .ready := by
    rw [h.phase.mpr ⟨n, hn⟩]
    decide
  rw [receive, hq]
  simp only [arrive_query, if_neg hphase]
  rw [wait, h.inFlight?_eq_some.mpr hn]

/-! ### A request to build -/

/-- Where no build is under way, a request to build begins its own. -/
lemma Sound.requestBuild_eq (h : c.Sound) (hnone : ∀ n, ¬ c.Unfinished n) (id : Nat)
    (version secondaryVersion : Json) : c.requestBuild id version secondaryVersion =
      c.launch (.asked version secondaryVersion) id .starter := by
  rw [requestBuild, wait, h.inFlight?_eq_none.mpr hnone]

/-- So does one that has waited, whichever build it has waited for. -/
lemma Sound.goOn_nextBuild (h : c.Sound) (hnone : ∀ n, ¬ c.Unfinished n)
    {version secondaryVersion : Json}
    (hat : c.waiting[i]? = some ⟨id, .nextBuild version secondaryVersion, n⟩) :
    c.goOn i = (c.without i).launch (.asked version secondaryVersion) id .starter := by
  obtain ⟨outcome, houtcome⟩ : ∃ outcome, c.outcome? n = some outcome := by
    rw [← Option.ne_none_iff_exists']
    intro hn
    exact hnone n (unfinished_iff.mpr ⟨h.waiting _ (List.mem_of_getElem? hat), hn⟩)
  rw [Calls.goOn, hat]
  simp only [houtcome]
  exact (h.without i).requestBuild_eq hnone id version secondaryVersion

/-- One build at a time. In every state that calls come to at most one build has not ended. A
question that arrives meanwhile begins none: it waits for that build, and whatever happens next it
still waits or has one answer, which follows from the outcome of that build, and can always come to
have it. Whatever call begins a build, at its arrival or when it goes on, it begins one only, and
only once every other one has ended; and then a request to build does begin its own, at its arrival
or when it goes on. -/
theorem one_build_at_a_time (h : c.Reachable) :
    (∀ m n, c.Unfinished m → c.Unfinished n → m = n) ∧
    (∀ n, c.Unfinished n → ∀ amb id tool args q, id ∉ c.ids →
      readRequest tool args = .ok (.query q) →
      c.receive amb id tool args = { c with waiting := c.waiting ++ [⟨id, .question q, n⟩] } ∧
      ∀ c', Leads (c.receive amb id tool args) c' →
        (c'.Awaits id q n ∨ Served (c.receive amb id tool args) c' id q n) ∧
        ∃ c'', Leads c' c'' ∧ Served (c.receive amb id tool args) c'' id q n) ∧
    (∀ c', Step c c' → c.builds.length < c'.builds.length →
      (∀ n, ¬ c.Unfinished n) ∧ ∃ build, c'.builds = c.builds ++ [⟨build, none⟩]) ∧
    ((∀ n, ¬ c.Unfinished n) → ∀ id version secondaryVersion,
      (∀ amb tool args, readRequest tool args = .ok (.rebuild version secondaryVersion) →
        c.receive amb id tool args = c.launch (.asked version secondaryVersion) id .starter) ∧
      ∀ i n, c.waiting[i]? = some ⟨id, .nextBuild version secondaryVersion, n⟩ →
        c.goOn i = (c.without i).launch (.asked version secondaryVersion) id .starter) := by
  have hsound := h.sound
  refine ⟨?_, ?_, fun c' hstep hmore => hsound.begins hstep hmore, ?_⟩
  · intro m n hm hn
    have hsame := (hsound.shared m hm).symm.trans (hsound.shared n hn)
    exact Option.some.inj hsame
  · intro n hn amb id tool args q hid hq
    have hreceive := hsound.receive_query hn hq amb id
    have hnext : (c.receive amb id tool args).Sound := hsound.step (.receive amb hid tool args)
    refine ⟨hreceive, fun c' hleads => ?_⟩
    have hwaits : (c.receive amb id tool args).Awaits id q n := by
      apply hnext.awaits
      rw [hreceive]
      exact List.mem_append_right _ (List.mem_singleton_self _)
    have hlater := hnext.awaits_leads hwaits hleads
    refine ⟨hlater, ?_⟩
    rcases hlater with hstill | hserved
    · exact (hnext.leads hleads).exists_served hleads hstill
    · exact ⟨c', .refl, hserved⟩
  · intro hnone id version secondaryVersion
    refine ⟨fun amb tool args hq => ?_, fun i n hat => hsound.goOn_nextBuild hnone hat⟩
    rw [receive, hq]
    exact hsound.requestBuild_eq hnone id version secondaryVersion

/-- A first question, for which a build has begun. -/
def firstCall : Calls :=
  (start (.start plainConfig bareDisk)).receive plainAmbient 0 "mc_list_classes" (.obj [])

lemma reachable_firstCall : firstCall.Reachable :=
  ⟨_, atRest_start plainConfig bareDisk, .single (.receive plainAmbient (by simp [ids, start]) _ _)⟩

theorem one_build_at_a_time_first : firstCall.Unfinished 0 ∧
    ∃ c, Leads (firstCall.receive plainAmbient 1 "mc_list_packages" (.obj [])) c ∧
      Served (firstCall.receive plainAmbient 1 "mc_list_packages" (.obj [])) c 1
        (.listPackages none) 0 := by
  have hunfinished : firstCall.Unfinished 0 := ⟨.first, rfl⟩
  have hid : 1 ∉ firstCall.ids := by
    have hids : firstCall.ids = [0] := rfl
    simp [hids]
  obtain ⟨-, hserved⟩ := (one_build_at_a_time reachable_firstCall).2.1 0 hunfinished plainAmbient 1
    "mc_list_packages" (.obj []) (.listPackages none) hid rfl
  exact ⟨hunfinished, (hserved _ .refl).2⟩

/-! ### Calls that arrive together -/

lemma leads_settleAll (amb : Ambient) (steps : Nat) (c : Calls) :
    Leads c (settleAll amb steps c) := by
  induction steps generalizing c with
  | zero => exact .refl
  | succ steps ih =>
    rw [settleAll]
    split
    · next i _ => exact .head (.goOn i) (ih _)
    · split
      · next n _ => exact .head (.land amb n) (ih _)
      · exact .refl

lemma leads_arriveAll (amb : Ambient) (calls : List (String × Json)) {c : Calls} {id : Nat}
    (hid : ∀ k ∈ c.ids, k < id) : Leads c (arriveAll amb c id calls) := by
  induction calls generalizing c id with
  | nil => exact .refl
  | cons call rest ih =>
    have hnew : id ∉ c.ids := fun h => Nat.lt_irrefl _ (hid id h)
    refine .head (.receive amb hnew call.1 call.2) (ih fun k hk => ?_)
    rw [(ids_of_moves (moves_receive amb c id call.1 call.2)).mem_iff, List.mem_cons] at hk
    rcases hk with rfl | hk
    · exact Nat.lt_succ_self _
    · exact Nat.lt_succ_of_lt (hid k hk)

/-- Calls that come together to a service at rest are taken step by step. -/
theorem reachable_together {s : Service} (h : AtRest s) (amb : Ambient) (steps : Nat)
    (calls : List (String × Json)) :
    (settleAll amb steps (arriveAll amb (.start s) 0 calls)).Reachable :=
  ⟨s, h, (leads_arriveAll amb calls (by simp [ids, start])).trans (leads_settleAll amb steps _)⟩

end Calls

end Tools

end JavaAtlas

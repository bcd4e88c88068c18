import JavaAtlas.Tools.Answer

/-!
# Calls at the same time

Calls that arrive together share one build. A question that finds a build under way waits for it
and is answered after it; a request to build waits until no build is under way and then starts its
own. Calls are taken in the order of their arrival, and those that wait go on in the order in
which they began to wait.
-/

namespace JavaAtlas

namespace Tools

open Service

/-- A build of the index. -/
inductive Build
  /-- The build that a first question needs. -/
  | first
  /-- A build that was asked for. -/
  | asked (version secondaryVersion : Json)

/-- What a call waits for a build for. -/
inductive Waiter
  /-- A question, answered after the build. -/
  | question (q : IndexQuery)
  /-- The call that started the build, answered with its outcome. -/
  | starter
  /-- A request for a build of its own. -/
  | nextBuild (version secondaryVersion : Json)

/-- An answer or a failure for a numbered call. -/
abbrev Reply := Nat × Except Failure Json

/-- How a build ended; a build that was asked for has a summary. -/
abbrev BuildOutcome := Except Failure (Option Index.Summary)

/-- A build that was begun, with its outcome once it has ended. -/
structure Begun where
  build : Build
  outcome : Option BuildOutcome

/-- A call, by its number, that waits for a build, by the number of the build. -/
structure Waiting where
  id : Nat
  waiter : Waiter
  build : Nat

/-- Calls in progress: the builds in the order in which they were begun, the number of the build
that calls share, the calls that wait, longest wait first, and the replies in the order in which
they were given. -/
structure Calls where
  service : Service
  builds : List Begun
  shared : Option Nat
  waiting : List Waiting
  replies : List Reply

namespace Calls

/-- No call has arrived yet. -/
def start (s : Service) : Calls := ⟨s, [], none, [], []⟩

/-- How a build ended, once it has. -/
def outcome? (c : Calls) (n : Nat) : Option BuildOutcome := c.builds[n]?.bind Begun.outcome

/-- The build that calls share, unless it has ended. -/
def inFlight? (c : Calls) : Option Nat := c.shared.filter fun n => (c.outcome? n).isNone

/-- Do something with the service and reply with the outcome. -/
def reply (c : Calls) (id : Nat) (act : Action Service Json) : Calls :=
  let (r, service) := act.run c.service
  { c with service, replies := c.replies ++ [(id, r)] }

/-- Begin a build that a call waits for and others can share. -/
def launch (c : Calls) (build : Build) (id : Nat) (w : Waiter) : Calls :=
  { c with
    service := { c.service with phase := .initializing }
    builds := c.builds ++ [⟨build, none⟩]
    shared := some c.builds.length
    waiting := c.waiting ++ [⟨id, w, c.builds.length⟩] }

/-- Wait for the build in flight, or begin one. -/
def wait (c : Calls) (build : Build) (id : Nat) (begun joined : Waiter) : Calls :=
  match c.inFlight? with
  | none => c.launch build id begun
  | some n => { c with waiting := c.waiting ++ [⟨id, joined, n⟩] }

/-- A request for a build begins one or waits for its turn. -/
def requestBuild (c : Calls) (id : Nat) (version secondaryVersion : Json) : Calls :=
  c.wait (.asked version secondaryVersion) id .starter (.nextBuild version secondaryVersion)

def arrive (amb : Ambient) (c : Calls) (id : Nat) : Request → Calls
  | .query q =>
    let (usable, service) := isUsable.run c.service
    let c := { c with service }
    match usable with
    | .error e => c.reply id (pure (unavailable e))
    | .ok true => c.reply id (answerQuery q)
    | .ok false => c.wait .first id (.question q) (.question q)
  | .rebuild version secondaryVersion => c.requestBuild id version secondaryVersion
  | r => c.reply id (answerDirect amb r)

def receive (amb : Ambient) (c : Calls) (id : Nat) (tool : String) (args : Json) : Calls :=
  match readRequest tool args with
  | .ok r => c.arrive amb id r
  | .error e => c.reply id (throw e)

def runBuild (amb : Ambient) : Build → Action Service BuildOutcome
  | .first => do return (← runInitialize amb).map fun _ => none
  | .asked version secondaryVersion => do
    return (← runRebuild amb version secondaryVersion).map some

def starterAnswer : BuildOutcome → Json
  | .ok (some summary) => answerBuild (.ok summary)
  | .ok none => succeeded []
  | .error e => answerBuild (.error e)

/-- The answer to a question that has waited for a build. -/
def questionAnswer (q : IndexQuery) : BuildOutcome → Action Service Json
  | .ok _ => answerQuery q
  | .error e => pure (unavailable e)

/-- A call goes on with the outcome of the build that it has waited for. -/
def resume (c : Calls) (id : Nat) (outcome : BuildOutcome) : Waiter → Calls
  | .starter => c.reply id (pure (starterAnswer outcome))
  | .nextBuild version secondaryVersion => c.requestBuild id version secondaryVersion
  | .question q => c.reply id (questionAnswer q outcome)

/-- Let a waiting call go on if its build has ended. -/
def goOn (c : Calls) (i : Nat) : Calls :=
  match c.waiting[i]? with
  | none => c
  | some w => match c.outcome? w.build with
    | none => c
    | some outcome => resume { c with waiting := c.waiting.eraseIdx i } w.id outcome w.waiter

/-- A build that has not ended yet does so. -/
def land (amb : Ambient) (c : Calls) (n : Nat) : Calls :=
  match c.builds[n]? with
  | some ⟨build, none⟩ =>
    let (r, service) := (runBuild amb build).run c.service
    let outcome := match r with
      | .ok outcome => outcome
      | .error e => .error e
    { c with service, builds := c.builds.set n ⟨build, some outcome⟩ }
  | _ => c

/-- Let calls go on, the first that can, and let the build in flight end when none can; `steps`
bounds how often. -/
def settleAll (amb : Ambient) : Nat → Calls → Calls
  | 0, c => c
  | steps + 1, c => match c.waiting.findIdx? fun w => (c.outcome? w.build).isSome with
    | some i => settleAll amb steps (c.goOn i)
    | none => match c.inFlight? with
      | some n => settleAll amb steps (c.land amb n)
      | none => c

end Calls

/-- Let calls arrive one after the other, none of them waited for. -/
def arriveAll (amb : Ambient) (c : Calls) : Nat → List (String × Json) → Calls
  | _, [] => c
  | id, (tool, args) :: rest =>
    arriveAll amb (c.receive amb id tool args) (id + 1) rest

/-- Call several tools at the same time. Every build answers the call that started it, and between
two builds each call goes on at most once, which bounds the steps. The answers are in the order of
the calls; the failure that comes first is the failure of all. -/
def callTogether (amb : Ambient) (calls : List (String × Json)) : Action Service (List Json) :=
  fun s =>
    let steps := (calls.length + 1) * (calls.length + 2)
    let c := Calls.settleAll amb steps (arriveAll amb (.start s) 0 calls)
    let failure? := c.replies.findSome? fun r => match r.2 with
      | .error e => some e
      | .ok _ => none
    let answers := (c.replies.mergeSort fun a b => a.1 ≤ b.1).filterMap fun r => match r.2 with
      | .ok v => some v
      | .error _ => none
    match failure? with
    | some e => (.error e, c.service)
    | none => (.ok answers, c.service)

end Tools

end JavaAtlas

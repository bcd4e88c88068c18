import JavaAtlas.CallGraph.Store
import JavaAtlas.Index.Build
import JavaAtlas.Index.Question
import JavaAtlas.Tools.Request

/-!
# The service behind the tools

A service owns a store of the index and a store of the call graph. The index is built by the first
question that needs it; a build that failed is tried again by the next one. The service is always
in one of four phases, and remembers the error of a build that failed.
-/

namespace JavaAtlas

namespace Tools

/-- How far the index has come. -/
inductive Phase
  | uninitialized
  | initializing
  | ready
  | failed
  deriving DecidableEq, Repr, Inhabited

def Phase.name : Phase → String
  | .uninitialized => "uninitialized"
  | .initializing => "initializing"
  | .ready => "ready"
  | .failed => "failed"

/-- What a service is given from outside. -/
structure Ambient where
  environment : Environment
  sizes : Index.Sizes
  generatedAt : String

/-- The state of a service, with the disk it works on. -/
structure Service where
  disk : Disk
  config : Config
  store : Store
  graph : CallGraph.Store
  phase : Phase
  error : Option String
  deriving Inhabited

namespace Service

def start (c : Config) (d : Disk) : Service :=
  { disk := d
    config := c
    store := .fresh c
    graph := .fresh c.ownCallGraphPath
    phase := .uninitialized
    error := none }

def onStore {α : Type} (act : Disk → Action Store α) : Action Service α := fun s =>
  let (r, store) := (act s.disk).run s.store
  (r, { s with store })

def onGraph {α : Type} (act : Disk → Action CallGraph.Store α) : Action Service α := fun s =>
  let (r, graph) := (act s.disk).run s.graph
  (r, { s with graph })

def onDisk {α : Type} (act : Action Workspace α) : Action Service α := fun s =>
  let (r, w) := act.run (.ofDisk s.disk)
  (r, { s with disk := w.disk })

def hasIndex : Action Service Bool := do
  let s ← get
  Action.ofExcept (Store.isReady s.config s.disk)

/-- End a build: the phase and the error tell how it ended. -/
def settle {α : Type} (outcome : Except Failure α) : Action Service Unit :=
  modify fun s => match outcome with
    | .ok _ => { s with phase := .ready, error := none }
    | .error e => { s with phase := .failed, error := some e.message }

/-- Forget what the store of the index has read. -/
def forgetIndex : Action Service Unit := modify fun s => { s with store := s.store.forget }

/-- Build the index of the configured version unless there is one. -/
def buildIfMissing (amb : Ambient) : Action Service Unit := do
  if ← hasIndex then return
  let s ← get
  let source ← Action.ofExcept (s.config.primarySourceDir .null)
  if ← Action.ofExcept (s.disk.isDirectory source) then
    let _ ← onDisk (Index.buildFromCache s.config amb.sizes amb.generatedAt .null .null)
    forgetIndex
  else throw (.sourcesMissing source s.config.version)

/-- The first build: it does nothing if there is an index. -/
def runInitialize (amb : Ambient) : Action Service (Except Failure Unit) := do
  let outcome ← Action.outcome (buildIfMissing amb)
  settle outcome
  return outcome

/-- A build that was asked for. -/
def runRebuild (amb : Ambient) (version secondaryVersion : Json) :
    Action Service (Except Failure Index.Summary) := do
  let c := (← get).config
  let outcome ← Action.outcome
    (onDisk (Index.buildFromCache c amb.sizes amb.generatedAt version secondaryVersion))
  forgetIndex
  settle outcome
  return outcome

/-- Whether a question can be answered at once. -/
def isUsable : Action Service Bool := do
  if (← get).phase == .ready then hasIndex else return false

def ensureIndex (amb : Ambient) : Action Service Unit := do
  if ← isUsable then return
  modify fun s => { s with phase := .initializing }
  Action.ofExcept (← runInitialize amb)

end Service

end Tools

end JavaAtlas

import JavaAtlas.CallGraph.Ingest
import JavaAtlas.CallGraph.Query

/-!
# The call-graph store

A store opens its database at the first query and goes on answering from the file it opened until
it is closed or the database is made anew, whether that file still lies in its place or not.
-/

namespace JavaAtlas

namespace CallGraph

/-- Access to a call-graph database; `handle` is the file that was opened. -/
structure Store where
  path : Path
  handle : Option OpenFile
  deriving Inhabited

namespace Store

/-- A store that has opened nothing. -/
def fresh (path : Path) : Store := ⟨path, none⟩

def close (s : Store) : Store := fresh s.path

/-- Open the database unless it is open. -/
def connect (d : Disk) : Action Store OpenFile := do
  let s ← get
  match s.handle with
  | some f => return f
  | none => match ← Action.ofExcept (Database.openToRead d s.path) with
    | none => throw (.callGraphMissing s.path)
    | some f =>
      set { s with handle := some f }
      return f

def calls (d : Disk) : Action Store (List Call) := do
  Action.ofExcept (Database.read d (← connect d))

/-- Look up the calls of a method given by values of any kind. -/
def lookup (find : List Call → String → String → List MethodRef) (d : Disk) (type name : Json) :
    Action Store (List MethodRef) := do
  let known ← calls d
  let type ← Action.ofExcept (lookupText 1 type)
  let name ← Action.ofExcept (lookupText 2 name)
  match type, name with
  | some type, some name => return find known type name
  | _, _ => return []

def findCallers (d : Disk) (type name : Json) : Action Store (List MethodRef) :=
  lookup callersOf d type name

def findCallees (d : Disk) (type name : Json) : Action Store (List MethodRef) :=
  lookup calleesOf d type name

/-- The methods whose type or name contains a text, up to a limit. -/
def searchMethods (d : Disk) (query limit : Json) : Action Store (List MethodRef) := do
  let query ← Action.ofExcept (query.textFor "replace")
  let known ← calls d
  let limit ← Action.ofExcept (limitOf 5 limit)
  Action.ofExcept (searchIn known query limit)

/-- The counts of the database, if its file is there. -/
def stats (d : Disk) : Action Store (Option Stats) := do
  if ← Action.ofExcept (d.doesExist (← get).path) then return some (statsOf (← calls d))
  else return none

/-- A workspace with a store. -/
structure Session where
  workspace : Workspace
  store : Store
  deriving Inhabited

/-- Close the database and make it anew from a dump. -/
def rebuild (size : Int) (dump : Path) : Action Session Nat := do
  modify fun s => { s with store := s.store.close }
  let db := (← get).store.path
  Action.on Session.workspace (fun s w => { s with workspace := w }) (ingest size dump db)

end Store

end CallGraph

end JavaAtlas

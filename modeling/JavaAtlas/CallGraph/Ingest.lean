import JavaAtlas.CallGraph.Binding
import JavaAtlas.CallGraph.Database
import JavaAtlas.CallGraph.DumpLine
import JavaAtlas.Index.Build

/-!
# Entering a dump into a database

The calls of a dump are entered in batches into a database beside its place, which is moved there
when everything is entered. An earlier database is removed first, and a database that is not
finished is removed too, so that after a failure there is none.
-/

namespace JavaAtlas

namespace CallGraph

open Workspace (onDisk)

def Storable (c : Call) : Bool := c.line.all fits

def enterBatch (entered batch : List Call) : Except Failure (List Call) :=
  if batch.all Storable then .ok (entered ++ batch) else .error .databaseRange

/-- Enter the calls of the lines of a dump, so many at a time; a report is made after every ten
batches. `entered` holds the batches entered, last first, and `count` their calls; `batch` holds
the calls still to be entered, last first. -/
def enterLines (size : Int) (entered : List (List Call)) (count : Nat) (batch : List Call) :
    List (List Char) → Action Workspace (List Call)
  | [] => do
    let last ← Action.ofExcept (enterBatch [] batch.reverse)
    return (last :: entered).reverse.flatten
  | line :: rest => do
    match ← Action.ofExcept (parseLine line) with
    | none => enterLines size entered count batch rest
    | some call =>
      let batch := call :: batch
      if (batch.length : Int) < size then enterLines size entered count batch rest
      else
        let done ← Action.ofExcept (enterBatch [] batch.reverse)
        let count := count + done.length
        if size == 0 then throw .zeroSize
        if (count : Int) % (size * 10) == 0 then
          Workspace.report "callgraph" 50
            ("Ingested " ++ toString count ++ " call references...")
        enterLines size (done :: entered) count [] rest

def dumpLines (d : Disk) (dump : Path) : Except Failure (List (List Char)) :=
  (d.fileAt dump).map fun data => Text.lines (Text.decodeLossy data.toBytes)

/-- Read a dump and enter its calls into a database that was opened. -/
def enterDump (size : Int) (dump : Path) (target : Location) : Action Workspace (List Call) := do
  onDisk (Database.begin target)
  let lines ← Action.ofExcept (dumpLines (← get).disk dump)
  enterLines size [] 0 [] lines

/-- Make the database of a dump; the answer is the number of calls. -/
def ingest (size : Int) (dump db : Path) : Action Workspace Nat := do
  Workspace.report "callgraph" 0 "Parsing callgraph..."
  onDisk (Disk.makeDirectories db.parent)
  onDisk (Disk.discardFile db)
  let draft := db.withName (db.name ++ ".tmp")
  onDisk (Disk.discardFile draft)
  let target ← Action.ofExcept (Location.ofPath draft)
  onDisk (Database.openToFill target)
  match ← Action.outcome (enterDump size dump target) with
  | .error e =>
    onDisk (Disk.discardFile draft)
    throw e
  | .ok calls =>
    Workspace.report "callgraph" 90 "Building indexes..."
    onDisk (Database.fill calls target)
    onDisk (Disk.moveFile draft db)
    Workspace.report "callgraph" 100
      ("Ingested " ++ toString calls.length ++ " call references.")
    return calls.length

end CallGraph

end JavaAtlas

import JavaAtlas.CallGraph.Location
import JavaAtlas.Disk.Basic

/-!
# Databases as files

A database is opened by its path, which must not be too long. Beside it there may lie a journal,
which a change that was not finished has left, and a log of changes. A database that is only read
cannot be read while there is a change to be undone; a database that is made anew removes what lies
beside it, as a change of an empty file is nothing to be undone.
-/

namespace JavaAtlas

namespace CallGraph

namespace Database

def maxPathBytes : Nat := 504

def hasShortPath (d : Disk) (p : Path) : Bool :=
  (p.resolve d.cwd).text.utf8ByteSize ≤ maxPathBytes

def beside (p : Path) (ending : String) : Path := p.withName (p.name ++ ending)

def journal (p : Path) : Path := beside p "-journal"

def log (p : Path) : Path := beside p "-wal"

/-- What lies beside a database: an empty file counts as nothing. -/
inductive Companion
  | absent
  | file (first : UInt8)
  | directory
  deriving DecidableEq, Repr

/-- What lies at the path of a companion. -/
def companion (d : Disk) (p : Path) : Companion :=
  match d.stat p with
  | .ok (some (.directory _)) => .directory
  | .ok (some (.file _ data)) => match data.firstByte? with
    | some first => .file first
    | none => .absent
  | _ => .absent

/-- Whether a database that is only read can be read in spite of a journal. A journal that begins
with a zero is finished, and an empty database has nothing to be undone. -/
def checkJournal (isEmpty : Bool) : Companion → Except Failure Unit
  | .absent => .ok ()
  | .file first => if isEmpty || first == 0 then .ok () else .error .readOnlyDatabase
  | .directory => if isEmpty then .ok () else .error .unreadableDatabase

/-- Whether a database that is only read can be read in spite of a log. -/
def checkLog (isEmpty : Bool) : Companion → Except Failure Unit
  | .directory => .error (if isEmpty then .unreadableDatabase else .unopenedDatabase)
  | _ => .ok ()

/-- The calls in a file; an empty file has no table of calls. -/
def callsIn (data : FileData) : Except Failure (List Call) :=
  match data with
  | .database calls => .ok calls
  | .bytes _ => if data.isEmpty then .error .noCallsTable else .error .notADatabase

/-- Open a database that is only read. -/
def openToRead (d : Disk) (p : Path) : Except Failure (Option OpenFile) := do
  match ← d.stat p with
  | none => return none
  | some found =>
    if !hasShortPath d p then throw .unopenedDatabase
    match found with
    | .directory _ => throw .unreadableDatabase
    | .file serial _ => return some ⟨(p.resolve d.cwd).parts, serial⟩

def read (d : Disk) (f : OpenFile) : Except Failure (List Call) := do
  let p : Path := ⟨"/", f.place⟩
  let data := d.contentOf f
  checkJournal data.isEmpty (companion d (journal p))
  checkLog data.isEmpty (companion d (log p))
  callsIn data

/-- Open a database that is to be filled. A file that is not there is made if it may be. -/
def openToFill : Location → Action Disk Unit
  | .memory => return
  | .file p access => do
    let d ← get
    let p := p.resolve d.cwd
    if !hasShortPath d p || !d.isWritable p then throw .unopenedDatabase
    if !(← Action.ofExcept (d.doesExist p)) then
      if access == .create then Disk.writeFile p (.bytes ByteArray.empty)
      else throw .unopenedDatabase

/-- Remove what lies beside an empty database. -/
def sweep (p : Path) : Action Disk Unit := do
  match companion (← get) (journal p) with
  | .file _ => Disk.discardFile (journal p)
  | _ => pure ()
  match companion (← get) (log p) with
  | .file _ => Disk.discardFile (log p)
  | .directory => throw .unreadableDatabase
  | .absent => pure ()

/-- Put an empty table of calls into an empty database. Its journal is made and removed. -/
def begin : Location → Action Disk Unit
  | .memory => return
  | .file p access => do
    let p := p.resolve (← get).cwd
    match ← Action.ofExcept ((← get).fileAt p) with
    | .database _ => throw .callsTableExists
    | data =>
      if !data.isEmpty then throw .notADatabase
      if access == .read then throw .readOnlyDatabase
      sweep p
      if !(← get).isWritable (journal p) then throw .unopenedDatabase
      Disk.discardFile (journal p)
      Disk.writeFile p (.database [])

def fill (calls : List Call) : Location → Action Disk Unit
  | .memory => return
  | .file p _ => do Disk.writeFile (p.resolve (← get).cwd) (.database calls)

end Database

end CallGraph

end JavaAtlas

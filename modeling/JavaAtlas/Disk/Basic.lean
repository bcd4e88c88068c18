import JavaAtlas.Disk.Node
import JavaAtlas.Failure
import JavaAtlas.Text.Utf8

/-!
# The file system

A file system is a tree and a working directory. A path is followed segment by segment, so every
segment but the last must be a directory that is there; `..` leads to the directory above. A name
of more than 255 bytes is never found, which is a fault of its own.

Writing over a file leaves its serial number as it is, so that whoever has opened it finds what was
written. A file that is removed can still be read by those who opened it.
-/

namespace JavaAtlas

/-- A tree of files with a working directory. New files are numbered from `nextSerial` on, and
`removed` keeps what the files held that were removed, last first. -/
structure Disk where
  root : Node
  cwd : List String
  nextSerial : Nat := 0
  removed : List (Nat × FileData) := []
  deriving Inhabited

/-- A file that was opened: the place where it lay, and its serial number. -/
structure OpenFile where
  place : List String
  serial : Nat
  deriving DecidableEq, Repr, Inhabited

namespace Disk

def maxNameBytes : Nat := 255

def maxPathBytes : Nat := 4095

/-- Follow segments from a place that is there; the answer is the place they lead to. -/
def walk (root : Node) (place : List String) : List String → Except DiskReason (List String)
  | [] => .ok place
  | part :: rest => match root.get? place with
    | none => .error .notFound
    | some (.file ..) => .error .notDirectory
    | some (.directory entries) =>
      if part == ".." then walk root place.dropLast rest
      else if maxNameBytes < part.utf8ByteSize then .error .nameTooLong
      else match Ordered.get? entries part with
        | none => .error .notFound
        | some _ => walk root (place ++ [part]) rest

/-- The place where a path starts. -/
def startOf (d : Disk) (p : Path) : List String := if p.isAbsolute then [] else d.cwd

/-- The place of an entry that is there. -/
def locate (d : Disk) (p : Path) : Except DiskReason (List String) :=
  if maxPathBytes < p.text.utf8ByteSize then .error .nameTooLong
  else walk d.root (d.startOf p) p.parts

/-- What the last segment of a path leads to. -/
inductive Slot
  /-- An entry that is there. -/
  | taken (place : List String) (node : Node)
  /-- A name that a directory does not have yet. -/
  | free (place : List String)

/-- The slot of a path; the directory it lies in must be there. -/
def slot (d : Disk) (p : Path) : Except DiskReason Slot :=
  if maxPathBytes < p.text.utf8ByteSize then .error .nameTooLong
  else match walk d.root (d.startOf p) p.parts.dropLast with
    | .error reason => .error reason
    | .ok place => match p.parts.getLast? with
      | none => .ok (.taken place (.directory []))
      | some last => match walk d.root place [last] with
        | .ok found => .ok (.taken found ((d.root.get? found).getD (.directory [])))
        | .error .notFound => .ok (.free (place ++ [last]))
        | .error reason => .error reason

/-- Whether a path can be handed to the system at all. -/
def hasNull (p : Path) : Bool := p.parts.any fun part => part.toList.contains '\x00'

/-- The entry that a path leads to, nothing if it leads nowhere. A name that is too long is a
fault. -/
def stat (d : Disk) (p : Path) : Except Failure (Option Node) :=
  if hasNull p then .ok none
  else match d.locate p with
    | .ok place => .ok (d.root.get? place)
    | .error .nameTooLong => .error (.disk ⟨.nameTooLong, p, none⟩)
    | .error _ => .ok none

def doesExist (d : Disk) (p : Path) : Except Failure Bool := (d.stat p).map Option.isSome

def isDirectory (d : Disk) (p : Path) : Except Failure Bool :=
  (d.stat p).map fun found => found.any Node.isDirectory

def isFile (d : Disk) (p : Path) : Except Failure Bool :=
  (d.stat p).map fun found => found.any fun node => !node.isDirectory

def fileAt (d : Disk) (p : Path) : Except Failure FileData :=
  if hasNull p then .error .nullInPath
  else match d.locate p with
    | .error reason => .error (.disk ⟨reason, p, none⟩)
    | .ok place => match d.root.get? place with
      | some (.file _ data) => .ok data
      | some (.directory _) => .error (.disk ⟨.isDirectory, p, none⟩)
      | none => .error (.disk ⟨.notFound, p, none⟩)

def list (d : Disk) (p : Path) : Except Failure (List String) :=
  if hasNull p then .error .nullInPath
  else match d.locate p with
    | .error reason => .error (.disk ⟨reason, p, none⟩)
    | .ok place => match d.root.get? place with
      | some (.directory entries) => .ok (Ordered.keys entries)
      | _ => .error (.disk ⟨.notDirectory, p, none⟩)

/-- Every entry below a directory with its path from there, none if there is no directory. -/
def below (d : Disk) (p : Path) : List (List String × Node) :=
  if hasNull p then []
  else match d.locate p with
    | .error _ => []
    | .ok place => match d.root.get? place with
      | some node => node.descendants
      | none => []

/-- A file operation whose failure is told with its path. -/
def attempt (p : Path) (act : Disk → Except DiskReason Disk) : Action Disk Unit := do
  if hasNull p then throw .nullInPath
  match act (← get) with
  | .ok d => set d
  | .error reason => throw (.disk ⟨reason, p, none⟩)

def fill (d : Disk) (place : List String) (node : Node) : Disk :=
  { d with root := d.root.put place node }

def addFile (d : Disk) (place : List String) (data : FileData) : Disk :=
  { d.fill place (.file d.nextSerial data) with nextSerial := d.nextSerial + 1 }

/-- Remove the entry at a place and keep what its files held. -/
def detach (d : Disk) (place : List String) : Disk :=
  { d with
    root := d.root.remove place
    removed := ((d.root.get? place).map Node.files).getD [] ++ d.removed }

def removedData (d : Disk) (serial : Nat) : FileData :=
  ((d.removed.find? (·.1 == serial)).map Prod.snd).getD (.bytes ByteArray.empty)

/-- What an opened file holds now, whether it still lies where it was opened or not. -/
def contentOf (d : Disk) (f : OpenFile) : FileData :=
  match d.root.get? f.place with
  | some (.file serial data) => if serial == f.serial then data else d.removedData f.serial
  | _ => d.removedData f.serial

def isWritable (d : Disk) (p : Path) : Bool :=
  match d.slot p with
  | .ok (.taken _ node) => !node.isDirectory
  | .ok (.free _) => true
  | .error _ => false

/-- Write a file, over the one that is there. -/
def writeFile (p : Path) (data : FileData) : Action Disk Unit :=
  attempt p fun d => match d.slot p with
    | .error reason => .error reason
    | .ok (.taken _ (.directory _)) => .error .isDirectory
    | .ok (.taken place (.file serial _)) => .ok (d.fill place (.file serial data))
    | .ok (.free place) => .ok (d.addFile place data)

/-- Make a directory in a directory that is there. -/
def makeDirectory (p : Path) : Action Disk Unit :=
  attempt p fun d => match d.slot p with
    | .error reason => .error reason
    | .ok (.taken ..) => .error .alreadyExists
    | .ok (.free place) => .ok (d.fill place (.directory []))

/-- Make a directory unless it is there. -/
def ensureDirectory (p : Path) : Action Disk Unit := do
  match ← Action.outcome (makeDirectory p) with
  | .ok _ => return
  | .error (.disk fault) =>
    if fault.reason == .notFound then throw (.disk fault)
    else if ← Action.ofExcept ((← get).isDirectory p) then return
    else throw (.disk fault)
  | .error e => throw e

/-- Make a directory and those above it unless they are there; `depth` bounds how far above. -/
def makeParents (p : Path) : Nat → Action Disk Unit
  | 0 => ensureDirectory p
  | depth + 1 => do
    match ← Action.outcome (ensureDirectory p) with
    | .ok _ => return
    | .error (.disk ⟨.notFound, path, target⟩) =>
      if p.parent == p then throw (.disk ⟨.notFound, path, target⟩)
      else
        makeParents p.parent depth
        ensureDirectory p
    | .error e => throw e

/-- Make a directory and those above it unless they are there. -/
def makeDirectories (p : Path) : Action Disk Unit := makeParents p p.parts.length

def removeFile (p : Path) : Action Disk Unit :=
  attempt p fun d => match d.slot p with
    | .error reason => .error reason
    | .ok (.free _) => .error .notFound
    | .ok (.taken _ (.directory _)) => .error .isDirectory
    | .ok (.taken place (.file ..)) => .ok (d.detach place)

/-- Remove a file if it is there. -/
def discardFile (p : Path) : Action Disk Unit := do
  match ← Action.outcome (removeFile p) with
  | .error (.disk fault) => if fault.reason == .notFound then return else throw (.disk fault)
  | .error e => throw e
  | .ok _ => return

/-- Remove whatever a path leads to. -/
def removeAll (p : Path) : Action Disk Unit :=
  attempt p fun d => match d.locate p with
    | .error reason => .error reason
    | .ok place => .ok (d.detach place)

/-- Move a file onto a path, in place of the file that is there. -/
def moveFile (source target : Path) : Action Disk Unit := do
  if hasNull source || hasNull target then throw .nullInPath
  let d ← get
  let fail (reason : DiskReason) : Action Disk Unit :=
    throw (.disk ⟨reason, source, some target⟩)
  match d.slot source with
  | .error reason => fail reason
  | .ok (.free _) => fail .notFound
  | .ok (.taken origin node) => match d.slot target with
    | .error reason => fail reason
    | .ok (.taken _ (.directory _)) => fail .isDirectory
    | .ok (.taken place (.file ..)) =>
      if place != origin then
        set ({ d.detach place with root := (d.root.remove place).remove origin }.fill place node)
    | .ok (.free place) => set ({ d with root := d.root.remove origin }.fill place node)

end Disk

end JavaAtlas

import JavaAtlas.Index.Persist
import JavaAtlas.Json.Printer
import JavaAtlas.Json.Reader

/-!
# Index files

An index file is written beside its place and then moved there, so that no reader sees half of
it. A file that is missing, is not JSON or does not have the expected form counts as absent.
-/

namespace JavaAtlas

namespace Index

def writeJson (p : Path) (v : Json) : Action Disk Unit := do
  Disk.makeDirectories p.parent
  if !v.isWritable then throw .unwrittenNumber
  let draft := p.withName (p.name ++ ".tmp")
  Disk.writeFile draft (.bytes (v.print .file ++ "\n").toUTF8)
  Disk.moveFile draft p

/-- How many lists and objects may stand inside each other in an index file. -/
def maxNesting : Nat := 989

/-- The object in an index file, if it holds one. -/
def readJson (d : Disk) (p : Path) : Except Failure (Option Json) := do
  if ← d.doesExist p then
    match d.fileAt p with
    | .error _ => return none
    | .ok data => match Text.decodeStrict? data.toBytes with
      | none => return none
      | some text => match Json.readWithin maxNesting text with
        | .ok (.obj members) => return some (.obj members)
        | .ok _ => return none
        | .error .malformed => return none
        | .error (.tooManyDigits count) => throw (.tooManyDigits count)
        | .error (.nestedTooDeep container) => throw (.nestedTooDeep container)
  else return none

/-- What is read, nothing in place of a failure of one of the families passed over. -/
def passingOver {α : Type} (families : List FailureFamily) (r : Except Failure α) :
    Except Failure (Option α) :=
  match r with
  | .ok a => .ok (some a)
  | .error e => if families.contains e.family then .ok none else .error e

/-- The manifest, if there is one. -/
def loadManifest (c : Config) (d : Disk) : Except Failure (Option (Manifest Json)) := do
  match ← readJson d c.manifestPath with
  | none => return none
  | some v => passingOver [.member, .kind] (Manifest.ofJson v)

/-- The shard of a package, if there is one. -/
def loadShard (c : Config) (d : Disk) (ns : Namespace) (package : Json) :
    Except Failure (Option (Shard Json)) := do
  match ← readJson d (c.shardPath ns package) with
  | none => return none
  | some v => passingOver [.member, .kind, .value, .operation] (Shard.ofJson v)

end Index

end JavaAtlas

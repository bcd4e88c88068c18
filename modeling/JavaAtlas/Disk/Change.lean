import JavaAtlas.Disk.Node

/-!
# Changes of a tree

The steps that make one tree of files out of another. A directory is made before what it holds,
and an entry that is gone is removed before others are made in its place.
-/

namespace JavaAtlas

/-- A step at a place of a tree. -/
inductive Change
  | remove (place : List String)
  | makeDirectory (place : List String)
  | writeFile (place : List String) (data : FileData)

namespace FileData

def same : FileData → FileData → Bool
  | .bytes a, .bytes b => a == b
  | .database a, .database b => a == b
  | _, _ => false

end FileData

namespace Node

/-- Whether an entry of one tree can become that of another without being removed. -/
def keeps (old : Option Node) (new : Node) : Bool :=
  match old with
  | some node => node.isDirectory == new.isDirectory
  | none => true

/-- The removal of an entry that does not stay. -/
def removal (place : List String) (old : Option Node) (new : Node) : List Change :=
  if keeps old new then [] else [.remove place]

/-- The removal of the entries of a directory that are not in another one. -/
def removals (place : List String) (old new : List (String × Node)) : List Change :=
  (old.filter fun entry => (Ordered.get? new entry.1).isNone).map fun entry =>
    .remove (place ++ [entry.1])

mutual

/-- The steps that make an entry at a place out of what was there. -/
def changes (place : List String) (old : Option Node) : Node → List Change
  | .file serial data => match old with
    | some (.file _ before) => if before.same data then [] else [.writeFile place data]
    | _ => removal place old (.file serial data) ++ [.writeFile place data]
  | .directory entries => match old with
    | some (.directory before) =>
      removals place before entries ++ changesIn place before entries
    | _ =>
      removal place old (.directory entries) ++
        .makeDirectory place :: changesIn place [] entries

def changesIn (place : List String) (before : List (String × Node)) :
    List (String × Node) → List Change
  | [] => []
  | (name, child) :: rest =>
    changes (place ++ [name]) (Ordered.get? before name) child ++ changesIn place before rest

end

end Node

end JavaAtlas

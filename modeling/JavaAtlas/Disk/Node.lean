import JavaAtlas.CallGraph.Call
import JavaAtlas.Ordered

/-!
# Files and directories

A tree of named entries. A file holds bytes or, if it is a call-graph database, calls in the order
in which they were entered. Every file has a serial number of its own, by which it can be told from
another file that has taken its place.
-/

namespace JavaAtlas

/-- What a file holds. -/
inductive FileData
  | bytes (data : ByteArray)
  | database (calls : List Call)
  deriving Inhabited

namespace FileData

/-- The bytes of a file as text; a database holds no text. -/
def toBytes : FileData → ByteArray
  | .bytes data => data
  | .database _ => ByteArray.empty

/-- The first byte of a file; that of a database is the first letter of its format's name. -/
def firstByte? : FileData → Option UInt8
  | .bytes data => data.data[0]?
  | .database _ => some 83

def isEmpty (f : FileData) : Bool := f.firstByte?.isNone

end FileData

/-- An entry of a directory. -/
inductive Node
  | file (serial : Nat) (data : FileData)
  | directory (entries : List (String × Node))
  deriving Inhabited

namespace Node

def isDirectory : Node → Bool
  | .directory _ => true
  | .file .. => false

def entries : Node → List (String × Node)
  | .directory entries => entries
  | .file .. => []

def get? (node : Node) : List String → Option Node
  | [] => some node
  | part :: rest => match Ordered.get? node.entries part with
    | some child => child.get? rest
    | none => none

/-- Put an entry at a place whose parents are directories. -/
def put (node : Node) (place : List String) (new : Node) : Node :=
  match place with
  | [] => new
  | part :: rest => match node with
    | .file serial data => .file serial data
    | .directory entries =>
      let child := (Ordered.get? entries part).getD (.directory [])
      .directory (Ordered.insert entries part (child.put rest new))

def remove (node : Node) : List String → Node
  | [] => node
  | [part] => match node with
    | .file serial data => .file serial data
    | .directory entries => .directory (Ordered.erase entries part)
  | part :: next :: rest => match node with
    | .file serial data => .file serial data
    | .directory entries => match Ordered.get? entries part with
      | some child => .directory (Ordered.insert entries part (child.remove (next :: rest)))
      | none => .directory entries

mutual

/-- Every entry below a node with its place, a directory before what it holds. -/
def descendants : Node → List (List String × Node)
  | .file .. => []
  | .directory entries => descendantsOf entries

/-- Every entry of a list of entries and below them. -/
def descendantsOf : List (String × Node) → List (List String × Node)
  | [] => []
  | (name, child) :: rest =>
    ([name], child) :: (child.descendants.map fun found => (name :: found.1, found.2)) ++
      descendantsOf rest

end

/-- The serial number of a file, with what it holds. -/
def asFile? : Node → Option (Nat × FileData)
  | .file serial data => some (serial, data)
  | .directory _ => none

/-- Every file at or below an entry. -/
def files (node : Node) : List (Nat × FileData) :=
  (node :: node.descendants.map Prod.snd).filterMap asFile?

end Node

end JavaAtlas

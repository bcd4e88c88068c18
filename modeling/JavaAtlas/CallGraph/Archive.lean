import JavaAtlas.Disk.Node
import JavaAtlas.Json.Printer
import JavaAtlas.Json.Reader

/-!
# Call graphs in bytes

A database in a file is a first line that marks it and then one line of JSON with a list of seven
items for each call. Any other file is kept as the bytes it holds.
-/

namespace JavaAtlas

namespace CallGraph

namespace Archive

/-- The first line of a database. -/
def marker : String := "call graph, one list for each call\n"

def callJson (c : Call) : Json :=
  .arr [.str c.caller.type, .str c.caller.name, .str c.caller.descriptor,
    .str c.callee.type, .str c.callee.name, .str c.callee.descriptor,
    Json.ofOption (c.line.map .int)]

def lineOfJson? : Json → Option (Option Int)
  | .null => some none
  | .int n => some (some n)
  | _ => none

def callOfJson? : Json → Option Call
  | .arr [.str ct, .str cn, .str cd, .str et, .str en, .str ed, line] =>
    (lineOfJson? line).map fun line => ⟨⟨ct, cn, cd⟩, ⟨et, en, ed⟩, line⟩
  | _ => none

/-- Reading a call gives what was written. -/
@[simp] theorem callOfJson?_callJson (c : Call) : callOfJson? (callJson c) = some c := by
  obtain ⟨⟨_, _, _⟩, ⟨_, _, _⟩, line⟩ := c
  cases line <;> rfl

def encode (calls : List Call) : String :=
  marker ++ (Json.arr (calls.map callJson)).print .compact ++ "\n"

def decode? (s : List Char) : Option (List Call) :=
  if marker.toList.isPrefixOf s then
    match Json.read (s.drop marker.length) with
    | .ok (.arr items) => items.mapM callOfJson?
    | _ => none
  else none

/-- The bytes that stand for what a file holds. -/
def toBytes : FileData → ByteArray
  | .bytes data => data
  | .database calls => (encode calls).toUTF8

/-- What a file of given bytes holds. -/
def ofBytes (data : ByteArray) : FileData :=
  match (String.fromUTF8? data).bind fun s => decode? s.toList with
  | some calls => .database calls
  | none => .bytes data

end Archive

end CallGraph

end JavaAtlas

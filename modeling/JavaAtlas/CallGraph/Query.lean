import JavaAtlas.CallGraph.Call
import JavaAtlas.CallGraph.Wildcard
import JavaAtlas.Failure
import JavaAtlas.Text.Order

/-!
# Queries over calls

Callers and callees are given in the order in which their calls were entered, at most a hundred of
them. A search gives the distinct methods on either side of a call whose type or name contains a
text, sorted by code points.
-/

namespace JavaAtlas

namespace CallGraph

/-- One side of a call, as a query answers it. -/
structure MethodRef where
  method : MethodId
  line : Option Int
  deriving DecidableEq, Repr

def MethodRef.toJson (r : MethodRef) : Json :=
  .obj [("class_name", .str r.method.type), ("method_name", .str r.method.name),
    ("descriptor", .str r.method.descriptor),
    ("qualified_name", .str (r.method.type ++ "." ++ r.method.name)),
    ("line_number", Json.ofOption (r.line.map .int))]

/-- The counts of a call graph. -/
structure Stats where
  calls : Nat
  callers : Nat
  callees : Nat
  deriving DecidableEq, Repr

def Stats.members (s : Stats) : List (String × Json) :=
  [("total_edges", .int s.calls), ("distinct_callers", .int s.callers),
    ("distinct_callees", .int s.callees)]

def maxRefs : Nat := 100

/-- The number of methods that a search gives unless another one is asked for. -/
def defaultSearchLimit : Int := 50

def maxPatternBytes : Nat := 50000

def isNamed (type name : String) (m : MethodId) : Bool := m.type == type && m.name == name

def callersOf (calls : List Call) (type name : String) : List MethodRef :=
  ((calls.filter fun c => isNamed type name c.callee).take maxRefs).map fun c => ⟨c.caller, c.line⟩

/-- The methods that a method calls. -/
def calleesOf (calls : List Call) (type name : String) : List MethodRef :=
  ((calls.filter fun c => isNamed type name c.caller).take maxRefs).map fun c => ⟨c.callee, c.line⟩

/-- Drop every item that equals the one before it. -/
def dropRepeats {α : Type} [BEq α] : List α → List α
  | [] => []
  | [a] => [a]
  | a :: b :: rest => if a == b then dropRepeats (b :: rest) else a :: dropRepeats (b :: rest)

/-- The texts that order a method. -/
def sortKey (m : MethodId) : List String := [m.type, m.name, m.descriptor]

/-- The distinct items of a list, in the order of their keys. -/
def sortedDistinct {α : Type} [BEq α] (key : α → List String) (items : List α) : List α :=
  dropRepeats (items.mergeSort fun a b => !Text.areBefore (key b) (key a))

/-- Whether a pattern matches a method's type or name. -/
def isLike (pattern : List Char) (m : MethodId) : Bool :=
  like pattern m.type.toList || like pattern m.name.toList

def sides (calls : List Call) : List MethodId := calls.map (·.callee) ++ calls.map (·.caller)

/-- The methods whose type or name contains a text; a negative limit gives all of them. A pattern
is looked at only if there are calls to compare it with and methods to be given. -/
def searchIn (calls : List Call) (query : String) (limit : Int) :
    Except Failure (List MethodRef) :=
  let pattern := containing query.toList
  if limit != 0 && !calls.isEmpty && maxPatternBytes < (String.ofList pattern).utf8ByteSize then
    .error .patternTooComplex
  else
    let found := sortedDistinct sortKey ((sides calls).filter (isLike pattern))
    let found := if limit < 0 then found else found.take limit.toNat
    .ok (found.map fun m => ⟨m, none⟩)

/-- The number of distinct methods by type and name. -/
def distinctCount (methods : List MethodId) : Nat :=
  (sortedDistinct id (methods.map fun m => [m.type, m.name])).length

def statsOf (calls : List Call) : Stats :=
  ⟨calls.length, distinctCount (calls.map (·.caller)), distinctCount (calls.map (·.callee))⟩

end CallGraph

end JavaAtlas

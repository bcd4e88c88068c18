import JavaAtlas.CallGraph.Call
import JavaAtlas.Failure
import JavaAtlas.Pattern.Search

/-!
# Lines of a call dump

A dump has one call on a line, in fields divided by tabs: two numbers, the caller, the callee with
the kind of call in front, and the line number. Blank lines, comments and lines of another shape
are passed over; a line number of too many digits is a failure.
-/

namespace JavaAtlas

namespace CallGraph

open Pattern

/-- The parts of a reference to a method. -/
inductive RefPart
  | type
  | name
  | descriptor
  deriving DecidableEq, Repr

/-- Any character but a line feed. -/
def inLine (c : Char) : Bool := c != '\n'

/-- A reference to a method: its type, a colon, its name, and its parameters in parentheses. -/
def methodRef : Pattern RefPart :=
  inOrder [.part .type (greedy1 inLine), char ':', .part .name (greedy1 inLine),
    .part .descriptor (inOrder [char '(', .greedy (· != ')'), char ')'])]

/-- A reference to a called method, with the kind of call in front. -/
def calleeRef : Pattern RefPart :=
  inOrder [char '(', greedy1 fun c => 'A' ≤ c && c ≤ 'Z', char ')', methodRef]

/-- The method that a whole field refers to. -/
def methodOf? (shape : Pattern RefPart) (field : List Char) : Option MethodId := do
  let m ← shape.matchAll? field
  return {
    type := String.ofList (m.text .type)
    name := String.ofList (m.text .name)
    descriptor := String.ofList (m.text .descriptor) }

def dropLineEnd (line : List Char) : List Char :=
  (line.reverse.dropWhile fun c => c == '\r' || c == '\n').reverse

/-- The number at the front of a field, blanks ignored; a field without one has none. -/
def lineNumber (field : List Char) : Except IntegerFault (Option Int) :=
  let (negative, rest) := match Text.stripLeft field with
    | '-' :: rest => (true, rest)
    | rest => (false, rest)
  match rest.takeWhile isDecimal with
  | [] => .ok none
  | digits => (Text.readDigits digits).map fun n => some (if negative then -(n : Int) else n)

def minFields : Nat := 5

/-- The fields of a line that is neither blank nor a comment nor too short. -/
def fieldsOf? (line : List Char) : Option (List (List Char)) :=
  let line := dropLineEnd line
  if Text.allBlank line || line.head? == some '#' then none
  else
    let fields := line.splitOn '\t'
    if fields.length < minFields then none else some fields

def parseLine (line : List Char) : Except Failure (Option Call) :=
  match fieldsOf? line with
  | some (_ :: _ :: callerField :: calleeField :: lineField :: _) =>
    match methodOf? methodRef callerField, methodOf? calleeRef calleeField with
    | some caller, some callee => match lineNumber lineField with
      | .ok number => .ok (some ⟨caller, callee, number⟩)
      | .error (.tooManyDigits count) => .error (.tooManyDigits count)
      | .error .malformed => .ok (some ⟨caller, callee, none⟩)
    | _, _ => .ok none
  | _ => .ok none

end CallGraph

end JavaAtlas

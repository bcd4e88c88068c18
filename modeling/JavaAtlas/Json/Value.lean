import JavaAtlas.Ordered
import JavaAtlas.Number.Shortest
import JavaAtlas.Text.Quoted

/-!
# JSON values

Index files, tool arguments and tool answers are JSON. Numbers written without a fraction or an
exponent are whole numbers of any size, the others are binary64; the members of an object keep
their order. Messages show a value in one of two ways: `display` writes a text as it is, `inspect`
quotes it.
-/

namespace JavaAtlas

/-- A JSON value. -/
inductive Json
  | null
  | bool (value : Bool)
  | int (value : Int)
  | float (value : Binary64)
  | str (text : String)
  | arr (items : List Json)
  | obj (members : List (String × Json))
  deriving Inhabited

namespace Json

/-- The name of a value's kind in messages. -/
def kindName : Json → String
  | .null => "NoneType"
  | .bool _ => "bool"
  | .int _ => "int"
  | .float _ => "float"
  | .str _ => "str"
  | .arr _ => "list"
  | .obj _ => "dict"

/-- Whether a value counts as given: null, false, zero and what is empty do not. -/
def truthy : Json → Bool
  | .null => false
  | .bool b => b
  | .int n => n != 0
  | .float x => !x.isZero
  | .str s => s != ""
  | .arr items => !items.isEmpty
  | .obj members => !members.isEmpty

/-- A value that counts as given, or nothing. -/
def given? (v : Json) : Option Json := if v.truthy then some v else none

def ofOption : Option Json → Json
  | some v => v
  | none => .null

/-- A text, or null where there is none. -/
def ofText? : Option String → Json
  | some s => .str s
  | none => .null

def ofTexts (texts : List String) : Json := .arr (texts.map .str)

/-- Numbers stand in positional notation up to sixteen digits before the point. -/
def numberFormat : NumberFormat := ⟨16, false⟩

def floatText : Binary64 → String
  | .nan => "nan"
  | .infinite negative => if negative then "-inf" else "inf"
  | .finite negative m e => (if negative then "-" else "") ++ Binary64.magnitudeText numberFormat m e

mutual

/-- A value as messages show it, texts between quotes. -/
def inspect : Json → String
  | .null => "None"
  | .bool b => if b then "True" else "False"
  | .int n => toString n
  | .float x => floatText x
  | .str s => Text.quoted s
  | .arr items => "[" ++ ", ".intercalate (inspectItems items) ++ "]"
  | .obj members => "\x7b" ++ ", ".intercalate (inspectMembers members) ++ "\x7d"

/-- The items of a list as messages show them. -/
def inspectItems : List Json → List String
  | [] => []
  | v :: rest => inspect v :: inspectItems rest

def inspectMembers : List (String × Json) → List String
  | [] => []
  | (key, v) :: rest => (Text.quoted key ++ ": " ++ inspect v) :: inspectMembers rest

end

/-- A value as messages show it, a text as it is. -/
def display : Json → String
  | .str s => s
  | v => inspect v

/-- The whole number that a boolean or a whole number stands for. -/
def whole? : Json → Option Int
  | .bool b => some (if b then 1 else 0)
  | .int n => some n
  | _ => none

/-- Whether two values that are not containers are equal; numbers are compared by value. -/
def sameScalar (v w : Json) : Bool :=
  match v, w with
  | .null, .null => true
  | .str s, .str t => s == t
  | .float x, .float y => x.same y || (x == .nan && y == .nan)
  | .float x, w => w.whole?.any x.sameInt
  | v, .float y => v.whole?.any y.sameInt
  | v, w => match v.whole?, w.whole? with
    | some m, some n => m == n
    | _, _ => false

mutual

/-- Whether two values are equal: numbers by value, lists item by item, objects member by member
in any order. -/
def alike : Json → Json → Bool
  | .arr items, .arr others => alikeItems items others
  | .obj members, .obj others =>
    members.length == others.length && alikeMembers members others
  | .arr _, _ => false
  | .obj _, _ => false
  | v, w => sameScalar v w

def alikeItems : List Json → List Json → Bool
  | [], [] => true
  | v :: rest, w :: others => alike v w && alikeItems rest others
  | _, _ => false

/-- Whether every member has an equal one of the same name. -/
def alikeMembers : List (String × Json) → List (String × Json) → Bool
  | [], _ => true
  | (key, v) :: rest, others =>
    (match Ordered.get? others key with
      | some w => alike v w
      | none => false) && alikeMembers rest others

end

/-- Whether two values are equal, a NaN being equal to nothing. -/
def equals (v w : Json) : Bool :=
  match v with
  | .float .nan => false
  | _ => v.alike w

end Json

end JavaAtlas

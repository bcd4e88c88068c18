import JavaAtlas.Json.Value
import JavaAtlas.Text.Integer

/-!
# JSON text

A value is written on one line, or with each item on a line of its own and two more blanks for
each level. Characters outside ASCII are written as they are or as escapes of UTF-16 units. A whole
number of more digits than are read is not written either.
-/

namespace JavaAtlas

namespace Json

/-- How a value is written. -/
structure Layout where
  /-- Each item stands on a line of its own. -/
  multiline : Bool
  /-- Only printable ASCII is written as it is. -/
  ascii : Bool

namespace Layout

def file : Layout := ⟨true, false⟩

def answer : Layout := ⟨true, true⟩

def compactAscii : Layout := ⟨false, true⟩

/-- One line, characters as they are. -/
def compact : Layout := ⟨false, false⟩

end Layout

/-- A UTF-16 unit as an escape. -/
def unitEscape (n : Nat) : List Char := '\\' :: 'u' :: (Text.hex 4 n).toList

def escapeChar (ascii : Bool) (c : Char) : List Char :=
  let n := c.toNat
  if c == '"' then ['\\', '"']
  else if c == '\\' then ['\\', '\\']
  else if c == '\n' then ['\\', 'n']
  else if c == '\r' then ['\\', 'r']
  else if c == '\t' then ['\\', 't']
  else if n == 0x0C then ['\\', 'f']
  else if n == 0x08 then ['\\', 'b']
  else if n < 0x20 then unitEscape n
  else if !ascii || n < 0x7F then [c]
  else if n < 0x10000 then unitEscape n
  else unitEscape (0xD800 + (n - 0x10000) / 0x400) ++ unitEscape (0xDC00 + (n - 0x10000) % 0x400)

def renderText (ascii : Bool) (s : String) : List Char :=
  '"' :: (s.toList.flatMap (escapeChar ascii) ++ ['"'])

def renderFloat : Binary64 → String
  | .nan => "NaN"
  | .infinite negative => if negative then "-Infinity" else "Infinity"
  | x => floatText x

/-- A new line at a level, when items stand on lines of their own. -/
def lineBreak (fmt : Layout) (level : Nat) : List Char :=
  if fmt.multiline then '\n' :: List.replicate (2 * level) ' ' else []

/-- What stands between two items at a level. -/
def itemBreak (fmt : Layout) (level : Nat) : List Char :=
  ',' :: if fmt.multiline then lineBreak fmt level else [' ']

mutual

/-- Write a value that stands at a level. -/
def render (fmt : Layout) (level : Nat) : Json → List Char
  | .null => "null".toList
  | .bool b => if b then "true".toList else "false".toList
  | .int n => (toString n).toList
  | .float x => (renderFloat x).toList
  | .str s => renderText fmt.ascii s
  | .arr [] => ['[', ']']
  | .arr (v :: rest) =>
    '[' :: (lineBreak fmt (level + 1) ++ (renderItems fmt (level + 1) (v :: rest) ++
      (lineBreak fmt level ++ [']'])))
  | .obj [] => ['\x7b', '\x7d']
  | .obj (m :: rest) =>
    '\x7b' :: (lineBreak fmt (level + 1) ++ (renderMembers fmt (level + 1) (m :: rest) ++
      (lineBreak fmt level ++ ['\x7d'])))

def renderItems (fmt : Layout) (level : Nat) : List Json → List Char
  | [] => []
  | [v] => render fmt level v
  | v :: w :: rest =>
    render fmt level v ++ (itemBreak fmt level ++ renderItems fmt level (w :: rest))

def renderMembers (fmt : Layout) (level : Nat) : List (String × Json) → List Char
  | [] => []
  | [(key, v)] => renderText fmt.ascii key ++ (':' :: ' ' :: render fmt level v)
  | (key, v) :: m :: rest =>
    renderText fmt.ascii key ++ (':' :: ' ' :: (render fmt level v ++
      (itemBreak fmt level ++ renderMembers fmt level (m :: rest))))

end

mutual

/-- Whether every whole number in a value has few enough digits to be written. -/
def isWritable : Json → Bool
  | .int n => (Nat.toDigits 10 n.natAbs).length ≤ Text.digitLimit
  | .arr items => areWritable items
  | .obj members => haveWritable members
  | _ => true

def areWritable : List Json → Bool
  | [] => true
  | v :: rest => isWritable v && areWritable rest

def haveWritable : List (String × Json) → Bool
  | [] => true
  | (_, v) :: rest => isWritable v && haveWritable rest

end

def print (fmt : Layout) (v : Json) : String := String.ofList (v.render fmt 0)

end Json

end JavaAtlas

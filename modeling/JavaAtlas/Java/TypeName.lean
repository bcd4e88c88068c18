import JavaAtlas.Text.Blank

/-!
# Type references

A declaration records the bare name of a type: generic arguments, array and varargs marks and all
but the first segment of a dotted name are dropped. Lists of types and of parameters are cut at
the commas that stand outside all brackets.
-/

namespace JavaAtlas

namespace Java

/-- Whether a character opens a bracket of any of the four kinds. -/
def isOpening (c : Char) : Bool := c == '<' || c == '(' || c == '[' || c == '\x7b'

def isClosing (c : Char) : Bool := c == '>' || c == ')' || c == ']' || c == '\x7d'

/-- Cut a text at the separators outside all brackets. `depth` counts the brackets open, of all
kinds together; `current` holds the part being read, last character first. A last part that is
blank is dropped. -/
def splitFrom (separator : List Char) (depth : Nat) (current : List Char) :
    List Char → List (List Char)
  | [] => if Text.allBlank current then [] else [current.reverse]
  | c :: rest =>
    if isOpening c then splitFrom separator (depth + 1) (c :: current) rest
    else if isClosing c then splitFrom separator (depth - 1) (c :: current) rest
    else if [c] == separator && depth == 0 then
      current.reverse :: splitFrom separator depth [] rest
    else splitFrom separator depth (c :: current) rest

/-- The parts of a text between the separators that stand outside all brackets. A separator cuts
only if it is a single character. -/
def splitTopLevel (separator text : List Char) : List (List Char) :=
  splitFrom separator 0 [] text

/-- The bare name of a type reference. A reference without one keeps its text, stripped. -/
def bareTypeName (type : List Char) : List Char :=
  let plain := (type.takeWhile (· != '<')).filter fun c => !(c == '[' || c == ']' || isBlank c)
  let head := plain.takeWhile (· != '.')
  if head.isEmpty then Text.strip type else head

/-- The bare names of a list of types, blank entries left out. -/
def bareTypeNames (text : List Char) : List (List Char) :=
  ((splitTopLevel [','] text).map fun part => bareTypeName (Text.strip part)).filter (!·.isEmpty)

end Java

end JavaAtlas

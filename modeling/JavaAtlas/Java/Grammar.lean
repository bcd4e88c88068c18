import JavaAtlas.Pattern.Basic

/-!
# Shapes of declarations

Declarations are recognised by their shape, not by a grammar of the language: a package line, the
header of a type, a field with a visibility, a method with a parameter list, and one parameter.
-/

namespace JavaAtlas

namespace Java

open Pattern

variable {κ : Type}

def isTypeChar (c : Char) : Bool := isWordChar c || c == '$' || c == '.'

def isDottedChar (c : Char) : Bool := isWordChar c || c == '.'

/-- A type: a name, generic arguments, array marks and a varargs mark. -/
def typeShape : Pattern κ :=
  inOrder [greedy1 isTypeChar,
    maybe (inOrder [blanks, char '<', .lazy fun c => !";=()\x7b\x7d".toList.contains c, char '>']),
    .many (inOrder [blanks, char '[', blanks, char ']']),
    maybe (text "...")]

/-- An annotation with its arguments, if it has any. -/
def annotationShape : Pattern κ :=
  inOrder [char '@', greedy1 isDottedChar,
    maybe (inOrder [char '(', .greedy (· != ')'), char ')'])]

/-- Keywords, each followed by blanks. -/
def keywords (words : List String) : Pattern κ := .many (.seq (oneOf words) blanks1)

/-- The part of a package line that names the package. -/
inductive PackagePart
  | name
  deriving DecidableEq, Repr

def packageLine : Pattern PackagePart :=
  inOrder [text "package", blanks1, .part .name (greedy1 isDottedChar), blanks, char ';']

/-- The parts of a type header. -/
inductive HeaderPart
  | kind
  | name
  | extended
  | implemented
  deriving DecidableEq, Repr

def typeModifiers : List String :=
  ["public", "protected", "private", "abstract", "final", "static", "strictfp", "sealed",
    "non-sealed"]

/-- Anything up to an opening brace, as little as possible. -/
def beforeBrace : Pattern κ := lazy1 (· != '\x7b')

/-- The header of a type, from the beginning of its line to its opening brace. -/
def typeHeader : Pattern HeaderPart :=
  inOrder [.lineStart, .greedy fun c => c == ' ' || c == '\t',
    .many (.seq annotationShape blanks1), keywords typeModifiers, maybe (char '@'),
    .part .kind (oneOf ["class", "interface", "enum"]), blanks1, .part .name word, blanks,
    maybe (inOrder [char '<', .lazy (· != '\x7b'), char '>']), blanks,
    maybe (inOrder [text "extends", blanks1, .part .extended beforeBrace, blanks]),
    maybe (inOrder [text "implements", blanks1, .part .implemented beforeBrace, blanks]),
    maybe (inOrder [text "permits", blanks1, beforeBrace, blanks]), char '\x7b']

/-- The parts of a field or a method. -/
inductive MemberPart
  | modifiers
  | type
  | name
  | parameters
  | stop
  deriving DecidableEq, Repr

def visibilities : List String := ["public", "protected", "private"]

def fieldModifiers : List String := ["static", "final", "volatile", "transient"]

/-- A field: a visibility, more modifiers, a type and a name, then a value or the end. -/
def fieldShape : Pattern MemberPart :=
  inOrder [.wordEdge,
    .part .modifiers (inOrder [oneOf visibilities, blanks1, keywords fieldModifiers]),
    .part .type typeShape, blanks1, .part .name word, blanks, .either (char '=') (char ';')]

def methodModifiers : List String :=
  ["public", "protected", "private", "static", "final", "abstract", "synchronized", "native",
    "default", "strictfp"]

/-- A method: annotations, modifiers, generic parameters, a type, a name and parameters, then a
body or the end. -/
def methodShape : Pattern MemberPart :=
  inOrder [.many (.seq annotationShape blanks), .part .modifiers (keywords methodModifiers),
    maybe (inOrder [char '<', .lazy fun c => !"()\x7b\x7d;=".toList.contains c, char '>', blanks]),
    .part .type typeShape, blanks1, .part .name word, blanks,
    char '(', .part .parameters (.greedy (· != ')')), char ')', blanks,
    maybe (inOrder [text "throws", blanks1,
      lazy1 fun c => isTypeChar c || c == ',' || isBlank c]),
    blanks, .part .stop (.one fun c => c == '\x7b' || c == ';')]

/-- The parts of a parameter. -/
inductive ParameterPart
  | type
  | name
  deriving DecidableEq, Repr

def parameterShape : Pattern ParameterPart :=
  inOrder [.part .type typeShape, blanks1, .part .name word, blanks, .textEnd]

end Java

end JavaAtlas

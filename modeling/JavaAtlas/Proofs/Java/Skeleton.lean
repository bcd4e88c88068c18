import Mathlib.Tactic.Lemma
import JavaAtlas.Java.Source

/-!
# Class skeletons

A skeleton is a type declaration reduced to its package, its header and the signatures of its
members. It has a usual layout as a source file, `Skeleton.text`, and a description,
`Skeleton.unit`, which is what reading that file should give.
-/

namespace JavaAtlas

namespace Java

/-! ### Names and types -/

def reservedWords : List String :=
  ["abstract", "assert", "boolean", "break", "byte", "case", "catch", "char", "class", "const",
    "continue", "default", "do", "double", "else", "enum", "extends", "final", "finally", "float",
    "for", "goto", "if", "implements", "import", "instanceof", "int", "interface", "long",
    "native", "new", "package", "private", "protected", "public", "return", "short", "static",
    "strictfp", "super", "switch", "synchronized", "this", "throw", "throws", "transient", "try",
    "void", "volatile", "while", "true", "false", "null"]

def contextualWords : List String := ["sealed", "permits", "yield"]

def primitiveTypes : List String :=
  ["boolean", "byte", "char", "short", "int", "long", "float", "double", "void"]

def clauseWords : List String := ["implements", "permits"]

def isIdentifierStart (c : Char) : Bool := c.isAlpha || c == '_' || c == '$'

def isIdentifierChar (c : Char) : Bool := c.isAlphanum || c == '_' || c == '$'

/-- Whether a text is an identifier, not a reserved word, that does not end in a word which opens a
clause. -/
def isIdentifier (s : String) : Bool :=
  s.toList.head?.any isIdentifierStart && s.toList.all isIdentifierChar &&
    !(reservedWords ++ contextualWords).contains s &&
    !clauseWords.any fun word => word.toList.isSuffixOf s.toList

/-- An identifier. -/
structure Identifier where
  text : String
  valid : isIdentifier text = true

/-- The name of a type: an identifier or a primitive type. -/
structure TypeHead where
  text : String
  valid : (isIdentifier text || primitiveTypes.contains text) = true

/-- A type: a name, generic arguments and array marks. -/
inductive TypeRef
  | mk (head : TypeHead) (args : List TypeRef) (dims : Nat)

def commaSeparated (ts : List (List Char)) : List Char := [',', ' '].intercalate ts

/-- Generic arguments in their brackets, or nothing. -/
def inAngles (ts : List (List Char)) : List Char :=
  if ts.isEmpty then [] else '<' :: (commaSeparated ts ++ ['>'])

def arrayMarks (dims : Nat) : List Char := (List.replicate dims ['[', ']']).flatten

namespace TypeRef

def headName : TypeRef → String
  | .mk head _ _ => head.text

mutual

/-- A type as it is written. -/
def text : TypeRef → List Char
  | .mk head args dims => head.text.toList ++ (inAngles (texts args) ++ arrayMarks dims)

def texts : List TypeRef → List (List Char)
  | [] => []
  | t :: ts => t.text :: texts ts

end

end TypeRef

/-! ### Members -/

abbrev OneOf (words : List String) := { word : String // word ∈ words }

def spaced (words : List String) : List Char := words.flatMap fun word => word.toList ++ [' ']

/-- The modifiers that are recorded of those written. -/
def recordedModifiers (written : List String) : List String :=
  modifierVocabulary.filter written.contains

/-- A field of a skeleton. -/
structure SkeletonField where
  visibility : OneOf visibilities
  modifiers : List (OneOf fieldModifiers)
  type : TypeRef
  name : Identifier

namespace SkeletonField

/-- All modifiers of a field, the visibility first. -/
def words (f : SkeletonField) : List String := f.visibility.val :: f.modifiers.map (·.val)

def text (f : SkeletonField) : List Char :=
  spaced f.words ++ (f.type.text ++ (' ' :: (f.name.text.toList ++ [';'])))

/-- What is recorded of a field. -/
def field (f : SkeletonField) : Field String where
  name := f.name.text
  type := f.type.headName
  modifiers := recordedModifiers f.words

end SkeletonField

/-- A parameter of a method of a skeleton. -/
structure SkeletonParameter where
  type : TypeRef
  name : Identifier

namespace SkeletonParameter

def text (p : SkeletonParameter) : List Char := p.type.text ++ (' ' :: p.name.text.toList)

def parameter (p : SkeletonParameter) : Parameter String where
  name := p.name.text
  type := p.type.headName

end SkeletonParameter

/-- A method of a skeleton, with an empty body or none. -/
structure SkeletonMethod where
  modifiers : List (OneOf methodModifiers)
  returnType : TypeRef
  name : Identifier
  parameters : List SkeletonParameter
  hasBody : Bool

namespace SkeletonMethod

def words (m : SkeletonMethod) : List String := m.modifiers.map (·.val)

def ending (m : SkeletonMethod) : List Char := if m.hasBody then [' ', '\x7b'] else [';']

def parameterText (m : SkeletonMethod) : List Char := commaSeparated (m.parameters.map (·.text))

def text (m : SkeletonMethod) : List Char :=
  spaced m.words ++ (m.returnType.text ++ (' ' :: (m.name.text.toList ++ ('(' ::
    (m.parameterText ++ (')' :: m.ending))))))

def height (m : SkeletonMethod) : Nat := if m.hasBody then 2 else 1

/-- What is recorded of a method that begins on a line. -/
def method (m : SkeletonMethod) (line : Nat) : Method String where
  name := m.name.text
  returnType := m.returnType.headName
  parameters := m.parameters.map (·.parameter)
  modifiers := recordedModifiers m.words
  lineStart := line
  lineEnd := (line + m.height - 1 : Nat)

end SkeletonMethod

/-! ### Skeletons -/

/-- A type declaration without the bodies of its members. What an interface extends are its
interfaces. -/
structure Skeleton where
  package : List Identifier
  modifiers : List (OneOf typeModifiers)
  kind : TypeKind
  name : Identifier
  superType : Option TypeRef
  interfaces : List TypeRef
  fields : List SkeletonField
  methods : List SkeletonMethod
  package_ne : package ≠ []
  superType_interface : kind = .interfaceType → superType = none

namespace Skeleton

/-- The name of the package with its dots. -/
def packageName (u : Skeleton) : List Char := ['.'].intercalate (u.package.map (·.text.toList))

def extended (u : Skeleton) : List TypeRef :=
  if u.kind = .interfaceType then u.interfaces else u.superType.toList

def implemented (u : Skeleton) : List TypeRef :=
  if u.kind = .interfaceType then [] else u.interfaces

/-- A clause of a header, with a space behind it. -/
def clause (word : String) (types : List TypeRef) : List Char :=
  if types.isEmpty then []
  else word.toList ++ (' ' :: (commaSeparated (TypeRef.texts types) ++ [' ']))

def packageText (u : Skeleton) : List Char := spaced ["package"] ++ (u.packageName ++ [';'])

def clausesText (u : Skeleton) : List Char :=
  clause "extends" u.extended ++ (clause "implements" u.implemented ++ ['\x7b'])

def headerText (u : Skeleton) : List Char :=
  spaced (u.modifiers.map (·.val)) ++ (u.kind.keyword.toList ++ (' ' :: (u.name.text.toList ++
    (' ' :: u.clausesText))))

/-- The end of a line, and the spaces in front of the next member. -/
def newLine (indent : Nat) : List Char := '\n' :: List.replicate indent ' '

def fieldLines (indent : Nat) (fields : List SkeletonField) : List Char :=
  fields.flatMap fun f => newLine indent ++ f.text

/-- The lines of a method: its signature and, if it has a body, the closing brace. -/
def methodLines (indent : Nat) (methods : List SkeletonMethod) : List Char :=
  methods.flatMap fun m =>
    newLine indent ++ (m.text ++ if m.hasBody then newLine indent ++ ['\x7d'] else [])

/-- A skeleton as it is usually written, with its members indented by some spaces. -/
def text (indent : Nat) (u : Skeleton) : List Char :=
  u.packageText ++ ('\n' :: '\n' :: (u.headerText ++ (fieldLines indent u.fields ++
    (methodLines indent u.methods ++ ['\n', '\x7d']))))

/-- What is recorded of methods of which the first begins on a line. -/
def methodsFrom (line : Nat) : List SkeletonMethod → List (Method String)
  | [] => []
  | m :: ms => m.method line :: methodsFrom (line + m.height) ms

/-- What is recorded of a skeleton. Its fields begin on the fourth line. -/
def unit (path : String) (u : Skeleton) : SourceUnit where
  package := String.ofList u.packageName
  name := u.name.text
  decl :=
    { kind := u.kind
      superType := u.superType.map (·.headName)
      interfaces := u.interfaces.map (·.headName)
      fields := u.fields.map (·.field)
      methods := methodsFrom (4 + u.fields.length) u.methods
      sourcePath := recordedPath path }

end Skeleton

end Java

end JavaAtlas

import JavaAtlas.Java.Declaration
import JavaAtlas.Java.Grammar
import JavaAtlas.Java.Masking
import JavaAtlas.Java.Modifier
import JavaAtlas.Java.TypeName
import JavaAtlas.Pattern.Search

/-!
# Reading source files

A source file is described by its first type header and by everything in it that has the shape of
a field or a method, members of nested types included. A method ends where its braces balance; if
they never do, it is taken to end ten lines after its start.
-/

namespace JavaAtlas

namespace Java

/-- Words that are neither a method's name nor its type. -/
def reservedForMethods : List String :=
  ["class", "if", "else", "while", "for", "do", "switch", "case", "catch", "try", "finally",
    "return", "new", "throw", "assert", "yield", "instanceof", "this", "super"]

/-- The lines that a method is taken to span when its braces do not balance. -/
def unbalancedSpan : Nat := 10

/-- The offset of the brace at which the blocks open are closed; `depth + 1` blocks are open and
`offset` is that of the first character of the rest. -/
def closingBrace? (depth offset : Nat) : List Char → Option Nat
  | [] => none
  | c :: rest =>
    if c == '\x7b' then closingBrace? (depth + 1) (offset + 1) rest
    else if c == '\x7d' then
      match depth with
      | 0 => some offset
      | depth + 1 => closingBrace? depth (offset + 1) rest
    else closingBrace? depth (offset + 1) rest

/-- One parameter from a group with blanks reduced to one between words; a group without a type
and a name keeps its first word as the type. -/
def parameterOf (group : List (List Char)) : Parameter String :=
  let text := [' '].intercalate group
  match parameterShape.find? text with
  | some m =>
    { name := String.ofList (m.text .name)
      type := String.ofList (bareTypeName (m.text .type)) }
  | none => { name := "", type := String.ofList (bareTypeName (group.headD [])) }

/-- The parameters of a parameter list, one for each group that is not blank. -/
def parametersOf (text : List Char) : List (Parameter String) :=
  (((splitTopLevel [','] text).map Text.words).filter (!·.isEmpty)).map parameterOf

/-- The field that a match describes, unless its line holds a parameter list. -/
def fieldOf? (content : List Char) (m : Match MemberPart) : Option (Field String) :=
  let line := Text.lineText content (Text.lineOf content m.start)
  if line.contains '(' && line.contains ')' then none
  else some
    { name := String.ofList (m.text .name)
      type := String.ofList (bareTypeName (m.text .type))
      modifiers := modifiersIn (m.text .modifiers) }

def fieldsOf (content : List Char) : List (Field String) :=
  (fieldShape.findAll content).filterMap (fieldOf? content)

def bodyEnd? (m : Match MemberPart) : Option Nat :=
  closingBrace? 0 m.stop (m.here.drop (m.stop - m.start))

/-- The last line of the method that a match describes. The match begins on `line`, and the method
itself on `lineStart`. -/
def methodEnd (m : Match MemberPart) (line lineStart : Nat) : Nat :=
  if m.text .stop == ['\x7b'] then
    ((bodyEnd? m).map (m.lineAt line)).getD (lineStart + unbalancedSpan)
  else m.lineAt line (m.stop - 1)

/-- The method that a match describes, unless a reserved word or a modifier stands in its place. -/
def methodOf? (content : List Char) (m : Match MemberPart) : Option (Method String) :=
  let type := m.text .type
  let name := String.ofList (m.text .name)
  if reservedForMethods.contains (String.ofList type) || reservedForMethods.contains name ||
      modifierVocabulary.contains (String.ofList type) then none
  else
    let line := Text.lineOf content m.start
    let lineStart := m.lineAt line (((m.part? .modifiers).map (·.start)).getD m.start)
    some
      { name := name
        returnType := String.ofList (bareTypeName type)
        parameters := parametersOf (m.text .parameters)
        modifiers := modifiersIn (m.text .modifiers)
        lineStart := lineStart
        lineEnd := methodEnd m line lineStart }

def methodsOf (content : List Char) : List (Method String) :=
  (methodShape.findAll content).filterMap (methodOf? content)

/-- The package that a file names, empty if it names none. -/
def packageOf (content : List Char) : String :=
  match packageLine.find? content with
  | some m => String.ofList (m.text .name)
  | none => ""

/-- The bare names in a part of a header that may be missing. -/
def headerNames (header : Match HeaderPart) (part : HeaderPart) : List String :=
  (bareTypeNames (header.text part)).map String.ofList

/-- A recorded path divides its segments by slashes. -/
def recordedPath (path : String) : String :=
  String.ofList (path.toList.map fun c => if c == '\\' then '/' else c)

/-- Describe a file whose comments are already masked, if they are to be. An interface extends
interfaces and has no supertype. -/
def describe (path : String) (content : List Char) : Option SourceUnit := do
  let header ← typeHeader.find? content
  let kind ← TypeKind.ofKeyword? (String.ofList (header.text .kind))
  let extended := headerNames header .extended
  let implemented := headerNames header .implemented
  let isInterface := kind == .interfaceType
  return {
    package := packageOf content
    name := String.ofList (header.text .name)
    decl := {
      kind := kind
      superType := if isInterface then none else extended.head?
      interfaces := if isInterface then extended ++ implemented else implemented
      fields := fieldsOf content
      methods := methodsOf content
      sourcePath := recordedPath path } }

/-- Describe a source file; `masked` asks for its comments and literals to be ignored. -/
def parseSource (masked : Bool) (path : String) (content : List Char) : Option SourceUnit :=
  describe path (if masked then mask content else content)

end Java

end JavaAtlas

/-!
# Declarations

What is recorded of a type: its kind, supertype, interfaces, fields and methods. The type
parameter `α` is what names and types are recorded as: text when they come from source, any JSON
value when they come from an index file.
-/

namespace JavaAtlas

/-- The kinds of type declaration. -/
inductive TypeKind
  | classType
  | interfaceType
  | enumType
  deriving DecidableEq, Repr, Inhabited

namespace TypeKind

def keyword : TypeKind → String
  | .classType => "class"
  | .interfaceType => "interface"
  | .enumType => "enum"

def all : List TypeKind := [.classType, .interfaceType, .enumType]

def ofKeyword? (word : String) : Option TypeKind := all.find? (·.keyword == word)

end TypeKind

/-- A field of a type. -/
structure Field (α : Type) where
  name : α
  type : α
  modifiers : List α
  deriving DecidableEq, Repr

/-- A parameter of a method. -/
structure Parameter (α : Type) where
  name : α
  type : α
  deriving DecidableEq, Repr

/-- A method of a type. Its lines are counted from 1 and both belong to it. -/
structure Method (α : Type) where
  name : α
  returnType : α
  parameters : List (Parameter α)
  modifiers : List α
  lineStart : Int
  lineEnd : Int
  deriving DecidableEq, Repr

/-- A type declaration. -/
structure TypeDecl (α : Type) where
  kind : TypeKind
  superType : Option α
  interfaces : List α
  fields : List (Field α)
  methods : List (Method α)
  sourcePath : α
  deriving DecidableEq, Repr

/-- What is found in one source file. -/
structure SourceUnit where
  package : String
  name : String
  decl : TypeDecl String
  deriving DecidableEq, Repr

def SourceUnit.qualifiedName (u : SourceUnit) : String :=
  if u.package == "" then u.name else u.package ++ "." ++ u.name

section Map

variable {α β : Type}

def Field.map (f : α → β) (x : Field α) : Field β :=
  ⟨f x.name, f x.type, x.modifiers.map f⟩

def Parameter.map (f : α → β) (x : Parameter α) : Parameter β := ⟨f x.name, f x.type⟩

def Method.map (f : α → β) (x : Method α) : Method β :=
  { name := f x.name
    returnType := f x.returnType
    parameters := x.parameters.map (·.map f)
    modifiers := x.modifiers.map f
    lineStart := x.lineStart
    lineEnd := x.lineEnd }

/-- Change how a declaration's names and types are recorded. -/
def TypeDecl.map (f : α → β) (x : TypeDecl α) : TypeDecl β :=
  { kind := x.kind
    superType := x.superType.map f
    interfaces := x.interfaces.map f
    fields := x.fields.map (·.map f)
    methods := x.methods.map (·.map f)
    sourcePath := f x.sourcePath }

end Map

end JavaAtlas

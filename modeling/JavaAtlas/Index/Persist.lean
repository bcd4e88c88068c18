import JavaAtlas.Index.Shard

/-!
# The format of index files

Each record is written as a JSON object. Reading is lenient: a missing member has a default, a
text or an object stands for the list of its characters or keys where a list is asked for, a
number can be a text, and other values are kept as they are. What is read is therefore recorded
as JSON.
-/

namespace JavaAtlas

namespace Json

/-- The member of an object with a name, or a default. -/
def member (v : Json) (key : String) (default : Json) : Except Failure Json :=
  match v with
  | .obj members => .ok ((Ordered.get? members key).getD default)
  | _ => .error (.noOperation v.kindName "get")

/-- The member of an object with a name, which must be there. -/
def need (v : Json) (key : String) : Except Failure Json :=
  match v with
  | .obj members => match Ordered.get? members key with
    | some w => .ok w
    | none => .error (.missingMember key)
  | _ => .error (.noMembers v.kindName)

def members (v : Json) : Except Failure (List (String × Json)) :=
  match v with
  | .obj members => .ok members
  | _ => .error (.noOperation v.kindName "items")

/-- The items of a sequence: of a list its items, of a text its characters, of an object its
keys. -/
def items (v : Json) : Except Failure (List Json) :=
  match v with
  | .arr items => .ok items
  | .str s => .ok (s.toList.map fun c => .str (String.ofList [c]))
  | .obj members => .ok ((Ordered.keys members).map .str)
  | _ => .error (.notASequence v.kindName)

/-- The whole number that a value stands for: a number loses its fraction, a text is read. -/
def toInt (v : Json) : Except Failure Int :=
  match v with
  | .bool b => .ok (if b then 1 else 0)
  | .int n => .ok n
  | .float x => match x with
    | .nan => .error .undefinedNumber
    | .infinite _ => .error .infiniteNumber
    | x => .ok (x.truncate?.getD 0)
  | .str s => match Text.readInteger s.toList with
    | .ok n => .ok n
    | .error .malformed => .error (.notAnInteger s)
    | .error (.tooManyDigits count) => .error (.tooManyDigits count)
  | _ => .error (.notANumber v.kindName)

/-- A value, nothing in place of null. -/
def toOption : Json → Option Json
  | .null => none
  | v => some v

end Json

def TypeKind.ofJson (v : Json) : Except Failure TypeKind :=
  match v with
  | .str s => match TypeKind.ofKeyword? s with
    | some kind => .ok kind
    | none => .error (.notAChoice v "ClassKind")
  | _ => .error (.notAChoice v "ClassKind")

namespace Field

def toJson (f : Field Json) : Json :=
  .obj [("name", f.name), ("type", f.type), ("modifiers", .arr f.modifiers)]

def ofJson (v : Json) : Except Failure (Field Json) := do
  let name ← v.member "name" (.str "")
  let type ← v.member "type" (.str "")
  let modifiers ← (← v.member "modifiers" (.arr [])).items
  return { name, type, modifiers }

end Field

namespace Parameter

def toJson (p : Parameter Json) : Json := .obj [("name", p.name), ("type", p.type)]

def ofJson (v : Json) : Except Failure (Parameter Json) := do
  let name ← v.member "name" (.str "")
  let type ← v.member "type" (.str "")
  return { name, type }

/-- A parameter as a signature shows it. -/
def display (p : Parameter Json) : String :=
  String.ofList (Text.strip (p.type.display ++ " " ++ p.name.display).toList)

end Parameter

namespace Method

def toJson (m : Method Json) : Json :=
  .obj [("name", m.name), ("returnType", m.returnType),
    ("params", .arr (m.parameters.map Parameter.toJson)), ("modifiers", .arr m.modifiers),
    ("lineStart", .int m.lineStart), ("lineEnd", .int m.lineEnd)]

def ofJson (v : Json) : Except Failure (Method Json) := do
  let lineStart ← (← v.member "lineStart" (.int 0)).toInt
  let name ← v.member "name" (.str "")
  let returnType ← v.member "returnType" (.str "")
  let lineEnd ← (← v.member "lineEnd" (.int lineStart)).toInt
  let parameters ← (← (← v.member "params" (.arr [])).items).mapM Parameter.ofJson
  let modifiers ← (← v.member "modifiers" (.arr [])).items
  return { name, returnType, parameters, modifiers, lineStart, lineEnd }

def signature (m : Method Json) : String :=
  m.returnType.display ++ " " ++ m.name.display ++ "(" ++
    ", ".intercalate (m.parameters.map Parameter.display) ++ ")"

end Method

namespace TypeDecl

def toJson (d : TypeDecl Json) : Json :=
  .obj [("kind", .str d.kind.keyword), ("super", Json.ofOption d.superType),
    ("interfaces", .arr d.interfaces), ("fields", .arr (d.fields.map Field.toJson)),
    ("methods", .arr (d.methods.map Method.toJson)), ("sourcePath", d.sourcePath)]

def ofJson (v : Json) : Except Failure (TypeDecl Json) := do
  let kind ← TypeKind.ofJson (← v.member "kind" (.str TypeKind.classType.keyword))
  let sourcePath ← v.member "sourcePath" (.str "")
  let superType := (← v.member "super" .null).toOption
  let interfaces ← (← v.member "interfaces" (.arr [])).items
  let fields ← (← (← v.member "fields" (.arr [])).items).mapM Field.ofJson
  let methods ← (← (← v.member "methods" (.arr [])).items).mapM Method.ofJson
  return { kind, superType, interfaces, fields, methods, sourcePath }

end TypeDecl

namespace Shard

def toJson (s : Shard Json) : Json :=
  .obj [("package", s.package),
    ("classes", .obj (s.types.map fun entry => (entry.1, entry.2.toJson)))]

def ofJson (v : Json) : Except Failure (Shard Json) := do
  let package ← v.need "package"
  let types ← (← (← v.member "classes" (.obj [])).members).mapM fun entry => do
    return (entry.1, ← TypeDecl.ofJson entry.2)
  return { package, types }

end Shard

namespace Manifest

def toJson (m : Manifest Json) : Json :=
  .obj [("corpusVersion", m.version), ("secondaryCorpusVersion", Json.ofOption m.secondaryVersion),
    ("generatedAt", m.generatedAt),
    ("packages", .obj [("primary", .arr m.primary), ("secondary", .arr m.secondary)])]

def ofJson (v : Json) : Except Failure (Manifest Json) := do
  let packages ← v.member "packages" (.obj [])
  let version ← v.need "corpusVersion"
  let generatedAt ← v.member "generatedAt" (.str "")
  let secondaryVersion := (← v.member "secondaryCorpusVersion" .null).toOption
  let primary ← (← packages.member "primary" (.arr [])).items
  let secondary ← (← packages.member "secondary" (.arr [])).items
  return { version, secondaryVersion, generatedAt, primary, secondary }

end Manifest

end JavaAtlas

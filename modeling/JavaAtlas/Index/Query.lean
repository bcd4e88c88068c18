import JavaAtlas.Index.Store
import JavaAtlas.Text.Lines
import JavaAtlas.Text.Search

/-!
# Queries over the index

Queries go through the packages in the order of the manifest, the primary namespace first, and
through the types of each shard in order. A search stops after fifty results, so that no shard
after them is read.
-/

namespace JavaAtlas

/-- The kinds of symbol that a search finds. -/
inductive SymbolKind
  | type
  | field
  | method
  deriving DecidableEq, Repr, Inhabited

namespace SymbolKind

def name : SymbolKind → String
  | .type => "class"
  | .field => "field"
  | .method => "method"

def all : List SymbolKind := [.type, .field, .method]

def ofJson (v : Json) : Except Failure SymbolKind :=
  match v with
  | .str s => match all.find? (·.name == s) with
    | some kind => .ok kind
    | none => .error (.notAChoice v "SearchKind")
  | _ => .error (.notAChoice v "SearchKind")

end SymbolKind

/-- The two directions in which a type hierarchy is searched. -/
inductive Descent
  | subclasses
  | implementors
  deriving DecidableEq, Repr, Inhabited

namespace Descent

def name : Descent → String
  | .subclasses => "subclasses"
  | .implementors => "implementors"

def all : List Descent := [.subclasses, .implementors]

def ofJson (v : Json) : Except Failure Descent :=
  match v with
  | .str s => match all.find? (·.name == s) with
    | some direction => .ok direction
    | none => .error (.notAChoice v "HierarchyDirection")
  | _ => .error (.notAChoice v "HierarchyDirection")

end Descent

/-- A symbol that a search found. -/
structure SearchHit where
  kind : SymbolKind
  typeName : String
  name : String
  sourcePath : String
  signature : Option String
  lineStart : Option Int
  deriving DecidableEq, Repr

def SearchHit.toJson (h : SearchHit) : Json :=
  .obj [("kind", .str h.kind.name), ("class_name", .str h.typeName), ("name", .str h.name),
    ("signature", Json.ofText? h.signature), ("source_path", .str h.sourcePath),
    ("line_start", Json.ofOption (h.lineStart.map .int))]

/-- A type in a listing. -/
structure TypeListing where
  qualifiedName : String
  simpleName : String
  sourcePath : String
  deriving DecidableEq, Repr

def TypeListing.toJson (l : TypeListing) : Json :=
  .obj [("class_name", .str l.qualifiedName), ("simple_name", .str l.simpleName),
    ("source_path", .str l.sourcePath)]

def TypeListing.toHierarchyJson (l : TypeListing) : Json :=
  .obj [("class_name", .str l.qualifiedName), ("source_path", .str l.sourcePath)]

/-- A type with the text of its file. -/
structure TypeSource where
  decl : TypeDecl Json
  text : List Char
  sourcePath : String

/-- A method with the lines around it. -/
structure MethodSource where
  method : Method Json
  excerpt : List Char
  owner : TypeDecl Json
  sourcePath : String

/-- Split a qualified name into package and simple name; a bare name lies in the default
package. -/
def splitQualifiedName (name : String) : String × String :=
  let (package, simple) := Text.splitLast '.' name.toList
  (if package.isEmpty then defaultPackage else String.ofList package, String.ofList simple)

def excerptContext : Int := 3

/-- The lines of a text from three before the first to three after the last. A last line that is
negative counts from the end. -/
def excerpt (text : List Char) (lineStart lineEnd : Int) : List Char :=
  let lines := Text.lines text
  let count : Int := lines.length
  let first := max 1 (lineStart - excerptContext)
  let last := min count (lineEnd + excerptContext)
  let stop := if last < 0 then max 0 (last + count) else last
  Text.joinLines ((lines.take stop.toNat).drop (first - 1).toNat)

/-- The lowercase form of a value, which must be a text. -/
def lowerOf (v : Json) : Except Failure String := (v.textFor "lower").map lowercase

/-- Whether a package is the one asked for or lies below it, both in lowercase. -/
def isWithin (asked package : String) : Bool :=
  package == asked || (asked ++ ".").toList.isPrefixOf package.toList

namespace Store

def maxHits : Nat := 50

/-- A type met on a walk through the index. -/
structure Visit where
  ns : Namespace
  package : Json
  simpleName : String
  decl : TypeDecl Json

/-- The name of a type met, with its package. -/
def Visit.qualifiedName (v : Visit) : String := v.package.display ++ "." ++ v.simpleName

/-- Go through packages while the state `a` says so; each type that is met changes it. -/
def walkPackages {α : Type} (d : Disk) (wanted : Json → Except Failure Bool) (goOn : α → Bool)
    (visit : α → Visit → Action Store α) : α → List (Namespace × Json) → Action Store α
  | a, [] => return a
  | a, (ns, package) :: rest => do
    if !goOn a then return a
    if ← Action.ofExcept (wanted package) then
      match ← getShard d ns package with
      | some shard =>
        let a ← walkTypes ns package a shard.types
        walkPackages d wanted goOn visit a rest
      | none => walkPackages d wanted goOn visit a rest
    else walkPackages d wanted goOn visit a rest
where
  /-- Go through the types of a shard. -/
  walkTypes (ns : Namespace) (package : Json) : α → List (String × TypeDecl Json) → Action Store α
    | a, [] => return a
    | a, (name, decl) :: rest => do
      if !goOn a then return a
      walkTypes ns package (← visit a ⟨ns, package, name, decl⟩) rest

/-- The packages of a manifest with their namespaces, in order. -/
def packagesInOrder (m : Manifest Json) : List (Namespace × Json) :=
  Namespace.all.flatMap fun ns => (m.packages ns).map fun package => (ns, package)

/-- The hit for a type itself. -/
def typeHits (needle : String) (sourcePath : String) (v : Visit) : List SearchHit :=
  if Text.occursIn needle.toList (lowercase v.simpleName).toList then
    [⟨.type, v.qualifiedName, v.simpleName, sourcePath, none, none⟩]
  else []

/-- The hits among the members of a type, each with a name and the hit it makes. -/
def memberHits {β : Type} (needle : String) (nameOf : β → Json) (hitOf : β → SearchHit) :
    List β → Except Failure (List SearchHit)
  | [] => .ok []
  | x :: rest => do
    let lowered ← lowerOf (nameOf x)
    let hits ← memberHits needle nameOf hitOf rest
    return if Text.occursIn needle.toList lowered.toList then hitOf x :: hits else hits

def fieldHit (sourcePath : String) (v : Visit) (f : Field Json) : SearchHit :=
  ⟨.field, v.qualifiedName, f.name.display, sourcePath,
    some (f.type.display ++ " " ++ f.name.display), none⟩

def methodHit (sourcePath : String) (v : Visit) (m : Method Json) : SearchHit :=
  ⟨.method, v.qualifiedName, m.name.display, sourcePath, some m.signature, some m.lineStart⟩

/-- The hits in one type: the type, then its fields, then its methods. -/
def hitsIn (d : Disk) (needle : String) (kind : Option SymbolKind) (v : Visit) :
    Action Store (List SearchHit) := do
  let sourcePath := (← resolveSource d v.decl.sourcePath v.ns).text
  let wants (k : SymbolKind) : Bool := kind.all (· == k)
  let types := if wants .type then typeHits needle sourcePath v else []
  let fields ← Action.ofExcept
    (if wants .field then memberHits needle Field.name (fieldHit sourcePath v) v.decl.fields
      else .ok [])
  let methods ← Action.ofExcept
    (if wants .method then memberHits needle Method.name (methodHit sourcePath v) v.decl.methods
      else .ok [])
  return types ++ fields ++ methods

/-- The symbols whose name contains a text, without regard to case. -/
def search (d : Disk) (query : String) (kind : Option SymbolKind) :
    Action Store (List SearchHit) := do
  match ← getManifest d with
  | none => return []
  | some m =>
    let hits ← walkPackages d (fun _ => .ok true) (fun hits => hits.length < maxHits)
      (fun hits v => do return hits ++ (← hitsIn d (lowercase query) kind v)) []
      (packagesInOrder m)
    return hits.take maxHits

def listingOf (d : Disk) (v : Visit) : Action Store TypeListing := do
  return ⟨v.qualifiedName, v.simpleName, (← resolveSource d v.decl.sourcePath v.ns).text⟩

/-- Whether a package is asked for; without a request every package is. -/
def isAskedFor (asked : Option String) (package : Json) : Except Failure Bool :=
  match asked with
  | none => .ok true
  | some asked => do return isWithin (lowercase asked) (← lowerOf package)

/-- The types of a package and of those below it, without regard to case. -/
def listTypes (d : Disk) (asked : Option String) : Action Store (List TypeListing) := do
  match ← getManifest d with
  | none => return []
  | some m =>
    walkPackages d (isAskedFor asked) (fun _ => true)
      (fun found v => do return found ++ [← listingOf d v]) [] (packagesInOrder m)

def listPackages (d : Disk) (ns : Option Namespace) : Action Store (List Json) := do
  match ← getManifest d with
  | none => return []
  | some m => match ns with
    | some ns => return m.packages ns
    | none => return m.primary ++ m.secondary

/-- Whether a declaration names a type as its supertype or among its interfaces. -/
def descendsFrom (name : Json) (direction : Descent) (decl : TypeDecl Json) : Bool :=
  match direction with
  | .subclasses => (Json.ofOption decl.superType).equals name
  | .implementors => decl.interfaces.any (·.alike name)

/-- The types that extend or implement a type, by the name they record. -/
def findHierarchy (d : Disk) (name : Json) (direction : Descent) :
    Action Store (List TypeListing) := do
  match ← getManifest d with
  | none => return []
  | some m =>
    walkPackages d (fun _ => .ok true) (fun _ => true)
      (fun found v => do
        if descendsFrom name direction v.decl then return found ++ [← listingOf d v]
        else return found)
      [] (packagesInOrder m)

/-- The text of a source file; a file that cannot be read has none. -/
def readSource (d : Disk) (p : Path) : Except Failure (Option (List Char)) :=
  match d.fileAt p with
  | .ok data => .ok (some (Text.decodeLossy data.toBytes))
  | .error (.disk _) => .ok none
  | .error e => .error e

def getType (d : Disk) (name : String) : Action Store (Option TypeSource) := do
  match ← getManifest d with
  | none => return none
  | some _ =>
    let ns := namespaceFor (← get).config name
    let (package, simple) := splitQualifiedName name
    match ← getShard d ns (.str package) with
    | none => return none
    | some shard => match Ordered.get? shard.types simple with
      | none => return none
      | some decl =>
        let path ← resolveSource d decl.sourcePath ns
        match ← Action.ofExcept (readSource d path) with
        | none => return none
        | some text => return some ⟨decl, text, path.text⟩

/-- The first method whose lowercase name is given. -/
def findLowered (lowered : String) : List (Method Json) → Except Failure (Option (Method Json))
  | [] => .ok none
  | m :: rest => do
    if (← lowerOf m.name) == lowered then return some m else findLowered lowered rest

/-- The method with a name, or the first one that differs in case only. -/
def findMethod (methods : List (Method Json)) (name : Json) :
    Except Failure (Option (Method Json)) :=
  match methods.find? (·.name.equals name) with
  | some m => .ok (some m)
  | none => do findLowered (← lowerOf name) methods

/-- A method of a type with the lines around it. -/
def getMethod (d : Disk) (typeName : String) (method : Json) :
    Action Store (Option MethodSource) := do
  match ← getType d typeName with
  | none => return none
  | some source => match ← Action.ofExcept (findMethod source.decl.methods method) with
    | none => return none
    | some m =>
      return some ⟨m, excerpt source.text m.lineStart m.lineEnd, source.decl, source.sourcePath⟩

end Store

end JavaAtlas

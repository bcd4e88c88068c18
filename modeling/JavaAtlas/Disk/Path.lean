import JavaAtlas.Text.Order

/-!
# Paths

A path is a root, empty for a relative path, and its segments. Repeated slashes, segments `.` and
a slash at the end do not count; `..` stays until a path is resolved. Exactly two slashes in front
are kept apart from one.
-/

namespace JavaAtlas

/-- A path of files and directories. -/
structure Path where
  root : String
  parts : List String
  deriving DecidableEq, Repr, Inhabited

namespace Path

def segments (s : List Char) : List String :=
  ((s.splitOn '/').map String.ofList).filter fun part => part != "" && part != "."

def parse (s : String) : Path :=
  let chars := s.toList
  let root := match chars with
    | '/' :: '/' :: '/' :: _ => "/"
    | '/' :: '/' :: _ => "//"
    | '/' :: _ => "/"
    | _ => ""
  ⟨root, segments chars⟩

/-- The text of a path; the empty path is `.`. -/
def text (p : Path) : String :=
  if p.root == "" && p.parts.isEmpty then "." else p.root ++ "/".intercalate p.parts

instance : ToString Path := ⟨text⟩

def isAbsolute (p : Path) : Bool := p.root != ""

/-- A path taken from another one; an absolute path stands for itself. -/
def join (base p : Path) : Path :=
  if p.isAbsolute then p else ⟨base.root, base.parts ++ p.parts⟩

/-- A path one or more segments below another one. -/
instance : HDiv Path String Path := ⟨fun base s => base.join (parse s)⟩

/-- The last segment. -/
def name (p : Path) : String := p.parts.getLast?.getD ""

def parent (p : Path) : Path := ⟨p.root, p.parts.dropLast⟩

/-- The path with another last segment. -/
def withName (p : Path) (name : String) : Path := ⟨p.root, p.parts.dropLast ++ [name]⟩

/-- Follow segments from a place, `..` leading one level up. -/
def follow (start : List String) (parts : List String) : List String :=
  parts.foldl (fun place part => if part == ".." then place.dropLast else place ++ [part]) start

/-- The absolute path without `..` that a path means in a working directory. -/
def resolve (cwd : List String) (p : Path) : Path :=
  ⟨"/", follow (if p.isAbsolute then [] else cwd) p.parts⟩

/-- What follows a base in a path that begins with it. -/
def relativeTo? (p base : Path) : Option Path :=
  if base.root == "" && base.parts.isEmpty then
    if p.isAbsolute then none else some p
  else if p.root == base.root && base.parts.isPrefixOf p.parts then
    some ⟨"", p.parts.drop base.parts.length⟩
  else none

/-- Paths are ordered by their segments. -/
def le (p q : Path) : Bool := !Text.areBefore (q.root :: q.parts) (p.root :: p.parts)

end Path

end JavaAtlas

import JavaAtlas.Config
import JavaAtlas.Java.Declaration

/-!
# Shards and the manifest

The index of a package is a shard: its types by simple name, in the order in which they were
found. The manifest lists the packages of both namespaces and the versions they come from.
-/

namespace JavaAtlas

/-- The types of one package in one namespace. -/
structure Shard (α : Type) where
  package : α
  types : List (String × TypeDecl α)
  deriving DecidableEq, Repr

/-- The packages that are indexed, and from which versions. -/
structure Manifest (α : Type) where
  version : α
  secondaryVersion : Option α
  generatedAt : α
  primary : List α
  secondary : List α
  deriving DecidableEq, Repr

def Manifest.packages {α : Type} (m : Manifest α) : Namespace → List α
  | .primary => m.primary
  | .secondary => m.secondary

/-- The package that types without a package are filed under. -/
def defaultPackage : String := "default"

section Map

variable {α β : Type}

/-- Change how a shard's names and types are recorded. -/
def Shard.map (f : α → β) (s : Shard α) : Shard β :=
  ⟨f s.package, s.types.map fun entry => (entry.1, entry.2.map f)⟩

def Manifest.map (f : α → β) (m : Manifest α) : Manifest β :=
  { version := f m.version
    secondaryVersion := m.secondaryVersion.map f
    generatedAt := f m.generatedAt
    primary := m.primary.map f
    secondary := m.secondary.map f }

end Map

end JavaAtlas

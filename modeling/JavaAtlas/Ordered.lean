/-!
# Maps in insertion order

A map is a list of pairs. A key that is set again keeps its place and takes the new value; a new
key goes to the end.
-/

namespace JavaAtlas

namespace Ordered

variable {κ α : Type} [BEq κ]

/-- Set the value of a key. -/
def insert (entries : List (κ × α)) (key : κ) (value : α) : List (κ × α) :=
  match entries with
  | [] => [(key, value)]
  | (k, v) :: rest => if k == key then (k, value) :: rest else (k, v) :: insert rest key value

def get? (entries : List (κ × α)) (key : κ) : Option α :=
  match entries with
  | [] => none
  | (k, v) :: rest => if k == key then some v else get? rest key

def erase (entries : List (κ × α)) (key : κ) : List (κ × α) :=
  entries.filter fun entry => !(entry.1 == key)

/-- The map that a list of assignments leaves. -/
def ofList (entries : List (κ × α)) : List (κ × α) :=
  entries.foldl (fun map entry => insert map entry.1 entry.2) []

/-- The keys in order. -/
def keys (entries : List (κ × α)) : List κ := entries.map Prod.fst

end Ordered

end JavaAtlas

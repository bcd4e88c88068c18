import JavaAtlas.Index.Query

/-!
# Questions with values of any kind

The index is asked with texts. A value of another kind has no lowercase form and no beginning, which
is a failure; but it is only looked at if there is an index to be asked.
-/

namespace JavaAtlas

namespace Store

/-- The symbols whose name contains a value, which must be a text. -/
def searchFor (d : Disk) (query : Json) (kind : Option SymbolKind) :
    Action Store (List SearchHit) := do
  search d (← Action.ofExcept (query.textFor "lower")) kind

/-- A text that is looked at only if there is a manifest. -/
def textIfIndexed (d : Disk) (operation : String) (v : Json) : Action Store (Option String) := do
  match ← getManifest d with
  | none => return none
  | some _ => return some (← Action.ofExcept (v.textFor operation))

/-- The types of a package and of those below it; null asks for all of them. -/
def typesWithin (d : Disk) (package : Json) : Action Store (List TypeListing) := do
  match package with
  | .null => listTypes d none
  | v => match ← textIfIndexed d "lower" v with
    | some asked => listTypes d (some asked)
    | none => return []

def namespaceOf (c : Config) (name : Json) : Except Failure Namespace :=
  (name.textFor "startswith").map (namespaceFor c)

def typeNamed (d : Disk) (name : Json) : Action Store (Option TypeSource) := do
  match ← textIfIndexed d "startswith" name with
  | some asked => getType d asked
  | none => return none

def methodNamed (d : Disk) (typeName method : Json) : Action Store (Option MethodSource) := do
  match ← textIfIndexed d "startswith" typeName with
  | some asked => getMethod d asked method
  | none => return none

end Store

end JavaAtlas

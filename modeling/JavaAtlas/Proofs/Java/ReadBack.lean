import JavaAtlas.Proofs.Java.Methods

/-!
# Reading skeletons back

A skeleton that is written in its usual layout and read again gives its description, if no name
that it declares has a dollar sign. A name is read as word characters only, which the dollar sign
is not; in the name of a type it is read.
-/

namespace JavaAtlas

namespace Java

/-- A skeleton that declares no name with a dollar sign. -/
structure Skeleton.IsPlain (u : Skeleton) : Prop where
  package : ∀ x ∈ u.package, '$' ∉ x.text.toList
  name : '$' ∉ u.name.text.toList
  fields : ∀ f ∈ u.fields, '$' ∉ f.name.text.toList
  methods : ∀ m ∈ u.methods, m.IsPlain

lemma ofKeyword?_keyword (kind : TypeKind) : TypeKind.ofKeyword? kind.keyword = some kind := by
  cases kind <;> rfl

lemma headerNames_of_text {header : Match HeaderPart} {part : HeaderPart} {ts : List TypeRef}
    (h : header.text part = commaSeparated (TypeRef.texts ts)) :
    headerNames header part = ts.map (·.headName) := by
  rw [headerNames, h, bareTypeNames_text, List.map_map]
  exact List.map_congr_left fun t _ => String.ofList_toList

/-- What a header tells of the types that are extended and implemented. -/
lemma Skeleton.supertypes (u : Skeleton) :
    (if (u.kind == .interfaceType) = true then none
        else (u.extended.map (·.headName)).head?) = u.superType.map (·.headName) ∧
      (if (u.kind == .interfaceType) = true then
          u.extended.map (·.headName) ++ u.implemented.map (·.headName)
        else u.implemented.map (·.headName)) = u.interfaces.map (·.headName) := by
  by_cases hkind : u.kind = .interfaceType
  · simp [hkind, extended, implemented, u.superType_interface hkind]
  · cases hsuper : u.superType <;> simp [hkind, extended, implemented, hsuper]

lemma Skeleton.describe_text (u : Skeleton) (hplain : u.IsPlain) (indent : Nat) (path : String) :
    describe path (u.text indent) = some (u.unit path) := by
  have hfields := u.fieldsOf_text indent hplain.fields
  have hmethods := u.methodsOf_text indent hplain.methods
  have hpackage : packageOf (u.text indent) = String.ofList u.packageName :=
    u.packageOf_text hplain.package
  obtain ⟨header, hfind, hkind, hname, hextended, himplemented⟩ := u.exists_typeHeader
    (r := Skeleton.fieldLines indent u.fields ++ (Skeleton.methodLines indent u.methods ++
      ['\n', '\x7d'])) hplain.name
  rw [← Skeleton.text] at hfind
  obtain ⟨hsuper, hinterfaces⟩ := u.supertypes
  have hkeyword : TypeKind.ofKeyword? (String.ofList (header.text .kind)) = some u.kind := by
    rw [hkind, String.ofList_toList, ofKeyword?_keyword]
  rw [describe, hfind]
  simp only [Option.bind_eq_bind, Option.bind_some, hkeyword, headerNames_of_text hextended,
    headerNames_of_text himplemented, hsuper, hinterfaces, hpackage, hname, hfields, hmethods,
    String.ofList_toList]
  rfl

/-- A skeleton is read back from its usual layout, with members indented by any number of
spaces. -/
theorem parseSource_text (u : Skeleton) (hplain : u.IsPlain) (indent : Nat) (path : String) :
    parseSource false path (u.text indent) = some (u.unit path) := by
  rw [parseSource, if_neg (by decide), u.describe_text hplain]

/-! ### A skeleton with everything, and one with a dollar sign -/

def simpleType (name : String) (h : (isIdentifier name || primitiveTypes.contains name) = true) :
    TypeRef := .mk ⟨name, h⟩ [] 0

/-- A class with a super type, an interface with an argument, a field and two methods. -/
def plainSkeleton : Skeleton where
  package := [⟨"p", by decide⟩, ⟨"q", by decide⟩]
  modifiers := [⟨"public", by decide⟩, ⟨"final", by decide⟩]
  kind := .classType
  name := ⟨"A", by decide⟩
  superType := some (simpleType "B$C" (by decide))
  interfaces := [.mk ⟨"I", by decide⟩ [simpleType "B" (by decide), simpleType "C" (by decide)] 0]
  fields := [⟨⟨"private", by decide⟩, [⟨"static", by decide⟩],
    .mk ⟨"int", by decide⟩ [] 1, ⟨"x", by decide⟩⟩]
  methods := [
    ⟨[⟨"public", by decide⟩], simpleType "void" (by decide), ⟨"f", by decide⟩,
      [⟨simpleType "int" (by decide), ⟨"a", by decide⟩⟩], true⟩,
    ⟨[⟨"abstract", by decide⟩], simpleType "B" (by decide), ⟨"g", by decide⟩, [], false⟩]
  package_ne := by decide
  superType_interface := by decide

theorem parseSource_text_plain :
    parseSource false "A.java" (plainSkeleton.text 4) = some (plainSkeleton.unit "A.java") := by
  refine parseSource_text plainSkeleton ⟨?_, ?_, ?_, ?_⟩ 4 "A.java"
  · decide
  · decide
  · decide
  · have hall : ∀ m ∈ plainSkeleton.methods, '$' ∉ m.name.text.toList ∧
        ∀ p ∈ m.parameters, '$' ∉ p.name.text.toList := by decide
    exact fun m hm => ⟨(hall m hm).1, (hall m hm).2⟩

/-- An empty class whose name has a dollar sign. -/
def dollarSkeleton : Skeleton where
  package := [⟨"p", by decide⟩]
  modifiers := []
  kind := .classType
  name := ⟨"A$B", by decide⟩
  superType := none
  interfaces := []
  fields := []
  methods := []
  package_ne := by decide
  superType_interface := fun _ => rfl

/-- No type is found in a file that declares one whose name has a dollar sign. -/
theorem dollarSkeleton_not_read :
    parseSource false "A.java" (dollarSkeleton.text 4) = none ∧
      parseSource false "A.java" (dollarSkeleton.text 4) ≠ some (dollarSkeleton.unit "A.java") := by
  have hnone : parseSource false "A.java" (dollarSkeleton.text 4) = none := by decide +kernel
  refine ⟨hnone, ?_⟩
  rw [hnone]
  exact fun h => by cases h

end Java

end JavaAtlas

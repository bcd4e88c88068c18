import JavaAtlas.Index.Build
import JavaAtlas.Proofs.Java.Names
import JavaAtlas.Proofs.Ordered
import JavaAtlas.Proofs.Text.Order

/-!
# Types filed by package

Every type that is filed comes from a file that was read, every package has a type in it, and no
name occurs twice. The names of packages and types are those that source files can give, so that
no package is named like a path.
-/

namespace JavaAtlas

namespace Index

open Java (IsDotted IsWord)

/-- The package that the type of a file is filed under. -/
def filedUnder (u : SourceUnit) : String :=
  if u.package == "" then defaultPackage else u.package

namespace Packages

variable {packages : Packages} {units : List SourceUnit}

/-- Packages that hold nothing but the types of a list of files. -/
structure FiledFrom (units : List SourceUnit) (packages : Packages) : Prop where
  nodup : (Ordered.keys packages).Nodup
  nodup_types : ∀ package types, Ordered.get? packages package = some types →
    (Ordered.keys types).Nodup
  types_ne_nil : ∀ package types, Ordered.get? packages package = some types → types ≠ []
  origin : ∀ package types name decl, Ordered.get? packages package = some types →
    Ordered.get? types name = some decl →
    ∃ u ∈ units, filedUnder u = package ∧ u.name = name ∧ u.decl = decl

lemma insert_ne_nil {κ α : Type} [BEq κ] (m : List (κ × α)) (key : κ) (v : α) :
    Ordered.insert m key v ≠ [] := by
  match m with
  | [] => simp [Ordered.insert]
  | (k, w) :: rest =>
    rw [Ordered.insert]
    split <;> simp

/-- The types of the package that a file belongs to, before it is filed. -/
lemma FiledFrom.nodup_getD (h : FiledFrom units packages) (package : String) :
    (Ordered.keys ((Ordered.get? packages package).getD [])).Nodup := by
  match hget : Ordered.get? packages package with
  | none => simp
  | some types => exact h.nodup_types package types hget

lemma FiledFrom.add (h : FiledFrom units packages) (u : SourceUnit) :
    FiledFrom (units ++ [u]) (packages.add u) := by
  have hadd : packages.add u = Ordered.insert packages (filedUnder u)
      (Ordered.insert ((Ordered.get? packages (filedUnder u)).getD []) u.name u.decl) := rfl
  rw [hadd]
  refine ⟨Ordered.nodup_keys_insert h.nodup _ _, ?_, ?_, ?_⟩
  · intro package types hget
    by_cases hp : package = filedUnder u
    · subst hp
      rw [Ordered.get?_insert_self, Option.some.injEq] at hget
      exact hget ▸ Ordered.nodup_keys_insert (h.nodup_getD _) _ _
    · rw [Ordered.get?_insert_of_ne _ _ hp] at hget
      exact h.nodup_types package types hget
  · intro package types hget
    by_cases hp : package = filedUnder u
    · subst hp
      rw [Ordered.get?_insert_self, Option.some.injEq] at hget
      exact hget ▸ insert_ne_nil _ _ _
    · rw [Ordered.get?_insert_of_ne _ _ hp] at hget
      exact h.types_ne_nil package types hget
  · intro package types name decl hget hdecl
    -- a type that is not the new one was filed before
    have hbefore : ∀ old, Ordered.get? packages package = some old →
        Ordered.get? old name = some decl →
        ∃ v ∈ units ++ [u], filedUnder v = package ∧ v.name = name ∧ v.decl = decl := by
      intro old hold hdecl
      obtain ⟨v, hv, heq⟩ := h.origin package old name decl hold hdecl
      exact ⟨v, List.mem_append_left _ hv, heq⟩
    by_cases hp : package = filedUnder u
    · subst hp
      rw [Ordered.get?_insert_self, Option.some.injEq] at hget
      subst hget
      by_cases hn : name = u.name
      · subst hn
        rw [Ordered.get?_insert_self, Option.some.injEq] at hdecl
        exact ⟨u, by simp, rfl, rfl, hdecl⟩
      · rw [Ordered.get?_insert_of_ne _ _ hn] at hdecl
        match hold : Ordered.get? packages (filedUnder u) with
        | none => simp [hold] at hdecl
        | some old =>
          rw [hold, Option.getD_some] at hdecl
          exact hbefore old hold hdecl
    · rw [Ordered.get?_insert_of_ne _ _ hp] at hget
      exact hbefore types hget hdecl

/-- Filing files one after the other files nothing else. -/
theorem filedFrom_foldl (done rest : List SourceUnit) (h : FiledFrom done packages) :
    FiledFrom (done ++ rest) (rest.foldl add packages) := by
  induction rest generalizing done packages with
  | nil => simpa using h
  | cons u rest ih => simpa using ih (done ++ [u]) (h.add u)

lemma filedFrom_collect (units : List (Option SourceUnit)) :
    FiledFrom (units.filterMap id) (collect units) := by
  refine filedFrom_foldl [] _ ⟨by simp, ?_, ?_, ?_⟩
  all_goals simp

/-! ### Names -/

/-- Packages whose names, and those of their types, are names of source files. -/
structure Tidy (packages : Packages) : Prop where
  nodup : (Ordered.keys packages).Nodup
  nodup_types : ∀ package types, Ordered.get? packages package = some types →
    (Ordered.keys types).Nodup
  dotted : ∀ package ∈ Ordered.keys packages, package ≠ "" ∧ IsDotted package
  words : ∀ package types, Ordered.get? packages package = some types →
    ∀ name ∈ Ordered.keys types, IsWord name

lemma isDotted_filedUnder {u : SourceUnit} (h : IsDotted u.package) :
    filedUnder u ≠ "" ∧ IsDotted (filedUnder u) := by
  rw [filedUnder]
  by_cases hempty : u.package = ""
  · simp only [hempty, beq_self_eq_true, if_true]
    have hchars : defaultPackage.toList.all Java.isDottedChar = true := by decide
    exact ⟨by decide, List.all_eq_true.mp hchars⟩
  · simp only [beq_iff_eq, hempty, if_false]
    exact ⟨hempty, h⟩

lemma FiledFrom.tidy (h : FiledFrom units packages)
    (hunits : ∀ u ∈ units, IsDotted u.package ∧ IsWord u.name) : packages.Tidy := by
  refine ⟨h.nodup, h.nodup_types, ?_, ?_⟩
  · intro package hmem
    obtain ⟨types, htypes⟩ := Ordered.mem_keys_iff.mp hmem
    match types with
    | [] => exact absurd rfl (h.types_ne_nil package _ htypes)
    | (name, decl) :: rest =>
      obtain ⟨u, hu, rfl, -, -⟩ :=
        h.origin package _ name decl htypes (Ordered.get?_cons_self name decl rest)
      exact isDotted_filedUnder (hunits u hu).1
  · intro package types htypes name hname
    obtain ⟨decl, hdecl⟩ := Ordered.mem_keys_iff.mp hname
    obtain ⟨u, hu, -, rfl, -⟩ := h.origin package types name decl htypes hdecl
    exact (hunits u hu).2

lemma mem_names {package : String} : package ∈ packages.names ↔ package ∈ Ordered.keys packages :=
  (List.mergeSort_perm _ _).mem_iff

lemma Tidy.nodup_names (h : packages.Tidy) : packages.names.Nodup :=
  (List.mergeSort_perm _ _).nodup_iff.mpr h.nodup

/-- The names of the packages increase. -/
lemma Tidy.pairwise_names (h : packages.Tidy) :
    packages.names.Pairwise fun a b => Text.isBefore a b = true := by
  have hsorted : packages.names.Pairwise fun a b => (!Text.isBefore b a) = true := by
    refine List.pairwise_mergeSort (fun a b c hab hbc => ?_) (fun a b => ?_) _
    · rw [Bool.not_eq_true'] at hab hbc ⊢
      exact Text.not_isBefore_trans hab hbc
    · rw [Bool.or_eq_true, Bool.not_eq_true', Bool.not_eq_true']
      match hba : Text.isBefore b a with
      | false => exact Or.inl rfl
      | true => exact Or.inr (Text.isBefore_asymm hba)
  refine (List.Pairwise.and hsorted h.nodup_names).imp fun hab => ?_
  obtain ⟨hle, hne⟩ := hab
  rw [Bool.not_eq_true'] at hle
  exact Text.isBefore_of_ne hne hle

end Packages

/-! ### What a build collects -/

/-- What a build collects and writes: the packages of each namespace and the versions they come
from. -/
structure Contents where
  version : String
  secondaryVersion : Option String
  generatedAt : String
  packages : Namespace → Packages
  tidy : ∀ ns, (packages ns).Tidy

namespace Contents

def manifest (k : Contents) : Manifest String :=
  { version := k.version
    secondaryVersion := k.secondaryVersion
    generatedAt := k.generatedAt
    primary := (k.packages .primary).names
    secondary := (k.packages .secondary).names }

/-- The types of a package, none if there is no such package. -/
def types (k : Contents) (ns : Namespace) (package : String) : List (String × TypeDecl String) :=
  (Ordered.get? (k.packages ns) package).getD []

def shard (k : Contents) (ns : Namespace) (package : String) : Shard String :=
  ⟨package, k.types ns package⟩

variable (k : Contents) {ns : Namespace} {package name : String}

lemma manifest_packages (ns : Namespace) : k.manifest.packages ns = (k.packages ns).names := by
  cases ns <;> rfl

lemma nodup_types (ns : Namespace) (package : String) :
    (Ordered.keys (k.types ns package)).Nodup := by
  rw [types]
  match hget : Ordered.get? (k.packages ns) package with
  | none => simp
  | some types => exact (k.tidy ns).nodup_types package types hget

lemma types_of_get? {types : List (String × TypeDecl String)}
    (h : Ordered.get? (k.packages ns) package = some types) :
    package ∈ (k.packages ns).names ∧ k.types ns package = types :=
  ⟨Packages.mem_names.mpr (Ordered.mem_keys_iff.mpr ⟨types, h⟩), by rw [Contents.types, h]; rfl⟩

lemma not_mem_slash (h : package ∈ (k.packages ns).names) : '/' ∉ package.toList :=
  ((k.tidy ns).dotted package (Packages.mem_names.mp h)).2.not_mem_slash

end Contents

end Index

end JavaAtlas

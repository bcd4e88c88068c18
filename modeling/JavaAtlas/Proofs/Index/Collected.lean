import Mathlib.Data.Finset.Card
import Mathlib.Data.List.Dedup
import JavaAtlas.Proofs.Index.Job

/-!
# What is collected from a list of files

Types are filed by package and name in the order of their files. A package has its place from the
first file in it, a type from the first of its name there, and its declaration is that of the last.
So every file was skipped, stands in the index, or was overwritten by a later one.
-/

namespace JavaAtlas

namespace Index

/-- The package and the name that the type of a file is filed under. -/
def filedAs (u : SourceUnit) : String × String := (filedUnder u, u.name)

/-- The files whose type is overwritten by that of a later one. -/
def overwritten : List SourceUnit → List SourceUnit
  | [] => []
  | u :: rest =>
    if rest.any fun v => filedAs v == filedAs u then u :: overwritten rest else overwritten rest

/-- Every file that is not overwritten is the last one of its package and name. -/
lemma length_overwritten (units : List SourceUnit) :
    (units.map filedAs).toFinset.card + (overwritten units).length = units.length := by
  induction units with
  | nil => rfl
  | cons u rest ih =>
    have hany : (rest.any fun v => filedAs v == filedAs u) = true ↔
        filedAs u ∈ (rest.map filedAs).toFinset := by
      simp [List.any_eq_true]
    rw [overwritten, List.map_cons, List.toFinset_cons]
    split
    · next h =>
      rw [Finset.insert_eq_of_mem (hany.mp h), List.length_cons, List.length_cons, ← ih]
      omega
    · next h =>
      rw [Finset.card_insert_of_notMem (mt hany.mpr h), List.length_cons, ← ih]
      omega

namespace Packages

/-- The types of a package, none if there is no such package. -/
def types (packages : Packages) (package : String) : List (String × TypeDecl String) :=
  (Ordered.get? packages package).getD []

/-- The declaration that is filed under a package and a name. -/
def decl? (packages : Packages) (place : String × String) : Option (TypeDecl String) :=
  Ordered.get? (packages.types place.1) place.2

variable {packages : Packages} {units : List SourceUnit} {u : SourceUnit}

lemma add_eq (packages : Packages) (u : SourceUnit) :
    packages.add u = Ordered.insert packages (filedUnder u)
      (Ordered.insert (packages.types (filedUnder u)) u.name u.decl) := rfl

lemma types_add_self (packages : Packages) (u : SourceUnit) :
    (packages.add u).types (filedUnder u) =
      Ordered.insert (packages.types (filedUnder u)) u.name u.decl := by
  rw [types, add_eq, Ordered.get?_insert_self, Option.getD_some]

lemma types_add_of_ne {package : String} (h : package ≠ filedUnder u) :
    (packages.add u).types package = packages.types package := by
  rw [types, add_eq, Ordered.get?_insert_of_ne _ _ h, types]

lemma decl?_add (packages : Packages) (u : SourceUnit) (place : String × String) :
    (packages.add u).decl? place =
      if place = filedAs u then some u.decl else packages.decl? place := by
  obtain ⟨package, name⟩ := place
  by_cases hp : package = filedUnder u
  · subst hp
    by_cases hn : name = u.name
    · subst hn
      simp [decl?, filedAs, types_add_self]
    · simp [decl?, filedAs, hn, types_add_self, Ordered.get?_insert_of_ne _ _ hn]
  · simp [decl?, filedAs, hp, types_add_of_ne hp]

lemma typeCount_add (packages : Packages) (u : SourceUnit) :
    (packages.add u).typeCount =
      if u.name ∈ Ordered.keys (packages.types (filedUnder u)) then packages.typeCount
      else packages.typeCount + 1 := by
  have hcount : (packages.add u).typeCount + (packages.types (filedUnder u)).length =
      packages.typeCount +
        (Ordered.insert (packages.types (filedUnder u)) u.name u.decl).length := by
    have hold : (packages.types (filedUnder u)).length =
        ((Ordered.get? packages (filedUnder u)).map List.length).getD 0 := by
      rw [types]
      cases Ordered.get? packages (filedUnder u) <;> rfl
    rw [hold]
    exact Ordered.length_flatMap_insert (·.2) packages (filedUnder u) _
  have hnew := Ordered.length_insert (packages.types (filedUnder u)) u.name u.decl
  split at hnew
  · next h =>
    rw [if_pos h]
    omega
  · next h =>
    rw [if_neg h]
    omega

/-! ### Filing file by file -/

/-- Packages in which the types of a list of files are filed: packages and types in the order of
the first file of each, and the last declaration of every type. -/
structure Arranges (units : List SourceUnit) (packages : Packages) : Prop where
  keys_packages : Ordered.keys packages = (units.map filedUnder).eraseDups
  keys_types : ∀ package, Ordered.keys (packages.types package) =
    ((units.filter (filedUnder · == package)).map (·.name)).eraseDups
  last : ∀ place, packages.decl? place =
    (units.reverse.find? (filedAs · == place)).map (·.decl)
  count : packages.typeCount = (units.map filedAs).toFinset.card

lemma arranges_nil : Arranges [] [] :=
  ⟨rfl, fun _ => rfl, fun _ => rfl, rfl⟩

lemma Arranges.add (h : Arranges units packages) (u : SourceUnit) :
    Arranges (units ++ [u]) (packages.add u) where
  keys_packages := by
    rw [add_eq, Ordered.keys_insert_eraseDups _ _ h.keys_packages, List.map_append,
      List.map_singleton]
  keys_types package := by
    rw [List.filter_append]
    by_cases hp : package = filedUnder u
    · subst hp
      rw [types_add_self, Ordered.keys_insert_eraseDups _ _ (h.keys_types (filedUnder u))]
      simp
    · rw [types_add_of_ne hp, h.keys_types]
      simp [Ne.symm hp]
  last place := by
    rw [decl?_add, h.last, List.reverse_append, List.reverse_singleton, List.singleton_append,
      List.find?_cons]
    by_cases hplace : place = filedAs u
    · simp [hplace]
    · simp [hplace, beq_false_of_ne (Ne.symm hplace)]
  count := by
    have hmem : u.name ∈ Ordered.keys (packages.types (filedUnder u)) ↔
        filedAs u ∈ (units.map filedAs).toFinset := by
      rw [h.keys_types]
      simp [filedAs, and_assoc]
    rw [typeCount_add, List.map_append, List.map_singleton, List.toFinset_append,
      List.toFinset_cons, List.toFinset_nil, Finset.union_insert, Finset.union_empty]
    split
    · next hin => rw [Finset.insert_eq_of_mem (hmem.mp hin), h.count]
    · next hout => rw [Finset.card_insert_of_notMem (mt hmem.mpr hout), h.count]

/-- Filing files one after the other keeps what was filed arranged. -/
lemma Arranges.foldl (h : Arranges units packages) (rest : List SourceUnit) :
    Arranges (units ++ rest) (rest.foldl Packages.add packages) := by
  induction rest generalizing units packages with
  | nil => simpa using h
  | cons u rest ih => simpa using ih (h.add u)

lemma arranges_collect (units : List (Option SourceUnit)) :
    Arranges (units.filterMap id) (collect units) :=
  arranges_nil.foldl (units.filterMap id)

/-- The declaration that is filed is that of the last file of its package and name. -/
lemma Arranges.decl?_eq_some_iff (h : Arranges units packages) {place : String × String}
    {decl : TypeDecl String} : packages.decl? place = some decl ↔
      ∃ before u after, units = before ++ u :: after ∧ filedAs u = place ∧ u.decl = decl ∧
        ∀ v ∈ after, filedAs v ≠ place := by
  rw [h.last, Option.map_eq_some_iff]
  constructor
  · rintro ⟨u, hu, rfl⟩
    obtain ⟨hplace, after, before, hunits, hafter⟩ := List.find?_eq_some_iff_append.mp hu
    refine ⟨before.reverse, u, after.reverse, ?_, eq_of_beq hplace, rfl, fun v hv => ?_⟩
    · rw [← List.reverse_reverse units, hunits]
      simp
    · simpa using hafter v (List.mem_reverse.mp hv)
  · rintro ⟨before, u, after, rfl, hplace, rfl, hafter⟩
    refine ⟨u, List.find?_eq_some_iff_append.mpr ⟨beq_iff_eq.mpr hplace, after.reverse,
      before.reverse, by simp, fun v hv => ?_⟩, rfl⟩
    simpa using hafter v (List.mem_reverse.mp hv)

end Packages

/-! ### Lists of files -/

variable {units : List (Option SourceUnit)}

lemma skippedCount_eq_count (units : List (Option SourceUnit)) :
    skippedCount units = units.count none := by
  rw [skippedCount, List.count_eq_length_filter]
  congr 2
  funext unit
  cases unit <;> rfl

lemma length_eq_skippedCount_add (units : List (Option SourceUnit)) :
    units.length = skippedCount units + (units.filterMap id).length := by
  have hfound : (units.filterMap id).length = (units.filter fun unit => !unit.isNone).length := by
    rw [List.length_filterMap_eq_countP, List.countP_eq_length_filter]
    congr 2
    funext unit
    cases unit <;> rfl
  rw [hfound]
  exact List.length_eq_length_filter_add Option.isNone

/-- A type that was found stands behind and in front of others just as its file does. -/
lemma filterMap_eq_append_cons_iff {before after : List SourceUnit} {u : SourceUnit} :
    units.filterMap id = before ++ u :: after ↔
      ∃ front back, units = front ++ some u :: back ∧ front.filterMap id = before ∧
        back.filterMap id = after := by
  constructor
  · intro h
    obtain ⟨front, rest, rfl, hfront, hrest⟩ := List.filterMap_eq_append_iff.mp h
    obtain ⟨none', _, back, rfl, hnone, rfl, hback⟩ := List.filterMap_eq_cons_iff.mp hrest
    refine ⟨front ++ none', back, by simp, ?_, hback⟩
    rw [List.filterMap_append, List.filterMap_eq_nil_iff.mpr hnone, List.append_nil, hfront]
  · rintro ⟨front, back, rfl, rfl, rfl⟩
    simp

/-- Files that can be looked at are read one after the other. -/
lemma exec_readSources_of_forall₂ {c : Config} {every : Int} (total processed : Nat)
    {base : Option Path} {files : List Path} {w : Workspace} (hevery : every ≠ 0)
    (hunits : List.Forall₂
      (fun file unit => readSource w.disk c.maskComments file base = .ok unit) files units) :
    ∃ reports, (readSources c every total base processed files).exec w =
      (.ok units, ⟨w.disk, reports⟩) := by
  obtain ⟨reports, hrun⟩ := exec_readSources c every total base processed files w
  have hread : files.mapM (readEach c every base w.disk) = .ok units := by
    clear hrun
    induction hunits with
    | nil => rfl
    | cons hfile _ ih =>
      have hzero : (every == 0) = false := beq_false_of_ne hevery
      rw [List.mapM_cons, ih, readEach, hfile]
      simp [hzero]
  exact ⟨reports, hrun.trans (by rw [hread])⟩

/-- When every file of a list can be looked at, reading them gives what each holds, and what is
collected from it is this: as many files are skipped as hold no type, and what is filed under a
package and a name is the type of the last file of that package and name. The packages stand in the
order of their first files, and the types of a package in the order of the first files of each.
Every file is skipped, is the one whose type stands in the index, or is overwritten by a later
one. -/
theorem files_filed_in_order {c : Config} {every : Int} {total processed : Nat}
    {base : Option Path} {files : List Path} {units : List (Option SourceUnit)} {w : Workspace}
    (hevery : every ≠ 0)
    (hunits : List.Forall₂
      (fun file unit => readSource w.disk c.maskComments file base = .ok unit) files units) :
    (∃ reports, (readSources c every total base processed files).exec w =
      (.ok units, ⟨w.disk, reports⟩)) ∧
    skippedCount units = units.count none ∧
    (∀ place, (∃ decl, (collect units).decl? place = some decl) ↔
      ∃ u, some u ∈ units ∧ filedAs u = place) ∧
    (∀ place decl, (collect units).decl? place = some decl ↔
      ∃ before u after, units = before ++ some u :: after ∧ filedAs u = place ∧ u.decl = decl ∧
        ∀ v, some v ∈ after → filedAs v ≠ place) ∧
    Ordered.keys (collect units) = ((units.filterMap id).map filedUnder).eraseDups ∧
    (∀ package, Ordered.keys ((collect units).types package) =
      (((units.filterMap id).filter (filedUnder · == package)).map (·.name)).eraseDups) ∧
    files.length = skippedCount units + (collect units).typeCount +
      (overwritten (units.filterMap id)).length := by
  have harranges := Packages.arranges_collect units
  have hlast : ∀ place decl, (collect units).decl? place = some decl ↔
      ∃ before u after, units = before ++ some u :: after ∧ filedAs u = place ∧ u.decl = decl ∧
        ∀ v, some v ∈ after → filedAs v ≠ place := by
    intro place decl
    simp only [harranges.decl?_eq_some_iff, filterMap_eq_append_cons_iff]
    constructor
    · rintro ⟨_, u, _, ⟨front, back, rfl, rfl, rfl⟩, hplace, hdecl, hafter⟩
      exact ⟨front, u, back, rfl, hplace, hdecl, fun v hv => hafter v (by simpa using hv)⟩
    · rintro ⟨front, u, back, rfl, hplace, hdecl, hafter⟩
      exact ⟨_, u, _, ⟨front, back, rfl, rfl, rfl⟩, hplace, hdecl,
        fun v hv => hafter v (by simpa using hv)⟩
  refine ⟨exec_readSources_of_forall₂ total processed hevery hunits, skippedCount_eq_count units,
    fun place => ?_, hlast, harranges.keys_packages, harranges.keys_types, ?_⟩
  · rw [← Option.isSome_iff_exists, harranges.last, Option.isSome_map, List.find?_isSome]
    simp
  · rw [hunits.length_eq, length_eq_skippedCount_add, ← length_overwritten, ← harranges.count,
      Nat.add_assoc]

/-- Sources of which one holds no type and two are overwritten, one of them from the package that
types without a package are filed under. -/
def repeatedDisk : Disk where
  root := .directory
    [("A.java", .file 0 (.bytes "package p;\nclass A\x7b".toUTF8)),
      ("B.java", .file 1 (.bytes "class X\x7b".toUTF8)),
      ("C.java", .file 2 (.bytes "class".toUTF8)),
      ("D.java", .file 3 (.bytes "package p;\nclass B\x7b".toUTF8)),
      ("E.java", .file 4 (.bytes "package default;\nenum X\x7b".toUTF8)),
      ("F.java", .file 5 (.bytes "package p;\ninterface A\x7b".toUTF8))]
  cwd := []
  nextSerial := 6

def repeatedFiles : List Path :=
  ["A.java", "B.java", "C.java", "D.java", "E.java", "F.java"].map fun name => ⟨"/", [name]⟩

def repeatedUnits : List (Option SourceUnit) :=
  repeatedFiles.map fun file => ((readSource repeatedDisk false file none).toOption).getD none

set_option maxRecDepth 100000 in
lemma readSource_repeatedFiles :
    List.Forall₂ (fun file unit => readSource repeatedDisk plainConfig.maskComments file none =
      .ok unit) repeatedFiles repeatedUnits := by
  refine List.forall₂_map_right_iff.mpr (List.forall₂_same.mpr fun file hfile => ?_)
  have hok : ∀ file ∈ repeatedFiles, (readSource repeatedDisk false file none).isOk = true := by
    decide +kernel
  have hfile := hok file hfile
  change readSource repeatedDisk false file none = _
  match hread : readSource repeatedDisk false file none with
  | .error failure =>
    rw [hread] at hfile
    cases hfile
  | .ok unit => rfl

set_option maxRecDepth 100000 in
theorem files_filed_in_order_repeated : ∃ reports,
    (readSources plainConfig 100 6 none 0 repeatedFiles).exec (.ofDisk repeatedDisk) =
      (.ok repeatedUnits, ⟨repeatedDisk, reports⟩) ∧
    skippedCount repeatedUnits = 1 ∧ Ordered.keys (collect repeatedUnits) = ["p", "default"] ∧
    Ordered.keys ((collect repeatedUnits).types "p") = ["A", "B"] ∧
    6 = 1 + (collect repeatedUnits).typeCount + 2 := by
  have hpackage : ((repeatedUnits.filterMap id).map filedUnder).eraseDups = ["p", "default"] ∧
      (((repeatedUnits.filterMap id).filter (filedUnder · == "p")).map (·.name)).eraseDups =
        ["A", "B"] := by decide +kernel
  have hcounts : repeatedUnits.count none = 1 ∧
      (overwritten (repeatedUnits.filterMap id)).length = 2 := by decide +kernel
  obtain ⟨hreports, hskipped, -, -, hpackages, htypes, hlength⟩ :=
    @files_filed_in_order plainConfig 100 6 0 none repeatedFiles repeatedUnits
      (.ofDisk repeatedDisk) (by decide) readSource_repeatedFiles
  rw [hcounts.1] at hskipped
  rw [hskipped, hcounts.2] at hlength
  exact hreports.imp fun reports hrun => ⟨hrun, hskipped, hpackages.trans hpackage.1,
    (htypes "p").trans hpackage.2, hlength⟩

end Index

end JavaAtlas

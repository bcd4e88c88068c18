import JavaAtlas.Proofs.Index.Answers
import JavaAtlas.Proofs.Index.Job

/-!
# A build that succeeds

Whatever lay on the disk before, the index that a successful build leaves loads as what was
collected: the manifest lists the packages in order, and every shard holds the types of its
package. What a store answers then does not depend on index files that were left behind.
-/

namespace JavaAtlas

namespace Index

namespace Job

variable {j : Job} {d d' : Disk} {s : Summary}

/-- A successful run has written what it collected. -/
lemma stored_of_run (h : j.run d = (.ok s, d')) :
    ∃ k, j.Collects d k ∧ d' = ((k.write j.config).exec d).2 ∧ k.Stored j.config d' := by
  have hends := j.ends_run d
  rw [h] at hends
  rcases hends with ⟨failure, hfailure, -⟩ | ⟨k, hk, rfl, hresult⟩
  · cases hfailure
  · refine ⟨k, hk, rfl, ?_⟩
    obtain ⟨-, hstored, -⟩ := k.exec_write j.config d
    match hwrite : ((k.write j.config).exec d).1 with
    | .ok _ => exact hstored hwrite
    | .error failure =>
      rw [hwrite] at hresult
      cases hresult

/-- Two disks have the same source files for a job. -/
structure SameSources (j : Job) (d e : Disk) : Prop where
  cwd : e.cwd = d.cwd
  files : ∀ ns, j.files e ns = j.files d ns
  data : ∀ ns files, j.files d ns = .ok files → ∀ file ∈ files, e.fileAt file = d.fileAt file

lemma SameSources.refl (j : Job) (d : Disk) : j.SameSources d d :=
  ⟨rfl, fun _ => rfl, fun _ _ _ _ _ => rfl⟩

/-- The same source files hold the same types. -/
lemma SameSources.packages {e : Disk} (h : j.SameSources d e) (ns : Namespace) :
    j.packages e ns = j.packages d ns := by
  have hunits : j.units e ns = j.units d ns := by
    rw [units, units, h.files ns, h.cwd]
    cases hfiles : j.files d ns with
    | error _ => rfl
    | ok files =>
      refine mapM_congr fun file hfile => ?_
      rw [readSource, readSource, h.data ns files hfiles file hfile]
  rw [Job.packages, Job.packages, hunits]

/-- The same source files are read alike. -/
lemma SameSources.readings {e : Disk} (h : j.SameSources d e) : j.readings e = j.readings d := by
  have hread : ∀ ns files, j.files d ns = .ok files →
      files.mapM (readEach j.config j.sizes.files (j.base d.cwd ns) e) =
        files.mapM (readEach j.config j.sizes.files (j.base d.cwd ns) d) := by
    intro ns files hfiles
    refine mapM_congr fun file hfile => ?_
    rw [readEach, readEach, readSource, readSource, h.data ns files hfiles file hfile]
  rw [Job.readings, Job.readings, h.cwd, h.files .primary, h.files .secondary]
  cases hprimary : j.files d .primary with
  | error _ => rfl
  | ok primaryFiles =>
    cases hsecondary : j.files d .secondary with
    | error _ => rfl
    | ok secondaryFiles => simp only [ok_bind, hread _ _ hprimary, hread _ _ hsecondary]

/-- The same job collects the same from disks with the same source files. -/
lemma Collects.ext {k l : Contents} {e : Disk} (hsame : j.SameSources d e) (hk : j.Collects d k)
    (hl : j.Collects e l) : l = k := by
  have hpackages : l.packages = k.packages := by
    funext ns
    have heq := (hl.packages ns).symm.trans ((hsame.packages ns).trans (hk.packages ns))
    exact Except.ok.inj heq
  cases k
  cases l
  simp only [Contents.mk.injEq]
  exact ⟨hl.version.trans hk.version.symm, hl.secondaryVersion.trans hk.secondaryVersion.symm,
    hl.generatedAt.trans hk.generatedAt.symm, hpackages⟩

/-- A type that is seen among the packages of a job is one that the job collects. -/
lemma Collects.exists_type {k : Contents} (hk : j.Collects d k) (ns : Namespace)
    (package name : String) {β : Type} (seen : TypeDecl String → β) {b : β}
    (hseen : (Ordered.get? ((j.packages d ns).toOption.getD []) package).bind
      (fun types => (Ordered.get? types name).map seen) = some b) :
    package ∈ (k.packages ns).names ∧
      ∃ decl, Ordered.get? (k.types ns package) name = some decl ∧ seen decl = b := by
  rw [hk.packages, Except.toOption, Option.getD_some, Option.bind_eq_some_iff] at hseen
  obtain ⟨types, htypes, hdecl⟩ := hseen
  obtain ⟨hmem, rfl⟩ := k.types_of_get? htypes
  exact ⟨hmem, Option.map_eq_some_iff.mp hdecl⟩

open Store in
/-- After a build that succeeds, on whatever disk, the manifest and the shards load as what was
collected, and queries give the same answers as after the same build over other leftovers. -/
theorem run_loads_collected (h : j.run d = (.ok s, d')) :
    ∃ (collected : Namespace → Packages) (m : Manifest String),
      (∀ ns, j.packages d ns = .ok (collected ns)) ∧
      loadManifest j.config d' = .ok (some (m.map .str)) ∧
      m.version = j.version ∧ m.secondaryVersion = j.secondaryVersion ∧
      (∀ ns, (m.packages ns).Pairwise (fun a b => Text.isBefore a b = true) ∧
        ∀ package, package ∈ m.packages ns ↔ package ∈ Ordered.keys (collected ns)) ∧
      (∀ ns, ∀ package ∈ m.packages ns, ∃ types,
        Ordered.get? (collected ns) package = some types ∧
        loadShard j.config d' ns (.str package) =
          .ok (some (Shard.map .str ⟨package, types⟩))) ∧
      ∀ e e' s', j.SameSources d e → j.run e = (.ok s', e') →
        (∀ query kind, ∃ hits,
          ((search d' query kind).exec (fresh j.config)).1 = .ok hits ∧
          ((search e' query kind).exec (fresh j.config)).1 = .ok hits) ∧
        (∀ asked, ∃ types,
          ((listTypes d' asked).exec (fresh j.config)).1 = .ok types ∧
          ((listTypes e' asked).exec (fresh j.config)).1 = .ok types) ∧
        (∀ ns, ∃ packages,
          ((listPackages d' ns).exec (fresh j.config)).1 = .ok packages ∧
          ((listPackages e' ns).exec (fresh j.config)).1 = .ok packages) ∧
        (∀ name direction, ∃ types,
          ((findHierarchy d' name direction).exec (fresh j.config)).1 = .ok types ∧
          ((findHierarchy e' name direction).exec (fresh j.config)).1 = .ok types) := by
  obtain ⟨k, hk, -, hstored⟩ := stored_of_run h
  have hserves := hstored.serves
  refine ⟨k.packages, k.manifest, hk.packages, hserves.manifest, hk.version, hk.secondaryVersion,
    fun ns => ?_, fun ns package hpackage => ?_, fun e e' s' hsame he => ?_⟩
  · rw [k.manifest_packages]
    exact ⟨(k.tidy ns).pairwise_names, fun package => Packages.mem_names⟩
  · rw [k.manifest_packages] at hpackage
    obtain ⟨types, htypes⟩ := Ordered.mem_keys_iff.mp (Packages.mem_names.mp hpackage)
    have hshard : k.shard ns package = ⟨package, types⟩ := by
      rw [Contents.shard, (k.types_of_get? htypes).2]
    exact ⟨types, htypes, hshard ▸ hserves.shard ns package hpackage⟩
  · obtain ⟨l, hl, -, hstored'⟩ := stored_of_run he
    have hserves' : Serves j.config e' k := Collects.ext hsame hk hl ▸ hstored'.serves
    exact ⟨fun query kind => ⟨_, exec_search hserves query kind, exec_search hserves' query kind⟩,
      fun asked => ⟨_, exec_listTypes hserves asked, exec_listTypes hserves' asked⟩,
      fun ns => ⟨_, exec_listPackages hserves ns, exec_listPackages hserves' ns⟩,
      fun name direction => ⟨_, exec_findHierarchy hserves name direction,
        exec_findHierarchy hserves' name direction⟩⟩

/-- A small home with a source file for each namespace and a file left in the index. -/
def smallDisk : Disk where
  root := .directory
    [("one", .directory [("A.java", .file 0 (.bytes "package b;\nclass A\x7b".toUTF8))]),
      ("two", .directory [("C.java", .file 1 (.bytes "class C\x7b".toUTF8))]),
      ("home", .directory [("index", .directory [("primary", .directory
        [("b.json", .file 2 (.bytes "left behind".toUTF8))])])])]
  cwd := []
  nextSerial := 3

def smallJob : Job where
  __ := plainJob ⟨"/", ["one"]⟩ "2"
  secondaryRoot := some ⟨"/", ["two"]⟩
  secondaryVersion := some "3"

set_option maxRecDepth 100000 in
lemma exists_run_small : ∃ s d', smallJob.run smallDisk = (.ok s, d') :=
  exists_of_isOk (by decide +kernel)

set_option maxRecDepth 100000 in
/-- In its primary namespace the small build collects a type. -/
lemma exists_type_small {k : Contents} (hk : smallJob.Collects smallDisk k) :
    "b" ∈ (k.packages .primary).names ∧
      ∃ decl, Ordered.get? (k.types .primary "b") "A" = some decl ∧ decl.sourcePath = "/one/A.java" :=
  hk.exists_type .primary "b" "A" TypeDecl.sourcePath (by decide +kernel)

theorem run_loads_collected_small : ∃ s d', smallJob.run smallDisk = (.ok s, d') ∧
    ∃ m : Manifest String, loadManifest smallJob.config d' = .ok (some (m.map .str)) ∧
      m.version = "2" ∧ (m.packages .primary).Pairwise (fun a b => Text.isBefore a b = true) ∧
      "b" ∈ m.packages .primary ∧ ∃ types decl,
        loadShard smallJob.config d' .primary (.str "b") =
          .ok (some (Shard.map .str ⟨"b", types⟩)) ∧
        Ordered.get? types "A" = some decl ∧ decl.sourcePath = "/one/A.java" := by
  obtain ⟨s, d', hrun⟩ := exists_run_small
  obtain ⟨k, hk, -, -⟩ := stored_of_run hrun
  obtain ⟨hmem, decl, hdecl, hpath⟩ := exists_type_small hk
  obtain ⟨collected, m, hcollected, hm, hversion, -, hnames, hshards, -⟩ := run_loads_collected hrun
  obtain rfl : collected = k.packages :=
    funext fun ns => Except.ok.inj ((hcollected ns).symm.trans (hk.packages ns))
  have hlisted : "b" ∈ m.packages .primary :=
    ((hnames .primary).2 "b").mpr (Packages.mem_names.mp hmem)
  obtain ⟨types, htypes, hshard⟩ := hshards .primary "b" hlisted
  obtain ⟨-, rfl⟩ := k.types_of_get? htypes
  exact ⟨s, d', hrun, m, hm, hversion, (hnames .primary).1, hlisted, _, decl, hshard, hdecl, hpath⟩

end Job

end Index

end JavaAtlas

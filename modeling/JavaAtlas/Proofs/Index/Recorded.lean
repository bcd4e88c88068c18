import JavaAtlas.Proofs.Index.Listed

/-!
# Recorded paths, resolved

A new store takes a recorded path from the directory that the versions of the manifest name, while
the build recorded it from the directory that its own versions and the configured ones name. The two
are the same in the primary namespace, and in the secondary one if the build was given a version.
-/

namespace JavaAtlas

lemma Path.resolve_join {rest : List String} (h : ".." ∉ rest) (cwd : List String) (p : Path) :
    (p.join ⟨"", rest⟩).resolve cwd = ⟨"/", (p.resolve cwd).parts ++ rest⟩ := by
  have hjoin : p.join ⟨"", rest⟩ = ⟨p.root, p.parts ++ rest⟩ := by simp [join, isAbsolute]
  rw [hjoin, resolve, follow_append, follow_of_not_mem h]
  rfl

lemma Path.resolve_of_not_mem {parts : List String} (h : ".." ∉ parts) (cwd : List String) :
    (Path.mk "/" parts).resolve cwd = ⟨"/", parts⟩ := by
  have hstart : (Path.mk "/" parts).isAbsolute = true := by simp [isAbsolute]
  rw [resolve, hstart, if_pos rfl, follow_of_not_mem h, List.nil_append]

/-- Where a path resolves to another one, the same file is read by both. -/
lemma Disk.eq_of_fileAt_of_resolve {d : Disk} {p q : Path} {data other : FileData}
    (hresolve : p.resolve d.cwd = q) (hup : ".." ∉ q.parts) (hp : d.fileAt p = .ok data)
    (hq : d.fileAt q = .ok other) : data = other := by
  have hplace : d.placeOf q = d.placeOf p := by
    rw [← hresolve] at hup ⊢
    exact Path.follow_of_not_mem hup []
  have hread := dataAt?_of_fileAt hp
  rw [← hplace, dataAt?_of_fileAt hq, Option.some.injEq] at hread
  exact hread.symm

namespace Store

open Index

/-- A new store resolves a recorded path, with the manifest or without need of it. -/
lemma exec_resolveSource_fresh {c : Config} {d : Disk} {k : Contents} (h : Serves c d k)
    (recorded : String) (ns : Namespace) :
    ((resolveSource d (.str recorded) ns).exec (fresh c)).1 =
      .ok (k.sourcePath c ns recorded) := by
  have hread := exec_resolveSource (holds_fresh c d (k.manifest.map .str)) recorded ns
  rw [resolveSource, pathOf, Action.exec_bind_of_ok (Action.exec_ofExcept ..)] at hread ⊢
  by_cases habs : (Path.parse recorded).isAbsolute
  · simp only [habs, if_true] at hread ⊢
    exact congrArg Prod.fst hread
  · simp only [habs, Bool.false_eq_true, if_false] at hread ⊢
    rw [Action.exec_bind_of_ok (exec_getManifest (holds_fresh c d _))] at hread
    rw [Action.exec_bind_of_ok (exec_getManifest_fresh h.manifest)]
    exact congrArg Prod.fst hread

end Store

namespace Index.Job

open Store

variable {j : Job} {d d' : Disk} {s : Summary} {k : Contents} {ns : Namespace}
  {files : List Path} {file : Path}

/-- A version of the secondary sources that counts as given. -/
def SecondaryGiven (j : Job) : Prop := ∃ v, j.secondaryVersion = some v ∧ v ≠ ""

/-- Without a version of its own, the secondary namespace is looked for among the primary
sources. -/
lemma sourceDir_secondary (hk : j.Collects d k) (h : ¬ j.SecondaryGiven) (c : Config) :
    k.sourceDir c .secondary = k.sourceDir c .primary := by
  have hnone : k.secondaryVersion.filter (· != "") = none := by
    rw [hk.secondaryVersion]
    match hv : j.secondaryVersion with
    | none => rfl
    | some v =>
      have hempty : v = "" := by
        by_contra hne
        exact h ⟨v, hv, hne⟩
      simp [hempty, Option.filter]
  unfold Contents.sourceDir
  rw [hnone]

/-- The directory that the manifest names is the one that paths were recorded from, if the version
was given; else it is that of the primary sources. -/
lemma resolve_sourceDir (hk : j.Collects d k) {base : Path} (h : j.base d.cwd ns = some base) :
    (k.sourceDir j.config ns).resolve d.cwd = base ↔
      ns = .primary ∨ j.SecondaryGiven ∨
        some base = (j.cacheRoot .primary).map (·.resolve d.cwd) := by
  obtain ⟨-, dir, hdir, hbase⟩ := base_eq_some h
  by_cases hgiven : ns = .primary ∨ j.SecondaryGiven
  · have hsame : j.cacheRoot ns = some (k.sourceDir j.config ns) := by
      apply cacheRoot_eq hk
      intro hns
      rcases hgiven with hprimary | hgiven
      · rw [hprimary] at hns
        cases hns
      · exact hgiven
    rw [hdir, Option.some.injEq] at hsame
    rw [← hsame, ← hbase]
    simp only [true_iff, ← or_assoc]
    exact Or.inl hgiven
  · rw [not_or] at hgiven
    obtain ⟨hns, hgiven⟩ := hgiven
    cases ns with
    | primary => exact absurd rfl hns
    | secondary =>
      have hprimary : j.cacheRoot .primary = some (k.sourceDir j.config .primary) :=
        cacheRoot_eq hk (by simp)
      rw [sourceDir_secondary hk hgiven, hprimary]
      simp [hgiven, eq_comm]

/-- The path that is recorded for a file names it again exactly if it is absolute or taken from the
directory it was recorded from. -/
lemma resolve_sourcePath (hk : j.Collects d k) (hfiles : j.files d ns = .ok files)
    (hfile : file ∈ files) (hplain : file.IsPlain) :
    (k.sourcePath j.config ns
        (Java.recordedPath (recordedPath file (j.base d.cwd ns)))).resolve d.cwd = file ↔
      j.base d.cwd ns = none ∨ ns = .primary ∨ j.SecondaryGiven ∨
        j.base d.cwd ns = (j.cacheRoot .primary).map (·.resolve d.cwd) := by
  match hbase : j.base d.cwd ns with
  | none =>
    rw [← hbase, sourcePath_of_base_eq_none hfiles hfile hplain hbase]
    simp only [hbase, true_or, iff_true]
    obtain ⟨root, place, -, -, -, rfl⟩ := mem_files hfiles hfile
    exact Path.resolve_of_not_mem hplain.up d.cwd
  | some base =>
    obtain ⟨place, hslash, hjoin, hup, hpath⟩ :=
      exists_sourcePath_of_base (k := k) hfiles hfile hplain hbase
    rw [← hbase, hpath, hjoin, Path.resolve_join fun h => hup (List.mem_append_right _ h), hbase,
      ← resolve_sourceDir hk hbase]
    obtain ⟨_, parts⟩ := base
    simp only at hslash
    subst hslash
    simp [Path.join, Path.isAbsolute, Path.resolve]

/-- After a build that succeeds, every declaration in the index was read from a source file. If no
name on the path of that file holds a slash of either kind, the recorded path that a new store
resolves is the path of that very file, exactly if it was recorded as an absolute one, or belongs to
the primary namespace, or the secondary version was given, or both namespaces have one directory. -/
theorem recorded_path_resolves_iff (h : j.run d = (.ok s, d')) :
    ∃ m, loadManifest j.config d' = .ok (some m) ∧
      ∀ ns package, .str package ∈ m.packages ns →
        ∃ shard, loadShard j.config d' ns (.str package) = .ok (some shard) ∧
          ∀ name decl, Ordered.get? shard.types name = some decl →
            ∃ files file u path, j.files d ns = .ok files ∧ file ∈ files ∧
              Index.readSource d j.config.maskComments file (j.base d.cwd ns) = .ok (some u) ∧
              filedUnder u = package ∧ u.name = name ∧ u.decl.map .str = decl ∧
              ((resolveSource d' decl.sourcePath ns).exec (fresh j.config)).1 = .ok path ∧
              (file.IsPlain → (path.resolve d'.cwd = file ↔
                j.base d.cwd ns = none ∨ ns = .primary ∨ j.SecondaryGiven ∨
                  j.base d.cwd ns = (j.cacheRoot .primary).map (·.resolve d.cwd))) := by
  obtain ⟨k, hk, hwritten, hstored⟩ := stored_of_run h
  have hserves := hstored.serves
  have hcwd : d'.cwd = d.cwd := by
    rw [hwritten]
    exact (k.exec_write j.config d).1.cwd
  refine ⟨k.manifest.map .str, hserves.manifest, ?_⟩
  intro ns package hpackage
  have hlisted : (k.manifest.map Json.str).packages ns = (k.packages ns).names.map .str := by
    cases ns <;> rfl
  rw [hlisted, List.mem_map] at hpackage
  obtain ⟨_, hmem, heq⟩ := hpackage
  cases heq
  refine ⟨_, hserves.shard ns package hmem, ?_⟩
  intro name decl hdecl
  rw [get?_shard, Option.map_eq_some_iff] at hdecl
  obtain ⟨found, hfound, rfl⟩ := hdecl
  obtain ⟨files, hfiles, file, hfile, u, hread, hunder, hname, rfl⟩ := hk.origin hfound
  refine ⟨files, file, u, k.sourcePath j.config ns u.decl.sourcePath, hfiles, hfile, hread, hunder,
    hname, rfl, ?_, ?_⟩
  · exact exec_resolveSource_fresh hserves u.decl.sourcePath ns
  · intro hplain
    obtain ⟨data, -, hparse⟩ := readSource_eq_some hread
    rw [(Java.parseSource_eq_some hparse).2.2, hcwd]
    exact resolve_sourcePath hk hfiles hfile hplain

/-- A home whose cache holds secondary sources. -/
def secondaryDisk : Disk where
  root := .directory [("home", .directory [("cache", .directory [("fabric-api-9",
    .directory [("B.java", .file 0 (.bytes "package b;\nclass B\x7b".toUTF8))])])])]
  cwd := []
  nextSerial := 1

/-- The build of these sources with a version for them or without one; the configuration has one in
any case. -/
def secondaryJob (version : Option String) : Job where
  __ := plainJob ⟨"/", ["one"]⟩ "2"
  config := { plainConfig with secondaryVersion := some "9" }
  secondaryRoot := some ⟨"/", ["home", "cache", "fabric-api-9"]⟩
  secondaryVersion := version

/-- The type `b.B` is in the secondary index on a disk. -/
def IndexesB (c : Config) (d : Disk) (decl : TypeDecl Json) : Prop :=
  ∃ m shard, loadManifest c d = .ok (some m) ∧ .str "b" ∈ m.packages .secondary ∧
    loadShard c d .secondary (.str "b") = .ok (some shard) ∧ Ordered.get? shard.types "B" = some decl

lemma exists_type_secondary {version : Option String} {k : Contents}
    (hk : (secondaryJob version).Collects secondaryDisk k) (path : String)
    (hseen : (Ordered.get? (((secondaryJob version).packages secondaryDisk .secondary).toOption.getD
      []) "b").bind (fun types => (Ordered.get? types "B").map TypeDecl.sourcePath) = some path) :
    ∃ decl : TypeDecl String, decl.sourcePath = path ∧
      ∀ d', k.Stored (secondaryJob version).config d' →
        IndexesB (secondaryJob version).config d' (decl.map .str) := by
  obtain ⟨hmem, decl, hdecl, hpath⟩ := hk.exists_type _ _ _ _ hseen
  refine ⟨decl, hpath, fun d' hstored => ?_⟩
  have hserves := hstored.serves
  refine ⟨_, _, hserves.manifest, List.mem_map.mpr ⟨"b", hmem, rfl⟩,
    hserves.shard .secondary "b" hmem, ?_⟩
  rw [get?_shard, hdecl]
  rfl

set_option maxRecDepth 100000 in
theorem recorded_path_resolves_given : ∃ s d' decl path,
    (secondaryJob (some "9")).run secondaryDisk = (.ok s, d') ∧
    IndexesB (secondaryJob (some "9")).config d' decl ∧
    ((resolveSource d' decl.sourcePath .secondary).exec
      (fresh (secondaryJob (some "9")).config)).1 = .ok path ∧
    path.resolve d'.cwd = ⟨"/", ["home", "cache", "fabric-api-9", "B.java"]⟩ := by
  have hfiles : ((secondaryJob (some "9")).files secondaryDisk .secondary).toOption =
      some [⟨"/", ["home", "cache", "fabric-api-9", "B.java"]⟩] := by decide +kernel
  obtain ⟨s, d', hrun⟩ : ∃ s d', (secondaryJob (some "9")).run secondaryDisk = (.ok s, d') :=
    exists_of_isOk (by decide +kernel)
  obtain ⟨k, hk, -, hstored⟩ := stored_of_run hrun
  obtain ⟨decl, -, hindexes⟩ := exists_type_secondary hk "B.java" (by decide +kernel)
  obtain ⟨m, hm, hresolves⟩ := recorded_path_resolves_iff hrun
  obtain ⟨m', shard', hm', hmem, hshard', htypes⟩ := hindexes d' hstored
  rw [hm, Except.ok.injEq, Option.some.injEq] at hm'
  subst hm'
  obtain ⟨shard, hshard, hdecls⟩ := hresolves .secondary "b" hmem
  rw [hshard', Except.ok.injEq, Option.some.injEq] at hshard
  subst hshard
  obtain ⟨files, file, u, path, hf, hfile, -, -, -, -, hpath, hplain⟩ := hdecls "B" _ htypes
  rw [hf, Except.toOption, Option.some.injEq] at hfiles
  rw [hfiles, List.mem_singleton] at hfile
  subst hfile
  refine ⟨s, d', _, path, hrun, ⟨m, shard', hm, hmem, hshard', htypes⟩, hpath, ?_⟩
  apply (hplain ⟨by decide, by decide, by decide, by decide, by decide⟩).mpr
  exact Or.inr (Or.inr (Or.inl ⟨"9", rfl, by decide⟩))

set_option maxRecDepth 100000 in
/-- Without a version for the build, a path recorded from the configured one is taken from the
primary sources, where no such file lies. -/
theorem recorded_path_misled : ∃ s d' decl path,
    (secondaryJob none).run secondaryDisk = (.ok s, d') ∧
    IndexesB (secondaryJob none).config d' decl ∧
    (secondaryJob none).files secondaryDisk .secondary =
      .ok [⟨"/", ["home", "cache", "fabric-api-9", "B.java"]⟩] ∧
    ((resolveSource d' decl.sourcePath .secondary).exec
      (fresh (secondaryJob none).config)).1 = .ok path ∧
    path.resolve d'.cwd = ⟨"/", ["home", "cache", "2", "client", "B.java"]⟩ := by
  have hfiles : (secondaryJob none).files secondaryDisk .secondary =
      .ok [⟨"/", ["home", "cache", "fabric-api-9", "B.java"]⟩] :=
    eq_ok_of_toOption (by decide +kernel)
  obtain ⟨s, d', hrun⟩ : ∃ s d', (secondaryJob none).run secondaryDisk = (.ok s, d') :=
    exists_of_isOk (by decide +kernel)
  obtain ⟨k, hk, hwritten, hstored⟩ := stored_of_run hrun
  obtain ⟨decl, hsource, hindexes⟩ :=
    exists_type_secondary hk "B.java" (by decide +kernel)
  have hcwd : d'.cwd = [] := by
    rw [hwritten]
    exact (k.exec_write _ secondaryDisk).1.cwd
  refine ⟨s, d', _, _, hrun, hindexes d' hstored, hfiles,
    exec_resolveSource_fresh hstored.serves decl.sourcePath .secondary, ?_⟩
  rw [hcwd, hsource, Contents.sourcePath, sourceDir_secondary hk (by simp [SecondaryGiven,
    secondaryJob])]
  change ((_ : Path) / (if k.version == "" then _ else k.version) / "client" |>.join _).resolve _ = _
  rw [hk.version]
  decide +kernel

end Index.Job

end JavaAtlas

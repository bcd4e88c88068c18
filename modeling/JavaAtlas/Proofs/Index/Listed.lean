import JavaAtlas.Proofs.Index.Rebuild
import JavaAtlas.Proofs.Index.Retrieval
import JavaAtlas.Proofs.Index.Sources

/-!
# Listed types

Listings and searches go through the packages of the manifest in both namespaces, while a type is
retrieved from the one namespace that its name selects. So a type that is listed can be retrieved
if it was collected in that namespace, and not if a type of the other one begins like it.
-/

namespace JavaAtlas

open Index

namespace Store

variable {c : Config} {d : Disk} {k : Contents} {ns : Namespace} {q : String} {path : Path}

/-- A type that listings and searches report under the name `q`: it stands in the shard of a package
of the manifest, and its file is at `path`. -/
def Reports (c : Config) (d : Disk) (ns : Namespace) (q : String) (decl : TypeDecl Json)
    (path : Path) : Prop :=
  ∃ m package shard name, loadManifest c d = .ok (some m) ∧ .str package ∈ m.packages ns ∧
    loadShard c d ns (.str package) = .ok (some shard) ∧
    Ordered.get? shard.types name = some decl ∧ q = package ++ "." ++ name ∧
    ((resolveSource d decl.sourcePath ns).exec { fresh c with manifest := some m }).1 = .ok path

/-- What is reported from the index of a build is what it collected. -/
lemma reports_iff (h : Serves c d k) {decl : TypeDecl Json} :
    Reports c d ns q decl path ↔ ∃ package name found, package ∈ (k.packages ns).names ∧
      Ordered.get? (k.types ns package) name = some found ∧ q = package ++ "." ++ name ∧
      decl = found.map .str ∧ path = k.sourcePath c ns found.sourcePath := by
  have hpath : ∀ found : TypeDecl String,
      ((resolveSource d (found.map Json.str).sourcePath ns).exec
        { fresh c with manifest := some (k.manifest.map Json.str) }).1 =
          .ok (k.sourcePath c ns found.sourcePath) := fun found =>
    congrArg Prod.fst (exec_resolveSource (holds_fresh c d _) found.sourcePath ns)
  have hlisted : (k.manifest.map Json.str).packages ns = (k.packages ns).names.map .str := by
    cases ns <;> rfl
  constructor
  · rintro ⟨m, package, shard, name, hm, hpackage, hshard, hdecl, hq, hresolve⟩
    rw [h.manifest, Except.ok.injEq, Option.some.injEq] at hm
    subst hm
    rw [hlisted, List.mem_map] at hpackage
    obtain ⟨_, hmem, heq⟩ := hpackage
    cases heq
    rw [h.shard ns package hmem, Except.ok.injEq, Option.some.injEq] at hshard
    rw [← hshard, get?_shard, Option.map_eq_some_iff] at hdecl
    obtain ⟨found, hfound, rfl⟩ := hdecl
    rw [hpath, Except.ok.injEq] at hresolve
    exact ⟨package, name, found, hmem, hfound, hq, rfl, hresolve.symm⟩
  · rintro ⟨package, name, found, hmem, hfound, hq, rfl, rfl⟩
    refine ⟨_, package, _, name, h.manifest, ?_, h.shard ns package hmem, ?_, hq, hpath found⟩
    · rw [hlisted]
      exact List.mem_map.mpr ⟨package, hmem, rfl⟩
    · rw [get?_shard, hfound]
      rfl

lemma reports_of_mem_visits (h : Serves c d k) {wanted : String → Bool} {v : Visit}
    (hv : v ∈ k.visits wanted) :
    Reports c d v.ns v.qualifiedName v.decl (k.fileOf c v) := by
  obtain ⟨ns, package, name, decl, hpackage, -, hmem, rfl⟩ := k.mem_visits.mp hv
  rw [reports_iff h]
  exact ⟨package, name, decl, hpackage, Ordered.get?_of_mem (k.nodup_types ns package) hmem, rfl,
    rfl, rfl⟩

/-- Every type of a listing is reported with its path. -/
lemma reports_of_mem_listTypes (h : Serves c d k) {asked : Option String}
    {types : List TypeListing} (htypes : ((listTypes d asked).exec (fresh c)).1 = .ok types)
    {l : TypeListing} (hl : l ∈ types) :
    ∃ ns decl path, Reports c d ns l.qualifiedName decl path ∧ l.sourcePath = path.text := by
  rw [exec_listTypes h, Except.ok.injEq] at htypes
  rw [← htypes, List.mem_map] at hl
  obtain ⟨v, hv, rfl⟩ := hl
  exact ⟨v.ns, v.decl, k.fileOf c v, reports_of_mem_visits h hv, rfl⟩

/-- Every hit of a search is found in a type that is reported with its path. -/
lemma reports_of_mem_search (h : Serves c d k) {query : String} {kind : Option SymbolKind}
    {hits : List SearchHit} (hhits : ((search d query kind).exec (fresh c)).1 = .ok hits)
    {hit : SearchHit} (hhit : hit ∈ hits) :
    ∃ ns decl path, Reports c d ns hit.typeName decl path ∧ hit.sourcePath = path.text := by
  rw [exec_search h, Except.ok.injEq] at hhits
  rw [← hhits] at hhit
  obtain ⟨v, hv, hin⟩ := List.mem_flatMap.mp (List.mem_of_mem_take hhit)
  have hreports := reports_of_mem_visits h hv
  obtain ⟨ns, package, name, decl, -, -, -, rfl⟩ := k.mem_visits.mp hv
  obtain ⟨hname, hpath⟩ := mem_hits hin
  rw [← hname] at hreports
  exact ⟨_, _, _, hreports, hpath⟩

/-- In the namespace that its name selects, a type that is reported is read from its path. -/
lemma exec_getType_of_reports (h : Serves c d k) {decl : TypeDecl Json}
    (hreports : Reports c d ns q decl path) (hns : namespaceFor c q = ns) :
    ((getType d q).exec (fresh c)).1 =
      Option.map (TypeSource.mk decl · path.text) <$> readSource d path := by
  obtain ⟨package, name, found, hmem, hfound, hq, rfl, rfl⟩ := (reports_iff h).mp hreports
  have hkey : name ∈ Ordered.keys (k.types ns package) := Ordered.mem_keys_iff.mpr ⟨_, hfound⟩
  have hdotted := (k.tidy ns).dotted package (Packages.mem_names.mp hmem)
  have hword : '.' ∉ name.toList := by
    match htypes : Ordered.get? (k.packages ns) package with
    | none => simp [Contents.types, htypes] at hkey
    | some types =>
      rw [Contents.types, htypes, Option.getD_some] at hkey
      exact ((k.tidy ns).words package types htypes name hkey).not_mem_dot
  have hsplit : splitQualifiedName q = (package, name) := by
    rw [hq]
    exact splitQualifiedName_append hdotted.1 hword
  subst hns
  have hshard : loadShard c d (namespaceFor c q) (.str (splitQualifiedName q).1) =
      .ok (some ((k.shard (namespaceFor c q) package).map .str)) := by
    rw [hsplit]
    exact h.shard _ package hmem
  refine exec_getType h.manifest hshard ?_
  rw [hsplit, get?_shard, hfound]
  rfl

end Store

namespace Index.Job

open Store

variable {j : Job} {d d' e : Disk} {s : Summary}

/-- After a build that succeeds, as long as its index and the source files stay as they are, every
type that a listing or a search reports from the namespace its name selects is retrieved with the
declaration and the path that are reported: what is read is the file at that path, and this is the
file that the declaration was collected from if its path can be recovered. -/
theorem reported_type_retrieved (h : j.run d = (.ok s, d')) (hcwd : e.cwd = d'.cwd)
    (hmanifest : loadManifest j.config e = loadManifest j.config d')
    (hshards : ∀ ns package, loadShard j.config e ns package = loadShard j.config d' ns package)
    (hsources : ∀ ns files, j.files d ns = .ok files → ∀ file ∈ files,
      e.fileAt file = d'.fileAt file) :
    (∀ asked, ∃ types, ((listTypes e asked).exec (fresh j.config)).1 = .ok types ∧
      ∀ l ∈ types, ∃ ns decl path, Reports j.config e ns l.qualifiedName decl path ∧
        l.sourcePath = path.text) ∧
    (∀ query kind, ∃ hits, ((search e query kind).exec (fresh j.config)).1 = .ok hits ∧
      ∀ hit ∈ hits, ∃ ns decl path, Reports j.config e ns hit.typeName decl path ∧
        hit.sourcePath = path.text) ∧
    ∀ ns q decl path, Reports j.config e ns q decl path → namespaceFor j.config q = ns →
      ((getType e q).exec (fresh j.config)).1 =
        Option.map (TypeSource.mk decl · path.text) <$> Store.readSource e path ∧
      ∃ files file u data, j.files d ns = .ok files ∧ file ∈ files ∧ d.fileAt file = .ok data ∧
        Index.readSource d j.config.maskComments file (j.base d.cwd ns) = .ok (some u) ∧
        decl = u.decl.map .str ∧
        (j.Recoverable d.cwd ns file → path.text.utf8ByteSize ≤ Disk.maxPathBytes →
          ((getType e q).exec (fresh j.config)).1 =
            .ok (some ⟨decl, Text.decodeLossy data.toBytes, path.text⟩)) := by
  obtain ⟨k, hk, hwritten, hstored⟩ := stored_of_run h
  have hserves : Serves j.config e k := by
    refine ⟨hmanifest.trans hstored.serves.manifest, fun ns package hpackage => ?_⟩
    exact (hshards ns _).trans (hstored.serves.shard ns package hpackage)
  refine ⟨fun asked => ⟨_, exec_listTypes hserves asked, fun l hl => ?_⟩,
    fun query kind => ⟨_, exec_search hserves query kind, fun hit hhit => ?_⟩,
    fun ns q decl path hreports hns => ?_⟩
  · exact reports_of_mem_listTypes hserves (exec_listTypes hserves asked) hl
  · exact reports_of_mem_search hserves (exec_search hserves query kind) hhit
  · have hget := exec_getType_of_reports hserves hreports hns
    obtain ⟨package, name, found, -, hfound, -, rfl, rfl⟩ := (reports_iff hserves).mp hreports
    obtain ⟨files, hfiles, file, hfile, u, hread, -, -, rfl⟩ := hk.origin hfound
    obtain ⟨data, hdata, hparse⟩ := readSource_eq_some hread
    refine ⟨hget, files, file, u, data, hfiles, hfile, hdata, hread, rfl, fun hrec htext => ?_⟩
    have hpath := (Java.parseSource_eq_some hparse).2.2
    have hkept : e.fileAt file = .ok data := by
      rw [hsources ns files hfiles file hfile]
      have hrun := fileAt_run hfiles hfile hdata
      rwa [h] at hrun
    obtain ⟨v, hv, -⟩ := loadManifest_eq_some j.config hserves.manifest
    obtain ⟨m, -, hm, -⟩ := readJson_eq_some hv
    have hcwd' : e.cwd = d.cwd := by
      rw [hcwd, hwritten]
      exact (k.exec_write j.config d).1.cwd
    rw [hpath] at htext hget
    have hfileAt := fileAt_sourcePath hk hfiles hfile hrec hcwd' hm hkept htext
    rw [hget, hpath, Store.readSource, hfileAt]
    rfl

/-- A home whose cache holds the sources of a version. -/
def cachedDisk : Disk where
  root := .directory [("home", .directory [("cache", .directory [("2", .directory [("client",
    .directory [("A.java", .file 0 (.bytes "package b;\nclass A\x7b".toUTF8))])])])])]
  cwd := []
  nextSerial := 1

def cachedJob : Job := plainJob ⟨"/", ["home", "cache", "2", "client"]⟩ "2"

set_option maxRecDepth 100000 in
theorem reported_type_retrieved_cached : ∃ s d' x, cachedJob.run cachedDisk = (.ok s, d') ∧
    ((getType d' "b.A").exec (fresh cachedJob.config)).1 = .ok (some x) ∧
    x.sourcePath = "/home/cache/2/client/A.java" := by
  have hfiles : (cachedJob.files cachedDisk .primary).toOption =
      some [⟨"/", ["home", "cache", "2", "client", "A.java"]⟩] := by decide +kernel
  obtain ⟨s, d', hrun⟩ : ∃ s d', cachedJob.run cachedDisk = (.ok s, d') :=
    exists_of_isOk (by decide +kernel)
  obtain ⟨k, hk, -, hstored⟩ := stored_of_run hrun
  obtain ⟨hmem, found, hfound, hpath⟩ :=
    hk.exists_type .primary "b" "A" TypeDecl.sourcePath (b := "A.java") (by decide +kernel)
  have hreports : Reports cachedJob.config d' .primary "b.A" (found.map .str)
      (k.sourcePath cachedJob.config .primary found.sourcePath) :=
    (reports_iff hstored.serves).mpr ⟨"b", "A", found, hmem, hfound, rfl, rfl, rfl⟩
  obtain ⟨-, -, hretrieved⟩ :=
    reported_type_retrieved hrun rfl rfl (fun _ _ => rfl) (fun _ _ _ _ _ => rfl)
  obtain ⟨-, files, file, u, data, hf, hfile, -, -, -, hget⟩ :=
    hretrieved .primary "b.A" _ _ hreports rfl
  rw [hf, Except.toOption, Option.some.injEq] at hfiles
  rw [hfiles, List.mem_singleton] at hfile
  subst hfile
  have htext : (k.sourcePath cachedJob.config .primary found.sourcePath).text =
      "/home/cache/2/client/A.java" := by
    rw [hpath, Contents.sourcePath]
    change ((_ : Path) / (if k.version == "" then _ else k.version) / "client" |>.join _).text = _
    rw [hk.version]
    decide +kernel
  rw [htext] at hget
  refine ⟨s, d', _, hrun, hget ⟨?_, ?_, ?_⟩ (by decide), rfl⟩
  · exact ⟨by decide, by decide, by decide, by decide, by decide⟩
  · intro _ h
    cases h
  · intro _ dir hdir
    rw [cacheRoot, primarySourceDir_str, Except.toOption, Option.some.injEq] at hdir
    rw [← hdir]
    exact ((Config.leadsDown_cacheDir _).div (by decide)).div (by decide)

/-- Sources whose package begins like those of the other namespace. -/
def foreignDisk : Disk where
  root := .directory [("one", .directory
    [("A.java", .file 0 (.bytes "package net.fabricmc.x;\nclass A\x7b".toUTF8))])]
  cwd := []
  nextSerial := 1

def foreignJob : Job := plainJob ⟨"/", ["one"]⟩ "2"

set_option maxRecDepth 100000 in
/-- A type that is listed in one namespace is not retrieved if its name selects the other one. -/
theorem listed_type_not_retrieved : ∃ s d', foreignJob.run foreignDisk = (.ok s, d') ∧
    ∃ types, ((listTypes d' none).exec (fresh foreignJob.config)).1 = .ok types ∧
    ∃ l ∈ types, ((getType d' l.qualifiedName).exec (fresh foreignJob.config)).1 = .ok none := by
  have hnone : (loadShard foreignJob.config (foreignJob.run foreignDisk).2 .secondary
      (.str "net.fabricmc.x")).toOption.any Option.isNone = true := by decide +kernel
  obtain ⟨s, d', hrun⟩ : ∃ s d', foreignJob.run foreignDisk = (.ok s, d') :=
    exists_of_isOk (by decide +kernel)
  obtain ⟨k, hk, -, hstored⟩ := stored_of_run hrun
  obtain ⟨hmem, decl, hdecl, -⟩ := hk.exists_type .primary "net.fabricmc.x" "A"
    TypeDecl.sourcePath (b := "/one/A.java") (by decide +kernel)
  have hvisit : Visit.of .primary "net.fabricmc.x" "A" decl ∈ k.visits (asksFor none) :=
    k.mem_visits.mpr ⟨.primary, "net.fabricmc.x", "A", decl, hmem, rfl, Ordered.mem_of_get? hdecl,
      rfl⟩
  refine ⟨s, d', hrun, _, exec_listTypes hstored.serves none, _,
    List.mem_map.mpr ⟨_, hvisit, rfl⟩, ?_⟩
  have hns : namespaceFor foreignJob.config "net.fabricmc.x.A" = .secondary := by decide
  have hsplit : splitQualifiedName "net.fabricmc.x.A" = ("net.fabricmc.x", "A") := by decide
  have hname : (k.listing foreignJob.config
      (Visit.of .primary "net.fabricmc.x" "A" decl)).qualifiedName = "net.fabricmc.x.A" := rfl
  rw [hname]
  refine exec_getType_of_none hstored.serves.manifest ?_
  rw [hrun] at hnone
  rw [hns, hsplit]
  cases hload : loadShard foreignJob.config d' .secondary (.str "net.fabricmc.x") with
  | error _ =>
    rw [hload] at hnone
    cases hnone
  | ok found =>
    rw [hload] at hnone
    rw [Option.isNone_iff_eq_none.mp hnone]

end Index.Job

end JavaAtlas

import JavaAtlas.Proofs.Index.Job
import JavaAtlas.Proofs.Index.Store

/-!
# Recorded paths and source files

A build records where it has read each type: a file in the cache by its path from there, any other
file by its absolute path. A build changes no source file. As long as the text of a path keeps its
names apart and the cache is found by the versions of the manifest, a recorded path leads to the
file it was recorded for.
-/

namespace JavaAtlas

namespace Path

variable {p : Path}

/-- A path of names that its text keeps: none is empty or leads elsewhere, and none has a slash of
either kind in it. -/
structure IsPlain (p : Path) : Prop where
  empty : "" ∉ p.parts
  here : "." ∉ p.parts
  up : ".." ∉ p.parts
  slash : ∀ part ∈ p.parts, '/' ∉ part.toList
  backslash : ∀ part ∈ p.parts, '\\' ∉ part.toList

lemma IsPlain.of_subset (h : p.IsPlain) {root : String} {parts : List String}
    (hsub : parts ⊆ p.parts) : (Path.mk root parts).IsPlain where
  empty hmem := h.empty (hsub hmem)
  here hmem := h.here (hsub hmem)
  up hmem := h.up (hsub hmem)
  slash part hpart := h.slash part (hsub hpart)
  backslash part hpart := h.backslash part (hsub hpart)

lemma toList_slashes (parts : List String) :
    ("/".intercalate parts).toList = ['/'].intercalate (parts.map String.toList) := by
  rw [String.toList_intercalate]
  rfl

lemma IsPlain.segments (h : p.IsPlain) (hne : p.parts ≠ []) :
    segments ("/".intercalate p.parts).toList = p.parts := by
  rw [Path.segments, toList_slashes, List.splitOn_intercalate '/' _ (by simpa using hne)]
  · rw [List.map_map, List.filter_eq_self.mpr]
    · simp [Function.comp_def]
    · intro part hpart
      simp only [List.mem_map, Function.comp_apply, String.ofList_toList, exists_eq_right] at hpart
      simp only [Bool.and_eq_true, bne_iff_ne, ne_eq]
      exact ⟨fun heq => h.empty (heq ▸ hpart), fun heq => h.here (heq ▸ hpart)⟩
  · intro name hname
    obtain ⟨part, hpart, rfl⟩ := List.mem_map.mp hname
    exact h.slash part hpart

lemma IsPlain.exists_head (h : p.IsPlain) (hne : p.parts ≠ []) :
    ∃ c rest, ("/".intercalate p.parts).toList = c :: rest ∧ c ≠ '/' := by
  match hparts : p.parts with
  | [] => exact absurd hparts hne
  | first :: others =>
    have hmem : first ∈ p.parts := by simp [hparts]
    match hfirst : first.toList with
    | [] =>
      have hnil : first = "" := String.toList_injective (by simp [hfirst])
      exact absurd (hnil ▸ hmem) h.empty
    | c :: cs =>
      have hc : c ≠ '/' := fun heq => h.slash first hmem (by simp [hfirst, heq])
      match others with
      | [] => exact ⟨c, cs, by simp [hfirst], hc⟩
      | second :: others =>
        refine ⟨c, cs ++ "/".toList ++ ("/".intercalate (second :: others)).toList, ?_, hc⟩
        rw [String.intercalate_cons_cons, String.toList_append, String.toList_append, hfirst]
        rfl

/-- A plain path is read again from its text. -/
lemma IsPlain.parse_text (h : p.IsPlain) (hne : p.parts ≠ [])
    (hroot : p.root = "" ∨ p.root = "/") : parse p.text = p := by
  obtain ⟨c, rest, hhead, hc⟩ := h.exists_head hne
  have hsegments := h.segments hne
  rw [hhead] at hsegments
  have htext : p.text.toList = p.root.toList ++ c :: rest := by
    rw [text, if_neg (by simp [hne]), String.toList_append, hhead]
  obtain ⟨root, parts⟩ := p
  simp only at hroot hsegments htext
  rcases hroot with rfl | rfl
  · have htext' : (Path.mk "" parts).text.toList = c :: rest := by simpa using htext
    simp only [parse, htext', hsegments]
    split <;> simp_all
  · have htext' : (Path.mk "/" parts).text.toList = '/' :: c :: rest := by simpa using htext
    have hskip : Path.segments ('/' :: c :: rest) = parts := by
      rw [← hsegments, Path.segments, Path.segments, List.splitOn_cons_eq_if_modifyHead]
      simp
    simp only [parse, htext', hskip]
    split <;> simp_all

lemma not_mem_slashes {c : Char} (hc : c ≠ '/') {parts : List String}
    (h : ∀ part ∈ parts, c ∉ part.toList) : c ∉ ("/".intercalate parts).toList := by
  induction parts with
  | nil => simp
  | cons first others ih =>
    have hothers := ih fun part hpart => h part (List.mem_cons_of_mem _ hpart)
    match others with
    | [] => simpa using h first
    | second :: others =>
      rw [String.intercalate_cons_cons, String.toList_append, String.toList_append]
      simp only [List.mem_append, not_or]
      exact ⟨⟨h first List.mem_cons_self, by simpa using hc⟩, hothers⟩

/-- The text of a plain path is recorded as it is. -/
lemma IsPlain.recordedPath_text (h : p.IsPlain) (hroot : p.root = "" ∨ p.root = "/") :
    Java.recordedPath p.text = p.text := by
  have hmem : '\\' ∉ p.text.toList := by
    rw [text]
    split
    · decide
    · rw [String.toList_append, List.mem_append, not_or]
      refine ⟨?_, not_mem_slashes (by decide) h.backslash⟩
      rcases hroot with hroot | hroot <;> rw [hroot] <;> decide
  have hmap : (p.text.toList.map fun c => if c == '\\' then '/' else c) = p.text.toList := by
    refine (List.map_congr_left fun c hc => ?_).trans (List.map_id _)
    rw [if_neg (by simpa using fun heq : c = '\\' => hmem (heq ▸ hc))]
    rfl
  rw [Java.recordedPath, hmap, String.ofList_toList]

end Path

namespace Disk

variable {d e : Disk} {p : Path} {touched : List String → Prop} {data : FileData}

/-- A file outside of what is touched is read as before. -/
lemma ChangesOnly.fileAt (h : d.ChangesOnly touched e) (hp : p.IsNamed)
    (hplace : ¬ touched (d.placeOf p)) (hfile : d.fileAt p = .ok data) : e.fileAt p = .ok data := by
  rw [fileAt_eq_ok_iff hp] at hfile ⊢
  obtain ⟨hfits, hreach, hdata⟩ := hfile
  exact ⟨hfits, h.reaches hreach, by rw [h.placeOf, h.files _ hplace, hdata]⟩

/-- A file is found on every way to a directory above it. -/
lemma fileAt_of_walk {root : String} {way place rest : List String}
    (hway : walk d.root (d.startOf ⟨root, way⟩) way = .ok place) (hup : ".." ∉ place)
    (hnull : hasNull ⟨root, way⟩ = false)
    (htext : (Path.mk root (way ++ rest)).text.utf8ByteSize ≤ maxPathBytes)
    (h : d.fileAt ⟨"/", place ++ rest⟩ = .ok data) : d.fileAt ⟨root, way ++ rest⟩ = .ok data := by
  rw [fileAt] at h
  by_cases hfile : hasNull ⟨"/", place ++ rest⟩
  · simp [hfile] at h
  · have hnull' : hasNull ⟨root, way ++ rest⟩ = false := by
      simp only [hasNull, List.any_append, Bool.or_eq_true, not_or, Bool.or_eq_false_iff,
        Bool.not_eq_true] at hfile hnull ⊢
      exact ⟨hnull, hfile.2⟩
    have hlocate : d.locate ⟨root, way ++ rest⟩ = walk d.root place rest := by
      have hstart : d.startOf ⟨root, way ++ rest⟩ = d.startOf ⟨root, way⟩ := rfl
      rw [locate, if_neg (Nat.not_lt.mpr htext), walk_append, hstart, hway]
      rfl
    cases hloc : d.locate ⟨"/", place ++ rest⟩ with
    | error _ => simp [hfile, hloc] at h
    | ok found =>
      -- from the root, the place leads to itself
      have hwalk : walk d.root place rest = .ok found := by
        rw [locate] at hloc
        split at hloc
        · simp at hloc
        · rw [walk_append] at hloc
          change (walk d.root [] place >>= _) = _ at hloc
          cases hplace : walk d.root [] place with
          | error _ => simp [hplace] at hloc
          | ok start =>
            have hstart := eq_follow_of_walk hplace
            rw [Path.follow_of_not_mem hup, List.nil_append] at hstart
            simpa only [hplace, ok_bind, hstart] using hloc
      rw [fileAt, hnull', hlocate, hwalk]
      rcases hget : d.root.get? found with _ | entry
      · simp [hfile, hloc, hget] at h
      · cases entry with
        | directory _ => simp [hfile, hloc, hget] at h
        | file _ _ => simpa [hfile, hloc, hget] using h

end Disk

/-! ### The cache -/

namespace Config

variable {c : Config} {d : Disk} {p dir : Path} {data : FileData}

/-- A path that goes straight down from the root or from the home directory. -/
def LeadsDown (c : Config) (p : Path) : Prop :=
  ∃ way rest, p.parts = way ++ rest ∧ ".." ∉ rest ∧
    (p.isAbsolute = true ∧ way = [] ∨ p.root = c.home.root ∧ way = c.home.parts)

lemma LeadsDown.div (h : c.LeadsDown p) {s : String} (hs : ".." ∉ (Path.parse s).parts) :
    c.LeadsDown (p / s) := by
  change c.LeadsDown (p.join (Path.parse s))
  rw [Path.join]
  by_cases habs : (Path.parse s).isAbsolute
  · rw [if_pos habs]
    exact ⟨[], _, rfl, hs, Or.inl ⟨habs, rfl⟩⟩
  · rw [if_neg habs]
    obtain ⟨way, rest, hparts, hrest, hway⟩ := h
    refine ⟨way, rest ++ (Path.parse s).parts, by simp [hparts], ?_, hway⟩
    rw [List.mem_append, not_or]
    exact ⟨hrest, hs⟩

lemma leadsDown_cacheDir (c : Config) : c.LeadsDown c.cacheDir := by
  have hhome : c.LeadsDown c.home := ⟨_, [], by simp, by simp, Or.inr ⟨rfl, rfl⟩⟩
  exact hhome.div (by decide)

/-- Where the manifest is read, the home directory is reached. -/
lemma walk_home (h : d.fileAt c.manifestPath = .ok data) :
    Disk.hasNull c.home = false ∧
      Disk.walk d.root (d.startOf c.home) c.home.parts = .ok (d.placeOf c.home) := by
  obtain ⟨hfits, hreach, -⟩ := (Disk.fileAt_eq_ok_iff c.isEntry_manifestPath.toIsNamed).mp h
  have hparent : c.manifestPath.parent = ⟨c.home.root, c.home.parts ++ ["index"]⟩ :=
    c.manifestPath_parent.trans c.indexDir_eq
  constructor
  · have hnull := hfits.null
    rw [manifestPath_eq, indexDir_eq] at hnull
    simp only [Disk.hasNull, List.any_append, Bool.or_eq_false_iff] at hnull ⊢
    exact hnull.1.1
  · have hwalk := hreach.walk
    have hstart : d.startOf ⟨c.home.root, c.home.parts ++ ["index"]⟩ = d.startOf c.home := rfl
    rw [hparent, Disk.walk_append, hstart] at hwalk
    cases h : Disk.walk d.root (d.startOf c.home) c.home.parts with
    | error _ => simp [h] at hwalk
    | ok place => rw [Disk.eq_follow_of_walk h, Disk.placeOf]

/-- A directory that leads down is as good as its absolute form to find a file in it. -/
lemma LeadsDown.fileAt (h : c.LeadsDown dir) {m : FileData}
    (hmanifest : d.fileAt c.manifestPath = .ok m) {rest : List String}
    (hup : ".." ∉ (dir.resolve d.cwd).parts)
    (htext : (dir.join ⟨"", rest⟩).text.utf8ByteSize ≤ Disk.maxPathBytes)
    (hfile : d.fileAt ((dir.resolve d.cwd).join ⟨"", rest⟩) = .ok data) :
    d.fileAt (dir.join ⟨"", rest⟩) = .ok data := by
  obtain ⟨way, down, hparts, hdown, hway⟩ := h
  obtain ⟨root, parts⟩ := dir
  simp only at hparts hway
  subst hparts
  obtain ⟨hnull, hwalk⟩ : Disk.hasNull ⟨root, way⟩ = false ∧
      Disk.walk d.root (d.startOf ⟨root, way⟩) way = .ok (d.placeOf ⟨root, way⟩) := by
    rcases hway with ⟨-, rfl⟩ | ⟨rfl, rfl⟩
    · exact ⟨rfl, rfl⟩
    · exact walk_home hmanifest
  have hresolve : (Path.mk root (way ++ down)).resolve d.cwd =
      ⟨"/", d.placeOf ⟨root, way⟩ ++ down⟩ := by
    rw [Path.resolve, Path.follow_append, Path.follow_of_not_mem hdown]
    rfl
  have hjoin : ∀ (root : String) (xs : List String),
      (Path.mk root (xs ++ down)).join ⟨"", rest⟩ = ⟨root, xs ++ (down ++ rest)⟩ := by
    intro root xs
    simp [Path.join, Path.isAbsolute]
  rw [hjoin] at htext ⊢
  rw [hresolve, hjoin] at hfile
  rw [hresolve, List.mem_append, not_or] at hup
  exact Disk.fileAt_of_walk hwalk hup.1 hnull htext hfile

end Config

/-! ### The files of a build -/

namespace Index

variable {j : Job} {d d' e : Disk} {k : Contents} {ns : Namespace} {files : List Path} {file : Path}
  {data : FileData}

lemma getLast?_of_isSourceName {s : String} (h : isSourceName s = true) :
    s.toList.getLast? = some 'a' := by
  obtain ⟨front, hfront⟩ := List.isSuffixOf_iff_suffix.mp h
  rw [← hfront, List.getLast?_append]
  rfl

lemma isNamed_of_isSourceName (h : isSourceName file.name = true) : file.IsNamed where
  parts hnil := by
    rw [Path.name, hnil] at h
    revert h
    decide
  name hup := by
    rw [hup] at h
    revert h
    decide

/-- No index file is named like a source file. -/
lemma Contents.not_files_of_isSourceName {base place : List String} {name : String}
    (h : isSourceName name = true) : ¬ k.Files base (place ++ [name]) := by
  have hlast := getLast?_of_isSourceName h
  have hother : ∀ (other : String) {q : List String}, place ++ [name] = q →
      q.getLast? = some other → other.toList.getLast? = some 'a' := by
    intro other q heq hq
    rw [← heq, List.getLast?_concat, Option.some.injEq] at hq
    rwa [← hq]
  rintro ((heq | heq) | ⟨ns, package, -, heq | heq⟩)
  · exact absurd (hother "manifest.json" heq (by simp)) (by decide)
  · exact absurd (hother "manifest.json.tmp" heq (by simp)) (by decide)
  · have hjson : ".json".toList.getLast? = some 'n' := rfl
    have hfound := hother (package ++ ".json") heq (by simp)
    rw [String.toList_append, List.getLast?_append, hjson] at hfound
    cases hfound
  · have htmp : ".tmp".toList.getLast? = some 'p' := rfl
    have hfound := hother (package ++ ".json" ++ ".tmp") heq (by simp)
    rw [String.toList_append, List.getLast?_append, htmp] at hfound
    cases hfound

lemma mem_sourceFiles {root : Path} (h : sourceFiles d root = .ok files) (hfile : file ∈ files) :
    ∃ place, isSourceName (place.getLast?.getD "") = true ∧ file = root.join ⟨"", place⟩ := by
  rw [sourceFiles] at h
  match hdir : d.isDirectory root with
  | .error _ => simp [hdir] at h
  | .ok false =>
    simp only [hdir, ok_bind, Bool.false_eq_true, if_false, pure_eq_ok, Except.ok.injEq] at h
    rw [← h] at hfile
    cases hfile
  | .ok true =>
    simp only [hdir, ok_bind, if_true, pure_eq_ok, Except.ok.injEq] at h
    rw [← h, (List.mergeSort_perm _ _).mem_iff, List.mem_map] at hfile
    obtain ⟨⟨place, node⟩, hmem, rfl⟩ := hfile
    rw [List.mem_filter, Bool.and_eq_true] at hmem
    exact ⟨place, hmem.2.1, rfl⟩

namespace Job

lemma root_eq {root : Path} (h : j.root d.cwd ns = some root) : root.root = "/" := by
  match ns with
  | .primary =>
    rw [Job.root, Option.some.injEq] at h
    rw [← h, Path.resolve]
  | .secondary =>
    rw [Job.root, Option.map_eq_some_iff] at h
    obtain ⟨given, -, rfl⟩ := h
    rw [Path.resolve]

/-- The source files of a build lie below its roots. -/
lemma mem_files (h : j.files d ns = .ok files) (hfile : file ∈ files) :
    ∃ root place, j.root d.cwd ns = some root ∧ isSourceName (place.getLast?.getD "") = true ∧
      root.root = "/" ∧ file = ⟨"/", root.parts ++ place⟩ := by
  rw [Job.files] at h
  match hroot : j.root d.cwd ns with
  | none =>
    rw [hroot, sourceFilesOf, Except.ok.injEq] at h
    rw [← h] at hfile
    cases hfile
  | some root =>
    rw [hroot, sourceFilesOf] at h
    obtain ⟨place, hname, rfl⟩ := mem_sourceFiles h hfile
    have hslash := j.root_eq hroot
    exact ⟨root, place, rfl, hname, hslash, by simp [Path.join, Path.isAbsolute, hslash]⟩

lemma isSourceName_of_mem_files (h : j.files d ns = .ok files) (hfile : file ∈ files) :
    isSourceName file.name = true := by
  obtain ⟨root, place, -, hname, -, rfl⟩ := mem_files h hfile
  match hlast : place.getLast? with
  | none =>
    rw [hlast] at hname
    exact absurd hname (by decide)
  | some last =>
    rw [hlast] at hname
    rwa [Path.name, List.getLast?_append, hlast]

/-- A build leaves files that are named like source files as they are. -/
lemma fileAt_run_of_isSourceName (h : isSourceName file.name = true)
    (hdata : d.fileAt file = .ok data) : (j.run d).2.fileAt file = .ok data := by
  have hnamed := isNamed_of_isSourceName h
  rcases j.ends_run d with ⟨-, -, hsame⟩ | ⟨k, -, hwritten, -⟩
  · rw [hsame]
    exact hdata
  · rw [hwritten]
    refine (k.exec_write j.config d).1.fileAt hnamed ?_ hdata
    rw [Disk.placeOf_eq hnamed]
    exact k.not_files_of_isSourceName h

/-- A build leaves its source files as they are. -/
lemma fileAt_run (h : j.files d ns = .ok files) (hfile : file ∈ files)
    (hdata : d.fileAt file = .ok data) : (j.run d).2.fileAt file = .ok data :=
  fileAt_run_of_isSourceName (isSourceName_of_mem_files h hfile) hdata

/-- Every type that is collected was read from a source file. -/
lemma Collects.origin (hk : j.Collects d k) {package name : String} {decl : TypeDecl String}
    (h : Ordered.get? (k.types ns package) name = some decl) :
    ∃ files, j.files d ns = .ok files ∧ ∃ file ∈ files, ∃ u,
      readSource d j.config.maskComments file (j.base d.cwd ns) = .ok (some u) ∧
      filedUnder u = package ∧ u.name = name ∧ u.decl = decl := by
  have hpackages := hk.packages ns
  rw [Job.packages] at hpackages
  cases hunits : j.units d ns with
  | error _ => simp [hunits] at hpackages
  | ok units =>
    simp only [hunits, map_ok, Except.ok.injEq] at hpackages
    rw [Contents.types, ← hpackages] at h
    cases htypes : Ordered.get? (collect units) package with
    | none => simp [htypes] at h
    | some types =>
      rw [htypes, Option.getD_some] at h
      obtain ⟨u, hu, hunder, hname, hdecl⟩ :=
        (Packages.filedFrom_collect units).origin package types name decl htypes h
      rw [List.mem_filterMap] at hu
      obtain ⟨_, hmem, rfl⟩ := hu
      obtain ⟨files, hfiles, file, hfile, hread⟩ := j.exists_file_of_unit hunits hmem
      exact ⟨files, hfiles, file, hfile, u, hread, hunder, hname, hdecl⟩

/-- What is recorded for a file suffices to find it again: its path is plain, and a path from the
cache comes with the version that leads there. -/
structure Recoverable (j : Job) (cwd : List String) (ns : Namespace) (file : Path) : Prop where
  plain : file.IsPlain
  given : j.base cwd ns ≠ none → ns = .secondary → ∃ v, j.secondaryVersion = some v ∧ v ≠ ""
  down : j.base cwd ns ≠ none → ∀ dir, j.cacheRoot ns = some dir → j.config.LeadsDown dir

/-- The manifest leads to the cache that a build was given. -/
lemma cacheRoot_eq (hk : j.Collects d k)
    (hgiven : ns = .secondary → ∃ v, j.secondaryVersion = some v ∧ v ≠ "") :
    j.cacheRoot ns = some (k.sourceDir j.config ns) := by
  match ns with
  | .primary =>
    rw [cacheRoot, Store.primarySourceDir_str, ← hk.version]
    rfl
  | .secondary =>
    obtain ⟨v, hv, hne⟩ := hgiven rfl
    have hfilter : k.secondaryVersion.filter (· != "") = some v := by
      rw [hk.secondaryVersion, hv]
      exact Option.filter_some_pos (by simpa using hne)
    have hsecondary : j.config.secondarySourceDir (.str v) =
        some (j.config.cacheDir / ("fabric-api-" ++ v)) := by
      rw [Config.secondarySourceDir, Store.given?_str, if_neg hne]
      rfl
    unfold Contents.sourceDir
    rw [cacheRoot, hv, hfilter]
    exact hsecondary

lemma base_eq_some {cwd : List String} {base : Path} (h : j.base cwd ns = some base) :
    j.root cwd ns = some base ∧ ∃ dir, j.cacheRoot ns = some dir ∧ base = dir.resolve cwd := by
  rw [Job.base, Option.bind_eq_some_iff] at h
  obtain ⟨root, hroot, hbase⟩ := h
  match hdir : j.cacheRoot ns with
  | none => simp [pathBase, hdir] at hbase
  | some dir =>
    simp only [pathBase, hdir, beq_iff_eq] at hbase
    split at hbase
    · next heq =>
      cases hbase
      exact ⟨hroot, dir, rfl, heq⟩
    · cases hbase

lemma ne_nil_of_isSourceName {place : List String}
    (h : isSourceName (place.getLast?.getD "") = true) : place ≠ [] := by
  rintro rfl
  revert h
  decide

/-- A path that is recorded as an absolute one is taken as it is. -/
lemma sourcePath_of_base_eq_none (hfiles : j.files d ns = .ok files) (hfile : file ∈ files)
    (hplain : file.IsPlain) (hbase : j.base d.cwd ns = none) :
    k.sourcePath j.config ns
      (Java.recordedPath (recordedPath file (j.base d.cwd ns))) = file := by
  obtain ⟨root, place, -, hname, -, rfl⟩ := mem_files hfiles hfile
  have hplace := ne_nil_of_isSourceName hname
  simp only [hbase, recordedPath, hplain.recordedPath_text (Or.inr rfl), Contents.sourcePath,
    hplain.parse_text (by simp [hplace]) (Or.inr rfl)]
  rfl

/-- Any other path is taken from the directory that the manifest names. -/
lemma exists_sourcePath_of_base (hfiles : j.files d ns = .ok files) (hfile : file ∈ files)
    (hplain : file.IsPlain) {base : Path} (hbase : j.base d.cwd ns = some base) :
    ∃ place, base.root = "/" ∧ file = base.join ⟨"", place⟩ ∧ ".." ∉ base.parts ++ place ∧
      k.sourcePath j.config ns (Java.recordedPath (recordedPath file (j.base d.cwd ns))) =
        (k.sourceDir j.config ns).join ⟨"", place⟩ := by
  obtain ⟨root, place, hroot, hname, hslash, rfl⟩ := mem_files hfiles hfile
  obtain ⟨hroot', -⟩ := base_eq_some hbase
  rw [hroot, Option.some.injEq] at hroot'
  subst hroot'
  have hplace := ne_nil_of_isSourceName hname
  have hrelative : (Path.mk "/" (root.parts ++ place)).relativeTo? root = some ⟨"", place⟩ := by
    simp [Path.relativeTo?, hslash]
  have hrest : (Path.mk "" place).IsPlain := hplain.of_subset (List.subset_append_right _ _)
  refine ⟨place, hslash, by simp [Path.join, Path.isAbsolute, hslash], hplain.up, ?_⟩
  simp only [hbase, recordedPath, hrelative, Option.getD_some,
    hrest.recordedPath_text (Or.inl rfl), Contents.sourcePath, hrest.parse_text hplace (Or.inl rfl)]
  rfl

/-- The path that is recorded for a file leads to it. -/
lemma fileAt_sourcePath (hk : j.Collects d k) (hfiles : j.files d ns = .ok files)
    (hfile : file ∈ files) (hrecoverable : j.Recoverable d.cwd ns file) (hcwd : e.cwd = d.cwd)
    {m : FileData} (hmanifest : e.fileAt j.config.manifestPath = .ok m)
    (hdata : e.fileAt file = .ok data) :
    let path := k.sourcePath j.config ns (Java.recordedPath (recordedPath file (j.base d.cwd ns)))
    path.text.utf8ByteSize ≤ Disk.maxPathBytes → e.fileAt path = .ok data := by
  intro path htext
  obtain ⟨hplain, hgiven, hdown⟩ := hrecoverable
  match hbase : j.base d.cwd ns with
  | none =>
    have hpath : path = file := sourcePath_of_base_eq_none hfiles hfile hplain hbase
    rw [hpath]
    exact hdata
  | some base =>
    obtain ⟨-, dir, hdir, hresolve⟩ := base_eq_some hbase
    obtain ⟨place, -, hjoin, hup, hpath⟩ :=
      exists_sourcePath_of_base (k := k) hfiles hfile hplain hbase
    have hroot := hdir
    rw [cacheRoot_eq hk (hgiven (by simp [hbase])), Option.some.injEq] at hroot
    change path = _ at hpath
    rw [hroot] at hpath
    rw [hpath] at htext ⊢
    rw [hjoin, hresolve, ← hcwd] at hdata
    refine (hdown (by simp [hbase]) dir hdir).fileAt hmanifest ?_ htext hdata
    rw [hcwd, ← hresolve]
    exact fun h => hup (List.mem_append_left _ h)

end Job

end Index

end JavaAtlas

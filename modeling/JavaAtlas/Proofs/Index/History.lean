import JavaAtlas.Proofs.Index.Rebuild

/-!
# Histories of an index

An index is built again and again, and in between anything else on the disk may change. A build
that fails part way removes the manifest first, unless the path to it is broken. As long as this
does not happen, a manifest that can be loaded is that of the newest build that succeeded, and its
shards are as that build has written them.
-/

namespace JavaAtlas

namespace Index

/-! ### Runs that fail -/

namespace Job

variable {j : Job} {d e : Disk} {failure : Failure}

/-- A run changes no file but those of the index. -/
lemma changesOnly_run (j : Job) (d : Disk) :
    d.ChangesOnly (fun q => d.placeOf j.config.indexDir <+: q) (j.run d).2 := by
  rcases j.ends_run d with ⟨-, -, hsame⟩ | ⟨k, -, hwritten, -⟩
  · rw [hsame]
    exact .refl d
  · rw [hwritten]
    exact (k.exec_write j.config d).1.mono fun q => k.files_below

/-- A run that, should it fail, changes no file or finds the manifest that is there. -/
def Clean (j : Job) (d : Disk) : Prop :=
  (∀ q, (j.run d).2.root.dataAt? q = d.root.dataAt? q) ∨ d.InReach j.config.manifestPath

/-- A run that fails without a step up in the home directory is clean. -/
lemma clean_of_not_mem (h : ".." ∉ j.config.home.parts) (d : Disk) : j.Clean d := by
  refine Or.inr (Disk.inReach_of_not_mem j.config.isEntry_manifestPath ?_ d)
  rw [Config.manifestPath_eq, Config.indexDir_eq]
  simpa using h

/-- A run that fails leaves all files as they were or no manifest, exactly if it is clean. -/
lemma clean_iff (h : j.run d = (.error failure, e)) :
    (∀ q, e.root.dataAt? q = d.root.dataAt? q) ∨
        e.root.dataAt? (d.placeOf j.config.manifestPath) = none ↔ j.Clean d := by
  rw [Clean, h]
  refine or_congr_right' fun hchanged => ?_
  have hends := j.ends_run d
  rw [h] at hends
  rcases hends with ⟨_, -, rfl⟩ | ⟨k, -, rfl, hresult⟩
  · exact absurd (fun _ => rfl) hchanged
  · obtain ⟨-, -, hfailed⟩ := k.exec_write j.config d
    match hwrite : ((k.write j.config).exec d).1 with
    | .ok _ =>
      rw [hwrite] at hresult
      obtain ⟨_, hresult⟩ := hresult
      cases hresult
    | .error failure =>
      rcases hfailed failure hwrite with hsame | ⟨hfound, hmissed⟩
      · rw [hsame] at hchanged
        exact absurd (fun _ => rfl) hchanged
      · -- the first step has removed the manifest, except where it did not find it
        constructor
        · intro hnone hdata hslot
          exact hdata ((hmissed hslot).symm.trans hnone)
        · intro hreach
          by_cases hslot : d.slot j.config.manifestPath = .error .notFound
          · rw [hmissed hslot]
            exact Classical.byContradiction fun hdata => hreach hdata hslot
          · exact hfound hslot

end Job

/-! ### Histories -/

/-- From one disk to another the files of the index stay. -/
structure KeepsIndex (c : Config) (d e : Disk) : Prop where
  start : e.startOf c.home = d.startOf c.home
  files : ∀ q, d.placeOf c.indexDir <+: q → e.root.dataAt? q = d.root.dataAt? q

/-- What can have happened to the index of a home directory: it starts without a file, jobs are run
for this home, and other changes to the disk leave the files of the index alone. The list tells
what the builds that succeeded have collected, newest first; runs fail only where `fails` says. -/
inductive History (fails : Job → Disk → Prop) (c : Config) : List Contents → Disk → Prop
  | start {d : Disk} (hempty : ∀ q, d.placeOf c.indexDir <+: q → d.root.dataAt? q = none) :
      History fails c [] d
  | changed {past : List Contents} {d e : Disk} (h : History fails c past d)
      (hkeep : KeepsIndex c d e) : History fails c past e
  | built {past : List Contents} {d e : Disk} {j : Job} {k : Contents} {s : Summary}
      (h : History fails c past d) (hhome : j.config.home = c.home) (hk : j.Collects d k)
      (hrun : j.run d = (.ok s, e)) : History fails c (k :: past) e
  | failed {past : List Contents} {d e : Disk} {j : Job} {failure : Failure}
      (h : History fails c past d) (hhome : j.config.home = c.home) (hfails : fails j d)
      (hrun : j.run d = (.error failure, e)) : History fails c past e

variable {c : Config} {d e : Disk} {k : Contents} {past : List Contents}
  {fails : Job → Disk → Prop}

lemma indexDir_congr {c' : Config} (h : c'.home = c.home) : c'.indexDir = c.indexDir := by
  rw [Config.indexDir, Config.indexDir, h]

lemma manifestPath_congr {c' : Config} (h : c'.home = c.home) :
    c'.manifestPath = c.manifestPath := by
  rw [Config.manifestPath, Config.manifestPath, indexDir_congr h]

lemma shardPath_congr {c' : Config} (h : c'.home = c.home) (ns : Namespace) (v : Json) :
    c'.shardPath ns v = c.shardPath ns v := by
  rw [Config.shardPath, Config.shardPath, Config.namespaceDir, Config.namespaceDir,
    indexDir_congr h]

/-- A path below the index has its place there, wherever else the disk changes. -/
lemma placeOf_of_startOf {p : Path} (hstart : e.startOf c.home = d.startOf c.home)
    (hroot : p.root = c.home.root) : e.placeOf p = d.placeOf p := by
  have hp : ∀ f : Disk, f.startOf p = f.startOf c.home := by
    intro f
    rw [Disk.startOf, Disk.startOf, Path.isAbsolute, Path.isAbsolute, hroot]
  rw [Disk.placeOf, Disk.placeOf, hp, hp, hstart]

lemma indexDir_prefix_manifest (c : Config) (d : Disk) :
    d.placeOf c.indexDir <+: d.placeOf c.manifestPath := by
  rw [d.placeOf_manifestPath]
  exact List.prefix_append _ _

lemma indexDir_prefix_shard (c : Config) (d : Disk) (ns : Namespace) {package : String}
    (h : '/' ∉ package.toList) :
    d.placeOf c.indexDir <+: d.placeOf (c.shardPath ns (.str package)) := by
  rw [d.placeOf_shardPath c ns h]
  exact List.prefix_append _ _

namespace KeepsIndex

lemma placeOf_manifestPath (h : KeepsIndex c d e) :
    e.placeOf c.manifestPath = d.placeOf c.manifestPath := by
  refine placeOf_of_startOf h.start ?_
  rw [Config.manifestPath_eq, Config.indexDir_eq]

lemma placeOf_shardPath (h : KeepsIndex c d e) (ns : Namespace) {package : String}
    (hslash : '/' ∉ package.toList) :
    e.placeOf (c.shardPath ns (.str package)) = d.placeOf (c.shardPath ns (.str package)) := by
  refine placeOf_of_startOf h.start ?_
  rw [Config.shardPath_eq c ns hslash, Config.indexDir_eq]

end KeepsIndex

/-- The files of everything that a build has collected are kept. -/
structure Contents.Kept (c : Config) (k : Contents) (d : Disk) : Prop where
  manifest : Keeps d c.manifestPath k.manifestJson
  shard : ∀ ns, ∀ package ∈ (k.packages ns).names,
    Keeps d (c.shardPath ns (.str package)) (k.shardJson ns package)

lemma Contents.Kept.keepsIndex (hk : k.Kept c d) (h : KeepsIndex c d e) : k.Kept c e where
  manifest := hk.manifest.congr h.placeOf_manifestPath (h.files _ (indexDir_prefix_manifest c d))
  shard ns package hpackage := by
    have hslash := k.not_mem_slash hpackage
    exact (hk.shard ns package hpackage).congr (h.placeOf_shardPath ns hslash)
      (h.files _ (indexDir_prefix_shard c d ns hslash))

lemma Contents.Stored.kept {c' : Config} (hk : k.Stored c' d) (hhome : c'.home = c.home) :
    k.Kept c d where
  manifest := manifestPath_congr hhome ▸ hk.manifest.toKeeps
  shard ns package hpackage :=
    shardPath_congr hhome ns (.str package) ▸ (hk.shard ns package hpackage).toKeeps

/-- A run that succeeds has written what it has collected. -/
lemma Job.Collects.written {j : Job} {s : Summary} (hk : j.Collects d k)
    (hrun : j.run d = (.ok s, e)) :
    e = ((k.write j.config).exec d).2 ∧ k.Stored j.config e := by
  obtain ⟨l, hl, hwritten, hstored⟩ := Job.stored_of_run hrun
  obtain rfl := Job.Collects.ext (.refl j d) hk hl
  exact ⟨hwritten, hstored⟩

/-- After every history whose runs are clean there is no manifest, or the files of the newest build
that succeeded are kept. -/
theorem History.kept (h : History fails c past d)
    (hclean : ∀ j d, j.config.home = c.home → fails j d → j.Clean d) :
    d.root.dataAt? (d.placeOf c.manifestPath) = none ∨
      ∃ k older, past = k :: older ∧ k.Kept c d := by
  -- what leaves the files of the index alone preserves this
  have hkeep : ∀ {past : List Contents} {d e : Disk}, KeepsIndex c d e →
      (d.root.dataAt? (d.placeOf c.manifestPath) = none ∨
        ∃ k older, past = k :: older ∧ k.Kept c d) →
      (e.root.dataAt? (e.placeOf c.manifestPath) = none ∨
        ∃ k older, past = k :: older ∧ k.Kept c e) := by
    rintro past d e hsame (hnone | ⟨k, older, hpast, hk⟩)
    · refine Or.inl ?_
      rw [hsame.placeOf_manifestPath, hsame.files _ (indexDir_prefix_manifest c d), hnone]
    · exact Or.inr ⟨k, older, hpast, hk.keepsIndex hsame⟩
  induction h with
  | start hempty => exact Or.inl (hempty _ (indexDir_prefix_manifest c _))
  | changed h hsame ih => exact hkeep hsame ih
  | built h hhome hk hrun ih => exact Or.inr ⟨_, _, rfl, (hk.written hrun).2.kept hhome⟩
  | @failed past d e j failure h hhome hfails hrun ih =>
    have hcwd : e.cwd = d.cwd := by
      have hchange := (j.changesOnly_run d).cwd
      rwa [hrun] at hchange
    have hplace := manifestPath_congr hhome
    rcases (Job.clean_iff hrun).mpr (hclean j d hhome hfails) with hsame | hnone
    · refine hkeep ⟨?_, fun q _ => hsame q⟩ ih
      rw [Disk.startOf, Disk.startOf, hcwd]
    · refine Or.inl ?_
      rw [Disk.placeOf_congr hcwd, ← hplace, hnone]

/-! ### Loading -/

/-- Where the directory of the index is reached, so is that of a shard which is there. -/
lemma reaches_shardPath_parent {ns : Namespace} {package : String} {data : FileData}
    (hslash : '/' ∉ package.toList) (hreach : d.Reaches c.indexDir)
    (hdata : d.root.dataAt? (d.placeOf (c.shardPath ns (.str package))) = some data) :
    d.Reaches (c.shardPath ns (.str package)).parent := by
  have hplace := d.placeOf_shardPath_parent c ns hslash
  have hdirectory : d.root.HasDirectory (d.placeOf c.indexDir ++ [ns.name]) := by
    obtain ⟨serial, hget⟩ := Node.dataAt?_eq_some_iff.mp hdata
    rw [d.placeOf_shardPath c ns hslash, List.append_cons] at hget
    exact Node.hasDirectory_of_get?_append hget
  refine ⟨?_, hplace ▸ hdirectory⟩
  rw [hplace, c.shardPath_parent ns hslash, Disk.walk_append]
  have hstart : d.startOf ⟨c.indexDir.root, c.indexDir.parts ++ [ns.name]⟩ =
      d.startOf c.indexDir := rfl
  rw [hstart, hreach.walk]
  obtain ⟨es, hes⟩ := hdirectory
  have hname : ns.name ≠ ".." ∧ ns.name.utf8ByteSize ≤ Disk.maxNameBytes := by
    cases ns <;> decide
  change Disk.walk d.root (d.placeOf c.indexDir) [ns.name] = _
  rw [Disk.walk_singleton hname.1 hreach.directory, if_neg (Nat.not_lt.mpr hname.2), hes,
    if_neg (by simp)]

/-- Where a manifest is loaded, the directory of the index is reached. -/
lemma reaches_indexDir_of_loadManifest {m : Manifest Json}
    (h : loadManifest c d = .ok (some m)) : d.Reaches c.indexDir := by
  obtain ⟨v, hv, -⟩ := loadManifest_eq_some c h
  obtain ⟨data, -, hfile, -⟩ := readJson_eq_some hv
  obtain ⟨-, hreach, -⟩ := (Disk.fileAt_eq_ok_iff c.isEntry_manifestPath.toIsNamed).mp hfile
  exact c.manifestPath_parent ▸ hreach

/-- If a manifest is loaded where the files of a build are kept, the index is that of this build. -/
lemma Contents.Kept.serves (hk : k.Kept c d) {m : Manifest Json}
    (h : loadManifest c d = .ok (some m)) : Serves c d k := by
  have hreach := reaches_indexDir_of_loadManifest h
  refine Contents.Stored.serves ⟨⟨hk.manifest, ?_⟩, fun ns package hpackage => ?_⟩
  · rwa [c.manifestPath_parent]
  · have hshard := hk.shard ns package hpackage
    exact ⟨hshard, reaches_shardPath_parent (k.not_mem_slash hpackage) hreach hshard.data⟩

/-- After a history whose runs are clean, an index with a manifest is that of the newest build. -/
theorem History.serves (h : History fails c past d)
    (hclean : ∀ j d, j.config.home = c.home → fails j d → j.Clean d) {m : Manifest Json}
    (hm : loadManifest c d = .ok (some m)) :
    ∃ k older, past = k :: older ∧ Serves c d k := by
  rcases h.kept hclean with hnone | ⟨k, older, hpast, hk⟩
  · obtain ⟨v, hv, -⟩ := loadManifest_eq_some c hm
    obtain ⟨data, -, hfile, -⟩ := readJson_eq_some hv
    rw [Disk.dataAt?_of_fileAt hfile] at hnone
    cases hnone
  · exact ⟨k, older, hpast, hk.serves hm⟩

end Index

end JavaAtlas

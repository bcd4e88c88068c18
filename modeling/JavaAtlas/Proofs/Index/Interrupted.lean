import JavaAtlas.Proofs.Index.History

/-!
# Builds that are interrupted

A build may fail at any of its file operations. What it leaves is then no index at all or the one
that was there, unless the home directory is reached through a directory that is gone: the old
manifest is not found there and comes back with that directory, among shards of another build.
-/

namespace JavaAtlas

/-- The home directory of an environment is in its absolute form. -/
lemma Config.exists_home_resolve {cwd : List String} {env : Environment} {c : Config}
    (h : ofEnvironment cwd env = .ok c) : ∃ home : Path, c.home = home.resolve cwd := by
  rw [ofEnvironment] at h
  match hset : setting? env "MCDEV_HOME" with
  | some given =>
    match hexpand : expandUser env (Path.parse given) with
    | .error _ => simp [hset, hexpand] at h
    | .ok home =>
      simp only [hset, hexpand, ok_bind, pure_eq_ok, Except.ok.injEq] at h
      exact ⟨home, by rw [← h]⟩
  | none =>
    match hexpand : expandUser env (Path.parse "~") with
    | .error _ => simp [hset, hexpand, Except.map] at h
    | .ok user =>
      simp only [hset, hexpand, Except.map, ok_bind, pure_eq_ok, Except.ok.injEq] at h
      exact ⟨user / homeName, by rw [← h]⟩

lemma Config.not_mem_home {cwd : List String} {env : Environment} {c : Config}
    (hcwd : ".." ∉ cwd) (h : ofEnvironment cwd env = .ok c) : ".." ∉ c.home.parts := by
  obtain ⟨home, hhome⟩ := Config.exists_home_resolve h
  rw [hhome, Path.resolve]
  refine Path.not_mem_follow ?_ _
  split
  · simp
  · exact hcwd

namespace Index

/-- After any history, a run that fails changes nothing outside of the index, and it leaves all files
as they were or no manifest exactly if it is clean. If all runs that failed were clean, then the
manifest that is loaded and all shards that it lists are those of one build, the newest that
succeeded. Every run is clean if no step of the home directory leads up, and none does in the
configuration of an environment. -/
theorem interrupted_index_whole {fails : Job → Disk → Prop} {c : Config} {past : List Contents}
    {d : Disk} (h : History fails c past d) :
    (∀ (j : Job) (e : Disk) (failure : Failure), j.config.home = c.home →
      j.run d = (.error failure, e) →
      (∀ q, ¬ d.placeOf c.indexDir <+: q → e.root.dataAt? q = d.root.dataAt? q) ∧
      ((∀ q, e.root.dataAt? q = d.root.dataAt? q) ∨
        e.root.dataAt? (d.placeOf c.manifestPath) = none ↔ j.Clean d)) ∧
    ((∀ j d, j.config.home = c.home → fails j d → j.Clean d) → ∀ m,
      loadManifest c d = .ok (some m) →
      ∃ k older, past = k :: older ∧ m = k.manifest.map .str ∧
        ∀ ns, ∀ v ∈ m.packages ns, ∃ package, v = .str package ∧
          loadShard c d ns v = .ok (some ((k.shard ns package).map .str))) ∧
    (".." ∉ c.home.parts → ∀ (j : Job) d, j.config.home = c.home → j.Clean d) ∧
    ∀ cwd env, ".." ∉ cwd → Config.ofEnvironment cwd env = .ok c → ".." ∉ c.home.parts := by
  refine ⟨fun j e failure hhome hrun => ⟨fun q hq => ?_, ?_⟩, fun hclean m hm => ?_,
    fun hhome j d hsame => ?_, fun cwd env hcwd hc => Config.not_mem_home hcwd hc⟩
  · have hfiles := (j.changesOnly_run d).files q (indexDir_congr hhome ▸ hq)
    rwa [hrun] at hfiles
  · rw [← manifestPath_congr hhome]
    exact Job.clean_iff hrun
  · obtain ⟨k, older, hpast, hserves⟩ := h.serves hclean hm
    rw [hserves.manifest, Except.ok.injEq, Option.some.injEq] at hm
    refine ⟨k, older, hpast, hm.symm, fun ns v hv => ?_⟩
    have hlisted : m.packages ns = (k.packages ns).names.map .str := by
      rw [← hm]
      cases ns <;> rfl
    rw [hlisted, List.mem_map] at hv
    obtain ⟨package, hpackage, rfl⟩ := hv
    exact ⟨package, rfl, hserves.shard ns package hpackage⟩
  · rw [← hsame] at hhome
    exact Job.clean_of_not_mem hhome d

/-- Sources for both namespaces. -/
def twoRoots : Disk where
  root := .directory
    [("one", .directory [("A.java", .file 0 (.bytes "package a;\nclass A\x7b".toUTF8))]),
      ("two", .directory [("B.java", .file 1 (.bytes "package b;\nclass B\x7b".toUTF8))])]
  cwd := []
  nextSerial := 2

/-- A home directory that is reached through another directory. -/
def steppedConfig : Config := { plainConfig with home := ⟨"/", ["x", "..", "home"]⟩ }

def firstJob : Job where
  __ := plainJob ⟨"/", ["one"]⟩ "1"
  config := steppedConfig

def secondJob : Job where
  __ := firstJob
  generatedAt := "later"
  version := "2"
  secondaryRoot := some ⟨"/", ["two"]⟩
  secondaryVersion := some "3"

/-- A directory is in the way of a shard, and the primary sources have changed. -/
def block (d : Disk) : Disk where
  root := (d.root.put ["home", "index", "secondary", "b.json"] (.directory [])).put
    ["one", "A.java"] (.file 0 (.bytes "package a;\nclass Other\x7b".toUTF8))
  cwd := d.cwd
  nextSerial := d.nextSerial

lemma placeOf_steppedConfig (d : Disk) : d.placeOf steppedConfig.indexDir = ["home", "index"] := by
  rw [Config.indexDir_eq]
  rfl

lemma placeOf_manifestPath_steppedConfig (d : Disk) :
    d.placeOf steppedConfig.manifestPath = ["home", "index", "manifest.json"] := by
  rw [Disk.placeOf_manifestPath, placeOf_steppedConfig]
  rfl

lemma history_twoRoots (fails : Job → Disk → Prop) : History fails steppedConfig [] twoRoots := by
  refine .start fun q hq => ?_
  rw [placeOf_steppedConfig] at hq
  obtain ⟨rest, rfl⟩ := hq
  exact Node.dataAt?_of_none (Node.get?_append_of_none (by decide +kernel) rest)

lemma keepsIndex_block {d : Disk}
    (hfree : d.root.get? ["home", "index", "secondary", "b.json"] = none) :
    KeepsIndex steppedConfig d (block d) where
  start := rfl
  files q hq := by
    rw [placeOf_steppedConfig] at hq
    obtain ⟨rest, rfl⟩ := hq
    rw [block, Node.dataAt?_put_of_not_prefix _ _ (by simp), Node.dataAt?_put_directory hfree]

/-- The disk after a first build, with a directory in the way of the next one. -/
def blockedRoots : Disk := block (firstJob.run twoRoots).2

set_option maxRecDepth 100000 in
lemma exists_history_blockedRoots (fails : Job → Disk → Prop) :
    ∃ k, History fails steppedConfig [k] blockedRoots ∧ k.Kept steppedConfig blockedRoots := by
  have hbuilt : (firstJob.run twoRoots).1.isOk = true ∧ (firstJob.run twoRoots).2.root.get?
      ["home", "index", "secondary", "b.json"] = none := by decide +kernel
  obtain ⟨hok, hfree⟩ := hbuilt
  obtain ⟨s, d, hrun⟩ := exists_of_isOk hok
  rw [hrun] at hfree
  obtain ⟨k, hk, -, hstored⟩ := Job.stored_of_run hrun
  have hkeep := keepsIndex_block hfree
  rw [blockedRoots, hrun]
  exact ⟨k, .changed (.built (history_twoRoots _) rfl hk hrun) hkeep,
    (hstored.kept rfl).keepsIndex hkeep⟩

set_option maxRecDepth 100000 in
/-- Between two builds that succeed, one fails after it has removed the manifest. -/
theorem interrupted_index_whole_first : ∃ (k l : Contents) (d e f : Disk) (failure : Failure)
    (s : Summary), History Job.Clean steppedConfig [k] d ∧
    d.root.dataAt? (d.placeOf steppedConfig.manifestPath) ≠ none ∧
    secondJob.run d = (.error failure, e) ∧
    e.root.dataAt? (d.placeOf steppedConfig.manifestPath) = none ∧
    firstJob.run e = (.ok s, f) ∧ History Job.Clean steppedConfig [l, k] f ∧
    ∃ m, loadManifest steppedConfig f = .ok (some m) ∧ m = l.manifest.map .str ∧
      ∀ ns, ∀ v ∈ m.packages ns, ∃ package, v = .str package ∧
        loadShard steppedConfig f ns v = .ok (some ((l.shard ns package).map .str)) := by
  obtain ⟨k, hhistory, hkept⟩ := exists_history_blockedRoots Job.Clean
  have hfails : (match secondJob.run blockedRoots with
      | (.ok _, _) => false
      | (.error _, e) => (e.root.dataAt? ["home", "index", "manifest.json"]).isNone &&
          (firstJob.run e).1.isOk) = true := by
    decide +kernel
  match hfail : secondJob.run blockedRoots with
  | (.ok _, _) => simp [hfail] at hfails
  | (.error failure, e) =>
    simp only [hfail, Bool.and_eq_true, Option.isNone_iff_eq_none] at hfails
    obtain ⟨hgone, hagain⟩ := hfails
    rw [← placeOf_manifestPath_steppedConfig blockedRoots] at hgone
    have hclean : secondJob.Clean blockedRoots :=
      ((interrupted_index_whole hhistory).1 secondJob e failure rfl hfail).2.mp (.inr hgone)
    obtain ⟨s, f, hlast⟩ := exists_of_isOk hagain
    obtain ⟨l, hl, -, hstored⟩ := Job.stored_of_run hlast
    have hwhole : History Job.Clean steppedConfig [l, k] f :=
      .built (.failed hhistory rfl hclean hfail) rfl hl hlast
    obtain ⟨_, _, hpast, hm, hshards⟩ := (interrupted_index_whole hwhole).2.1
      (fun _ _ _ hclean => hclean) _ hstored.serves.manifest
    cases hpast
    refine ⟨k, l, blockedRoots, e, f, failure, s, hhistory, ?_, hfail, hgone, hlast, hwhole,
      _, hstored.serves.manifest, hm, hshards⟩
    rw [hkept.manifest.data]
    simp

/-- The directory through which the home directory is reached is gone. -/
def unstep (d : Disk) : Disk := { d with root := d.root.remove ["x"] }

lemma keepsIndex_unstep (d : Disk) : KeepsIndex steppedConfig d (unstep d) where
  start := rfl
  files q hq := by
    rw [placeOf_steppedConfig] at hq
    obtain ⟨rest, rfl⟩ := hq
    exact Node.dataAt?_remove_of_not_prefix _ (by simp)

set_option maxRecDepth 100000 in
/-- A build that fails can leave the manifest of an earlier one among shards that it has written. -/
theorem interrupted_index_mixed : ∃ (past : List Contents) (d e : Disk) (j : Job)
    (failure : Failure), History (fun _ _ => True) steppedConfig past d ∧
    j.config = steppedConfig ∧ j.run d = (.error failure, e) ∧
    (∃ q, e.root.dataAt? q ≠ d.root.dataAt? q) ∧
    e.root.dataAt? (d.placeOf steppedConfig.manifestPath) ≠ none := by
  obtain ⟨k, hhistory, -⟩ := exists_history_blockedRoots fun _ _ => True
  -- the second build fails with the manifest in place and a shard of another size
  have hmixed : (match secondJob.run (unstep blockedRoots) with
      | (.ok _, _) => false
      | (.error _, e) => (e.root.dataAt? ["home", "index", "manifest.json"]).isSome &&
          (e.root.dataAt? ["home", "index", "primary", "a.json"]).map (·.toBytes.size) !=
            ((unstep blockedRoots).root.dataAt?
              ["home", "index", "primary", "a.json"]).map (·.toBytes.size)) = true := by
    decide +kernel
  match hfail : secondJob.run (unstep blockedRoots) with
  | (.ok _, _) => simp [hfail] at hmixed
  | (.error failure, e) =>
    simp only [hfail, Bool.and_eq_true, bne_iff_ne] at hmixed
    refine ⟨[k], unstep blockedRoots, e, secondJob, failure, .changed hhistory (keepsIndex_unstep _),
      rfl, hfail, ⟨_, fun heq => hmixed.2 (by rw [heq])⟩, ?_⟩
    rw [placeOf_manifestPath_steppedConfig]
    exact Option.isSome_iff_ne_none.mp hmixed.1

end Index

end JavaAtlas

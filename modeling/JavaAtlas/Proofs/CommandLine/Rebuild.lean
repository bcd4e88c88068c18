import JavaAtlas.Proofs.CommandLine.Commands
import JavaAtlas.Proofs.CommandLine.Home
import JavaAtlas.Proofs.Index.Again

/-!
# Rebuilding again

A rebuild writes the version it was asked for into the manifest. So a rebuild that is asked for none
afterwards chooses this version from the manifest, whatever other versions are cached, and builds
the same index from the same sources. It finds all of them again: the directories of the index are
made before the first build, which makes no others.
-/

namespace JavaAtlas

lemma Config.primarySourceDir_of_ne {version : String} (h : version ≠ "") (c : Config) :
    c.primarySourceDir (.str version) = .ok (c.cacheDir / version / "client") := by
  rw [Store.primarySourceDir_str, if_neg (by simpa using h)]

namespace Index.Job

variable {j : Job}

/-- A job with a version of its own does not use the configured one. -/
lemma run_of_version (hversion : j.version ≠ "") (other : String) (d : Disk) :
    { j with config := { j.config with version := other } }.run d = j.run d := by
  have hprimary : Config.primarySourceDir { j.config with version := other } (.str j.version) =
      j.config.primarySourceDir (.str j.version) :=
    (Config.primarySourceDir_of_ne hversion _).trans (j.config.primarySourceDir_of_ne hversion).symm
  have hbase : ∀ ns, { j with config := { j.config with version := other } }.base d.cwd ns =
      j.base d.cwd ns := by
    intro ns
    cases ns with
    | primary => simp only [base, cacheRoot, hprimary, root]
    | secondary => rfl
  have hread : { j with config := { j.config with version := other } }.readings d =
      j.readings d := by
    simp only [readings, hprimary, hbase]
    rfl
  rw [run_eq, run_eq, hread]
  rfl

end Index.Job

namespace CommandLine

variable {env : Environment} {sizes : Index.Sizes} {stamp version : String} {c : Config}
  {d e : Disk} {shape : Shape} {word : String} {kind : Word} {rest : List String}
  {console after : Console} {available : List String}

/-! ### The command line -/

lemma exists_misuse_of_classify {stop : Stop} (h : classify shape word = .error stop) :
    ∃ message, stop = .misuse message := by
  rw [classify] at h
  grind

lemma classifyAll_cons (hword : word ≠ "--") (hkind : classify shape word = .ok kind) :
    classifyAll shape (word :: rest) = ((kind, word) :: ·) <$> classifyAll shape rest := by
  rw [classifyAll, if_neg (by simpa using hword), hkind]
  rfl

lemma classifyAll_singleton (shape : Shape) (word : String) :
    (∃ kind, classifyAll shape [word] = .ok [(kind, word)]) ∨
      ∃ message, classifyAll shape [word] = .error (.misuse message) := by
  rw [classifyAll]
  split
  · exact Or.inl ⟨.divider, rfl⟩
  · match hkind : classify shape word with
    | .ok kind => exact Or.inl ⟨kind, rfl⟩
    | .error stop =>
      obtain ⟨message, rfl⟩ := exists_misuse_of_classify hkind
      exact Or.inr ⟨message, rfl⟩

def versionFlag : Flag :=
  ⟨["-v", "--version"], "version", some "VERSION",
    "Corpus version (auto-detected if not specified)"⟩

/-- The whole command line belongs to the command, or its last word is a misuse. -/
lemma read_rebuild_version (version : String) :
    programShape.read ["rebuild", "-v", version] =
        .ok ⟨[], some ["rebuild", "-v", version], []⟩ ∨
      ∃ message, programShape.read ["rebuild", "-v", version] = .error (.misuse message) := by
  have hname : classify programShape "rebuild" = .ok .plain := rfl
  have hflag : classify programShape "-v" = .ok .unknown := rfl
  rw [Shape.read, classifyAll_cons (by decide) hname, classifyAll_cons (by decide) hflag]
  rcases classifyAll_singleton programShape version with ⟨kind, hlast⟩ | ⟨message, hlast⟩
  · rw [hlast]
    exact Or.inl rfl
  · rw [hlast]
    exact Or.inr ⟨message, rfl⟩

/-- The command takes a plain word as its version, and no other. -/
lemma read_version (version : String) :
    (commandShape "rebuild").read ["-v", version] = .ok ⟨[("version", version)], none, []⟩ ∨
      ∃ message, (commandShape "rebuild").read ["-v", version] = .error (.misuse message) := by
  have hflag : classify (commandShape "rebuild") "-v" = .ok (.flag versionFlag "-v" none) := rfl
  rw [Shape.read, classifyAll_cons (by decide) hflag]
  rcases classifyAll_singleton (commandShape "rebuild") version with
    ⟨kind, hlast⟩ | ⟨message, hlast⟩
  · rw [hlast]
    cases kind with
    | plain => exact Or.inl rfl
    | divider | flag | unknown => exact Or.inr ⟨_, rfl⟩
  · rw [hlast]
    exact Or.inr ⟨message, rfl⟩

/-- A rebuild that is asked for a version is read as such, or the program ends with code 2. -/
lemma readCommand_rebuild_version (version : String) :
    readCommand ["rebuild", "-v", version] = .ok (.rebuild (some version) none none none) ∨
      ∃ ending, readCommand ["rebuild", "-v", version] = .error ending ∧ ending.exit = 2 := by
  rcases read_rebuild_version version with houter | ⟨message, houter⟩
  · rw [readCommand, houter]
    change ((commandShape "rebuild").read ["-v", version]).mapError _ >>= _ = _ ∨
      ∃ ending, ((commandShape "rebuild").read ["-v", version]).mapError _ >>= _ = _ ∧ _
    rcases read_version version with hread | ⟨message, hread⟩
    · rw [hread]
      exact Or.inl rfl
    · rw [hread]
      exact Or.inr ⟨_, rfl, rfl⟩
  · rw [readCommand, houter]
    exact Or.inr ⟨_, rfl, rfl⟩

lemma readCommand_rebuild : readCommand ["rebuild"] = .ok (.rebuild none none none none) :=
  eq_ok_of_toOption rfl

/-! ### A rebuild of a version -/

/-- The version in the manifest is chosen if it is available, whatever else is. -/
lemma exec_chooseVersion_of_manifest {m : Manifest Json} (out err : List String)
    (havailable : c.availableVersions d = .ok available)
    (hm : Index.loadManifest c d = .ok (some m)) (hversion : m.version = .str version)
    (hmem : version ∈ available) :
    (chooseVersion c none).exec ⟨d, out, err⟩ = (.ok version, ⟨d, out, err⟩) := by
  have hknown : available.find? (fun v => m.version.equals (.str v)) = some version := by
    have hequals : ∀ v, m.version.equals (.str v) = (version == v) := by
      intro v
      rw [hversion]
      rfl
    simp only [hequals]
    match hfound : available.find? (version == ·) with
    | some found => rw [eq_of_beq (List.find?_some hfound)]
    | none => exact absurd BEq.rfl (List.find?_eq_none.mp hfound version hmem)
  rw [chooseVersion]
  simp only [nonempty, Option.filter_none]
  rw [Action.exec_bind_of_ok (Action.exec_get ..), havailable,
    Action.exec_bind_of_ok (Action.exec_ofExcept ..), hm,
    Action.exec_bind_of_ok (Action.exec_ofExcept ..)]
  simp only [Option.bind_some, hknown]
  rfl

/-- The job that rebuilds a version from its sources in the cache. -/
def cacheJob (c : Config) (sizes : Index.Sizes) (stamp version : String) : Index.Job where
  config := c
  sizes := sizes
  generatedAt := stamp
  primaryRoot := c.cacheDir / version / "client"
  version := version
  secondaryRoot := c.secondarySourceDir (Json.ofText? c.secondaryVersion)
  secondaryVersion := c.secondaryVersion

def rebuildingLine (version : String) : String := "Rebuilding index for " ++ version ++ "..."

/-- Do a job if its primary sources are there. -/
def rebuildJob (j : Index.Job) : Action Console Nat := do
  if ← Action.ofExcept ((← get).disk.isDirectory j.primaryRoot) then
    Console.say (rebuildingLine j.version)
    let summary ← Console.working (Index.build j.config j.sizes j.generatedAt j.request)
    Console.say ("Index rebuilt: " ++ toString summary.typeCount ++ " classes in " ++
      toString summary.packageCount ++ " packages")
    return 0
  else
    Console.complain ("Source directory not found: " ++ j.primaryRoot.text)
    return 1

lemma exec_rebuildJob {j : Index.Job} {s : Index.Summary}
    (hroot : d.isDirectory j.primaryRoot = .ok true) (hrun : j.run d = (.ok s, e)) :
    ∃ lines, (rebuildJob j).exec ⟨d, [], []⟩ =
      (.ok 0, ⟨e, rebuildingLine j.version :: lines, []⟩) := by
  match hbuild : (Index.build j.config j.sizes j.generatedAt j.request).exec (.ofDisk d) with
  | (r, w) =>
    simp only [Index.Job.run, hbuild, Prod.mk.injEq] at hrun
    obtain ⟨rfl, rfl⟩ := hrun
    rw [rebuildJob, Action.exec_bind_of_ok (Action.exec_get ..), hroot,
      Action.exec_bind_of_ok (Action.exec_ofExcept ..)]
    simp only [if_true]
    rw [Action.exec_bind_of_ok (exec_say ..), Action.exec_bind_of_ok (exec_working hbuild _ _)]
    exact ⟨_, rfl⟩

lemma exists_run_of_exec_rebuildJob {j : Index.Job}
    (h : (rebuildJob j).exec console = (.ok 0, after)) :
    console.disk.isDirectory j.primaryRoot = .ok true ∧
      ∃ s, j.run console.disk = (.ok s, after.disk) := by
  rw [rebuildJob, Action.exec_bind_of_ok (Action.exec_get ..)] at h
  match hroot : console.disk.isDirectory j.primaryRoot with
  | .error failure =>
    rw [hroot, Action.exec_bind_of_error (Action.exec_ofExcept ..)] at h
    cases h
  | .ok false =>
    rw [hroot, Action.exec_bind_of_ok (Action.exec_ofExcept ..)] at h
    cases h
  | .ok true =>
    rw [hroot, Action.exec_bind_of_ok (Action.exec_ofExcept ..)] at h
    simp only [if_true] at h
    rw [Action.exec_bind_of_ok (exec_say ..), Action.exec_bind_eq_ok] at h
    obtain ⟨s, worked, hwork, h⟩ := h
    obtain ⟨w, hbuild, hdisk⟩ := exists_of_exec_working hwork
    cases h
    exact ⟨rfl, s, by simp only [Index.Job.run, hbuild, hdisk]⟩

/-- Without other options, a rebuild does the job from the cache for the version that it chooses. -/
lemma exec_runRebuild_of_chosen (sizes : Index.Sizes) (stamp : String) {home : Disk}
    {asked : Option String} (hversion : version ≠ "")
    (hdirs : c.ensureDirs.exec d = (.ok (), home))
    (hchoose : (chooseVersion c asked).exec ⟨home, [], []⟩ = (.ok version, ⟨home, [], []⟩)) :
    (runRebuild c sizes stamp asked none none none).exec ⟨d, [], []⟩ =
      (rebuildJob (cacheJob c sizes stamp version)).exec ⟨home, [], []⟩ := by
  rw [runRebuild, Action.exec_bind_of_ok (Action.exec_on .. |>.trans (by rw [hdirs])),
    Action.exec_bind_of_ok hchoose]
  simp only [nonempty, Option.filter_none, c.primarySourceDir_of_ne hversion]
  rw [Action.exec_bind_of_ok (Action.exec_ofExcept ..)]
  rfl

/-- A rebuild that goes well has made the directories of the home directory. -/
lemma exists_home_of_runRebuild {asked secondaryVersion sourceDir secondaryDir : Option String}
    {code : Nat} (h : (runRebuild c sizes stamp asked secondaryVersion sourceDir
      secondaryDir).exec console = (.ok code, after)) :
    ∃ home, c.ensureDirs.exec console.disk = (.ok (), home) := by
  rw [runRebuild, Action.exec_bind_eq_ok] at h
  obtain ⟨_, made, hdirs, -⟩ := h
  rw [Action.exec_on] at hdirs
  exact ⟨_, Prod.ext (Prod.mk.inj hdirs).1 rfl⟩

/-- A rebuild of a version from the cache that goes well: first the directories of the home
directory are made, and then the job is done. -/
structure Rebuilds (c : Config) (sizes : Index.Sizes) (stamp version : String) (d home e : Disk)
    (s : Index.Summary) : Prop where
  dirs : c.ensureDirs.exec d = (.ok (), home)
  root : home.isDirectory (cacheJob c sizes stamp version).primaryRoot = .ok true
  built : (cacheJob c sizes stamp version).run home = (.ok s, e)

/-- A rebuild that ends well has done the job, wherever the configured version has its sources. -/
lemma exists_rebuilds_of_run {ending : Ending} (hversion : version ≠ "")
    (henv : Config.ofEnvironment d.cwd env = .ok c)
    (hrun : (run env sizes stamp ["rebuild", "-v", version]).exec d = (.ok ending, e))
    (hexit : ending.exit = 0) : ∃ home s, Rebuilds c sizes stamp version d home e s := by
  rcases readCommand_rebuild_version version with hcommand | ⟨misused, hcommand, hcode⟩
  · obtain ⟨console, hend, rfl, -⟩ := exists_of_exit_eq_zero hcommand henv hrun hexit
    have hasked : Command.version? (.rebuild (some version) none none none) = some version := by
      simp [Command.version?, nonempty, hversion]
    rw [hasked, Option.getD_some, runCommand] at hend
    obtain ⟨home, hdirs⟩ := exists_home_of_runRebuild hend
    have hdone := exec_runRebuild_of_chosen (c := { c with version := version }) sizes stamp
      hversion hdirs (exec_chooseVersion_of_asked hversion _)
    rw [hdone] at hend
    obtain ⟨hroot, s, hbuilt⟩ := exists_run_of_exec_rebuildJob hend
    refine ⟨home, s, hdirs, hroot, ?_⟩
    rw [← hbuilt]
    exact ((cacheJob c sizes stamp version).run_of_version hversion version home).symm
  · simp only [run, hcommand, Action.exec_pure, Prod.mk.injEq, Except.ok.injEq] at hrun
    rw [← hrun.1, hcode] at hexit
    cases hexit

namespace Rebuilds

variable {home : Disk} {s : Index.Summary}

/-- After a rebuild, the home directory is there with the index of the version, and what was changed
lies below the directory of the index. -/
lemma exists_contents (h : Rebuilds c sizes stamp version d home e s) (hd : d.IsProper)
    (hcache : d.isDirectory c.cacheDir = .ok true) :
    ∃ k : Index.Contents, k.version = version ∧ k.Stored c e ∧ c.Furnished home e ∧
      d.ChangesOnly (k.Files (d.placeOf c.indexDir)) e ∧
      ∀ q, e.root.HasDirectory q → d.root.HasDirectory q ∨ d.placeOf c.indexDir <+: q := by
  obtain ⟨hhome, hchange, hmade⟩ := c.isHome_of_ensureDirs hd.toIsGrounded hcache h.dirs
  obtain ⟨k, hk, rfl, hstored⟩ := Index.Job.stored_of_run h.built
  have hfurnished : c.Furnished home ((k.write c).exec home).2 :=
    Config.Furnished.keeps_write k home ⟨hhome, hd.toIsGrounded.of_changesOnly hchange, .refl home⟩
  have hwritten := (k.exec_write c home).1
  rw [hchange.placeOf] at hwritten
  refine ⟨k, hk.version, hstored, hfurnished, ?_, fun q hq => hmade q (hfurnished.edits.made q hq)⟩
  exact (hchange.mono fun _ => False.elim).trans hwritten

end Rebuilds

/-! ### One after the other -/

/-- Nothing lies below both the cache and the index. -/
lemma not_below_index_and_cache (c : Config) (d : Disk) (rest : List String) :
    ¬ d.placeOf c.indexDir <+: d.placeOf c.cacheDir ++ rest := by
  rw [Config.indexDir_eq, Config.cacheDir_eq, Disk.placeOf_entry (by decide),
    Disk.placeOf_entry (by decide), List.append_assoc, List.prefix_append_right_inj]
  simp

/-- When a version is available and a rebuild that is asked for it ends well, a rebuild that is
asked for none afterwards chooses the same version from the manifest, whatever other versions are
available. It ends well too, and it leaves every directory and every file as it is, but for the time
in the manifest. A version is the name of a directory, which is never empty. -/
theorem rebuild_keeps_version {env : Environment} {sizes : Index.Sizes} {stamp version : String}
    {c : Config} {available : List String} {d d' : Disk} {ending : Ending} (hd : d.IsProper)
    (henv : Config.ofEnvironment d.cwd env = .ok c)
    (havailable : c.availableVersions d = .ok available) (hmem : version ∈ available)
    (hversion : version ≠ "")
    (hrun : (run env sizes stamp ["rebuild", "-v", version]).exec d = (.ok ending, d'))
    (hexit : ending.exit = 0) (later : String) :
    (chooseVersion c none).exec ⟨d', [], []⟩ = (.ok version, ⟨d', [], []⟩) ∧
      ∃ ending' lines e, (run env sizes later ["rebuild"]).exec d' = (.ok ending', e) ∧
        ending'.exit = 0 ∧ ending'.stdout = linesText (rebuildingLine version :: lines) ∧
        e.cwd = d'.cwd ∧ (∀ q, e.root.HasDirectory q ↔ d'.root.HasDirectory q) ∧
        (∀ q, q ≠ d'.placeOf c.manifestPath → e.root.dataAt? q = d'.root.dataAt? q) ∧
        (later = stamp → ∀ q, e.root.dataAt? q = d'.root.dataAt? q) ∧
        ∃ m : Manifest String, m.version = version ∧
          Index.loadManifest c d' = .ok (some (m.map .str)) ∧
          Index.loadManifest c e = .ok (some ({ m with generatedAt := later }.map .str)) := by
  have hne : available ≠ [] := List.ne_nil_of_mem hmem
  obtain ⟨names, hnames⟩ := Config.exists_names_of_available havailable hne
  have hcache := Disk.isDirectory_of_list hnames
  obtain ⟨home, s, hrebuilds⟩ := exists_rebuilds_of_run hversion henv hrun hexit
  obtain ⟨k, hk, hstored, hfurnished, hchange, hmade⟩ := hrebuilds.exists_contents hd hcache
  -- the version is in the manifest, and it is still available
  obtain ⟨kept, hkept, hsame⟩ := Config.availableVersions_kept hd havailable hne hchange
    (fun rest htouched => not_below_index_and_cache c d rest (k.files_below htouched))
    fun rest hrest => (hmade _ hrest).resolve_right (not_below_index_and_cache c d rest)
  have hchoose : (chooseVersion c none).exec ⟨d', [], []⟩ = (.ok version, ⟨d', [], []⟩) :=
    exec_chooseVersion_of_manifest [] [] hkept hstored.serves.manifest
      (congrArg Json.str hk) ((hsame version).mpr hmem)
  -- the sources are found again and built again
  have hproper := Config.isProper_of_ensureDirs hd hrebuilds.dirs
  obtain ⟨units, hread, -⟩ := Index.Job.exists_readings hrebuilds.built
  have hfinds := (Index.Job.findsRoots_of_readings hread).of_made hfurnished.edits.cwd
    hfurnished.edits.made
  obtain ⟨k', e, hk', hagain, hrewritten⟩ :=
    Index.Job.exists_run_again hproper hrebuilds.built hfinds later
  have hroot := Disk.isDirectory_of_changesOnly hfurnished.edits.toChangesOnly hrebuilds.root
  obtain ⟨lines, hlines⟩ := exec_rebuildJob (j := cacheJob c sizes later version) hroot hagain
  have hdone := exec_runRebuild_of_chosen sizes later hversion hfurnished.home.exec_ensureDirs
    hchoose
  rw [hlines] at hdone
  have henv' : Config.ofEnvironment d'.cwd env = .ok c := by rwa [hchange.cwd]
  refine ⟨hchoose, ⟨0, linesText (rebuildingLine version :: lines), "", []⟩, lines, e, ?_, rfl, rfl,
    hrewritten.edits.cwd, fun q => ⟨hrewritten.edits.made q, hrewritten.edits.directories q⟩,
    fun _ => hrewritten.dataAt?_eq, fun hstamp => ?_, k'.manifest, hk'.version, ?_, ?_⟩
  · have hending := exec_run sizes later readCommand_rebuild henv'
    simp only [Command.version?, nonempty, Option.filter_none, Option.getD_none,
      runCommand] at hending
    rw [hending, hdone]
    rfl
  · exact hrewritten.dataAt?_eq_of_stamp (hstamp.trans hk'.generatedAt.symm)
  · exact Index.loadManifest_of_stores _ k' hrewritten.before
  · exact Index.loadManifest_of_stores _ (k'.restamp later) hrewritten.after

def typeDirectory : Node :=
  .directory [("B.java", .file 0 (.bytes "package a;\nclass B \x7b\x7d".toUTF8))]

/-- A cache of two versions, the second of which has a type. -/
def twoVersions : Disk where
  root := .directory [("home", .directory [("cache", .directory
    [("1", .directory [("client", .directory [])]), ("2", .directory [("client", typeDirectory)])])])]
  cwd := []
  nextSerial := 1

def otherEnvironment : Environment := ⟨[("MCDEV_HOME", "/home"), ("MCDEV_VERSION", "3")], []⟩

def otherConfig : Config := { plainConfig with version := "3" }

lemma isProper_twoVersions : twoVersions.IsProper where
  toIsGrounded := ⟨by decide, by decide, rfl, ⟨_, rfl⟩⟩
  tree :=
    have hsecond : (Node.directory [("2", .directory [("client", typeDirectory)])]).Proper :=
      .single (by decide) (.single (by decide) (.single (by decide) (.file ..)))
    .single (by decide) (.single (by decide)
      (hsecond.cons (by decide) (by decide) (.single (by decide) .empty)))

set_option maxRecDepth 100000 in
theorem rebuild_keeps_version_two : ∃ d' lines e ending shard,
    ((run otherEnvironment .standard "now" ["rebuild", "-v", "2"]).exec twoVersions).2 = d' ∧
      d'.root.dataAt? ["home", "index", "primary", "a.json"] = some shard ∧
      (run otherEnvironment .standard "later" ["rebuild"]).exec d' = (.ok ending, e) ∧
      ending.exit = 0 ∧ ending.stdout = linesText (rebuildingLine "2" :: lines) ∧
      e.root.dataAt? ["home", "index", "primary", "a.json"] = some shard ∧
      ∀ q, q ≠ ["home", "index", "manifest.json"] → e.root.dataAt? q = d'.root.dataAt? q := by
  have henv : Config.ofEnvironment twoVersions.cwd otherEnvironment = .ok otherConfig :=
    eq_ok_of_toOption (by decide +kernel)
  have havailable : otherConfig.availableVersions twoVersions =
      .ok (Config.sortTexts ["1", "2"]) := rfl
  have hmem : "2" ∈ Config.sortTexts ["1", "2"] := Config.mem_sortTexts.mpr (by decide)
  have hdone : ((run otherEnvironment .standard "now" ["rebuild", "-v", "2"]).exec
      twoVersions).1.toOption.map (·.exit) = some 0 ∧
        (((run otherEnvironment .standard "now" ["rebuild", "-v", "2"]).exec
          twoVersions).2.root.dataAt? ["home", "index", "primary", "a.json"]).isSome = true := by
    decide +kernel
  obtain ⟨first, hrun, hzero⟩ := exists_ending hdone.1
  obtain ⟨shard, hshard⟩ := Option.isSome_iff_exists.mp hdone.2
  obtain ⟨-, ending, lines, e, hagain, hzero', hout, -, -, hfiles, -⟩ :=
    rebuild_keeps_version isProper_twoVersions henv havailable hmem (by decide) hrun hzero "later"
  exact ⟨_, lines, e, ending, shard, rfl, hshard, hagain, hzero', hout,
    (hfiles _ (by decide)).trans hshard, fun q hq => hfiles q hq⟩

end CommandLine

end JavaAtlas

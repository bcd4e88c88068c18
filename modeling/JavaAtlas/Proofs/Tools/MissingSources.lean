import JavaAtlas.Proofs.CommandLine.Commands
import JavaAtlas.Proofs.Index.History
import JavaAtlas.Proofs.Tools.Steps

/-!
# Versions without sources

The index of a version can be asked for on the command line, by a tool, and by the first question
to a service. On the command line and by a question, a version whose sources are missing is refused
before anything is written. The tool does not look: it builds the index of no sources at all, in
place of the one that was there.
-/

namespace JavaAtlas

namespace Index.Job

variable {j : Job} {d d' : Disk} {s : Summary}

/-- A build from a root that is not a directory lists no primary packages. -/
lemma loadManifest_of_missing (hrun : j.run d = (.ok s, d'))
    (hroot : d.isDirectory (j.primaryRoot.resolve d.cwd) ≠ .ok true) :
    ∃ m, loadManifest j.config d' = .ok (some m) ∧ m.version = .str j.version ∧ m.primary = [] := by
  obtain ⟨k, hk, -, hstored⟩ := stored_of_run hrun
  have hnone : k.packages .primary = [] := by
    have hpackages := hk.packages .primary
    rw [packages, units, files, root, sourceFilesOf, sourceFiles] at hpackages
    rcases hdir : d.isDirectory (j.primaryRoot.resolve d.cwd) with e | _ | _
    · simp [hdir] at hpackages
    · simp only [hdir, ok_bind, Bool.false_eq_true, if_false, pure_eq_ok, List.mapM_nil, map_ok,
        Except.ok.injEq] at hpackages
      exact hpackages.symm
    · exact absurd hdir hroot
  refine ⟨_, hstored.serves.manifest, congrArg Json.str hk.version, ?_⟩
  simp [Contents.manifest, Manifest.map, hnone, Packages.names, Config.sortTexts]

end Index.Job

namespace Tools

open Index CommandLine

variable {version : String} {source : Path}

lemma filter_of_ne (hversion : version ≠ "") : (some version).filter (· != "") = some version := by
  rw [Option.filter_some, if_pos (by simpa using hversion)]

/-- The command line refuses a version that has no sources when the home directories are made. -/
lemma exec_run_of_missing (sizes : Sizes) (generatedAt : String) {env : Environment}
    {args : List String} {secondaryVersion secondaryDir : Option String} {c : Config} {d : Disk}
    (hversion : version ≠ "")
    (hcommand : readCommand args = .ok (.rebuild (some version) secondaryVersion none secondaryDir))
    (henv : Config.ofEnvironment d.cwd env = .ok c)
    (hmissing : (c.ensureDirs.exec d).2.isDirectory (sourcesOf c version) ≠ .ok true) :
    ∃ ending e, (run env sizes generatedAt args).exec d = (.ok ending, e) ∧ ending.exit = 1 ∧
      d.ChangesOnly (fun _ => False) e := by
  have hasked : (Command.rebuild (some version) secondaryVersion none secondaryDir).version? =
      some version := filter_of_ne hversion
  have hrun := exec_run sizes generatedAt hcommand henv
  obtain ⟨hcode, hchange⟩ := exec_runRebuild_of_missing sizes generatedAt ⟨d, [], []⟩
    secondaryVersion secondaryDir hversion
    (primarySourceDir_of_ne { c with version := version } hversion) hmissing
  simp only [hasked, Option.getD_some, runCommand] at hrun
  exact ⟨_, _, hrun, exit_endingOf hcode, hchange⟩

/-- The tool that builds the index runs the job of its versions. -/
lemma exec_callTool_rebuild (amb : Ambient) {tool : String} {args : Json}
    {secondaryVersion : Option String} (hrequest : readRequest tool args =
      .ok (.rebuild (.str version) (Json.ofText? secondaryVersion))) (s : Service) :
    let job := cacheJob s.config amb (some version) secondaryVersion
    ((callTool amb tool args).exec s).1 = .ok (answerBuild (job.run s.disk).1) ∧
      ((callTool amb tool args).exec s).2.disk = (job.run s.disk).2 := by
  intro job
  obtain ⟨phase, error, hrun⟩ := exec_answer_rebuild amb (Json.ofText? (some version))
    (Json.ofText? secondaryVersion) s
  rw [exec_buildFromCache] at hrun
  rw [exec_callTool hrequest]
  change (answer amb (.rebuild (.str version) (Json.ofText? secondaryVersion))).exec s = _ at hrun
  rw [hrun]
  exact ⟨rfl, rfl⟩

/-- What the tool does where the primary sources are missing: it fails, and has changed nothing or
left no manifest; or it succeeds, and the manifest lists no primary packages. -/
lemma exec_callTool_of_missing_root (amb : Ambient) {tool : String} {args : Json}
    {secondaryVersion : Option String} (hversion : version ≠ "") (hrequest : readRequest tool args =
      .ok (.rebuild (.str version) (Json.ofText? secondaryVersion))) (s : Service)
    (hroot : s.disk.isDirectory ((sourcesOf s.config version).resolve s.disk.cwd) ≠ .ok true) :
    let done := (callTool amb tool args).exec s
    (∃ e : Failure, done.1 = .ok (failed e.message) ∧ (s.disk.InReach s.config.manifestPath →
        (∀ q, done.2.disk.root.dataAt? q = s.disk.root.dataAt? q) ∨
          done.2.disk.root.dataAt? (s.disk.placeOf s.config.manifestPath) = none)) ∨
      ∃ (summary : Summary) (m : Manifest Json), done.1 = .ok (succeeded summary.members) ∧
        loadManifest s.config done.2.disk = .ok (some m) ∧ m.version = .str version ∧
          m.primary = [] := by
  intro done
  have hjob : (cacheJob s.config amb (some version) secondaryVersion).version = version ∧
      (cacheJob s.config amb (some version) secondaryVersion).primaryRoot =
        sourcesOf s.config version := by
    simp only [cacheJob, filter_of_ne hversion, Option.getD_some, and_self]
  obtain ⟨hanswer, hdisk⟩ := exec_callTool_rebuild amb hrequest s
  match hrun : (cacheJob s.config amb (some version) secondaryVersion).run s.disk with
  | (.error e, d) =>
    rw [hrun] at hanswer hdisk
    refine Or.inl ⟨e, hanswer, fun hreach => ?_⟩
    rw [hdisk]
    exact (Job.clean_iff hrun).mpr (Or.inr hreach)
  | (.ok summary, d) =>
    rw [hrun] at hanswer hdisk
    obtain ⟨m, hm, hversion', hprimary⟩ := Job.loadManifest_of_missing hrun (by rwa [hjob.2])
    rw [hjob.1] at hversion'
    change _ = d at hdisk
    rw [← hdisk] at hm
    exact Or.inr ⟨summary, m, hanswer, hm, hversion', hprimary⟩

/-- A version whose sources are missing is refused on the command line and by a question, without
a change to any file. The tool that builds the index does not refuse it: where it succeeds, a
manifest without primary packages has taken the place of the one that was there. -/
theorem missing_sources_refused (hversion : version ≠ "") :
    (∀ env sizes generatedAt args secondaryVersion secondaryDir c d,
      readCommand args = .ok (.rebuild (some version) secondaryVersion none secondaryDir) →
      Config.ofEnvironment d.cwd env = .ok c →
      (c.ensureDirs.exec d).2.isDirectory (sourcesOf c version) ≠ .ok true →
      ∃ ending e, (run env sizes generatedAt args).exec d = (.ok ending, e) ∧ ending.exit = 1 ∧
        d.ChangesOnly (fun _ => False) e) ∧
    (∀ amb tool args q (s : Service), readRequest tool args = .ok (.query q) →
      s.config.version = version → Store.isReady s.config s.disk ≠ .ok true →
      s.disk.isDirectory (sourcesOf s.config version) ≠ .ok true →
      ∃ e, ((callTool amb tool args).exec s).1 = .ok (unavailable e) ∧
        ((callTool amb tool args).exec s).2.disk = s.disk) ∧
    (∀ amb tool args secondaryVersion (s : Service), readRequest tool args =
        .ok (.rebuild (.str version) (Json.ofText? secondaryVersion)) →
      s.disk.isDirectory ((sourcesOf s.config version).resolve s.disk.cwd) ≠ .ok true →
      let done := (callTool amb tool args).exec s
      (∃ e : Failure, done.1 = .ok (failed e.message) ∧ (s.disk.InReach s.config.manifestPath →
          (∀ q, done.2.disk.root.dataAt? q = s.disk.root.dataAt? q) ∨
            done.2.disk.root.dataAt? (s.disk.placeOf s.config.manifestPath) = none)) ∨
        ∃ (summary : Summary) (m : Manifest Json), done.1 = .ok (succeeded summary.members) ∧
          loadManifest s.config done.2.disk = .ok (some m) ∧ m.version = .str version ∧
            m.primary = []) := by
  refine ⟨?_, ?_, fun amb tool args _ s hrequest hroot =>
    exec_callTool_of_missing_root amb hversion hrequest s hroot⟩
  · intro env sizes generatedAt args secondaryVersion secondaryDir c d hcommand henv hmissing
    exact exec_run_of_missing sizes generatedAt hversion hcommand henv hmissing
  · intro amb tool args q s hq hconfigured hready hsource
    obtain ⟨outcome, store, hensures, herror, -⟩ := exists_ensures amb hq s
    generalize ((callTool amb tool args).exec s).1 = r,
      ((callTool amb tool args).exec s).2.disk = left at hensures herror ⊢
    cases hensures with
    | ready h => exact absurd h hready
    | refused e => exact ⟨e, herror e rfl, rfl⟩
    | broken _ h | built _ h =>
      rw [Service.sourceDir, hconfigured] at h
      exact absurd h hsource

/-- An index of one type, and no sources. -/
def sourcelessDisk : Disk where
  root := .directory [("home", .directory [("index", .directory
    [("manifest.json", .file 0 (.bytes
      "\x7b\"corpusVersion\": \"1\", \"packages\": \x7b\"primary\": [\"b\"]\x7d\x7d".toUTF8)),
    ("primary", .directory [("b.json", .file 1 (.bytes
      "\x7b\"package\": \"b\", \"classes\": \x7b\"A\": \x7b\x7d\x7d\x7d".toUTF8))])])])]
  cwd := []
  nextSerial := 2

def homeEnvironment : Environment := ⟨[("MCDEV_HOME", "/home")], []⟩

def homeConfig : Config := { plainConfig with version := Config.defaultVersion }

/-- The tool that builds the index, called with a version that has no sources. -/
def sourcelessRebuild : Except Failure Json × Service :=
  (callTool plainAmbient "mc_index_rebuild" (.obj [("version", .str "2")])).exec
    (.start plainConfig sourcelessDisk)

lemma ne_true_of_toOption {r : Except Failure Bool} (h : r.toOption = some false) : r ≠ .ok true := by
  rw [eq_ok_of_toOption h]
  simp

set_option maxRecDepth 100000 in
theorem missing_sources_refused_at_home :
    (∃ ending e, (run homeEnvironment .standard "now" ["rebuild", "-v", "2"]).exec sourcelessDisk =
        (.ok ending, e) ∧ ending.exit = 1 ∧ sourcelessDisk.ChangesOnly (fun _ => False) e) ∧
      (∃ e, ((callTool plainAmbient "mc_list_packages" (.obj [])).exec
          (.start { plainConfig with version := "2" } ⟨.directory [], [], 0, []⟩)).1 =
        .ok (unavailable e)) ∧
      ((∃ e : Failure, sourcelessRebuild.1 = .ok (failed e.message)) ∨
        ∃ m, loadManifest plainConfig sourcelessRebuild.2.disk = .ok (some m) ∧
          m.version = .str "2" ∧ m.primary = []) := by
  have hversion : "2" ≠ "" := by decide
  refine ⟨?_, ?_, ?_⟩
  · have hcommand : readCommand ["rebuild", "-v", "2"] = .ok (.rebuild (some "2") none none none) :=
      eq_ok_of_toOption (by decide +kernel)
    have henv : Config.ofEnvironment sourcelessDisk.cwd homeEnvironment = .ok homeConfig :=
      eq_ok_of_toOption (by decide +kernel)
    have hmissing : (homeConfig.ensureDirs.exec sourcelessDisk).2.isDirectory
        (sourcesOf homeConfig "2") ≠ .ok true :=
      ne_true_of_toOption (by decide +kernel)
    exact (missing_sources_refused hversion).1 _ _ _ _ _ _ _ _ hcommand henv hmissing
  · have hq : readRequest "mc_list_packages" (.obj []) = .ok (.query (.listPackages none)) := rfl
    obtain ⟨e, he, -⟩ := (missing_sources_refused hversion).2.1 plainAmbient _ _ _
      (.start { plainConfig with version := "2" } ⟨.directory [], [], 0, []⟩) hq rfl
      (ne_true_of_toOption (by decide +kernel)) (ne_true_of_toOption (by decide +kernel))
    exact ⟨e, he⟩
  · have hrequest : readRequest "mc_index_rebuild" (.obj [("version", .str "2")]) =
        .ok (.rebuild (.str "2") (Json.ofText? none)) := rfl
    have hroot : sourcelessDisk.isDirectory ((sourcesOf plainConfig "2").resolve
        sourcelessDisk.cwd) ≠ .ok true := ne_true_of_toOption (by decide +kernel)
    rcases (missing_sources_refused hversion).2.2 plainAmbient _ _ _
      (.start plainConfig sourcelessDisk) hrequest hroot with ⟨e, he, -⟩ | ⟨_, m, -, hm⟩
    · exact Or.inl ⟨e, he⟩
    · exact Or.inr ⟨m, hm⟩

def listedOn (d : Disk) : Option (String × List String) :=
  ((loadManifest plainConfig d).toOption.bind id).map fun m =>
    (m.version.display, m.primary.map Json.display)

set_option maxRecDepth 100000 in
/-- The tool reports success for a version without sources, and the index of the other version is
gone. -/
theorem missing_sources_replaced_index :
    sourcelessDisk.isDirectory (sourcesOf plainConfig "2") ≠ .ok true ∧
      tellsSuccess sourcelessRebuild.1 = true ∧
      listedOn sourcelessDisk = some ("1", ["b"]) ∧
      listedOn sourcelessRebuild.2.disk = some ("2", []) := by
  refine ⟨ne_true_of_toOption (by decide +kernel), ?_⟩
  -- what the tool did is evaluated once for what it said and what is listed
  decide +kernel

end Tools

end JavaAtlas

import JavaAtlas.Proofs.CallGraph.Placed
import JavaAtlas.Proofs.CommandLine.Commands
import JavaAtlas.Proofs.Index.Interrupted

/-!
# The status after an ingest

The status counts the calls in the database of the version that the manifest names, and an ingest
makes the database of the configured version. What was ingested is counted where both have one
place.
-/

namespace JavaAtlas

namespace Path

/-- A path that begins with a slash. -/
def IsRooted (p : Path) : Prop := p.root.toList.head? = some '/'

lemma IsRooted.div {base : Path} (h : base.IsRooted) (s : String) : (base / s).IsRooted := by
  change (base.join (parse s)).IsRooted
  rw [join]
  split
  · next habsolute =>
    simp only [isAbsolute, parse] at habsolute
    simp only [IsRooted, parse]
    split <;> simp_all
  · exact h

lemma IsRooted.isAbsolute {p : Path} (h : p.IsRooted) : p.isAbsolute = true := by
  rw [Path.isAbsolute, bne_iff_ne]
  rintro hempty
  simp [IsRooted, hempty] at h

lemma IsRooted.not_isLocator {p : Path} (h : p.IsRooted) : ¬ CallGraph.IsLocator p := by
  intro hlocator
  obtain ⟨rest, hroot⟩ : ∃ rest, p.root.toList = '/' :: rest := by
    cases hchars : p.root.toList with
    | nil => simp [IsRooted, hchars] at h
    | cons c rest => exact ⟨rest, by simpa [IsRooted, hchars] using h⟩
  have hne : p.root ≠ "" := bne_iff_ne.mp h.isAbsolute
  rw [CallGraph.IsLocator, text, if_neg (by simp [hne]), String.toList_append, hroot] at hlocator
  obtain ⟨more, hmore⟩ := hlocator
  cases hmore

end Path

namespace Config

variable {c : Config} {env : Environment} {version : Json} {db : Path} {d : Disk}

/-- A database lies in a directory of its version. -/
lemma exists_callGraphPath (h : c.callGraphPath version = .ok db) :
    ∃ v : String, db = c.cacheDir / v / "callgraph" / "callgraph.db" := by
  rw [callGraphPath, versionDir] at h
  split at h
  · exact ⟨c.version, (Except.ok.inj h).symm⟩
  · next v _ => exact ⟨v, (Except.ok.inj h).symm⟩
  · simp [Except.map] at h

lemma callGraphPath_null (c : Config) : c.callGraphPath .null = .ok c.ownCallGraphPath := rfl

lemma parts_callGraphPath (h : c.callGraphPath version = .ok db) :
    ∃ front, db.parts = front ++ ["callgraph"] ++ ["callgraph.db"] := by
  obtain ⟨v, rfl⟩ := exists_callGraphPath h
  exact ⟨(c.cacheDir / v).parts, rfl⟩

lemma isNamed_callGraphPath (h : c.callGraphPath version = .ok db) : db.IsNamed := by
  obtain ⟨front, hparts⟩ := parts_callGraphPath h
  exact ⟨by simp [hparts], by simp [Path.name, hparts]⟩

lemma name_callGraphPath (h : c.callGraphPath version = .ok db) : db.name = "callgraph.db" := by
  obtain ⟨front, hparts⟩ := parts_callGraphPath h
  simp [Path.name, hparts]

/-- With the home directory of an environment, no database is named by a locator. -/
lemma isRooted_callGraphPath {cwd : List String} (henv : ofEnvironment cwd env = .ok c)
    (h : c.callGraphPath version = .ok db) : db.IsRooted := by
  obtain ⟨v, rfl⟩ := exists_callGraphPath h
  obtain ⟨home, hhome⟩ := exists_home_resolve henv
  have hroot : c.home.IsRooted := by simp [Path.IsRooted, hhome, Path.resolve]
  exact (((hroot.div _).div _).div _).div _

end Config

namespace Index

/-- A manifest that is not touched is loaded again. -/
lemma loadManifest_of_changesOnly {c : Config} {d e : Disk} {m : Manifest Json}
    {touched : List String → Prop} (hchange : d.ChangesOnly touched e)
    (huntouched : ¬ touched (d.placeOf c.manifestPath)) (h : loadManifest c d = .ok (some m)) :
    loadManifest c e = .ok (some m) := by
  obtain ⟨v, hread, -⟩ := loadManifest_eq_some c h
  obtain ⟨data, -, hfile, -⟩ := readJson_eq_some hread
  have hp := c.isEntry_manifestPath.toIsNamed
  obtain ⟨hfits, hreach, hdata⟩ := (Disk.fileAt_eq_ok_iff hp).mp hfile
  have hlater : e.fileAt c.manifestPath = .ok data := by
    rw [Disk.fileAt_eq_ok_iff hp, hchange.placeOf, hchange.files _ huntouched]
    exact ⟨hfits, hchange.reaches hreach, hdata⟩
  rw [loadManifest, readJson_congr hp hfile hlater]
  exact h

end Index

namespace CommandLine

open CallGraph

variable {env : Environment} {args : List String} {c : Config} {d e : Disk} {m : Manifest Json}

/-! ### What the status writes -/

def indexLines (m : Manifest Json) : List String :=
  ["Status: Initialized", "  Version: " ++ m.version.display] ++
    ((m.secondaryVersion.bind Json.given?).map fun version =>
      "  Secondary version: " ++ version.display).toList ++
    ["  Primary packages: " ++ toString m.primary.length,
      "  Secondary packages: " ++ toString m.secondary.length,
      "  Index generated: " ++ m.generatedAt.display]

/-- The line about a call graph, with the number of its calls if there is one. -/
def graphLine : Option Nat → String
  | some count => "  Callgraph: " ++ toString count ++ " call references"
  | none => "  Callgraph: not ingested (run `" ++ programName ++ " ingest <dump>`)"

/-- How the status ends when it tells about an index and its call graph. -/
def told (m : Manifest Json) (count : Option Nat) : Ending :=
  ⟨0, linesText (indexLines m ++ [graphLine count]), "", []⟩

def tellGraph (c : Config) (version : Json) : Action Console Nat := do
  let db ← Action.ofExcept (c.callGraphPath version)
  let (stats, _) := (Store.stats (← get).disk).run (.fresh db)
  match ← Action.ofExcept stats with
  | some stats => Console.say (graphLine (some stats.calls))
  | none => Console.say (graphLine none)
  return 0

def graphStats (c : Config) (d : Disk) (version : Json) : Except Failure (Option Stats) :=
  c.callGraphPath version >>= fun db => ((Store.stats d).exec (.fresh db)).1

lemma exec_tellGraph (c : Config) (version : Json) (console : Console) :
    (tellGraph c version).exec console = match graphStats c console.disk version with
      | .ok stats =>
        (.ok 0, { console with out := console.out ++ [graphLine (stats.map (·.calls))] })
      | .error failure => (.error failure, console) := by
  rw [tellGraph, graphStats]
  match c.callGraphPath version with
  | .error failure => rfl
  | .ok db =>
    rw [Action.exec_bind_of_ok (Action.exec_ofExcept ..),
      Action.exec_bind_of_ok (Action.exec_get ..), ok_bind]
    change (Action.ofExcept ((Store.stats console.disk).exec (.fresh db)).1 >>= _).exec _ = _
    match ((Store.stats console.disk).exec (.fresh db)).1 with
    | .error failure | .ok none | .ok (some stats) => rfl

/-- A call graph that is not there has a database that is not there. -/
lemma exists_of_graphStats_eq_none {version : Json} (h : graphStats c d version = .ok none) :
    ∃ db, c.callGraphPath version = .ok db ∧ d.doesExist db = .ok false := by
  rw [graphStats] at h
  match hdb : c.callGraphPath version with
  | .error failure => simp [hdb] at h
  | .ok db =>
    rw [hdb, ok_bind] at h
    exact ⟨db, rfl, stats_eq_none_iff.mp h⟩

/-- The status of an index is told line by line, that of its call graph last. -/
lemma exec_runStatus (hm : Index.loadManifest c d = .ok (some m)) :
    (runStatus c).exec ⟨d, [], []⟩ = (tellGraph c m.version).exec ⟨d, indexLines m, []⟩ := by
  rw [runStatus, Action.exec_bind_of_ok (Action.exec_get ..), hm,
    Action.exec_bind_of_ok (Action.exec_ofExcept ..)]
  simp only
  rw [Action.exec_bind_of_ok (exec_say ..), Action.exec_bind_of_ok (exec_say ..)]
  simp only [indexLines]
  match m.secondaryVersion.bind Json.given? with
  | none | some version => rfl

lemma graphLine_injective : Function.Injective graphLine := by
  have hne : ∀ count, graphLine (some count) ≠ graphLine none := by
    intro count
    exact Path.append_ne_of_getLast (c := 's') (by decide) (by decide)
  intro a b h
  match a, b with
  | none, none => rfl
  | none, some b => exact absurd h.symm (hne b)
  | some a, none => exact absurd h (hne a)
  | some a, some b =>
    have hline : "  Callgraph: " ++ Nat.repr a ++ " call references" =
        "  Callgraph: " ++ Nat.repr b ++ " call references" := h
    rw [String.append_left_inj, String.append_right_inj] at hline
    have hdigits := congrArg (fun s => Text.digitsValue s.toList) hline
    simpa [Nat.toList_repr, Text.digitsValue_toDigits] using hdigits

/-- What the status tells of a call graph is read from its lines. -/
lemma told_inj {a b : Option Nat} : told m a = told m b ↔ a = b := by
  constructor
  · intro h
    have hlines := congrArg Ending.stdout h
    simp only [told, linesText, List.map_append, List.map_cons, List.map_nil, String.join_append,
      String.join_cons, String.join_nil, String.append_left_inj, String.append_right_inj] at hlines
    exact graphLine_injective hlines
  · rintro rfl
    rfl

/-- The status tells the number of calls that a fresh store counts, and whether there are any. -/
lemma exec_status_iff {sizes : Index.Sizes} {generatedAt : String} {count : Option Nat}
    (hcommand : readCommand args = .ok .status) (henv : Config.ofEnvironment d.cwd env = .ok c)
    (hm : Index.loadManifest c d = .ok (some m)) :
    (run env sizes generatedAt args).exec d = (.ok (told m count), d) ↔
      ∃ stats, graphStats c d m.version = .ok stats ∧ stats.map (·.calls) = count := by
  have hrun := exec_run sizes generatedAt hcommand henv
  simp only [Command.version?, Option.getD_none, runCommand] at hrun
  rw [hrun, exec_runStatus hm, exec_tellGraph]
  match graphStats c d m.version with
  | .error failure => simp [endingOf, told]
  | .ok stats =>
    have hending : endingOf .status (.ok 0, ⟨d, indexLines m ++ [graphLine (stats.map (·.calls))],
        []⟩) = told m (stats.map (·.calls)) := rfl
    simp [hending, told_inj]

lemma exec_status_some_iff (sizes : Index.Sizes) (generatedAt : String) {db : Path}
    (hcommand : readCommand args = .ok .status) (henv : Config.ofEnvironment d.cwd env = .ok c)
    (hm : Index.loadManifest c d = .ok (some m)) (hdb : c.callGraphPath m.version = .ok db)
    (k : Nat) :
    (run env sizes generatedAt args).exec d = (.ok (told m (some k)), d) ↔
      ∃ stats, ((Store.stats d).exec (.fresh db)).1 = .ok (some stats) ∧ stats.calls = k := by
  rw [exec_status_iff hcommand henv hm, graphStats, hdb, ok_bind]
  constructor
  · rintro ⟨found, hfound, hk⟩
    obtain ⟨stats, rfl, rfl⟩ := Option.map_eq_some_iff.mp hk
    exact ⟨stats, hfound, rfl⟩
  · rintro ⟨stats, hstats, rfl⟩
    exact ⟨some stats, hstats, rfl⟩

/-! ### What an ingest writes -/

def readyLine (count : Nat) : String :=
  "Callgraph database ready: " ++ toString count ++ " call references"

/-- Tell how many calls were entered, and the counts of their database. -/
def tellReady (count : Nat) (stats : Option Stats) : Action Console Nat := do
  Console.say (readyLine count)
  match stats with
  | some stats =>
    Console.say ("  Distinct callers: " ++ toString stats.callers)
    Console.say ("  Distinct callees: " ++ toString stats.callees)
  | none => pure ()
  return 0

lemma exec_tellReady {count : Nat} {stats : Option Stats} {console after : Console}
    (h : (tellReady count stats).exec console = (.ok 0, after)) :
    after.disk = console.disk ∧ readyLine count ∈ after.out := by
  rw [tellReady, Action.exec_bind_of_ok (exec_say ..)] at h
  generalize readyLine count = line at h ⊢
  match stats with
  | none =>
    cases h
    exact ⟨rfl, List.mem_concat_self⟩
  | some stats =>
    simp only at h
    rw [Action.exec_bind_of_ok (exec_say ..), Action.exec_bind_of_ok (exec_say ..)] at h
    cases h
    exact ⟨rfl, List.mem_append_left _ (List.mem_append_left _ List.mem_concat_self)⟩

/-- The end of an ingest, when there is a dump. -/
def ingestAndTell (sizes : Index.Sizes) (path db : Path) : Action Console Nat := do
  let count ← Console.working (ingest sizes.batch path db)
  let (stats, _) := (Store.stats (← get).disk).run (.fresh db)
  let stats ← Action.ofExcept stats
  tellReady count stats

lemma exists_of_exec_ingestAndTell {sizes : Index.Sizes} {path db : Path} {console after : Console}
    (h : (ingestAndTell sizes path db).exec console = (.ok 0, after)) :
    ∃ n w stats, (ingest sizes.batch path db).exec (.ofDisk console.disk) = (.ok n, w) ∧
      ((Store.stats w.disk).exec (.fresh db)).1 = .ok stats ∧ w.disk = after.disk ∧
      readyLine n ∈ after.out := by
  rw [ingestAndTell, Action.exec_bind_eq_ok] at h
  obtain ⟨n, worked, hwork, h⟩ := h
  obtain ⟨w, hmade, hdisk⟩ := exists_of_exec_working hwork
  rw [Action.exec_bind_of_ok (Action.exec_get ..)] at h
  have hrest : (Action.ofExcept ((Store.stats worked.disk).exec (.fresh db)).1 >>= fun stats =>
      tellReady n stats).exec worked = (.ok 0, after) := h
  rw [Action.exec_bind_eq_ok] at hrest
  obtain ⟨stats, counted, hstats, hrest⟩ := hrest
  rw [Action.exec_ofExcept, Prod.mk.injEq] at hstats
  obtain ⟨hstats, rfl⟩ := hstats
  obtain ⟨hafter, hready⟩ := exec_tellReady hrest
  exact ⟨n, w, stats, hmade, by rw [hdisk, hstats], hdisk.trans hafter.symm, hready⟩

/-- An ingest of a dump into the database of the configured version that goes well, and the counts
of that database afterwards. -/
structure Ingests (c : Config) (env : Environment) (sizes : Index.Sizes) (dump : String) (d : Disk)
    (path : Path) (n : Nat) (w : Workspace) (stats : Option Stats) : Prop where
  expanded : Config.expandUser env (Path.parse dump) = .ok path
  made : (ingest sizes.batch path c.ownCallGraphPath).exec (.ofDisk d) = (.ok n, w)
  counted : ((Store.stats w.disk).exec (.fresh c.ownCallGraphPath)).1 = .ok stats

/-- An ingest that ends well tells how many calls were entered. -/
lemma exists_ingests_of_runIngest {sizes : Index.Sizes} {dump : String} {console : Console}
    (h : (runIngest c env sizes dump none).exec ⟨d, [], []⟩ = (.ok 0, console)) :
    ∃ path n w stats, Ingests c env sizes dump d path n w stats ∧ w.disk = console.disk ∧
      readyLine n ∈ console.out := by
  rw [runIngest, Action.exec_bind_eq_ok] at h
  obtain ⟨path, console₁, hpath, h⟩ := h
  rw [Action.exec_ofExcept, Prod.mk.injEq] at hpath
  obtain ⟨hpath, rfl⟩ := hpath
  rw [Action.exec_bind_of_ok (Action.exec_get ..)] at h
  match hfile : d.isFile path with
  | .error failure =>
    rw [hfile, Action.exec_bind_of_error (Action.exec_ofExcept ..)] at h
    cases h
  | .ok false =>
    rw [hfile, Action.exec_bind_of_ok (Action.exec_ofExcept ..)] at h
    cases h
  | .ok true =>
    rw [hfile, Action.exec_bind_of_ok (Action.exec_ofExcept ..)] at h
    simp only [if_true, Json.ofText?, Config.callGraphPath_null] at h
    rw [Action.exec_bind_of_ok (Action.exec_ofExcept ..)] at h
    have hend : (ingestAndTell sizes path c.ownCallGraphPath).exec ⟨d, [], []⟩ =
      (.ok 0, console) := h
    obtain ⟨n, w, stats, hmade, hstats, hdisk, hready⟩ := exists_of_exec_ingestAndTell hend
    exact ⟨path, n, w, stats, ⟨hpath, hmade, hstats⟩, hdisk, hready⟩

/-- The program that ends an ingest well writes how many calls were entered. -/
lemma exists_ingests_of_run {sizes : Index.Sizes} {generatedAt dump : String} {ending : Ending}
    (henv : Config.ofEnvironment d.cwd env = .ok c)
    (hcommand : readCommand args = .ok (.ingest dump none))
    (hrun : (run env sizes generatedAt args).exec d = (.ok ending, e)) (hexit : ending.exit = 0) :
    ∃ path n w stats lines, Ingests c env sizes dump d path n w stats ∧ w.disk = e ∧
      ending.stdout = linesText lines ∧ readyLine n ∈ lines := by
  obtain ⟨console, hend, hdisk, hout⟩ := exists_of_exit_eq_zero hcommand henv hrun hexit
  obtain ⟨path, n, w, stats, hingests, hmade, hready⟩ := exists_ingests_of_runIngest hend
  exact ⟨path, n, w, stats, console.out, hingests, hmade.trans hdisk, hout, hready⟩

/-! ### One after the other -/

section Counted

variable {db own : Path} {calls : List Call}

/-- A database is also found by another path to its place that does not lead up. -/
lemma holds_of_placeOf_eq (he : e.IsGrounded) (hown : Holds e own calls) (hp : db.IsNamed)
    (habsolute : db.isAbsolute = true) (hup : ".." ∉ db.parts)
    (hmissing : d.doesExist db = .ok false) (hplace : e.placeOf db = e.placeOf own) :
    Holds e db calls := by
  have hresolved := Database.admits_resolve he hown.admits hown.short
  have hstart : ∀ p : Path, p.isAbsolute = true → e.startOf p = [] := fun p h => if_pos h
  have hparts : db.parts = e.placeOf own := by
    rw [← hplace, Disk.placeOf, hstart db habsolute, Path.follow_of_not_mem hup, List.nil_append]
  have hnull : Disk.hasNull db = false := by
    rw [Disk.hasNull, hparts]
    exact hresolved.fits.null
  have hname : db.name = (own.resolve e.cwd).name := by
    rw [Path.name, hparts]
    rfl
  refine ⟨⟨hp, ?_, ⟨hnull, Disk.text_le_of_missing hnull hmissing, ?_⟩, ?_⟩, ?_, ?_⟩
  · refine hresolved.reaches.of_parts ?_ ?_
    · rw [hstart db.parent habsolute, hstart _ rfl]
    · rw [Path.parent, hparts]
      rfl
  · rw [hname]
    exact hresolved.fits.name
  · rw [hplace]
    exact hown.admits.file
  · rw [Database.hasShortPath, e.resolve_eq, hplace]
    exact hown.short
  · rw [hplace]
    exact hown.data

/-- What stands at the place of a database that was found missing, and is counted now, was made
there. -/
lemma placeOf_eq_of_stats {stats : Stats} (hown : own.IsNamed) (hp : db.IsNamed)
    (hname : db.name = own.name) (hup : ".." ∉ db.parts) (hmissing : d.doesExist db = .ok false)
    (hchange : d.ChangesOnly (IsTouched d own) e)
    (hstats : ((Store.stats e).exec (.fresh db)).1 = .ok (some stats)) :
    d.placeOf db = d.placeOf own := by
  obtain ⟨hnull, data, hdata⟩ := dataAt?_of_stats hstats
  rw [hchange.placeOf] at hdata
  by_cases htouched : IsTouched d own (d.placeOf db)
  · obtain ⟨ending, -, hplace⟩ := exists_ending_of_isTouched hown htouched
    rw [Disk.placeOf_eq hp] at hplace
    rw [Disk.placeOf_eq hp, Disk.placeOf_eq hown, (List.append_inj' hplace rfl).1, hname]
  · rw [hchange.files _ htouched] at hdata
    obtain ⟨serial, hget⟩ := Node.dataAt?_eq_some_iff.mp hdata
    exact absurd hmissing (Disk.doesExist_ne_false hup hnull hget)

end Counted

/-- The manifest is none of the files of a call graph. -/
lemma not_isTouched_manifest {version : Json} {db : Path} (h : c.callGraphPath version = .ok db) :
    ¬ IsTouched d db (d.placeOf c.manifestPath) := by
  intro htouched
  obtain ⟨ending, hending, hplace⟩ :=
    exists_ending_of_isTouched (Config.isNamed_callGraphPath h) htouched
  rw [Disk.placeOf_manifestPath, Config.name_callGraphPath h] at hplace
  have hname : "manifest.json" = "callgraph.db" ++ ending :=
    List.singleton_inj.mp (List.append_inj' hplace rfl).2
  simp only [List.mem_cons, List.not_mem_nil, or_false] at hending
  rcases hending with rfl | rfl | rfl | rfl <;> exact absurd hname (by decide)

/-- An index of a version without call graph, and a dump of one call. -/
def dumpDisk : Disk where
  root := .directory
    [("home", .directory [("index", .directory
      [("manifest.json", .file 0 (.bytes "\x7b\"corpusVersion\": \"1\"\x7d".toUTF8))])]),
    ("d", .file 1 (.bytes "1\t1\ta.B:c()\t(VIR)d.E:f()\t3".toUTF8))]
  cwd := []
  nextSerial := 2

def versionEnvironment (version : String) : Environment :=
  ⟨[("MCDEV_HOME", "/home"), ("MCDEV_VERSION", version)], []⟩

def versionConfig (version : String) : Config := { plainConfig with version }

def ran (version : String) (args : List String) (d : Disk) : Except Failure Ending × Disk :=
  (run (versionEnvironment version) .standard "now" args).exec d

lemma isGrounded_dumpDisk : dumpDisk.IsGrounded where
  up := by simp [dumpDisk]
  null := by simp [dumpDisk, Disk.hasNull]
  reaches := ⟨rfl, ⟨_, rfl⟩⟩

/-- The manifest of the index names its version. -/
lemma exists_loadManifest_dumpDisk (version : String) : ∃ m,
    Index.loadManifest (versionConfig version) dumpDisk = .ok (some m) ∧ m.version = .str "1" := by
  have hversion : ((Index.loadManifest (versionConfig "1") dumpDisk).toOption.join.bind fun m =>
      (m.version.textFor "version").toOption) = some "1" := by decide +kernel
  obtain ⟨m, hm, hversion⟩ := Option.bind_eq_some_iff.mp hversion
  refine ⟨m, eq_ok_of_toOption (Option.join_eq_some_iff.mp hm), ?_⟩
  have htext := eq_ok_of_toOption hversion
  cases hv : m.version with
  | str v => simpa [hv, Json.textFor] using htext
  | null | bool | int | float | arr | obj => simp [hv, Json.textFor] at htext

lemma readCommand_status : readCommand ["status"] = .ok .status :=
  eq_ok_of_toOption rfl

/-- The status tells of no call graph where the version of the index has none. -/
lemma ran_status_dumpDisk {version : String} {m : Manifest Json}
    (henv : Config.ofEnvironment dumpDisk.cwd (versionEnvironment version) =
      .ok (versionConfig version))
    (hm : Index.loadManifest (versionConfig version) dumpDisk = .ok (some m))
    (hstats : (graphStats (versionConfig version) dumpDisk m.version).toOption = some none) :
    ran version ["status"] dumpDisk = (.ok (told m none), dumpDisk) :=
  (exec_status_iff readCommand_status henv hm).mpr ⟨none, eq_ok_of_toOption hstats, rfl⟩

end CommandLine

end JavaAtlas

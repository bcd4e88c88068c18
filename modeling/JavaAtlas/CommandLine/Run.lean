import JavaAtlas.CallGraph.Store
import JavaAtlas.CommandLine.Command
import JavaAtlas.Index.Build

/-!
# Running a command

A command works on the disk and writes lines. A failure of a command is logged and ends it with
code 1; what it wrote before stays written.
-/

namespace JavaAtlas

namespace CommandLine

/-- The disk a command works on and the lines it has written. -/
structure Console where
  disk : Disk
  out : List String
  err : List String
  deriving Inhabited

namespace Console

def say (line : String) : Action Console Unit :=
  modify fun c => { c with out := c.out ++ [line] }

def complain (line : String) : Action Console Unit :=
  modify fun c => { c with err := c.err ++ [line] }

def reportLine (p : Progress) : String :=
  "[" ++ p.stage ++ "] " ++ toString p.percent ++ "% - " ++ p.message

/-- Work on the disk, writing the reports. -/
def working {α : Type} (act : Action Workspace α) : Action Console α := fun c =>
  let (r, w) := act.run (.ofDisk c.disk)
  (r, { c with disk := w.disk, out := c.out ++ w.reports.map reportLine })

end Console

open Console

def nonempty (s : Option String) : Option String := s.filter (· != "")

/-- The version to rebuild: the one asked for, else that of the manifest if its sources are there,
else the only one there is. -/
def chooseVersion (c : Config) (asked : Option String) : Action Console String := do
  match nonempty asked with
  | some version => return version
  | none =>
    let d := (← get).disk
    let available ← Action.ofExcept (c.availableVersions d)
    let manifest ← Action.ofExcept (Index.loadManifest c d)
    let known := manifest.bind fun m => available.find? fun v => m.version.equals (.str v)
    match known, available with
    | some version, _ => return version
    | none, [] => throw (.noVersions c.cacheDir)
    | none, [only] =>
      say ("Auto-detected version: " ++ only)
      return only
    | none, several => throw (.severalVersions several)

def runRebuild (c : Config) (sizes : Index.Sizes) (generatedAt : String)
    (version secondaryVersion sourceDir secondaryDir : Option String) : Action Console Nat := do
  Action.on Console.disk (fun s d => { s with disk := d }) c.ensureDirs
  let version ← chooseVersion c version
  let secondaryVersion := Json.ofText? ((nonempty secondaryVersion).or c.secondaryVersion)
  let primaryRoot ← match nonempty sourceDir with
    | some dir => pure (Path.parse dir)
    | none => Action.ofExcept (c.primarySourceDir (.str version))
  let secondaryRoot := ((nonempty secondaryDir).map Path.parse).or
    (c.secondarySourceDir secondaryVersion)
  if ← Action.ofExcept ((← get).disk.isDirectory primaryRoot) then
    say ("Rebuilding index for " ++ version ++ "...")
    let summary ← working (Index.build c sizes generatedAt
      ⟨primaryRoot, .str version, secondaryRoot, secondaryVersion⟩)
    say ("Index rebuilt: " ++ toString summary.typeCount ++ " classes in " ++
      toString summary.packageCount ++ " packages")
    return 0
  else
    complain ("Source directory not found: " ++ primaryRoot.text)
    return 1

def runIngest (c : Config) (env : Environment) (sizes : Index.Sizes) (dump : String)
    (version : Option String) : Action Console Nat := do
  let dump ← Action.ofExcept (Config.expandUser env (Path.parse dump))
  if ← Action.ofExcept ((← get).disk.isFile dump) then
    let db ← Action.ofExcept (c.callGraphPath (Json.ofText? version))
    let count ← working (CallGraph.ingest sizes.batch dump db)
    let (stats, _) := (CallGraph.Store.stats (← get).disk).run (.fresh db)
    let stats ← Action.ofExcept stats
    say ("Callgraph database ready: " ++ toString count ++ " call references")
    match stats with
    | some stats =>
      say ("  Distinct callers: " ++ toString stats.callers)
      say ("  Distinct callees: " ++ toString stats.callees)
    | none => pure ()
    return 0
  else
    complain ("Dump file not found: " ++ dump.text)
    return 1

def runStatus (c : Config) : Action Console Nat := do
  match ← Action.ofExcept (Index.loadManifest c (← get).disk) with
  | none =>
    say "Status: Not initialized"
    say ("Run `" ++ programName ++ " rebuild` to build the index.")
    return 0
  | some m =>
    say "Status: Initialized"
    say ("  Version: " ++ m.version.display)
    match m.secondaryVersion.bind Json.given? with
    | some version => say ("  Secondary version: " ++ version.display)
    | none => pure ()
    say ("  Primary packages: " ++ toString m.primary.length)
    say ("  Secondary packages: " ++ toString m.secondary.length)
    say ("  Index generated: " ++ m.generatedAt.display)
    let db ← Action.ofExcept (c.callGraphPath m.version)
    let (stats, _) := (CallGraph.Store.stats (← get).disk).run (.fresh db)
    match ← Action.ofExcept stats with
    | some stats => say ("  Callgraph: " ++ toString stats.calls ++ " call references")
    | none =>
      say ("  Callgraph: not ingested (run `" ++ programName ++ " ingest <dump>`)")
    return 0

/-- Run a command. The server is not one of the commands that end. -/
def runCommand (c : Config) (env : Environment) (sizes : Index.Sizes) (generatedAt : String) :
    Command → Action Console Nat
  | .serve => return 0
  | .rebuild version secondaryVersion sourceDir secondaryDir =>
    runRebuild c sizes generatedAt version secondaryVersion sourceDir secondaryDir
  | .ingest dump version => runIngest c env sizes dump version
  | .status => runStatus c

def Command.version? : Command → Option String
  | .rebuild version .. => nonempty version
  | .ingest _ version => nonempty version
  | _ => none

def linesText (lines : List String) : String := String.join (lines.map (· ++ "\n"))

/-- Run the program. An environment without a home directory is a failure of the program itself. -/
def run (env : Environment) (sizes : Index.Sizes) (generatedAt : String) (args : List String) :
    Action Disk Ending := do
  match readCommand args with
  | .error ending => return ending
  | .ok command =>
    let d ← get
    let c ← Action.ofExcept (Config.ofEnvironment d.cwd env)
    let c := { c with version := command.version?.getD c.version }
    let (outcome, console) := (runCommand c env sizes generatedAt command).run ⟨d, [], []⟩
    set console.disk
    let out := linesText console.out
    let err := linesText console.err
    match outcome with
    | .ok code => return ⟨code, out, err, []⟩
    | .error e => return ⟨1, out, err, [command.name ++ " failed: " ++ e.message]⟩

end CommandLine

end JavaAtlas

import JavaAtlas.CallGraph.Archive
import JavaAtlas.CommandLine.Run
import JavaAtlas.Disk.Change
import Std.Time

/-!
# The program

The part of the file system that a command works on is read into a tree, the command is run on
the tree, and the steps that lead to the new tree are taken on the file system.
-/

namespace JavaAtlas

namespace Program

/-- The variables that the program looks at. -/
def variableNames : List String :=
  ["HOME", "MCDEV_HOME", "MCDEV_VERSION", "MCDEV_SECONDARY_VERSION", "MCDEV_SECONDARY_PREFIX",
    "MCDEV_MASK_COMMENTS"]

def givenPaths (env : Environment) : CommandLine.Command → List Path
  | .rebuild _ _ sourceDir secondaryDir =>
    (sourceDir.toList ++ secondaryDir.toList).map Path.parse
  | .ingest dump _ => match Config.expandUser env (Path.parse dump) with
    | .ok path => [path]
    | .error _ => []
  | _ => []

/-- The places that a command works on, from the root of the file system. -/
def workPlaces (cwd : List String) (env : Environment) (args : List String) :
    List (List String) :=
  match CommandLine.readCommand args, Config.ofEnvironment cwd env with
  | .ok command, .ok c => (c.home :: givenPaths env command).map fun p => (p.resolve cwd).parts
  | _, _ => []

def placeText (place : List String) : String := (Path.mk "/" place).text

/-- Read an entry of the file system with everything below it; files are numbered as they come. -/
partial def load (place : List String) : StateT Nat IO (Option Node) := do
  let path := (← IO.currentDir) / placeText place
  if ← path.isDir then
    let names := (← path.readDir).toList.map (·.fileName)
    let entries ← names.filterMapM fun name => do
      return (← load (place ++ [name])).map fun child => (name, child)
    return some (.directory entries)
  else if ← path.pathExists then
    let data := CallGraph.Archive.ofBytes (← IO.FS.readBinFile path)
    let serial ← getModify (· + 1)
    return some (.file serial data)
  else return none

/-- Read the working directory and some places into a tree. -/
def loadDisk (cwd : List String) (places : List (List String)) : IO Disk := do
  let mut root := (Node.directory []).put cwd (.directory [])
  let mut nextSerial := 0
  for place in places do
    let (found, next) ← (load place).run nextSerial
    nextSerial := next
    match found with
    | some node => root := root.put place node
    | none => pure ()
  return { root, cwd, nextSerial }

def takeStep : Change → IO Unit
  | .remove place => IO.FS.removeFile (placeText place)
  | .makeDirectory place => IO.FS.createDirAll (placeText place)
  | .writeFile place data =>
    IO.FS.writeBinFile (placeText place) (CallGraph.Archive.toBytes data)

def padded (width n : Nat) : String :=
  let digits := toString n
  String.ofList (List.replicate (width - digits.length) '0') ++ digits

/-- The time of day and the date, to the microsecond. -/
def timeText (t : Std.Time.PlainDateTime) : String :=
  let micros := t.nanosecond.val.toNat / 1000
  padded 4 t.year.toInt.toNat ++ "-" ++ padded 2 t.month.val.toNat ++ "-" ++
    padded 2 t.day.val.toNat ++ "T" ++ padded 2 t.hour.val.toNat ++ ":" ++
    padded 2 t.minute.val.toNat ++ ":" ++ padded 2 t.second.val.toNat ++
    (if micros == 0 then "" else "." ++ padded 6 micros) ++ "+00:00"

def now : IO String := do
  let elapsed := (← Std.Time.Timestamp.now).toDurationSinceUnixEpoch
  return timeText (Std.Time.PlainDateTime.ofWallTime (Std.Time.WallTime.ofDuration elapsed))

def finish (ending : CommandLine.Ending) : IO UInt32 := do
  IO.print ending.stdout
  IO.eprint ending.stderr
  for line in ending.log do
    IO.eprintln (CommandLine.programName ++ ": " ++ line)
  return ending.exit.toUInt32

/-- The directory of the user in a line of the list of accounts. -/
def accountHome? (line : String) : Option (String × String) :=
  match line.splitOn ":" with
  | [user, _, _, _, _, directory, _] => some (user, directory)
  | _ => none

/-- What the program is started with. -/
def environment : IO Environment := do
  let settings ← variableNames.filterMapM fun name => do
    return (← IO.getEnv name).map fun value => (name, value)
  let accounts ← try IO.FS.lines "/etc/passwd" catch _ => pure #[]
  return { settings, homes := accounts.toList.filterMap accountHome? }

def run (args : List String) : IO UInt32 := do
  let env ← environment
  let cwd := (Path.parse (← IO.currentDir).toString).parts
  let before ← loadDisk cwd (workPlaces cwd env args)
  let (outcome, after) :=
    (CommandLine.run env Index.Sizes.standard (← now) args).run before
  for step in after.root.changes [] (some before.root) do
    takeStep step
  match outcome with
  | .ok ending => finish ending
  | .error e =>
    IO.eprintln (CommandLine.programName ++ ": " ++ e.message)
    return 1

end Program

end JavaAtlas

def main (args : List String) : IO UInt32 := JavaAtlas.Program.run args

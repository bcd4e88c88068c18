import JavaAtlas.Disk.Basic
import JavaAtlas.Text.Blank
import JavaAtlas.Text.Lowercase
import JavaAtlas.Text.Order

/-!
# Configuration and layout of the home directory

Everything lives under one home directory: the sources of each version and its call graph under
`cache`, the index under `index` with one shard for each package of each of the two namespaces.
A version read from an index file or a tool argument can be any JSON value; one that does not
count as given stands for the configured version.
-/

namespace JavaAtlas

/-- The two parts of the indexed sources. -/
inductive Namespace
  | primary
  | secondary
  deriving DecidableEq, Repr, Inhabited

namespace Namespace

def name : Namespace → String
  | .primary => "primary"
  | .secondary => "secondary"

/-- Both namespaces, in the order in which they are searched. -/
def all : List Namespace := [.primary, .secondary]

def ofName? (name : String) : Option Namespace := all.find? (·.name == name)

def ofJson (v : Json) : Except Failure Namespace :=
  match v with
  | .str s => match ofName? s with
    | some ns => .ok ns
    | none => .error (.notAChoice v "Namespace")
  | _ => .error (.notAChoice v "Namespace")

end Namespace

/-- Where everything lies and what is to be indexed. -/
structure Config where
  home : Path
  version : String
  secondaryVersion : Option String
  secondaryPrefix : String
  maskComments : Bool
  deriving DecidableEq, Repr, Inhabited

/-- What a program is started with: its variables, and the directories of the users by name. -/
structure Environment where
  settings : List (String × String)
  homes : List (String × String)
  deriving DecidableEq, Repr, Inhabited

namespace Config

def defaultVersion : String := "1.21.11"

/-- The packages of the secondary namespace begin like this unless configured otherwise. -/
def defaultSecondaryPrefix : String := "net.fabricmc"

def homeName : String := ".mcdev-mcp"

/-- The directory of a user; no name stands for the user who runs the program. -/
def userDirectory? (env : Environment) (user : String) : Option String :=
  if user == "" then Ordered.get? env.settings "HOME" else Ordered.get? env.homes user

/-- A first segment `~` stands for the user's directory, and `~name` for that of another user. -/
def expandUser (env : Environment) (p : Path) : Except Failure Path :=
  match p.parts with
  | [] => .ok p
  | first :: rest => match first.toList with
    | '~' :: user =>
      if p.isAbsolute then .ok p
      else if user.contains '\x00' then .error .nullInPath
      else match userDirectory? env (String.ofList user) with
        | some directory => .ok ((Path.parse directory).join ⟨"", rest⟩)
        | none => .error .homeUnknown
    | _ => .ok p

/-- A variable that is set and not empty. -/
def setting? (env : Environment) (name : String) : Option String :=
  (Ordered.get? env.settings name).filter (· != "")

def isOn (env : Environment) (name : String) : Bool :=
  let value := lowercase (String.ofList (Text.strip ((Ordered.get? env.settings name).getD "").toList))
  ["1", "true", "yes", "on"].contains value

/-- The configuration that an environment asks for, seen from a working directory. -/
def ofEnvironment (cwd : List String) (env : Environment) : Except Failure Config := do
  let home ← match setting? env "MCDEV_HOME" with
    | some home => expandUser env (Path.parse home)
    | none => (expandUser env (Path.parse "~")).map fun user => user / homeName
  return {
    home := home.resolve cwd
    version := (setting? env "MCDEV_VERSION").getD defaultVersion
    secondaryVersion := setting? env "MCDEV_SECONDARY_VERSION"
    secondaryPrefix := (setting? env "MCDEV_SECONDARY_PREFIX").getD defaultSecondaryPrefix
    maskComments := isOn env "MCDEV_MASK_COMMENTS" }

def cacheDir (c : Config) : Path := c.home / "cache"

def indexDir (c : Config) : Path := c.home / "index"

def manifestPath (c : Config) : Path := c.indexDir / "manifest.json"

def versionDir (c : Config) (version : Json) : Except Failure Path :=
  match version.given? with
  | none => .ok (c.cacheDir / c.version)
  | some (.str v) => .ok (c.cacheDir / v)
  | some v => .error (.notASegment v.kindName)

def primarySourceDir (c : Config) (version : Json) : Except Failure Path :=
  (c.versionDir version).map (· / "client")

/-- The secondary sources of a version, if one is given or configured. -/
def secondarySourceDir (c : Config) (version : Json) : Option Path :=
  match version.given?.or ((c.secondaryVersion.filter (· != "")).map .str) with
  | none => none
  | some v => some (c.cacheDir / ("fabric-api-" ++ v.display))

def sourceRoot (c : Config) (ns : Namespace) (version : Json) : Except Failure (Option Path) :=
  match ns with
  | .primary => (c.primarySourceDir version).map some
  | .secondary => .ok (c.secondarySourceDir version)

def namespaceDir (c : Config) (ns : Namespace) : Path := c.indexDir / ns.name

def shardPath (c : Config) (ns : Namespace) (package : Json) : Path :=
  c.namespaceDir ns / (package.display ++ ".json")

def callGraphPath (c : Config) (version : Json) : Except Failure Path :=
  (c.versionDir version).map (· / "callgraph" / "callgraph.db")

def ownCallGraphPath (c : Config) : Path :=
  c.cacheDir / c.version / "callgraph" / "callgraph.db"

def ensureDirs (c : Config) : Action Disk Unit := do
  for dir in [c.home, c.cacheDir, c.indexDir, c.namespaceDir .primary, c.namespaceDir .secondary] do
    Disk.makeDirectories dir

/-- Texts in the order of their code points. -/
def sortTexts (texts : List String) : List String := texts.mergeSort fun a b => !Text.isBefore b a

/-- The versions whose primary sources are there. -/
def availableVersions (c : Config) (d : Disk) : Except Failure (List String) := do
  if ← d.doesExist c.cacheDir then
    let names ← d.list c.cacheDir
    let found ← names.filterM fun name => do
      let dir := c.cacheDir.join ⟨"", [name]⟩
      if ← d.isDirectory dir then d.isDirectory (dir / "client") else return false
    return sortTexts found
  else return []

end Config

end JavaAtlas

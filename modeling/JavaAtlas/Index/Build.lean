import JavaAtlas.Index.Load
import JavaAtlas.Java.Source

/-!
# Building the index

A build reads every source file under its roots, files the types by package and writes one shard
for each package, then the manifest. The manifest of an earlier build is removed before the first
shard is written, so that a build that fails half way leaves none. Progress is reported on the
way; reports made before a failure stay.
-/

namespace JavaAtlas

/-- A report of how far a task has come. -/
structure Progress where
  stage : String
  percent : Nat
  message : String
  deriving DecidableEq, Repr

/-- A disk and the reports made while it is worked on, oldest first. -/
structure Workspace where
  disk : Disk
  reports : List Progress
  deriving Inhabited

namespace Workspace

/-- A disk on which no work has begun. -/
def ofDisk (d : Disk) : Workspace := ⟨d, []⟩

def onDisk {α : Type} (act : Action Disk α) : Action Workspace α :=
  Action.on Workspace.disk (fun w d => { w with disk := d }) act

def report (stage : String) (percent : Nat) (message : String) : Action Workspace Unit :=
  modify fun w => { w with reports := w.reports ++ [⟨stage, percent, message⟩] }

end Workspace

namespace Index

open Workspace (onDisk)

/-- How often reports are made. -/
structure Sizes where
  /-- The number of calls entered at a time. -/
  batch : Int
  /-- The number of files between two reports. -/
  files : Int
  deriving DecidableEq, Repr

/-- The sizes used unless others are set. -/
def Sizes.standard : Sizes := ⟨10000, 100⟩

/-- The outcome of a build. -/
structure Summary where
  version : Json
  secondaryVersion : Json
  primary : List String
  secondary : List String
  typeCount : Nat
  skippedFiles : Nat

def Summary.packageCount (s : Summary) : Nat := s.primary.length + s.secondary.length

def Summary.members (s : Summary) : List (String × Json) :=
  [("corpus_version", s.version), ("secondary_corpus_version", s.secondaryVersion),
    ("packages_indexed", .int s.packageCount), ("class_count", .int s.typeCount),
    ("skipped_files", .int s.skippedFiles)]

def isSourceName (name : String) : Bool := ".java".toList.isSuffixOf name.toList

/-- The source files under a root, in the order of their paths. -/
def sourceFiles (d : Disk) (root : Path) : Except Failure (List Path) := do
  if ← d.isDirectory root then
    let found := (d.below root).filter fun entry =>
      isSourceName (entry.1.getLast?.getD "") && !entry.2.isDirectory
    return (found.map fun entry => root.join ⟨"", entry.1⟩).mergeSort Path.le
  else return []

/-- The path recorded for a file: from the base if it lies there, else as it is. -/
def recordedPath (file : Path) (base : Option Path) : String :=
  match base with
  | none => file.text
  | some base => ((file.relativeTo? base).getD file).text

/-- Read a source file; a file that cannot be read holds nothing. -/
def readSource (d : Disk) (masked : Bool) (file : Path) (base : Option Path) :
    Except Failure (Option SourceUnit) :=
  match d.fileAt file with
  | .ok data =>
    .ok (Java.parseSource masked (recordedPath file base) (Text.decodeLossy data.toBytes))
  | .error (.disk _) => .ok none
  | .error e => .error e

/-- Types by package and simple name, in the order in which they were found. -/
abbrev Packages := List (String × List (String × TypeDecl String))

/-- File a type under its package; a later type of the same name takes the place of an earlier
one. -/
def Packages.add (packages : Packages) (u : SourceUnit) : Packages :=
  let package := if u.package == "" then defaultPackage else u.package
  let types := (Ordered.get? packages package).getD []
  Ordered.insert packages package (Ordered.insert types u.name u.decl)

/-- File the types of a list of files. -/
def collect (units : List (Option SourceUnit)) : Packages :=
  (units.filterMap id).foldl Packages.add []

def skippedCount (units : List (Option SourceUnit)) : Nat := (units.filter Option.isNone).length

def Packages.typeCount (packages : Packages) : Nat := (packages.flatMap (·.2)).length

/-- The names of the packages, sorted. -/
def Packages.names (packages : Packages) : List String := Config.sortTexts (Ordered.keys packages)

/-- The part of the way from 5 to 90 percent, rounded after each step of the calculation as
binary64 arithmetic does. -/
def percentDone (processed total : Nat) : Nat :=
  let ratio (x : Binary64) : Nat × Nat := match x with
    | .finite _ m e => Binary64.magnitude m e
    | _ => (0, 1)
  let (a, b) := ratio (Binary64.ofRatio false processed total)
  let (c, d) := ratio (Binary64.ofRatio false (a * 85) b)
  let (e, f) := ratio (Binary64.ofRatio false (c + 5 * d) d)
  Binary64.roundHalfEven e f

/-- Read files one after the other, reporting after every so many; `processed` files were read
before. -/
def readSources (c : Config) (every : Int) (total : Nat) (base : Option Path) :
    Nat → List Path → Action Workspace (List (Option SourceUnit))
  | _, [] => return []
  | processed, file :: rest => do
    let found ← Action.ofExcept (readSource (← get).disk c.maskComments file base)
    let processed := processed + 1
    if every == 0 then throw .zeroSize
    if (processed : Int) % every == 0 then
      Workspace.report "index" (percentDone processed total)
        ("Processed " ++ toString processed ++ "/" ++ toString total ++ " files...")
    return found :: (← readSources c every total base processed rest)

/-- The base of recorded paths: a root inside the cache records paths from there, any other root
records absolute paths. -/
def pathBase (cwd : List String) (root : Path) (cacheRoot : Option Path) : Option Path :=
  match cacheRoot with
  | some dir => if root == dir.resolve cwd then some root else none
  | none => none

def absolute (cwd : List String) (p : Path) : Except Failure Path :=
  if Disk.hasNull p then .error .nullInPath else .ok (p.resolve cwd)

/-- The absolute form of the secondary root, if there is one; its place in the cache must be a path
too. -/
def absoluteSecondary (cwd : List String) (root cacheRoot : Option Path) :
    Except Failure (Option Path) :=
  match root with
  | none => .ok none
  | some root => do
    let root ← absolute cwd root
    let _ ← absolute cwd (cacheRoot.getD root)
    return some root

/-- The source files under a root, none without one. -/
def sourceFilesOf (d : Disk) (root : Option Path) : Except Failure (List Path) :=
  match root with
  | none => .ok []
  | some root => sourceFiles d root

/-- Write the shards of a namespace, in the order of their names. -/
def writeShards (c : Config) (ns : Namespace) (packages : Packages) : Action Disk Unit := do
  for package in packages.names do
    let shard : Shard String := ⟨package, (Ordered.get? packages package).getD []⟩
    writeJson (c.shardPath ns (.str package)) (shard.map .str).toJson

/-- Remove the manifest, write all shards and write the manifest. -/
def writeIndex (c : Config) (generatedAt : String) (version : Json) (secondaryVersion : Json)
    (primary secondary : Packages) : Action Disk Unit := do
  Disk.discardFile c.manifestPath
  writeShards c .primary primary
  writeShards c .secondary secondary
  let manifest : Manifest Json :=
    { version := version
      secondaryVersion := secondaryVersion.toOption
      generatedAt := .str generatedAt
      primary := primary.names.map .str
      secondary := secondary.names.map .str }
  writeJson c.manifestPath manifest.toJson

/-- What a build is made from. -/
structure Request where
  primaryRoot : Path
  version : Json
  secondaryRoot : Option Path
  secondaryVersion : Json

def build (c : Config) (sizes : Sizes) (generatedAt : String) (r : Request) :
    Action Workspace Summary := do
  let cwd := (← get).disk.cwd
  let primaryRoot ← Action.ofExcept (absolute cwd r.primaryRoot)
  let primaryCache ← Action.ofExcept (c.primarySourceDir r.version)
  let _ ← Action.ofExcept (absolute cwd primaryCache)
  let secondaryCache := c.secondarySourceDir r.secondaryVersion
  let secondaryRoot ← Action.ofExcept (absoluteSecondary cwd r.secondaryRoot secondaryCache)
  let primaryBase := pathBase cwd primaryRoot (some primaryCache)
  let secondaryBase := secondaryRoot.bind fun root =>
    pathBase cwd root secondaryCache
  Workspace.report "index" 0 "Finding Java files..."
  let primaryFiles ← Action.ofExcept (sourceFiles (← get).disk primaryRoot)
  let secondaryFiles ← Action.ofExcept (sourceFilesOf (← get).disk secondaryRoot)
  let total := primaryFiles.length + secondaryFiles.length
  Workspace.report "index" 5
    ("Processing " ++ toString primaryFiles.length ++ " primary files...")
  let primaryUnits ← readSources c sizes.files total primaryBase 0 primaryFiles
  if secondaryRoot.isSome then
    Workspace.report "index" 50
      ("Processing " ++ toString secondaryFiles.length ++ " secondary files...")
  let secondaryUnits ←
    readSources c sizes.files total secondaryBase primaryFiles.length secondaryFiles
  Workspace.report "index" 90 "Writing package shards..."
  let primary := collect primaryUnits
  let secondary := collect secondaryUnits
  onDisk (writeIndex c generatedAt r.version r.secondaryVersion primary secondary)
  let summary : Summary :=
    { version := r.version
      secondaryVersion := r.secondaryVersion
      primary := primary.names
      secondary := secondary.names
      typeCount := primary.typeCount + secondary.typeCount
      skippedFiles := skippedCount primaryUnits + skippedCount secondaryUnits }
  Workspace.report "index" 100
    ("Indexed " ++ toString summary.typeCount ++ " classes in " ++
      toString summary.packageCount ++ " packages.")
  return summary

/-- The roots in the cache for given versions; the configured ones stand in for those that are
not given. -/
def cacheRequest (c : Config) (version secondaryVersion : Json) : Except Failure Request := do
  let version := version.given?.getD (.str c.version)
  let secondaryVersion := secondaryVersion.given?.getD (Json.ofText? c.secondaryVersion)
  let primaryRoot ← c.primarySourceDir version
  return {
    primaryRoot := primaryRoot
    version := version
    secondaryRoot := c.secondarySourceDir secondaryVersion
    secondaryVersion := secondaryVersion }

def buildFromCache (c : Config) (sizes : Sizes) (generatedAt : String)
    (version secondaryVersion : Json) : Action Workspace Summary := do
  let request ← Action.ofExcept (cacheRequest c version secondaryVersion)
  build c sizes generatedAt request

end Index

end JavaAtlas

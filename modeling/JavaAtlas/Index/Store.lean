import JavaAtlas.Index.Load

/-!
# The store

A store answers from the index files and remembers the manifest and every shard it has read, until
it is told to forget them. A manifest or shard that was not there is looked for again.
-/

namespace JavaAtlas

/-- Access to the index of a configuration, with what has been read so far. -/
structure Store where
  config : Config
  manifest : Option (Manifest Json)
  shards : List ((Namespace × Json) × Shard Json)
  deriving Inhabited

namespace Store

/-- A store that has read nothing. -/
def fresh (c : Config) : Store := ⟨c, none, []⟩

def forget (s : Store) : Store := fresh s.config

/-- Whether a manifest is on the disk. -/
def isReady (c : Config) (d : Disk) : Except Failure Bool := d.doesExist c.manifestPath

/-- The manifest, read once. -/
def getManifest (d : Disk) : Action Store (Option (Manifest Json)) := do
  let s ← get
  match s.manifest with
  | some m => return some m
  | none =>
    let found ← Action.ofExcept (Index.loadManifest s.config d)
    set { s with manifest := found }
    return found

/-- The versions of the manifest, null without one. -/
def versions (d : Disk) : Action Store (Json × Json) := do
  match ← getManifest d with
  | some m => return (m.version, Json.ofOption m.secondaryVersion)
  | none => return (.null, .null)

def remembered? (s : Store) (ns : Namespace) (package : Json) : Option (Shard Json) :=
  (s.shards.find? fun entry => entry.1.1 == ns && entry.1.2.alike package).map Prod.snd

/-- Lists and objects cannot be looked up. -/
def checkKey (package : Json) : Except Failure Unit :=
  match package with
  | .arr _ | .obj _ => .error (.notAKey package.kindName)
  | _ => .ok ()

def getShard (d : Disk) (ns : Namespace) (package : Json) : Action Store (Option (Shard Json)) := do
  Action.ofExcept (checkKey package)
  let s ← get
  match s.remembered? ns package with
  | some shard => return some shard
  | none => match ← Action.ofExcept (Index.loadShard s.config d ns package) with
    | some shard =>
      set { s with shards := s.shards ++ [((ns, package), shard)] }
      return some shard
    | none => return none

/-- The namespace of a type, by how its name begins. -/
def namespaceFor (c : Config) (name : String) : Namespace :=
  if c.secondaryPrefix.toList.isPrefixOf name.toList then .secondary else .primary

def pathOf (v : Json) : Except Failure Path :=
  match v with
  | .str s => .ok (Path.parse s)
  | _ => .error (.notAPath v.kindName)

/-- The file that a recorded path names: an absolute path itself, any other one from the sources
of the manifest's versions. -/
def resolveSource (d : Disk) (recorded : Json) (ns : Namespace) : Action Store Path := do
  let path ← Action.ofExcept (pathOf recorded)
  if path.isAbsolute then return path
  match ← getManifest d with
  | none => return path
  | some m =>
    let c := (← get).config
    match ns, m.secondaryVersion.bind Json.given? with
    | .secondary, some v => match c.secondarySourceDir v with
      | some root => return root.join path
      | none => return path
    | _, _ =>
      let root ← Action.ofExcept (c.primarySourceDir m.version)
      return root.join path

end Store

end JavaAtlas

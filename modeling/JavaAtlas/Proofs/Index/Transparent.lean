import JavaAtlas.Proofs.Index.Memory

/-!
# Answers from memory

A store is asked one query after the other while source files change under it. As long as the JSON
files and the directories stay as they are, what it has read before makes no difference to its
answers and failures, whatever the index files hold; and once it is told to forget, nothing of
before does. Only a walk through the packages can go astray, if the manifest lists two of them that
are equal as keys.
-/

namespace JavaAtlas

namespace Disk

variable {d e : Disk} {p : Path} {stem : String}

/-- The JSON files and the directories of two disks are the same. -/
structure SameIndexes (d e : Disk) : Prop where
  cwd : e.cwd = d.cwd
  directories : ∀ q, e.root.HasDirectory q ↔ d.root.HasDirectory q
  json : ∀ dir stem, e.root.dataAt? (dir ++ [stem ++ ".json"]) =
    d.root.dataAt? (dir ++ [stem ++ ".json"])

namespace SameIndexes

lemma symm (h : SameIndexes d e) : SameIndexes e d where
  cwd := h.cwd.symm
  directories q := (h.directories q).symm
  json dir stem := (h.json dir stem).symm

lemma reaches (h : SameIndexes d e) (hreach : d.Reaches p) : e.Reaches p where
  walk := by
    rw [placeOf_congr h.cwd, startOf, h.cwd]
    exact walk_of_directories (fun q => (h.directories q).mpr) hreach.directory hreach.walk
  directory := by
    rw [placeOf_congr h.cwd]
    exact (h.directories _).mpr hreach.directory

lemma fileAt (h : SameIndexes d e) (hp : p.IsNamed) (hname : p.name = stem ++ ".json")
    {data : FileData} (hfile : d.fileAt p = .ok data) : e.fileAt p = .ok data := by
  obtain ⟨hfits, hreach, hdata⟩ := (fileAt_eq_ok_iff hp).mp hfile
  refine (fileAt_eq_ok_iff hp).mpr ⟨hfits, h.reaches hreach, ?_⟩
  rw [placeOf_congr h.cwd]
  rw [placeOf_eq hp, hname] at hdata ⊢
  rw [h.json, hdata]

/-- Files that are no JSON files can be made and removed. -/
lemma of_edits {makes removes : List String → Prop} (h : Edits makes removes d e)
    (hjson : ∀ dir stem, ¬ (makes (dir ++ [stem ++ ".json"]) ∨ removes (dir ++ [stem ++ ".json"]))) :
    SameIndexes d e where
  cwd := h.cwd
  directories q := ⟨h.made q, h.directories q⟩
  json dir stem := h.files _ (hjson dir stem)

end SameIndexes

lemma SameIndexes.doesExist_error (h : SameIndexes d e) {failure : Failure}
    (hfailure : d.doesExist p = .error failure) : e.doesExist p = .error failure :=
  doesExist_error_of_directories h.cwd (fun q => (h.directories q).mpr) hfailure

end Disk

namespace Index

variable {d e : Disk} {p : Path} {stem : String} {c : Config}

lemma readJson_of_fileAt_error {failure : Failure} (h : d.fileAt p = .error failure) :
    readJson d p = (d.doesExist p).map fun _ => none := by
  rw [readJson, h]
  rcases d.doesExist p with failure | _ | _
  · rfl
  · rfl
  · rfl

/-- What is read at the path of a JSON file, and whether reading fails, depends on nothing else. -/
lemma readJson_of_sameIndexes (h : d.SameIndexes e) (hp : p.IsNamed)
    (hname : p.name = stem ++ ".json") : readJson e p = readJson d p := by
  match hd : d.fileAt p, he : e.fileAt p with
  | .ok data, _ => exact readJson_congr hp hd (h.fileAt hp hname hd)
  | .error _, .ok data =>
    rw [h.symm.fileAt hp hname he] at hd
    cases hd
  | .error _, .error _ =>
    rw [readJson_of_fileAt_error hd, readJson_of_fileAt_error he]
    match hexists : d.doesExist p, hexists' : e.doesExist p with
    | .error failure, _ =>
      rw [h.doesExist_error hexists] at hexists'
      rw [← hexists']
    | .ok _, .error failure =>
      rw [h.symm.doesExist_error hexists'] at hexists
      cases hexists
    | .ok _, .ok _ => rfl

lemma loadManifest_of_sameIndexes (h : d.SameIndexes e) : loadManifest c e = loadManifest c d := by
  rw [loadManifest, loadManifest,
    readJson_of_sameIndexes h c.isEntry_manifestPath.toIsNamed c.manifestPath_name]

lemma loadShard_of_sameIndexes (h : d.SameIndexes e) (ns : Namespace) (package : Json) :
    loadShard c e ns package = loadShard c d ns package := by
  obtain ⟨stem, hp, hname⟩ := c.exists_name_shardPath ns package
  rw [loadShard, loadShard, readJson_of_sameIndexes h hp hname]

end Index

namespace Store

open Index

variable {c : Config} {d e : Disk} {s : Store} {α : Type}

/-- What is remembered stays true while JSON files and directories stay as they are. -/
lemma Recalls.of_sameIndexes (h : Recalls c d s) (hsame : d.SameIndexes e) : Recalls c e s where
  config := h.config
  manifest m hm := by rw [loadManifest_of_sameIndexes hsame, h.manifest m hm]
  shards entry hentry := by
    obtain ⟨hasked, hload⟩ := h.shards entry hentry
    refine ⟨?_, by rw [loadShard_of_sameIndexes hsame, hload]⟩
    obtain ⟨m, hm, hpackage⟩ := hasked
    exact ⟨m, by rw [loadManifest_of_sameIndexes hsame, hm], hpackage⟩

/-! ### The configuration of a store -/

/-- A computation that leaves a store with its configuration, whatever it remembers. -/
def KeepsConfig (act : Action Store α) : Prop := ∀ s, (act.exec s).2.config = s.config

namespace KeepsConfig

variable {β : Type}

/-- To keep the configuration is to keep being a store for any one. -/
lemma iff_keeps {act : Action Store α} :
    KeepsConfig act ↔ ∀ c, act.Keeps fun s => s.config = c :=
  ⟨fun h _ s hs => (h s).trans hs, fun h s => h _ s rfl⟩

lemma pure (a : α) : KeepsConfig (Pure.pure a) := fun _ => rfl

lemma ofExcept (r : Except Failure α) : KeepsConfig (Action.ofExcept r) :=
  iff_keeps.mpr fun _ => .ofExcept r

lemma get : KeepsConfig MonadState.get := fun _ => rfl

lemma bind {x : Action Store α} {f : α → Action Store β} (hx : KeepsConfig x)
    (hf : ∀ a, KeepsConfig (f a)) : KeepsConfig (x >>= f) :=
  iff_keeps.mpr fun c => (iff_keeps.mp hx c).bind fun a => iff_keeps.mp (hf a) c

lemma getManifest (d : Disk) : KeepsConfig (Store.getManifest d) := by
  intro s
  rw [Store.getManifest, Action.exec_bind_of_ok (Action.exec_get ..)]
  cases s.manifest with
  | some m => rfl
  | none =>
    simp only
    cases loadManifest s.config d with
    | error failure => rfl
    | ok loaded => rfl

lemma getShard (d : Disk) (ns : Namespace) (package : Json) :
    KeepsConfig (Store.getShard d ns package) := by
  refine (ofExcept _).bind fun _ s => ?_
  rw [Action.exec_bind_of_ok (Action.exec_get ..)]
  match s.remembered? ns package with
  | some shard => rfl
  | none =>
    simp only
    match loadShard s.config d ns package with
    | .error _ => rfl
    | .ok none => rfl
    | .ok (some _) => rfl

lemma resolveSource (d : Disk) (recorded : Json) (ns : Namespace) :
    KeepsConfig (Store.resolveSource d recorded ns) := by
  refine (ofExcept _).bind fun path => ?_
  split
  · exact .pure _
  · refine (getManifest d).bind fun m => ?_
    split
    · exact .pure _
    · refine get.bind fun s => ?_
      simp only
      split
      · split <;> exact .pure _
      · exact (ofExcept _).bind fun _ => .pure _

lemma walkTypes {goOn : α → Bool} {visit : α → Visit → Action Store α}
    (hvisit : ∀ a v, KeepsConfig (visit a v)) (ns : Namespace) (package : Json)
    (types : List (String × TypeDecl Json)) (a : α) :
    KeepsConfig (walkPackages.walkTypes goOn visit ns package a types) := by
  induction types generalizing a with
  | nil => exact .pure a
  | cons type rest ih =>
    rw [walkPackages.walkTypes]
    split
    · exact .pure a
    · exact (hvisit a _).bind fun a => ih a

lemma walkPackages {d : Disk} {goOn : α → Bool} {visit : α → Visit → Action Store α}
    {wanted : Json → Except Failure Bool} (hvisit : ∀ a v, KeepsConfig (visit a v))
    (packages : List (Namespace × Json)) (a : α) :
    KeepsConfig (Store.walkPackages d wanted goOn visit a packages) := by
  induction packages generalizing a with
  | nil => exact .pure a
  | cons entry rest ih =>
    obtain ⟨ns, package⟩ := entry
    rw [Store.walkPackages]
    split
    · exact .pure a
    · refine (ofExcept _).bind fun want => ?_
      split
      · refine (getShard d ns package).bind fun found => ?_
        split
        · exact (walkTypes hvisit ns package _ a).bind ih
        · exact ih a
      · exact ih a

lemma textIfIndexed (d : Disk) (operation : String) (v : Json) :
    KeepsConfig (Store.textIfIndexed d operation v) := by
  refine (getManifest d).bind fun m => ?_
  split
  · exact .pure _
  · exact (ofExcept _).bind fun _ => .pure _

lemma listingOf (d : Disk) (v : Visit) : KeepsConfig (Store.listingOf d v) :=
  (resolveSource d _ _).bind fun _ => .pure _

lemma listTypes (d : Disk) (asked : Option String) : KeepsConfig (Store.listTypes d asked) := by
  refine (getManifest d).bind fun m => ?_
  split
  · exact .pure _
  · exact walkPackages (fun _ v => (listingOf d v).bind fun _ => .pure _) _ _

lemma getType (d : Disk) (name : String) : KeepsConfig (Store.getType d name) := by
  refine (getManifest d).bind fun m => ?_
  split
  · exact .pure _
  · refine get.bind fun s => (getShard d _ _).bind fun found => ?_
    split
    · exact .pure _
    · split
      · exact .pure _
      · refine (resolveSource d _ _).bind fun path => (ofExcept _).bind fun text => ?_
        split <;> exact .pure _

end KeepsConfig

/-! ### Queries -/

/-- A query with its arguments, by the type of its answers. -/
inductive Query : Type → Type
  | search (query : Json) (kind : Option SymbolKind) : Query (List SearchHit)
  | listTypes (package : Json) : Query (List TypeListing)
  | listPackages (ns : Option Namespace) : Query (List Json)
  | getType (name : Json) : Query (Option TypeSource)
  | getMethod (typeName method : Json) : Query (Option MethodSource)
  | findHierarchy (name : Json) (direction : Descent) : Query (List TypeListing)
  | resolveSource (recorded : Json) (ns : Namespace) : Query Path
  | versions : Query (Json × Json)

namespace Query

def run : Query α → Disk → Action Store α
  | .search query kind, d => searchFor d query kind
  | .listTypes package, d => typesWithin d package
  | .listPackages ns, d => Store.listPackages d ns
  | .getType name, d => typeNamed d name
  | .getMethod typeName method, d => methodNamed d typeName method
  | .findHierarchy name direction, d => Store.findHierarchy d name direction
  | .resolveSource recorded ns, d => Store.resolveSource d recorded ns
  | .versions, d => Store.versions d

/-- Whether a query walks through the packages of the manifest. -/
def walks : Query α → Bool
  | .search .. | .listTypes .. | .findHierarchy .. => true
  | _ => false

lemma keepsConfig (q : Query α) (d : Disk) : KeepsConfig (q.run d) := by
  cases q with
  | search query kind =>
    refine (KeepsConfig.ofExcept _).bind fun text => (KeepsConfig.getManifest d).bind fun m => ?_
    split
    · exact .pure _
    · refine (KeepsConfig.walkPackages (fun hits v => ?_) _ _).bind fun _ => .pure _
      refine KeepsConfig.bind ?_ fun _ => .pure _
      exact (KeepsConfig.resolveSource d _ _).bind fun _ => (KeepsConfig.ofExcept _).bind
        fun _ => (KeepsConfig.ofExcept _).bind fun _ => .pure _
  | listTypes package =>
    cases package with
    | null => exact .listTypes d none
    | bool | int | float | str | arr | obj =>
      refine (KeepsConfig.textIfIndexed d _ _).bind fun asked => ?_
      split
      · exact .listTypes d _
      · exact .pure _
  | listPackages ns =>
    refine (KeepsConfig.getManifest d).bind fun m => ?_
    split
    · exact .pure _
    · split <;> exact .pure _
  | getType name =>
    refine (KeepsConfig.textIfIndexed d _ _).bind fun asked => ?_
    split
    · exact .getType d _
    · exact .pure _
  | getMethod typeName method =>
    refine (KeepsConfig.textIfIndexed d _ _).bind fun asked => ?_
    split
    · refine (KeepsConfig.getType d _).bind fun source => ?_
      split
      · exact .pure _
      · refine (KeepsConfig.ofExcept _).bind fun found => ?_
        split <;> exact .pure _
    · exact .pure _
  | findHierarchy name direction =>
    refine (KeepsConfig.getManifest d).bind fun m => ?_
    split
    · exact .pure _
    · refine KeepsConfig.walkPackages (fun found v => ?_) _ _
      split
      · exact (KeepsConfig.listingOf d v).bind fun _ => .pure _
      · exact .pure _
  | resolveSource recorded ns => exact .resolveSource d recorded ns
  | versions =>
    refine (KeepsConfig.getManifest d).bind fun m => ?_
    split <;> exact .pure _

/-- Every query is steady, one that does not walk whatever the manifest lists. -/
lemma steady (q : Query α) (c : Config) (d : Disk) :
    SteadyIf (q.walks = true → Unmistaken c d) c d (q.run d) := by
  cases q with
  | search query kind => exact (steady_searchFor query kind).mono fun h => h rfl
  | listTypes package => exact (steady_typesWithin package).mono fun h => h rfl
  | findHierarchy name direction =>
    exact (steady_findHierarchy name direction).mono fun h => h rfl
  | listPackages ns => exact steady_listPackages ns
  | getType name => exact steady_typeNamed name
  | getMethod typeName method => exact steady_methodNamed typeName method
  | resolveSource recorded ns => exact steady_resolveSource recorded ns
  | versions => exact steady_versions

end Query

/-! ### Sessions -/

/-- A store, the disk beside it, and whether nothing has happened to JSON files and directories
since the store was made or last told to forget. It is asked any queries, and the disk changes. -/
inductive Session (c : Config) : Bool → Disk → Store → Prop
  | start (d : Disk) : Session c true d (fresh c)
  | asked {current : Bool} {d : Disk} {s : Store} {α : Type} (hs : Session c current d s)
      (q : Query α) : Session c current d ((q.run d).exec s).2
  | sourcesChanged {current : Bool} {d e : Disk} {s : Store} (hs : Session c current d s)
      (h : d.SameIndexes e) : Session c current e s
  | anythingChanged {current : Bool} {d : Disk} {s : Store} (hs : Session c current d s)
      (e : Disk) : Session c false e s
  | forgotten {current : Bool} {d : Disk} {s : Store} (hs : Session c current d s) :
      Session c true d s.forget

lemma Session.config {current : Bool} (h : Session c current d s) : s.config = c := by
  induction h with
  | start d => rfl
  | asked hs q ih => rw [q.keepsConfig _ _, ih]
  | sourcesChanged hs h ih => exact ih
  | anythingChanged hs e ih => exact ih
  | forgotten hs ih => exact ih

/-- In a session a store remembers nothing but what the disk gives, until JSON files or directories
change. -/
lemma Session.recalls {current : Bool} (h : Session c current d s) (hcurrent : current = true) :
    Recalls c d s := by
  induction h with
  | start d => exact recalls_fresh c d
  | asked hs q ih => exact (q.steady c _).recalls (ih hcurrent)
  | sourcesChanged hs h ih => exact (ih hcurrent).of_sameIndexes h
  | anythingChanged hs e ih => cases hcurrent
  | forgotten hs ih =>
    rw [forget, hs.config]
    exact recalls_fresh c _

/-- A file that is no JSON file can be written during a session. -/
lemma Session.written {current : Bool} (h : Session c current d s) {p : Path} (hp : d.Admits p)
    (hname : ∀ stem, stem ++ ".json" ≠ p.name) (data : FileData) :
    Session c current ((Disk.writeFile p data).exec d).2 s := by
  obtain ⟨e, hrun, hedits, -⟩ := Disk.exec_writeFile_of_admits hp data
  rw [hrun]
  refine .sourcesChanged h (.of_edits hedits fun dir stem hplace => ?_)
  rw [or_false, Disk.placeOf_eq hp.named] at hplace
  exact hname stem (by simpa using congrArg List.getLast? hplace)

/-- An index whose manifest lists some packages and whose one shard is called `1`. -/
def listingDisk (packages : String) : Disk where
  root := .directory
    [("home", .directory [("index", .directory
      [("manifest.json", .file 0 (.bytes
        ("\x7b\"corpusVersion\": \"1\", \"packages\": \x7b\"primary\": " ++ packages ++
          "\x7d\x7d").toUTF8)),
      ("primary", .directory [("1.json", .file 1 (.bytes
        "\x7b\"package\": \"1\", \"classes\": \x7b\"A\": \x7b\x7d\x7d\x7d".toUTF8))])])])]
  cwd := []
  nextSerial := 2

def besideIndex : Path := ⟨"/", ["A.java"]⟩

def searchedStore (packages : String) : Store :=
  (((Query.search (.str "a") none).run (listingDisk packages)).exec (fresh plainConfig)).2

lemma session_searchedStore (packages : String) :
    Session plainConfig true (listingDisk packages) (searchedStore packages) :=
  .asked (.start _) _

def writtenDisk : Disk :=
  ((Disk.writeFile besideIndex (.bytes "class A\x7b".toUTF8)).exec (listingDisk "[\"1\"]")).2

end Store

end JavaAtlas

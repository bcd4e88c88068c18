import JavaAtlas.Index.Query
import JavaAtlas.Proofs.Index.Writing

/-!
# Stores that remember what they have read

A store that has read the manifest and some shards of a disk gives what the disk would give, so a
walk through the packages of the index is a walk over the types that were collected.
-/

namespace JavaAtlas

namespace Index

/-- On a disk, the index of a configuration loads as the contents of a build. -/
structure Serves (c : Config) (d : Disk) (k : Contents) : Prop where
  manifest : loadManifest c d = .ok (some (k.manifest.map .str))
  shard : ∀ ns, ∀ package ∈ (k.packages ns).names,
    loadShard c d ns (.str package) = .ok (some ((k.shard ns package).map .str))

/-- What loads the same is served the same. -/
lemma Serves.of_same {c c' : Config} {d d' : Disk} {k : Contents} (h : Serves c d k)
    (hmanifest : loadManifest c' d' = loadManifest c d)
    (hshards : ∀ ns package, loadShard c' d' ns package = loadShard c d ns package) :
    Serves c' d' k where
  manifest := hmanifest.trans h.manifest
  shard ns package hpackage := (hshards ns _).trans (h.shard ns package hpackage)

lemma Contents.Stored.serves {c : Config} {d : Disk} {k : Contents} (h : k.Stored c d) :
    Serves c d k where
  manifest := loadManifest_of_stores c k h.manifest
  shard ns package hpackage :=
    loadShard_of_stores c k (k.not_mem_slash hpackage) (h.shard ns package hpackage)

end Index

namespace Store

open Index

variable {c : Config} {d : Disk} {m : Manifest Json} {s : Store}

/-- A store that has read a manifest and remembers nothing but what the disk gives. -/
structure Holds (c : Config) (d : Disk) (m : Manifest Json) (s : Store) : Prop where
  config : s.config = c
  manifest : s.manifest = some m
  shards : ∀ entry ∈ s.shards, ∃ package, entry.1.2 = .str package ∧
    loadShard c d entry.1.1 (.str package) = .ok (some entry.2)

lemma exec_getManifest_fresh (h : loadManifest c d = .ok (some m)) :
    (getManifest d).exec (fresh c) = (.ok (some m), { fresh c with manifest := some m }) := by
  rw [getManifest, Action.exec_bind_of_ok (Action.exec_get ..)]
  change (Action.ofExcept (loadManifest c d) >>= _).exec (fresh c) = _
  rw [h, Action.exec_bind_of_ok (Action.exec_ofExcept ..)]
  rfl

lemma holds_fresh (c : Config) (d : Disk) (m : Manifest Json) :
    Holds c d m { fresh c with manifest := some m } :=
  ⟨rfl, rfl, by simp [fresh]⟩

lemma exec_getManifest (h : Holds c d m s) : (getManifest d).exec s = (.ok (some m), s) := by
  rw [getManifest, Action.exec_bind_of_ok (Action.exec_get ..), h.manifest]
  rfl

lemma remembered?_eq_some (h : Holds c d m s) {ns : Namespace} {package : String}
    {shard : Shard Json} (hfound : s.remembered? ns (.str package) = some shard) :
    loadShard c d ns (.str package) = .ok (some shard) := by
  rw [remembered?, Option.map_eq_some_iff] at hfound
  obtain ⟨entry, hentry, rfl⟩ := hfound
  obtain ⟨other, hother, hload⟩ := h.shards entry (List.mem_of_find?_eq_some hentry)
  have hsame := List.find?_some hentry
  simp only [Bool.and_eq_true, beq_iff_eq, hother] at hsame
  have hpackage : other = package := by simpa [Json.alike, Json.sameScalar] using hsame.2
  rw [← hsame.1, ← hpackage]
  exact hload

/-- A store gives the shard of a package as the disk has it. -/
lemma exec_getShard (h : Holds c d m s) (ns : Namespace) (package : String) :
    ∃ s', Holds c d m s' ∧
      (getShard d ns (.str package)).exec s = (loadShard c d ns (.str package), s') := by
  have hkey : checkKey (.str package) = .ok () := rfl
  rw [getShard, hkey, Action.exec_bind_of_ok (Action.exec_ofExcept ..),
    Action.exec_bind_of_ok (Action.exec_get ..)]
  match hfound : s.remembered? ns (.str package) with
  | some shard => exact ⟨s, h, by rw [remembered?_eq_some h hfound]; rfl⟩
  | none =>
    simp only [h.config]
    match hload : loadShard c d ns (.str package) with
    | .error e => exact ⟨s, h, Action.exec_bind_of_error (Action.exec_ofExcept ..)⟩
    | .ok none =>
      refine ⟨s, h, ?_⟩
      rw [Action.exec_bind_of_ok (Action.exec_ofExcept ..)]
      rfl
    | .ok (some shard) =>
      refine ⟨⟨c, s.manifest, s.shards ++ [((ns, .str package), shard)]⟩, ?_, ?_⟩
      · refine ⟨rfl, h.manifest, fun entry hentry => ?_⟩
        rcases List.mem_append.mp hentry with hold | hnew
        · exact h.shards entry hold
        · rw [List.mem_singleton] at hnew
          subst hnew
          exact ⟨package, rfl, hload⟩
      · rw [Action.exec_bind_of_ok (Action.exec_ofExcept ..)]
        rfl

end Store

/-! ### Where sources lie -/

namespace Index.Contents

variable (k : Contents) (c : Config)

/-- The directory of the sources of a namespace: that of the secondary version if one is given,
else that of the primary version. -/
def sourceDir (ns : Namespace) : Path :=
  match ns, k.secondaryVersion.filter (· != "") with
  | .secondary, some version => c.cacheDir / ("fabric-api-" ++ version)
  | _, _ => c.cacheDir / (if k.version == "" then c.version else k.version) / "client"

def sourcePath (ns : Namespace) (recorded : String) : Path :=
  let path := Path.parse recorded
  if path.isAbsolute then path else (k.sourceDir c ns).join path

end Index.Contents

namespace Store

open Index

variable {c : Config} {d : Disk} {k : Contents} {s : Store} {α : Type}

lemma given?_str (v : String) : (Json.str v).given? = if v = "" then none else some (.str v) := by
  by_cases h : v = "" <;> simp [Json.given?, Json.truthy, h]

lemma primarySourceDir_str (c : Config) (v : String) :
    c.primarySourceDir (.str v) = .ok (c.cacheDir / (if v == "" then c.version else v) / "client") := by
  rw [Config.primarySourceDir, Config.versionDir, given?_str]
  by_cases h : v = "" <;> simp [h, Except.map]

lemma secondaryVersion_bind_given? (k : Contents) :
    (k.manifest.map Json.str).secondaryVersion.bind Json.given? =
      (k.secondaryVersion.filter (· != "")).map .str := by
  change (k.secondaryVersion.map Json.str).bind Json.given? = _
  match k.secondaryVersion with
  | none => rfl
  | some v => by_cases h : v = "" <;> simp [given?_str, Option.filter, h]

/-- A store finds the file of a recorded path without reading more. -/
lemma exec_resolveSource (h : Holds c d (k.manifest.map .str) s) (recorded : String)
    (ns : Namespace) :
    (resolveSource d (.str recorded) ns).exec s = (.ok (k.sourcePath c ns recorded), s) := by
  rw [resolveSource, pathOf, Action.exec_bind_of_ok (Action.exec_ofExcept ..)]
  simp only [Contents.sourcePath]
  by_cases habs : (Path.parse recorded).isAbsolute
  · simp only [habs, if_true]
    rfl
  · simp only [habs, Bool.false_eq_true, if_false]
    rw [Action.exec_bind_of_ok (exec_getManifest h)]
    simp only
    rw [Action.exec_bind_of_ok (Action.exec_get ..), h.config, secondaryVersion_bind_given?]
    have hprimary : (Action.ofExcept (c.primarySourceDir (.str k.version)) : Action Store Path).exec s =
        (.ok (c.cacheDir / (if k.version == "" then c.version else k.version) / "client"), s) := by
      rw [primarySourceDir_str]
      rfl
    unfold Contents.sourceDir
    match ns, hgiven : k.secondaryVersion.filter (· != "") with
    | .primary, _ =>
      exact Action.exec_bind_of_ok hprimary
    | .secondary, none =>
      exact Action.exec_bind_of_ok hprimary
    | .secondary, some v =>
      have hv : v ≠ "" := by simpa using Option.filter_eq_some_iff.mp hgiven |>.2
      simp only [Option.map_some, Config.secondarySourceDir, given?_str, hv, if_false,
        Option.some_or]
      rfl

end Store

end JavaAtlas

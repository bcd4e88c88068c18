import JavaAtlas.Proofs.Disk.Effects
import JavaAtlas.Proofs.Index.Format
import JavaAtlas.Proofs.Index.Packages

/-!
# Writing and reading index files

The manifest and the shards lie at places of their own below that of the index. Writing a value
stores it there or fails without a change to the file; a value that is stored is read again as
long as the directory stays in reach.
-/

namespace JavaAtlas

/-- The configuration of the examples. -/
def plainConfig : Config := ⟨⟨"/", ["home"]⟩, "1", none, "net.fabricmc", false⟩

def bareDisk : Disk := { root := .directory [], cwd := [] }

namespace Path

lemma parse_of_name {s : String} (hslash : '/' ∉ s.toList) (hne : s ≠ "") (hdot : s ≠ ".") :
    parse s = ⟨"", [s]⟩ := by
  have hsplit : s.toList.splitOn '/' = [s.toList] := by
    rw [List.splitOn_eq_splitOnP]
    refine List.splitOnP_eq_singleton fun c hc => ?_
    simpa using fun heq : c = '/' => hslash (heq ▸ hc)
  have hsegments : segments s.toList = [s] := by
    simp [segments, hsplit, hne, hdot]
  rw [parse, hsegments]
  match hchars : s.toList with
  | [] => rfl
  | c :: rest =>
    have hc : c ≠ '/' := fun heq => hslash (by simp [hchars, heq])
    simp [hc]

lemma div_of_name (base : Path) {s : String} (hslash : '/' ∉ s.toList) (hne : s ≠ "")
    (hdot : s ≠ ".") : base / s = ⟨base.root, base.parts ++ [s]⟩ := by
  change base.join (parse s) = _
  rw [parse_of_name hslash hne hdot, join, isAbsolute]
  simp

/-- What follows the last slash of a text stays together. -/
lemma splitOn_append {ending : List Char} (hslash : '/' ∉ ending) (chars : List Char) :
    ∃ front stem, (chars ++ ending).splitOn '/' = front ++ [stem ++ ending] := by
  induction chars with
  | nil =>
    refine ⟨[], [], ?_⟩
    rw [List.nil_append, List.splitOn_eq_splitOnP]
    refine List.splitOnP_eq_singleton fun c hc => ?_
    simpa using fun heq : c = '/' => hslash (heq ▸ hc)
  | cons c chars ih =>
    obtain ⟨front, stem, hsplit⟩ := ih
    rw [List.cons_append, List.splitOn_cons_eq_if_modifyHead, hsplit]
    by_cases hc : (c == '/') = true
    · rw [if_pos hc]
      exact ⟨[] :: front, stem, rfl⟩
    · rw [if_neg hc]
      match front with
      | [] => exact ⟨[], c :: stem, rfl⟩
      | first :: front => exact ⟨(c :: first) :: front, stem, rfl⟩

lemma parts_parse_json (s : String) :
    ∃ front stem, (parse (s ++ ".json")).parts = front ++ [stem ++ ".json"] := by
  have hslash : '/' ∉ ".json".toList := by decide
  obtain ⟨front, stem, hsplit⟩ := splitOn_append hslash s.toList
  have hname : String.ofList (stem ++ ".json".toList) = String.ofList stem ++ ".json" := by
    simp [String.ofList_append]
  have hne : String.ofList stem ++ ".json" ≠ "" := append_ne_of_getLast (c := 'n') rfl (by decide)
  have hdot : String.ofList stem ++ ".json" ≠ "." := append_ne_of_getLast (c := 'n') rfl (by decide)
  refine ⟨(front.map String.ofList).filter fun part => part != "" && part != ".",
    String.ofList stem, ?_⟩
  change segments (s ++ ".json").toList = _
  rw [segments, String.toList_append, hsplit, List.map_append, List.map_singleton, hname,
    List.filter_append, List.filter_cons_of_pos (by simp [hne, hdot]), List.filter_nil]

end Path

/-! ### Places of index files -/

namespace Config

variable (c : Config) {package : String}

lemma indexDir_eq : c.indexDir = ⟨c.home.root, c.home.parts ++ ["index"]⟩ :=
  c.home.div_of_name (by decide) (by decide) (by decide)

lemma manifestPath_eq :
    c.manifestPath = ⟨c.indexDir.root, c.indexDir.parts ++ ["manifest.json"]⟩ :=
  c.indexDir.div_of_name (by decide) (by decide) (by decide)

lemma manifestPath_parent : c.manifestPath.parent = c.indexDir := by
  rw [manifestPath_eq]
  simp [Path.parent]

lemma manifestPath_name : c.manifestPath.name = "manifest" ++ ".json" := by
  rw [manifestPath_eq]
  simp [Path.name]

lemma namespaceDir_eq (ns : Namespace) :
    c.namespaceDir ns = ⟨c.indexDir.root, c.indexDir.parts ++ [ns.name]⟩ := by
  cases ns <;> exact c.indexDir.div_of_name (by decide) (by decide) (by decide)

lemma shardPath_eq (ns : Namespace) (h : '/' ∉ package.toList) :
    c.shardPath ns (.str package) =
      ⟨c.indexDir.root, c.indexDir.parts ++ [ns.name, package ++ ".json"]⟩ := by
  have hname : c.shardPath ns (.str package) =
      ⟨(c.namespaceDir ns).root, (c.namespaceDir ns).parts ++ [package ++ ".json"]⟩ := by
    refine (c.namespaceDir ns).div_of_name ?_ ?_ ?_
    · simpa [Json.display] using h
    · exact Path.append_ne_of_getLast (c := 'n') rfl (by decide)
    · exact Path.append_ne_of_getLast (c := 'n') rfl (by decide)
  rw [hname, namespaceDir_eq]
  simp

lemma shardPath_parent (ns : Namespace) (h : '/' ∉ package.toList) :
    (c.shardPath ns (.str package)).parent = ⟨c.indexDir.root, c.indexDir.parts ++ [ns.name]⟩ := by
  rw [shardPath_eq c ns h]
  simp [Path.parent, List.dropLast_append_of_ne_nil]

lemma shardPath_parent_parent (ns : Namespace) (h : '/' ∉ package.toList) :
    (c.shardPath ns (.str package)).parent.parent = c.indexDir := by
  rw [shardPath_parent c ns h]
  simp [Path.parent]

lemma isEntry_manifestPath : c.manifestPath.IsEntry := by
  rw [manifestPath_eq, indexDir_eq]
  exact ⟨⟨by simp, by simp [Path.name]⟩, by simp [Path.parent]⟩

lemma isEntry_shardPath (ns : Namespace) (h : '/' ∉ package.toList) :
    (c.shardPath ns (.str package)).IsEntry := by
  rw [shardPath_eq c ns h, indexDir_eq]
  refine ⟨⟨by simp, ?_⟩, by simp [Path.parent, List.dropLast_append_of_ne_nil]⟩
  simpa [Path.name] using Path.append_ne_of_getLast (c := 'n') rfl (by decide)

/-- The file of a shard is a JSON file, whatever its package is. -/
lemma exists_name_shardPath (ns : Namespace) (package : Json) :
    ∃ stem, (c.shardPath ns package).IsNamed ∧ (c.shardPath ns package).name = stem ++ ".json" := by
  obtain ⟨front, stem, hparts⟩ := Path.parts_parse_json package.display
  obtain ⟨before, hbefore⟩ : ∃ before, (c.shardPath ns package).parts = before ++ [stem ++ ".json"] := by
    change ∃ before, ((c.namespaceDir ns).join (Path.parse (package.display ++ ".json"))).parts = _
    rw [Path.join]
    split
    · exact ⟨front, hparts⟩
    · exact ⟨(c.namespaceDir ns).parts ++ front, by simp [hparts]⟩
  have hname : (c.shardPath ns package).name = stem ++ ".json" := by
    rw [Path.name, hbefore]
    simp
  refine ⟨stem, ⟨by simp [hbefore], ?_⟩, hname⟩
  rw [hname]
  exact Path.append_ne_of_getLast (c := 'n') rfl (by decide)

end Config

namespace Index

/-- The places of the shards of a namespace and of their drafts, below the place of the index. -/
def ShardFiles (base : List String) (ns : Namespace) (names : List String) (q : List String) :
    Prop :=
  ∃ package ∈ names, q = base ++ [ns.name, package ++ ".json"] ∨
    q = base ++ [ns.name, package ++ ".json" ++ ".tmp"]

/-- The places of the manifest and of its draft, below the place of the index. -/
def ManifestFiles (base : List String) (q : List String) : Prop :=
  q = base ++ ["manifest.json"] ∨ q = base ++ ["manifest.json.tmp"]

end Index

namespace Disk

variable (d : Disk) (c : Config) {package : String}

lemma placeOf_manifestPath :
    d.placeOf c.manifestPath = d.placeOf c.indexDir ++ ["manifest.json"] := by
  rw [placeOf_eq c.isEntry_manifestPath.toIsNamed, Config.manifestPath_eq]
  simp [Path.parent, Path.name]

lemma placeOf_manifestPath_draft :
    d.placeOf c.manifestPath.draft = d.placeOf c.indexDir ++ ["manifest.json.tmp"] := by
  rw [placeOf_eq c.isEntry_manifestPath.draft.toIsNamed, Path.draft_parent, Path.draft_name,
    Config.manifestPath_eq]
  simp [Path.parent, Path.name]

lemma placeOf_shardPath_parent (ns : Namespace) (h : '/' ∉ package.toList) :
    d.placeOf (c.shardPath ns (.str package)).parent = d.placeOf c.indexDir ++ [ns.name] := by
  rw [Config.shardPath_parent c ns h, placeOf, Path.follow_append]
  refine Path.follow_of_not_mem ?_ _
  cases ns <;> decide

lemma placeOf_shardPath (ns : Namespace) (h : '/' ∉ package.toList) :
    d.placeOf (c.shardPath ns (.str package)) =
      d.placeOf c.indexDir ++ [ns.name, package ++ ".json"] := by
  rw [placeOf_eq (c.isEntry_shardPath ns h).toIsNamed, placeOf_shardPath_parent d c ns h,
    Config.shardPath_eq c ns h]
  simp [Path.name]

lemma placeOf_shardPath_draft (ns : Namespace) (h : '/' ∉ package.toList) :
    d.placeOf (c.shardPath ns (.str package)).draft =
      d.placeOf c.indexDir ++ [ns.name, package ++ ".json" ++ ".tmp"] := by
  rw [placeOf_eq (c.isEntry_shardPath ns h).draft.toIsNamed, Path.draft_parent, Path.draft_name,
    placeOf_shardPath_parent d c ns h, Config.shardPath_eq c ns h]
  simp [Path.name]

end Disk

/-! ### Values in index files -/

namespace Index

variable {d e : Disk} {p : Path} {v : Json} {touched : List String → Prop}

/-- What the index file of a value holds. -/
def fileOf (v : Json) : FileData := .bytes (v.print .file ++ "\n").toUTF8

/-- At the place of a path that fits lies the file of a value that can be written. -/
structure Keeps (d : Disk) (p : Path) (v : Json) : Prop where
  writable : v.isWritable = true
  fits : p.Fits
  data : d.root.dataAt? (d.placeOf p) = some (fileOf v)

/-- The file of a value is kept, and the path leads to it. -/
structure Stores (d : Disk) (p : Path) (v : Json) : Prop extends Keeps d p v where
  reaches : d.Reaches p.parent

/-- A value that is stored, with nothing in the place where it is drafted and a path to there, so
that it can be written again. -/
structure Settles (d : Disk) (p : Path) (v : Json) : Prop extends Stores d p v where
  draftFits : p.draft.Fits
  draftGone : d.root.get? (d.placeOf p.draft) = none

lemma Keeps.congr (h : Keeps d p v) (hplace : e.placeOf p = d.placeOf p)
    (hdata : e.root.dataAt? (d.placeOf p) = d.root.dataAt? (d.placeOf p)) : Keeps e p v :=
  ⟨h.writable, h.fits, by rw [hplace, hdata, h.data]⟩

/-- A value stays stored while its file does not change. -/
lemma Stores.of_changesOnly (h : Stores d p v) (hchange : d.ChangesOnly touched e)
    (hp : ¬ touched (d.placeOf p)) : Stores e p v :=
  ⟨h.toKeeps.congr (hchange.placeOf p) (hchange.files _ hp), hchange.reaches h.reaches⟩

lemma writeJson_eq (p : Path) (v : Json) : writeJson p v = (do
    Disk.makeDirectories p.parent
    if !v.isWritable then throw .unwrittenNumber
    Disk.writeFile p.draft (fileOf v)
    Disk.moveFile p.draft p) := rfl

/-- Once its directories are made, writing a value stores it, or fails without a change to the
file. -/
lemma edits_writeJson (hp : p.IsEntry) (v : Json) (d : Disk) :
    let made := ((Disk.makeDirectories p.parent).exec d).2
    (∃ failure e, (writeJson p v).exec d = (.error failure, e) ∧
      made.Edits (· = d.placeOf p.draft) (fun _ => False) e) ∨
    (∃ e, (writeJson p v).exec d = (.ok (), e) ∧
      made.Edits (fun q => q = d.placeOf p ∨ q = d.placeOf p.draft) (· = d.placeOf p.draft) e ∧
      Settles e p v) := by
  intro made
  have hmade := Disk.confined_makeDirectories d.cwd p.parent d rfl
  rw [writeJson_eq]
  match hmake : (Disk.makeDirectories p.parent).exec d with
  | (.error failure, d₁) =>
    obtain rfl : made = d₁ := congrArg Prod.snd hmake
    exact Or.inl ⟨failure, made, Action.exec_bind_of_error hmake, .refl made⟩
  | (.ok (), d₁) =>
    obtain rfl : made = d₁ := congrArg Prod.snd hmake
    rw [Action.exec_bind_of_ok hmake]
    by_cases hwritable : v.isWritable = true
    · simp only [hwritable, Bool.not_true, Bool.false_eq_true, if_false]
      rcases Disk.exec_writeFile hp.draft (fileOf v) made with
        ⟨failure, hwrite⟩ | ⟨d₂, hwrite, hadmits, hdrafted, hdraft⟩
      · exact Or.inl ⟨failure, made, Action.exec_bind_of_error hwrite, .refl made⟩
      · rw [Action.exec_bind_of_ok hwrite]
        rw [← hdrafted.placeOf] at hdraft
        rcases Disk.exec_moveFile hp.draft hp (Disk.placeOf_draft_ne hp.toIsNamed d₂) hdraft with
          ⟨failure, hmove⟩ | ⟨e, hmove, htarget, hmoved, hdata, hgone⟩
        · rw [hmade.placeOf] at hdrafted
          exact Or.inl ⟨failure, d₂, hmove, hdrafted⟩
        · refine Or.inr ⟨e, hmove, ?_, ⟨⟨hwritable, htarget.fits, ?_⟩, ?_⟩, hadmits.fits, ?_⟩
          · rw [hdrafted.placeOf, hdrafted.placeOf, hmade.placeOf, hmade.placeOf] at hmoved
            rw [hmade.placeOf] at hdrafted
            exact (hdrafted.mono (fun _ => Or.inr) fun _ => False.elim).trans
              (hmoved.mono (fun _ => Or.inl) fun _ => id)
          · rwa [hmoved.placeOf]
          · exact hmoved.reaches htarget.reaches
          · rw [hmoved.placeOf]
            refine Node.get?_eq_none_iff.mpr ⟨hgone, fun hdir => ?_⟩
            exact hadmits.file (hdrafted.placeOf p.draft ▸ hdrafted.made _ (hmoved.made _ hdir))
    · simp only [Bool.not_eq_true] at hwritable
      simp only [hwritable, Bool.not_false, if_true]
      exact Or.inl ⟨_, made, rfl, .refl made⟩

/-- Writing a value stores it, or fails without a change to the file. -/
lemma exec_writeJson (hp : p.IsEntry) (v : Json) (d : Disk) :
    (∃ failure e, (writeJson p v).exec d = (.error failure, e) ∧
      d.ChangesOnly (· = d.placeOf p.draft) e) ∨
    (∃ e, (writeJson p v).exec d = (.ok (), e) ∧
      d.ChangesOnly (fun q => q = d.placeOf p ∨ q = d.placeOf p.draft) e ∧ Settles e p v) := by
  have hmade : ∀ {touched}, d.ChangesOnly touched ((Disk.makeDirectories p.parent).exec d).2 :=
    (Disk.confined_makeDirectories d.cwd p.parent d rfl).mono fun _ => False.elim
  rcases edits_writeJson hp v d with ⟨failure, e, hwrite, hedits⟩ | ⟨e, hwrite, hedits, hstored⟩
  · exact Or.inl ⟨failure, e, hwrite, hmade.trans (hedits.toChangesOnly.mono (by simp))⟩
  · exact Or.inr ⟨e, hwrite, hmade.trans (hedits.toChangesOnly.mono (by simp)), hstored⟩

/-! ### Reading -/

/-- A value is read from a file whose text reads as it. -/
lemma readJson_eq_some (h : readJson d p = .ok (some v)) :
    ∃ data text, d.fileAt p = .ok data ∧ Text.decodeStrict? data.toBytes = some text ∧
      Json.readWithin maxNesting text = .ok v := by
  rw [readJson] at h
  match hexists : d.doesExist p with
  | .error _ => simp [hexists] at h
  | .ok false => simp [hexists] at h
  | .ok true =>
    simp only [hexists, ok_bind, if_true] at h
    match hfile : d.fileAt p with
    | .error _ => simp [hfile] at h
    | .ok data =>
      simp only [hfile] at h
      match htext : Text.decodeStrict? data.toBytes with
      | none => simp [htext] at h
      | some text =>
        simp only [htext] at h
        refine ⟨data, text, rfl, htext, ?_⟩
        split at h
        · next members hread =>
          simp only [pure_eq_ok, Except.ok.injEq, Option.some.injEq] at h
          rw [hread, h]
        all_goals simp at h

/-- What is read depends on what the file holds. -/
lemma readJson_congr {data : FileData} (hp : p.IsNamed) (hd : d.fileAt p = .ok data)
    (he : e.fileAt p = .ok data) : readJson e p = readJson d p := by
  have hexists : ∀ d : Disk, d.fileAt p = .ok data → d.doesExist p = .ok true := by
    intro d h
    obtain ⟨hfits, hreach, hdata⟩ := (Disk.fileAt_eq_ok_iff hp).mp h
    obtain ⟨serial, hget⟩ := Node.dataAt?_eq_some_iff.mp hdata
    exact Disk.doesExist_eq_ok hp hfits hreach hget
  rw [readJson, readJson, hexists d hd, hexists e he, hd, he]

/-- The text of a file that holds an object which reads back. -/
lemma decode_fileOf (h : Json.ReadsBack maxNesting v) :
    ∃ text, Text.decodeStrict? (fileOf v).toBytes = some text ∧
      Json.readWithin maxNesting text = .ok v :=
  ⟨_, Json.decodeStrict?_print h, Json.readWithin_print h⟩

/-- An object that is stored and reads back is read. -/
lemma readJson_of_stores (hp : p.IsNamed) (hv : ∃ members, v = .obj members) (h : Stores d p v)
    (hread : Json.ReadsBack maxNesting v) : readJson d p = .ok (some v) := by
  obtain ⟨members, rfl⟩ := hv
  obtain ⟨serial, hget⟩ := Node.dataAt?_eq_some_iff.mp h.data
  obtain ⟨text, htext, hvalue⟩ := decode_fileOf hread
  have hfile : d.fileAt p = .ok (fileOf (.obj members)) :=
    (Disk.fileAt_eq_ok_iff hp).mpr ⟨h.fits, h.reaches, h.data⟩
  rw [readJson, Disk.doesExist_eq_ok hp h.fits h.reaches hget]
  simp only [ok_bind, if_true, hfile, htext, hvalue, pure_eq_ok]

/-- What is read from a file that holds an object which reads back is that object. -/
lemma eq_of_readJson {w : Json} (hread : Json.ReadsBack maxNesting w)
    (hdata : d.root.dataAt? (d.placeOf p) = some (fileOf w)) (h : readJson d p = .ok (some v)) :
    v = w := by
  obtain ⟨data, text, hfile, htext, hvalue⟩ := readJson_eq_some h
  have hsame := Disk.dataAt?_of_fileAt hfile
  rw [hdata, Option.some.injEq] at hsame
  obtain ⟨other, hother, hw⟩ := decode_fileOf hread
  rw [hsame, htext, Option.some.injEq] at hother
  rw [hother, hw, Except.ok.injEq] at hvalue
  exact hvalue.symm

/-! ### The manifest and the shards of a build -/

variable (c : Config) (k : Contents) {ns : Namespace} {package : String}

def Contents.manifestJson : Json := (k.manifest.map Json.str).toJson

def Contents.shardJson (ns : Namespace) (package : String) : Json :=
  ((k.shard ns package).map Json.str).toJson

lemma Contents.readsBack_manifestJson : Json.ReadsBack maxNesting k.manifestJson :=
  k.manifest.readsBack

lemma Contents.readsBack_shardJson (h : (k.shardJson ns package).isWritable = true) :
    Json.ReadsBack maxNesting (k.shardJson ns package) :=
  Shard.readsBack (k.nodup_types ns package) h

lemma Contents.ofJson_manifestJson :
    Manifest.ofJson k.manifestJson = .ok (k.manifest.map .str) :=
  Manifest.ofJson_map k.manifest

lemma Contents.ofJson_shardJson :
    Shard.ofJson (k.shardJson ns package) = .ok ((k.shard ns package).map .str) :=
  Shard.ofJson_map (k.shard ns package)

/-- The manifest that is stored is loaded. -/
lemma loadManifest_of_stores (h : Stores d c.manifestPath k.manifestJson) :
    loadManifest c d = .ok (some (k.manifest.map .str)) := by
  have hread : readJson d c.manifestPath = .ok (some k.manifestJson) :=
    readJson_of_stores c.isEntry_manifestPath.toIsNamed ⟨_, rfl⟩ h k.readsBack_manifestJson
  simp only [loadManifest, hread, ok_bind, k.ofJson_manifestJson, passingOver]

/-- A shard that is stored is loaded. -/
lemma loadShard_of_stores (hslash : '/' ∉ package.toList)
    (h : Stores d (c.shardPath ns (.str package)) (k.shardJson ns package)) :
    loadShard c d ns (.str package) = .ok (some ((k.shard ns package).map .str)) := by
  have hread : readJson d (c.shardPath ns (.str package)) = .ok (some (k.shardJson ns package)) :=
    readJson_of_stores (c.isEntry_shardPath ns hslash).toIsNamed ⟨_, rfl⟩ h
      (k.readsBack_shardJson h.writable)
  simp only [loadShard, hread, ok_bind, k.ofJson_shardJson, passingOver]

lemma loadManifest_eq_some {m : Manifest Json} (h : loadManifest c d = .ok (some m)) :
    ∃ v, readJson d c.manifestPath = .ok (some v) ∧ Manifest.ofJson v = .ok m := by
  rw [loadManifest] at h
  match hread : readJson d c.manifestPath with
  | .error _ => simp [hread] at h
  | .ok none => simp [hread] at h
  | .ok (some v) =>
    simp only [hread, ok_bind, passingOver] at h
    split at h
    · next m hm =>
      simp only [Except.ok.injEq, Option.some.injEq] at h
      exact ⟨v, rfl, h ▸ hm⟩
    · split at h <;> simp at h

lemma loadShard_eq_some {v : Json} {s : Shard Json} (h : loadShard c d ns v = .ok (some s)) :
    ∃ w, readJson d (c.shardPath ns v) = .ok (some w) ∧ Shard.ofJson w = .ok s := by
  rw [loadShard] at h
  match hread : readJson d (c.shardPath ns v) with
  | .error _ => simp [hread] at h
  | .ok none => simp [hread] at h
  | .ok (some w) =>
    simp only [hread, ok_bind, passingOver] at h
    split at h
    · next s hs =>
      simp only [Except.ok.injEq, Option.some.injEq] at h
      exact ⟨w, rfl, h ▸ hs⟩
    · split at h <;> simp at h

end Index

end JavaAtlas

import JavaAtlas.Proofs.Tools.Steps

/-!
# Answers that are current

A service keeps the store of the index for as long as it runs, through builds that succeed and
builds that fail, while source files change under it. Whatever it was asked before, it answers a
question as a store would that has read nothing.
-/

namespace JavaAtlas

namespace Tools

open Index Store

variable {c : Config} {s t : Service} {e : Disk} {α β : Type}

/-! ### Changes by others -/

/-- Between two calls others have left the JSON files alone, and the index and the shards that
were read are still found where they were. -/
structure Undisturbed (s : Service) (e : Disk) : Prop where
  cwd : e.cwd = s.disk.cwd
  files : ∀ dir stem data, s.disk.root.dataAt? (dir ++ [stem ++ ".json"]) = some data →
    e.root.dataAt? (dir ++ [stem ++ ".json"]) = some data
  index : s.disk.Reaches s.config.indexDir → e.Reaches s.config.indexDir
  shards : ∀ entry ∈ s.store.shards, e.Reaches (s.config.shardPath entry.1.1 entry.1.2).parent

/-- The service works for a configuration, and remembers nothing but what its disk gives. -/
structure Faithful (c : Config) (s : Service) : Prop where
  config : s.config = c
  recalls : Recalls c s.disk s.store

lemma faithful_start (c : Config) (d : Disk) : Faithful c (.start c d) :=
  ⟨rfl, recalls_fresh c d⟩

/-- What was read from a JSON file is read from it again. -/
lemma Undisturbed.readJson (h : Undisturbed s e) {p : Path} {stem : String} {v : Json}
    (hp : p.IsNamed) (hname : p.name = stem ++ ".json") (hreach : e.Reaches p.parent)
    (hread : readJson s.disk p = .ok (some v)) : Index.readJson e p = .ok (some v) := by
  obtain ⟨data, text, hfile, -, -⟩ := readJson_eq_some hread
  obtain ⟨hfits, -, hdata⟩ := (Disk.fileAt_eq_ok_iff hp).mp hfile
  have hplace : e.placeOf p = s.disk.placeOf p := Disk.placeOf_congr h.cwd p
  have hfile' : e.fileAt p = .ok data := by
    refine (Disk.fileAt_eq_ok_iff hp).mpr ⟨hfits, hreach, ?_⟩
    rw [hplace]
    rw [Disk.placeOf_eq hp, hname] at hdata ⊢
    exact h.files _ _ _ hdata
  rw [readJson_congr hp hfile hfile', hread]

lemma Undisturbed.loadManifest (h : Undisturbed s e) (hc : s.config = c) {m : Manifest Json}
    (hm : loadManifest c s.disk = .ok (some m)) : Index.loadManifest c e = .ok (some m) := by
  obtain ⟨v, hread, hv⟩ := loadManifest_eq_some c hm
  obtain ⟨data, -, hfile, -, -⟩ := readJson_eq_some hread
  have hp := c.isEntry_manifestPath.toIsNamed
  have hreach : e.Reaches c.manifestPath.parent := by
    obtain ⟨-, hreach, -⟩ := (Disk.fileAt_eq_ok_iff hp).mp hfile
    rw [c.manifestPath_parent] at hreach ⊢
    exact hc ▸ h.index (hc ▸ hreach)
  simp only [Index.loadManifest, h.readJson hp c.manifestPath_name hreach hread, ok_bind, hv,
    passingOver]

lemma Undisturbed.loadShard (h : Undisturbed s e) {ns : Namespace} {package : Json}
    {shard : Shard Json} (hreach : e.Reaches (c.shardPath ns package).parent)
    (hload : loadShard c s.disk ns package = .ok (some shard)) :
    Index.loadShard c e ns package = .ok (some shard) := by
  obtain ⟨w, hread, hw⟩ := loadShard_eq_some c hload
  obtain ⟨stem, hp, hname⟩ := c.exists_name_shardPath ns package
  simp only [Index.loadShard, h.readJson hp hname hreach hread, ok_bind, hw, passingOver]

/-- To make directories and to change other files does not disturb. -/
lemma Faithful.undisturbed_of_changesOnly (hs : Faithful c s) {touched : List String → Prop}
    (h : s.disk.ChangesOnly touched e) (hjson : ∀ dir stem, ¬ touched (dir ++ [stem ++ ".json"])) :
    Undisturbed s e where
  cwd := h.cwd
  files dir stem data hdata := by rw [h.files _ (hjson dir stem), hdata]
  index := h.reaches
  shards entry hentry := by
    obtain ⟨-, hload⟩ := hs.recalls.shards entry hentry
    obtain ⟨w, hread, -⟩ := loadShard_eq_some c hload
    obtain ⟨data, -, hfile, -, -⟩ := readJson_eq_some hread
    obtain ⟨stem, hp, -⟩ := c.exists_name_shardPath entry.1.1 entry.1.2
    obtain ⟨-, hreach, -⟩ := (Disk.fileAt_eq_ok_iff hp).mp hfile
    rw [hs.config]
    exact h.reaches hreach

/-- What is remembered stays true while others do not disturb it. -/
lemma Faithful.undisturbed (hs : Faithful c s) (h : Undisturbed s e)
    (hstore : t.store = s.store) (hconfig : t.config = s.config) (hdisk : t.disk = e) :
    Faithful c t := by
  have hmanifest : ∀ m, loadManifest c s.disk = .ok (some m) → loadManifest c e = .ok (some m) :=
    fun m hm => h.loadManifest hs.config hm
  refine ⟨hconfig.trans hs.config, ?_⟩
  rw [hdisk, hstore]
  refine ⟨hs.recalls.config, fun m hm => hmanifest m (hs.recalls.manifest m hm), ?_⟩
  intro entry hentry
  obtain ⟨⟨m, hm, hasked⟩, hload⟩ := hs.recalls.shards entry hentry
  have hreach := h.shards entry hentry
  rw [hs.config] at hreach
  exact ⟨⟨m, hmanifest m hm, hasked⟩, h.loadShard hreach hload⟩

/-! ### What a call leaves to remember -/

/-- A computation after which a service still remembers nothing but what its disk gives. -/
def KeepsFaith (c : Config) (act : Action Service α) : Prop :=
  ∀ s, Faithful c s → Faithful c (act.exec s).2

namespace KeepsFaith

lemma onStore {ask : Disk → Action Store α} (h : ∀ d, Steady c d (ask d)) :
    KeepsFaith c (Service.onStore ask) :=
  fun s hs => ⟨hs.config, (h s.disk).recalls hs.recalls⟩

lemma onGraph (ask : Disk → Action CallGraph.Store α) : KeepsFaith c (Service.onGraph ask) :=
  fun _ hs => ⟨hs.config, hs.recalls⟩

end KeepsFaith

/-- An index is built only where there was none, so that the store had nothing to remember. -/
lemma keepsFaith_ensureIndex (amb : Ambient) : KeepsFaith c (Service.ensureIndex amb) := by
  intro s hs
  obtain ⟨hensures, hconfig⟩ := Service.ensures_ensureIndex amb s
  refine ⟨hconfig.trans hs.config, ?_⟩
  generalize ((Service.ensureIndex amb).exec s).1 = outcome,
    ((Service.ensureIndex amb).exec s).2.disk = d,
    ((Service.ensureIndex amb).exec s).2.store = store at hensures
  cases hensures with
  | ready | refused => exact hs.recalls
  | broken hready =>
    rw [hs.config] at hready
    have hnone : ∀ m, loadManifest c s.disk ≠ .ok (some m) := by
      simp [loadManifest_of_not_ready hready]
    rw [hs.recalls.eq_fresh hnone]
    exact recalls_fresh c d
  | built =>
    rw [hs.recalls.config]
    exact recalls_fresh c d

lemma keepsFaith_answerQuery (q : IndexQuery) : KeepsFaith c (answerQuery q) := by
  obtain ⟨α, ask, reply, hrun, hsteady⟩ := exec_answerQuery q
  intro s hs
  rw [hrun]
  exact ⟨hs.config, (hsteady c s.disk).recalls hs.recalls⟩

/-- Two services on the same disk that remember nothing else give the same answer. -/
lemma answerQuery_congr (q : IndexQuery) (hs : Faithful c s) (ht : Faithful c t)
    (hdisk : s.disk = t.disk) (hapart : q.walks = true → Unmistaken c t.disk) :
    ((answerQuery q).exec s).1 = ((answerQuery q).exec t).1 := by
  obtain ⟨α, ask, reply, hrun, hsteady⟩ := exec_answerQuery q
  rw [hrun, hrun, hdisk]
  exact congrArg (reply <$> ·) ((hsteady c t.disk).same hapart (hdisk ▸ hs.recalls) ht.recalls)

/-- A request that needs no index keeps faith, unless it is to make the call graph. -/
lemma keepsFaith_answerDirect (amb : Ambient) {request : Request}
    (h : ∀ dump, request ≠ .ingest dump) : KeepsFaith c (answerDirect amb request) :=
  keeps_answerDirect amb (KeepsFaith.onStore fun _ => steady_versions)
    (fun ns => KeepsFaith.onStore fun _ => steady_listPackages ns) KeepsFaith.onGraph
    fun dump hdump => absurd hdump (h dump)

/-- Every call keeps faith, the making of a call graph if it does not disturb the index. -/
lemma Faithful.answer (hs : Faithful c s) {amb : Ambient} {request : Request}
    {r : Except Failure Json} (hrun : (answer amb request).exec s = (r, t))
    (hingest : ∀ dump, request = .ingest dump → Undisturbed s t.disk) : Faithful c t := by
  obtain rfl : t = ((Tools.answer amb request).exec s).2 := by rw [hrun]
  cases request with
  | query q =>
    have hensure : (Service.ensureIndex amb).outcome.Keeps (Faithful c) := keepsFaith_ensureIndex amb
    refine hensure.bind (fun outcome => ?_) s hs
    split
    · exact keepsFaith_answerQuery q
    · exact .pure _
  | rebuild version secondaryVersion =>
    obtain ⟨phase, error, hdone⟩ := exec_answer_rebuild amb version secondaryVersion s
    rw [hdone]
    refine ⟨hs.config, ?_⟩
    rw [Store.forget, hs.recalls.config]
    exact recalls_fresh c _
  | ingest dump =>
    obtain ⟨disk, graph, hdone⟩ : ∃ disk graph,
        ((Tools.answer amb (.ingest dump)).exec s).2 = { s with disk, graph } :=
      exec_answerIngest amb dump s
    exact hs.undisturbed (hingest dump rfl) (by rw [hdone]) (by rw [hdone]) rfl
  | refs | searchMethods | callGraphStats | status | refused =>
    exact keepsFaith_answerDirect amb (by simp) s hs

/-! ### Histories -/

/-- The states that a service for a configuration comes to: started on any disk, called in any way,
with changes by others between two calls that do not disturb the index. -/
inductive Reached (c : Config) : Service → Prop
  | start (d : Disk) : Reached c (.start c d)
  | changed {s : Service} {e : Disk} (hs : Reached c s) (h : Undisturbed s e) :
      Reached c { s with disk := e }
  | called {s t : Service} {amb : Ambient} {tool : String} {args : Json} {r : Except Failure Json}
      (hs : Reached c s) (hrun : (callTool amb tool args).exec s = (r, t))
      (hingest : ∀ dump, readRequest tool args = .ok (.ingest dump) → Undisturbed s t.disk) :
      Reached c t

/-- Over a whole history a service remembers nothing but what its disk gives. -/
lemma Reached.faithful (h : Reached c s) : Faithful c s := by
  induction h with
  | start d => exact faithful_start c d
  | changed hs h ih => exact ih.undisturbed h rfl rfl rfl
  | @called s t amb tool args r hs hrun hingest ih =>
    match hrequest : readRequest tool args with
    | .error e =>
      rw [callTool, hrequest, Action.exec_bind_of_error (Action.exec_ofExcept ..),
        Prod.mk.injEq] at hrun
      exact hrun.2 ▸ ih
    | .ok request =>
      rw [exec_callTool hrequest] at hrun
      refine ih.answer hrun fun dump hdump => hingest dump ?_
      rw [hrequest, hdump]

/-- Any file that is not a JSON file can be written between two calls. -/
lemma Reached.written (hs : Reached c s) {p : Path} (hp : p.IsEntry)
    (hname : ∀ stem, stem ++ ".json" ≠ p.name) (data : FileData) :
    Reached c { s with disk := ((Disk.writeFile p data).exec s.disk).2 } := by
  have hchange : s.disk.ChangesOnly (· = s.disk.placeOf p)
      ((Disk.writeFile p data).exec s.disk).2 := by
    rcases Disk.exec_writeFile hp data s.disk with ⟨failure, hwrite⟩ | ⟨d, hwrite, -, hedits, -⟩
    · rw [hwrite]
      exact .refl _
    · rw [hwrite]
      exact hedits.toChangesOnly.mono (by simp)
  refine .changed hs (hs.faithful.undisturbed_of_changesOnly hchange fun dir stem h => ?_)
  rw [Disk.placeOf_eq hp.toIsNamed] at h
  exact hname stem (by simpa using congrArg List.getLast? h)

/-- An index of one type, with its source file. -/
def indexedDisk : Disk where
  root := .directory [("home", .directory
    [("index", .directory
      [("manifest.json", .file 0 (.bytes
        "\x7b\"corpusVersion\": \"1\", \"packages\": \x7b\"primary\": [\"b\"]\x7d\x7d".toUTF8)),
      ("primary", .directory [("b.json", .file 1 (.bytes
        "\x7b\"package\": \"b\", \"classes\": \x7b\"A\": \x7b\"sourcePath\": \"A.java\"\x7d\x7d\x7d".toUTF8))])]),
    ("cache", .directory [("1", .directory [("client", .directory
      [("A.java", .file 2 (.bytes "class A\x7b".toUTF8))])])])])]
  cwd := []
  nextSerial := 3

def askedService : Service :=
  ((callTool plainAmbient "mc_get_class" (.obj [("class_name", .str "b.A")])).exec
    (.start plainConfig indexedDisk)).2

def changedSource : Path := ⟨"/", ["home", "cache", "1", "client", "A.java"]⟩

def changedService : Service :=
  { askedService with disk := ((Disk.writeFile changedSource
      (.bytes "class A extends B\x7b".toUTF8)).exec askedService.disk).2 }

lemma reached_changedService : Reached plainConfig changedService := by
  have hrequest : readRequest "mc_get_class" (.obj [("class_name", .str "b.A")]) =
      .ok (.query (.getType (.str "b.A"))) := rfl
  have hasked : Reached plainConfig askedService := by
    refine .called (.start indexedDisk) (Prod.eta _).symm fun dump h => ?_
    rw [hrequest] at h
    cases h
  refine hasked.written ⟨⟨by decide, by decide⟩, by decide⟩ (fun stem => ?_) _
  exact Path.append_ne_of_getLast (c := 'n') rfl (by decide)

def answeredChange : Except Failure Json × Service :=
  (callTool plainAmbient "mc_get_class" (.obj [("class_name", .str "b.A")])).exec changedService

/-- The number of results that an answer tells. -/
def countTold (r : Except Failure Json) : Option Int :=
  (r.bind (·.member "count" .null)).toOption.bind Json.whole?

/-- An index whose manifest lists two packages that are equal as keys; only one has a shard. -/
def mistakenDisk : Disk where
  root := .directory
    [("home", .directory [("index", .directory
      [("manifest.json", .file 0 (.bytes
        "\x7b\"corpusVersion\": \"1\", \"packages\": \x7b\"primary\": [true, 1]\x7d\x7d".toUTF8)),
      ("primary", .directory [("1.json", .file 1 (.bytes
        "\x7b\"package\": \"1\", \"classes\": \x7b\"A\": \x7b\x7d\x7d\x7d".toUTF8))])])])]
  cwd := []
  nextSerial := 2

/-- An index from which a name leads to a shard outside of it, through a directory of sources. -/
def detourDisk : Disk where
  root := .directory
    [("home", .directory [("index", .directory
      [("manifest.json", .file 0 (.bytes "\x7b\"corpusVersion\": \"1\"\x7d".toUTF8)),
      ("primary", .directory [])])]),
    ("p.json", .file 1 (.bytes
      "\x7b\"package\": \"p\", \"classes\": \x7b\"A\": \x7b\"sourcePath\": \"/A.java\"\x7d\x7d\x7d".toUTF8)),
    ("A.java", .file 2 (.bytes "class A\x7b".toUTF8)), ("src", .directory [])]
  cwd := []
  nextSerial := 3

end Tools

end JavaAtlas

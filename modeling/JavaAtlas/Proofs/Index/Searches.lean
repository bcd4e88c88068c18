import JavaAtlas.Proofs.Index.Memory
import JavaAtlas.Proofs.Index.Listed
import JavaAtlas.Proofs.Java.ReadBack

/-!
# The first fifty hits

A search walks through the packages and stops once it has enough. Plainly put, it goes through all
symbols of the index in order, keeps those of the wanted kind whose name contains the query, without
regard to case, and gives the first fifty.
-/

namespace JavaAtlas

open Index Store

/-! ### Texts that occur in texts -/

lemma Text.occursIn_iff {needle s : List Char} : Text.occursIn needle s = true ↔ needle <:+: s := by
  induction s with
  | nil => simp [occursIn]
  | cons c rest ih =>
    rw [occursIn, Bool.or_eq_true, List.isPrefixOf_iff_prefix, ih, List.infix_cons_iff]

/-! ### The symbols of an index -/

namespace Index.Contents

variable (k : Contents) (c : Config)

/-- The symbols of a type that is met: the type, then its fields, then its methods. -/
def symbolsIn (v : Visit) : List SearchHit :=
  let path := (k.fileOf c v).text
  [⟨.type, v.qualifiedName, v.simpleName, path, none, none⟩] ++
    v.decl.fields.map (fieldHit path v) ++ v.decl.methods.map (methodHit path v)

/-- All symbols, in the order in which packages and types are met. -/
def symbols : List SearchHit := (k.visits fun _ => true).flatMap (k.symbolsIn c)

end Index.Contents

/-- The name of a symbol contains a text, without regard to case. -/
def SearchHit.Matches (query : String) (hit : SearchHit) : Prop :=
  (lowercase query).toList <:+: (lowercase hit.name).toList

instance (query : String) (hit : SearchHit) : Decidable (hit.Matches query) :=
  inferInstanceAs (Decidable (_ <:+: _))

namespace Index.Contents

variable (k : Contents) (c : Config)

/-- All symbols of a kind, or of any, whose name contains a text. -/
def matching (query : String) (kind : Option SymbolKind) : List SearchHit :=
  (k.symbols c).filter fun hit => (∀ wanted ∈ kind, hit.kind = wanted) ∧ hit.Matches query

/-- What matches and is of a kind is what matches, but for what is of other kinds. -/
lemma matching_some (query : String) (kind : SymbolKind) :
    k.matching c query (some kind) = (k.matching c query none).filter (·.kind = kind) := by
  rw [matching, matching, List.filter_filter]
  congr 1
  funext hit
  simp

end Index.Contents

/-- The names of packages that were collected are texts, and told apart as such. -/
lemma Index.Serves.unmistaken {c : Config} {d : Disk} {k : Contents} (h : Serves c d k) :
    Unmistaken c d := by
  intro m hm
  rw [h.manifest, Except.ok.injEq, Option.some.injEq] at hm
  subst hm
  refine tellsApart_of_texts fun ns package hpackage => ?_
  cases ns <;> obtain ⟨name, -, rfl⟩ := List.mem_map.mp hpackage <;> exact ⟨name, rfl⟩

namespace Store

variable {c : Config} {d : Disk} {k : Contents} {s : Store}

/-- The hits among members are those whose names contain the text that is searched for. -/
lemma memberHits_eq {β : Type} (needle : String) (nameOf : β → Json) (hitOf : β → SearchHit)
    {members : List β} (h : ∀ x ∈ members, nameOf x = .str (hitOf x).name) :
    memberHits needle nameOf hitOf members = .ok ((members.map hitOf).filter fun hit =>
      Text.occursIn needle.toList (lowercase hit.name).toList) := by
  induction members with
  | nil => rfl
  | cons x rest ih =>
    have hlower : lowerOf (nameOf x) = .ok (lowercase (hitOf x).name) := by
      rw [h x List.mem_cons_self]
      rfl
    rw [memberHits, hlower, ih fun y hy => h y (List.mem_cons_of_mem _ hy), ok_bind, ok_bind,
      List.map_cons, List.filter_cons]
    rfl

lemma all_beq_iff {own : SymbolKind} {kind : Option SymbolKind} :
    kind.all (· == own) = true ↔ ∀ wanted ∈ kind, own = wanted := by
  match kind with
  | none => simp
  | some wanted =>
    rw [Option.all_some, beq_iff_eq]
    simp only [Option.mem_def, Option.some.injEq, forall_eq']
    exact eq_comm

/-- Among symbols of one kind, all that match are kept or none. -/
lemma filter_of_kind (own : SymbolKind) {symbols : List SearchHit} {query : String}
    {kind : Option SymbolKind} (h : ∀ hit ∈ symbols, hit.kind = own) :
    symbols.filter (fun hit => (∀ wanted ∈ kind, hit.kind = wanted) ∧ hit.Matches query) =
      if kind.all (· == own) then
        symbols.filter fun hit => Text.occursIn (lowercase query).toList (lowercase hit.name).toList
      else [] := by
  have hmatches : ∀ hit : SearchHit, decide (hit.Matches query) =
      Text.occursIn (lowercase query).toList (lowercase hit.name).toList := by
    intro hit
    rw [Bool.eq_iff_iff, decide_eq_true_iff, Text.occursIn_iff, SearchHit.Matches]
  split
  case isTrue hall =>
    refine List.filter_congr fun hit hhit => ?_
    have hkind : ∀ wanted ∈ kind, hit.kind = wanted := by
      rw [h hit hhit]
      exact all_beq_iff.mp hall
    rw [← hmatches, decide_eq_decide]
    exact and_iff_right hkind
  case isFalse hall =>
    refine List.filter_eq_nil_iff.mpr fun hit hhit hkept => hall (all_beq_iff.mpr ?_)
    rw [← h hit hhit]
    exact (decide_eq_true_iff.mp hkept).1

lemma typeHits_eq (needle path : String) (v : Visit) :
    typeHits needle path v = [⟨.type, v.qualifiedName, v.simpleName, path, none, none⟩].filter
      fun hit => Text.occursIn needle.toList (lowercase hit.name).toList := by
  rw [typeHits, List.filter_singleton, Bool.cond_eq_ite]

/-- The hits in a type are its symbols that match. -/
lemma hits_eq_filter (query : String) (kind : Option SymbolKind) {v : Visit}
    (hv : v ∈ k.visits fun _ => true) :
    k.hits c (lowercase query) kind v = (k.symbolsIn c v).filter fun hit =>
      (∀ wanted ∈ kind, hit.kind = wanted) ∧ hit.Matches query := by
  obtain ⟨ns, package, name, decl, -, -, -, rfl⟩ := k.mem_visits.mp hv
  have hfield : ∀ f ∈ (Visit.of ns package name decl).decl.fields,
      f.name = .str (fieldHit (k.fileOf c (.of ns package name decl)).text
        (.of ns package name decl) f).name := by
    intro f hf
    obtain ⟨g, -, rfl⟩ := List.mem_map.mp hf
    rfl
  have hmethod : ∀ m ∈ (Visit.of ns package name decl).decl.methods,
      m.name = .str (methodHit (k.fileOf c (.of ns package name decl)).text
        (.of ns package name decl) m).name := by
    intro m hm
    obtain ⟨n, -, rfl⟩ := List.mem_map.mp hm
    rfl
  have hfields := memberHits_eq (lowercase query) Field.name _ hfield
  have hmethods := memberHits_eq (lowercase query) Method.name _ hmethod
  simp only [Contents.hits, hfields, hmethods, Except.toOption, Option.getD_some,
    Contents.symbolsIn, typeHits_eq]
  rw [List.filter_append, List.filter_append]
  rw [filter_of_kind .type, filter_of_kind .field, filter_of_kind .method]
  · simp [methodHit]
  · simp [fieldHit]
  · simp

/-- A search gives the first fifty symbols that match. -/
lemma search_eq_matching (h : Serves c d k) (hs : Recalls c d s) (query : String)
    (kind : Option SymbolKind) :
    ((search d query kind).exec s).1 = .ok ((k.matching c query kind).take maxHits) := by
  rw [(steady_search query kind).same h.unmistaken hs (recalls_fresh c d), exec_search h,
    Contents.matching, Contents.symbols, List.filter_flatMap,
    List.flatMap_congr fun v hv => hits_eq_filter query kind hv]

end Store

namespace Index.Job

open Store

variable {j : Job} {c : Config} {d d' e : Disk} {s : Summary}

/-- As long as the index of a build that succeeds stays as it is, every search gives the first fifty
of all symbols that match, whatever of the index is in memory; what matches and is of a kind is what
matches at all, but for what is of other kinds. -/
theorem search_gives_first_matching (h : j.run d = (.ok s, d'))
    (hmanifest : loadManifest c e = loadManifest j.config d')
    (hshards : ∀ ns package, loadShard c e ns package = loadShard j.config d' ns package) :
    ∃ k, j.Collects d k ∧ Serves c e k ∧
      (∀ query kind store, Recalls c e store →
        ((search e query kind).exec store).1 = .ok ((k.matching c query kind).take 50)) ∧
      ∀ query kind, k.matching c query (some kind) =
        (k.matching c query none).filter (·.kind = kind) := by
  obtain ⟨k, hk, -, hstored⟩ := stored_of_run h
  have hserves := hstored.serves.of_same hmanifest hshards
  exact ⟨k, hk, hserves, fun query kind store hs => search_eq_matching hserves hs query kind,
    k.matching_some c⟩

/-! ### A type with more than fifty fields -/

/-- A file in which a skeleton is written is read as the description of the skeleton. -/
lemma readSource_of_text {file : Path} (base : Option Path) {u : Java.Skeleton} (hplain : u.IsPlain)
    (indent : Nat) (hreturn : '\r' ∉ u.text indent)
    (hfile : d.fileAt file = .ok (.bytes (String.ofList (u.text indent)).toUTF8)) :
    Index.readSource d false file base = .ok (some (u.unit (recordedPath file base))) := by
  have hdecode : Text.decodeLossy (FileData.bytes (String.ofList (u.text indent)).toUTF8).toBytes =
      u.text indent := by
    rw [FileData.toBytes, Text.decodeLossy_toUTF8 (by rwa [String.toList_ofList]),
      String.toList_ofList]
  rw [Index.readSource, hfile]
  simp only [hdecode, Java.parseSource, Bool.false_eq_true, if_false, u.describe_text hplain]

lemma isIdentifier_numbered (i : Fin 51) : Java.isIdentifier ("a" ++ toString i.val) = true := by
  decide +revert +kernel

def crowdedSkeleton : Java.Skeleton where
  package := [⟨"b", by decide⟩]
  modifiers := []
  kind := .interfaceType
  name := ⟨"Crowded", by decide⟩
  superType := none
  interfaces := []
  fields := List.ofFn fun i : Fin 51 =>
    ⟨⟨"public", by decide⟩, [], Java.simpleType "long" (by decide), ⟨_, isIdentifier_numbered i⟩⟩
  methods := []
  package_ne := List.cons_ne_nil _ _
  superType_interface _ := rfl

def crowdedFile : Path := ⟨"/", ["one", "Crowded.java"]⟩

def crowdedDisk : Disk where
  root := .directory [("one", .directory
    [("Crowded.java", .file 0 (.bytes (String.ofList (crowdedSkeleton.text 4)).toUTF8))])]
  cwd := []
  nextSerial := 1

def crowdedJob : Job := plainJob ⟨"/", ["one"]⟩ "2"

/-- What the job reads. -/
def crowdedUnits : Namespace → List (Option SourceUnit) :=
  ofEach [some (crowdedSkeleton.unit crowdedFile.text)] []

lemma isPlain_crowdedSkeleton : crowdedSkeleton.IsPlain where
  package := by decide
  name := by decide
  fields := by decide +kernel
  methods _ hm := by cases hm

lemma readings_crowdedJob : crowdedJob.readings crowdedDisk = .ok crowdedUnits := by
  have hfiles : crowdedJob.files crowdedDisk .primary = .ok [crowdedFile] :=
    eq_ok_of_toOption (by decide +kernel)
  have hbase : crowdedJob.base crowdedDisk.cwd .primary = none := by decide +kernel
  have hsource : Index.readSource crowdedDisk crowdedJob.config.maskComments crowdedFile none =
      .ok (some (crowdedSkeleton.unit crowdedFile.text)) :=
    readSource_of_text none isPlain_crowdedSkeleton 4 (by decide +kernel) rfl
  have hread : [crowdedFile].mapM (readEach crowdedJob.config crowdedJob.sizes.files
      (crowdedJob.base crowdedDisk.cwd .primary) crowdedDisk) =
        .ok [some (crowdedSkeleton.unit crowdedFile.text)] := by
    rw [hbase, List.mapM_cons, readEach, hsource]
    rfl
  -- the roots and their places in the cache, then the files, then what they hold
  refine bind_eq_ok.mpr ⟨_, rfl, bind_eq_ok.mpr ⟨_, rfl, bind_eq_ok.mpr ⟨_, rfl,
    bind_eq_ok.mpr ⟨_, rfl, bind_eq_ok.mpr ⟨_, hfiles, bind_eq_ok.mpr ⟨[], rfl,
      bind_eq_ok.mpr ⟨_, hread, bind_eq_ok.mpr ⟨[], rfl, rfl⟩⟩⟩⟩⟩⟩⟩⟩

set_option maxRecDepth 100000 in
/-- What is written is evaluated here, and what is read is known from the skeleton. -/
lemma exists_run_crowded : ∃ s d', crowdedJob.run crowdedDisk = (.ok s, d') := by
  rw [run_eq, readings_crowdedJob]
  exact exists_of_isOk (by decide +kernel)

lemma units_crowdedJob (ns : Namespace) : crowdedJob.units crowdedDisk ns = .ok (crowdedUnits ns) :=
  crowdedJob.units_of_readings readings_crowdedJob ns

set_option maxRecDepth 100000 in
theorem search_gives_first_matching_crowded : ∃ s d' k hits,
    crowdedJob.run crowdedDisk = (.ok s, d') ∧ crowdedJob.Collects crowdedDisk k ∧
    ((search d' "a" (some .field)).exec (fresh crowdedJob.config)).1 = .ok hits ∧
    hits = (k.matching crowdedJob.config "a" (some .field)).take 50 ∧ hits.length = 50 ∧
    (k.matching crowdedJob.config "a" (some .field)).length = 51 := by
  obtain ⟨s, d', hrun⟩ := exists_run_crowded
  obtain ⟨k, hk, -, hgives, -⟩ := search_gives_first_matching hrun rfl fun _ _ => rfl
  have hcount : (k.matching crowdedJob.config "a" (some .field)).length = 51 := by
    rw [Collects.ext (.refl ..) (crowdedJob.collects_contentsOf units_crowdedJob) hk]
    decide +kernel
  refine ⟨s, d', k, _, hrun, hk, hgives "a" (some .field) _ (recalls_fresh _ _), rfl, ?_, hcount⟩
  rw [List.length_take, hcount]
  rfl

end Index.Job

end JavaAtlas

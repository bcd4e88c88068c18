import JavaAtlas.Index.Persist
import JavaAtlas.Proofs.Json.RoundTrip

/-!
# Records written and read again

Every record of the index is read back from its JSON form as it was. A record of texts whose
numbers can be written also reads back from the text of that form: a shard nests seven lists and
objects, a manifest three.
-/

namespace JavaAtlas

/-! ### Reading the JSON form -/

lemma mapM_ok {α β : Type} {f : α → Except Failure β} {g : β → α} (items : List β)
    (h : ∀ b ∈ items, f (g b) = .ok b) : (items.map g).mapM f = .ok items := by
  induction items with
  | nil => rfl
  | cons b rest ih =>
    rw [List.map_cons, List.mapM_cons, h b List.mem_cons_self,
      ih fun c hc => h c (List.mem_cons_of_mem _ hc)]
    rfl

lemma Json.toOption_ofOption {v : Option Json} (h : v ≠ some .null) :
    (Json.ofOption v).toOption = v := by
  match v with
  | none => rfl
  | some .null => exact absurd rfl h
  | some (.bool _) | some (.int _) | some (.float _) | some (.str _) | some (.arr _)
  | some (.obj _) => rfl

lemma TypeKind.ofJson_keyword (kind : TypeKind) :
    TypeKind.ofJson (.str kind.keyword) = .ok kind := by
  cases kind <;> rfl

lemma Field.ofJson_toJson (f : Field Json) : Field.ofJson f.toJson = .ok f := by
  simp [Field.ofJson, Field.toJson, Json.member, Json.items, Ordered.get?]

lemma Parameter.ofJson_toJson (p : Parameter Json) : Parameter.ofJson p.toJson = .ok p := by
  simp [Parameter.ofJson, Parameter.toJson, Json.member, Ordered.get?]

lemma Method.ofJson_toJson (m : Method Json) : Method.ofJson m.toJson = .ok m := by
  have hparams := mapM_ok m.parameters fun p _ => Parameter.ofJson_toJson p
  simp [Method.ofJson, Method.toJson, Json.member, Json.items, Json.toInt, Ordered.get?, hparams]

lemma TypeDecl.ofJson_toJson {d : TypeDecl Json} (h : d.superType ≠ some .null) :
    TypeDecl.ofJson d.toJson = .ok d := by
  have hfields := mapM_ok d.fields fun f _ => Field.ofJson_toJson f
  have hmethods := mapM_ok d.methods fun m _ => Method.ofJson_toJson m
  simp [TypeDecl.ofJson, TypeDecl.toJson, Json.member, Json.items, Ordered.get?,
    TypeKind.ofJson_keyword, hfields, hmethods, Json.toOption_ofOption h]

lemma Shard.ofJson_toJson {s : Shard Json} (h : ∀ entry ∈ s.types, entry.2.superType ≠ some .null) :
    Shard.ofJson s.toJson = .ok s := by
  let readEntry (entry : String × Json) : Except Failure (String × TypeDecl Json) := do
    return (entry.1, ← TypeDecl.ofJson entry.2)
  have htypes : (s.types.map fun entry => (entry.1, entry.2.toJson)).mapM readEntry =
      .ok s.types := by
    apply mapM_ok
    intro entry hentry
    simp [readEntry, TypeDecl.ofJson_toJson (h entry hentry)]
  calc Shard.ofJson s.toJson
      = (s.types.map fun entry => (entry.1, entry.2.toJson)).mapM readEntry >>= fun types =>
          .ok ⟨s.package, types⟩ := rfl
    _ = .ok s := by rw [htypes, ok_bind]

lemma Manifest.ofJson_toJson {m : Manifest Json} (h : m.secondaryVersion ≠ some .null) :
    Manifest.ofJson m.toJson = .ok m := by
  simp [Manifest.ofJson, Manifest.toJson, Json.need, Json.member, Json.items, Ordered.get?,
    Json.toOption_ofOption h]

/-- A shard of texts is read back from its JSON form. -/
lemma Shard.ofJson_map (s : Shard String) :
    Shard.ofJson (s.map .str).toJson = .ok (s.map .str) := by
  refine Shard.ofJson_toJson fun entry hentry => ?_
  simp only [Shard.map, List.mem_map] at hentry
  obtain ⟨⟨name, decl⟩, -, rfl⟩ := hentry
  simp only [TypeDecl.map]
  cases decl.superType <;> simp

/-- A manifest of texts is read back from its JSON form. -/
lemma Manifest.ofJson_map (m : Manifest String) :
    Manifest.ofJson (m.map .str).toJson = .ok (m.map .str) := by
  refine Manifest.ofJson_toJson ?_
  simp only [Manifest.map]
  cases m.secondaryVersion <;> simp

/-! ### Reading the text -/

namespace Json

@[simp] lemma areWritable_iff {items : List Json} :
    areWritable items = true ↔ ∀ v ∈ items, v.isWritable = true := by
  induction items with
  | nil => simp [areWritable]
  | cons v rest ih => simp [areWritable, ih]

@[simp] lemma haveWritable_iff {members : List (String × Json)} :
    haveWritable members = true ↔ ∀ m ∈ members, m.2.isWritable = true := by
  induction members with
  | nil => simp [haveWritable]
  | cons m rest ih => simp [haveWritable, ih]

lemma readsBack_texts {room : Nat} (texts : List String) :
    ReadsBack (room + 1) (.arr (texts.map .str)) := by
  apply ReadsBack.arr
  intro v hv
  obtain ⟨s, -, rfl⟩ := List.mem_map.mp hv
  exact .str s

lemma readsBack_ofOption {room : Nat} (text : Option String) :
    ReadsBack room (ofOption (text.map .str)) := by
  cases text with
  | none => exact .null
  | some s => exact .str s

end Json

open Json (ReadsBack)

variable {room : Nat}

lemma Field.readsBack (f : Field String) : ReadsBack (room + 2) (f.map .str).toJson := by
  refine .obj (by simp [Ordered.keys]) ?_
  simp only [List.mem_cons, List.not_mem_nil, or_false, forall_eq_or_imp, forall_eq]
  exact ⟨.str _, .str _, Json.readsBack_texts _⟩

lemma Parameter.readsBack (p : Parameter String) : ReadsBack (room + 1) (p.map .str).toJson := by
  refine .obj (by simp [Ordered.keys]) ?_
  simp only [List.mem_cons, List.not_mem_nil, or_false, forall_eq_or_imp, forall_eq]
  exact ⟨.str _, .str _⟩

lemma Method.readsBack {m : Method String} (h : (m.map .str).toJson.isWritable = true) :
    ReadsBack (room + 3) (m.map .str).toJson := by
  simp only [Method.toJson, Json.isWritable, Json.haveWritable_iff, List.mem_cons,
    List.not_mem_nil, or_false, forall_eq_or_imp, forall_eq, decide_eq_true_eq] at h
  obtain ⟨-, -, -, -, hstart, hend⟩ := h
  refine .obj (by simp [Ordered.keys]) ?_
  simp only [List.mem_cons, List.not_mem_nil, or_false, forall_eq_or_imp, forall_eq]
  refine ⟨.str _, .str _, .arr ?_, Json.readsBack_texts _, .int hstart, .int hend⟩
  intro v hv
  simp only [Method.map, List.map_map, List.mem_map, Function.comp_apply] at hv
  obtain ⟨p, -, rfl⟩ := hv
  exact p.readsBack

lemma TypeDecl.readsBack {d : TypeDecl String} (h : (d.map .str).toJson.isWritable = true) :
    ReadsBack (room + 5) (d.map .str).toJson := by
  simp only [TypeDecl.toJson, Json.isWritable, Json.haveWritable_iff, Json.areWritable_iff,
    List.mem_cons, List.not_mem_nil, or_false, forall_eq_or_imp, forall_eq] at h
  obtain ⟨-, -, -, -, hmethods, -⟩ := h
  refine .obj (by simp [Ordered.keys]) ?_
  simp only [List.mem_cons, List.not_mem_nil, or_false, forall_eq_or_imp, forall_eq]
  refine ⟨.str _, Json.readsBack_ofOption _, Json.readsBack_texts _, .arr ?_, .arr ?_, .str _⟩
  · intro v hv
    simp only [TypeDecl.map, List.map_map, List.mem_map, Function.comp_apply] at hv
    obtain ⟨f, -, rfl⟩ := hv
    exact f.readsBack
  · intro v hv
    have hwritable := hmethods v hv
    simp only [TypeDecl.map, List.map_map, List.mem_map, Function.comp_apply] at hv
    obtain ⟨m, -, rfl⟩ := hv
    exact Method.readsBack hwritable

/-- A shard with distinct type names reads back from its text. -/
theorem Shard.readsBack {s : Shard String} (hnames : (Ordered.keys s.types).Nodup)
    (h : (s.map .str).toJson.isWritable = true) : ReadsBack (room + 7) (s.map .str).toJson := by
  simp only [Shard.toJson, Json.isWritable, Json.haveWritable_iff, List.mem_cons,
    List.not_mem_nil, or_false, forall_eq_or_imp, forall_eq] at h
  obtain ⟨-, htypes⟩ := h
  refine .obj (by simp [Ordered.keys]) ?_
  simp only [List.mem_cons, List.not_mem_nil, or_false, forall_eq_or_imp, forall_eq]
  refine ⟨.str _, .obj ?_ ?_⟩
  · simpa [Shard.map, Ordered.keys, Function.comp_def] using hnames
  · intro entry hentry
    have hwritable := htypes entry hentry
    simp only [Shard.map, List.map_map, List.mem_map, Function.comp_apply] at hentry
    obtain ⟨e, -, rfl⟩ := hentry
    exact TypeDecl.readsBack hwritable

/-- A manifest reads back from its text. -/
theorem Manifest.readsBack (m : Manifest String) : ReadsBack (room + 3) (m.map .str).toJson := by
  refine .obj (by simp [Ordered.keys]) ?_
  simp only [List.mem_cons, List.not_mem_nil, or_false, forall_eq_or_imp, forall_eq]
  refine ⟨.str _, Json.readsBack_ofOption _, .str _, .obj (by simp [Ordered.keys]) ?_⟩
  simp only [List.mem_cons, List.not_mem_nil, or_false, forall_eq_or_imp, forall_eq]
  exact ⟨Json.readsBack_texts _, Json.readsBack_texts _⟩

end JavaAtlas

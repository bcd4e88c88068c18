import JavaAtlas.Index.Question
import JavaAtlas.Proofs.Index.Files

/-!
# The memory of a store

A store remembers manifests and shards under the packages they were asked for. As long as all it
remembers is what the disk would give, its answers are those of a store that has read nothing: a
query is steady if this holds of it and the store goes on remembering nothing else. The one
condition is that no two packages of the manifest are taken for one another, which texts never are.
-/

namespace JavaAtlas

namespace Store

open Index

variable {c : Config} {d : Disk} {s : Store} {α β : Type}

/-! ### What a store may remember -/

/-- A package that is looked up on a disk with a manifest: by a name, or as the manifest lists it. -/
def Asked (c : Config) (d : Disk) (ns : Namespace) (package : Json) : Prop :=
  ∃ m, loadManifest c d = .ok (some m) ∧
    ((∃ name, package = .str name) ∨ package ∈ m.packages ns)

/-- A store remembers nothing but what a disk gives. -/
structure Recalls (c : Config) (d : Disk) (s : Store) : Prop where
  config : s.config = c
  manifest : ∀ m, s.manifest = some m → loadManifest c d = .ok (some m)
  shards : ∀ entry ∈ s.shards, Asked c d entry.1.1 entry.1.2 ∧
    loadShard c d entry.1.1 entry.1.2 = .ok (some entry.2)

/-- Packages that a manifest lists and that are equal as keys have the same text. -/
def TellsApart (m : Manifest Json) : Prop :=
  ∀ ns, ∀ a ∈ m.packages ns, ∀ b ∈ m.packages ns, a.alike b = true → a.display = b.display

/-- The manifest on a disk, if there is one, tells its packages apart. -/
def Unmistaken (c : Config) (d : Disk) : Prop :=
  ∀ m, loadManifest c d = .ok (some m) → TellsApart m

lemma recalls_fresh (c : Config) (d : Disk) : Recalls c d (fresh c) :=
  ⟨rfl, by simp [fresh], by simp [fresh]⟩

/-- Where there is no manifest a store has nothing to remember. -/
lemma Recalls.eq_fresh (h : Recalls c d s) (hnone : ∀ m, loadManifest c d ≠ .ok (some m)) :
    s = fresh c := by
  obtain ⟨config, manifest, shards⟩ := s
  obtain rfl : config = c := h.config
  obtain rfl : manifest = none :=
    Option.eq_none_iff_forall_ne_some.mpr fun m hm => hnone m (h.manifest m hm)
  obtain rfl : shards = [] := by
    refine List.eq_nil_iff_forall_not_mem.mpr fun entry hentry => ?_
    obtain ⟨⟨m, hm, -⟩, -⟩ := h.shards entry hentry
    exact hnone m hm
  rfl

lemma alike_str_left {name : String} {v : Json} (h : (Json.str name).alike v = true) :
    v = .str name := by
  cases v <;> simp_all [Json.alike, Json.sameScalar, Json.whole?]

lemma alike_str_right {name : String} {v : Json} (h : v.alike (.str name) = true) :
    v = .str name := by
  cases v <;> simp_all [Json.alike, Json.sameScalar, Json.whole?]

lemma tellsApart_of_texts {m : Manifest Json}
    (h : ∀ ns, ∀ package ∈ m.packages ns, ∃ name, package = .str name) : TellsApart m := by
  intro ns a ha b _ halike
  obtain ⟨name, rfl⟩ := h ns a ha
  rw [alike_str_left halike]

def listsTexts (m : Manifest Json) : Bool :=
  Namespace.all.all fun ns => (m.packages ns).all fun
    | .str _ => true
    | _ => false

lemma tellsApart_of_listsTexts {m : Manifest Json} (h : listsTexts m = true) : TellsApart m := by
  refine tellsApart_of_texts fun ns package hpackage => ?_
  have hns : ns ∈ Namespace.all := by cases ns <;> decide
  have htext := List.all_eq_true.mp (List.all_eq_true.mp h ns hns) package hpackage
  cases package with
  | str name => exact ⟨name, rfl⟩
  | null | bool | int | float | arr | obj => simp at htext

lemma loadShard_congr {a b : Json} (h : a.display = b.display) (ns : Namespace) :
    loadShard c d ns a = loadShard c d ns b := by
  rw [loadShard, loadShard, Config.shardPath, Config.shardPath, h]

/-- The shard that is remembered for a package is the one that the disk gives. -/
lemma Recalls.remembered? (h : Recalls c d s) {ns : Namespace} {package : Json}
    (hsure : Unmistaken c d ∨ ∃ name, package = .str name) (hasked : Asked c d ns package)
    {shard : Shard Json} (hfound : s.remembered? ns package = some shard) :
    loadShard c d ns package = .ok (some shard) := by
  rw [Store.remembered?, Option.map_eq_some_iff] at hfound
  obtain ⟨⟨⟨ns', key⟩, found⟩, hentry, rfl⟩ := hfound
  obtain ⟨⟨m, hm, hkey⟩, hload⟩ := h.shards _ (List.mem_of_find?_eq_some hentry)
  have hsame := List.find?_some hentry
  simp only [Bool.and_eq_true, beq_iff_eq] at hsame hkey hload
  obtain ⟨rfl, halike⟩ := hsame
  obtain ⟨m', hm', hpackage⟩ := hasked
  obtain rfl : m = m' := by simpa using hm.symm.trans hm'
  have hdisplay : key.display = package.display := by
    rcases hkey with ⟨name, rfl⟩ | hkey
    · rw [alike_str_left halike]
    · have hcases : (∃ name, package = .str name) ∨
          Unmistaken c d ∧ package ∈ m.packages ns' := by
        rcases hsure with hapart | hname
        · exact hpackage.imp id fun hlisted => ⟨hapart, hlisted⟩
        · exact Or.inl hname
      rcases hcases with ⟨name, rfl⟩ | ⟨hapart, hlisted⟩
      · rw [alike_str_right halike]
      · exact hapart m hm ns' key hkey package hlisted halike
  rw [← hload, loadShard_congr hdisplay]

/-! ### Steady computations -/

/-- A computation that leaves a store with nothing else to remember, and whose outcome is the same
for all stores if something holds. -/
structure SteadyIf (sure : Prop) (c : Config) (d : Disk) (act : Action Store α) : Prop where
  recalls : ∀ {s}, Recalls c d s → Recalls c d (act.exec s).2
  same : sure → ∀ {s t}, Recalls c d s → Recalls c d t → (act.exec s).1 = (act.exec t).1

/-- A computation whose outcome is the same for all stores unless packages are mistaken for one
another. -/
abbrev Steady (c : Config) (d : Disk) (act : Action Store α) : Prop :=
  SteadyIf (Unmistaken c d) c d act

variable {sure : Prop}

namespace SteadyIf

lemma mono {act : Action Store α} {other : Prop} (h : SteadyIf sure c d act)
    (hsub : other → sure) : SteadyIf other c d act :=
  ⟨h.recalls, fun hother => h.same (hsub hother)⟩

lemma pure (a : α) : SteadyIf sure c d (Pure.pure a : Action Store α) :=
  ⟨fun hs => hs, fun _ _ _ _ _ => rfl⟩

lemma ofExcept (r : Except Failure α) : SteadyIf sure c d (Action.ofExcept r) :=
  ⟨fun hs => by simpa using hs, fun _ _ _ _ _ => by simp⟩

/-- What follows on a steady computation need only be steady for the results it can have. -/
lemma bind_of {x : Action Store α} {f : α → Action Store β} (hx : SteadyIf sure c d x)
    (hf : ∀ a s, Recalls c d s → (x.exec s).1 = .ok a → SteadyIf sure c d (f a)) :
    SteadyIf sure c d (x >>= f) := by
  constructor
  · intro s hs
    have hkeep := hx.recalls hs
    match hrun : x.exec s with
    | (.error e, s') =>
      rw [hrun] at hkeep
      rwa [Action.exec_bind_of_error hrun]
    | (.ok a, s') =>
      rw [hrun] at hkeep
      rw [Action.exec_bind_of_ok hrun]
      exact (hf a s hs (by rw [hrun])).recalls hkeep
  · intro hapart s t hs ht
    have hsame := hx.same hapart hs ht
    have hkeep := hx.recalls hs
    have hkeep' := hx.recalls ht
    match hrun : x.exec s, hrun' : x.exec t with
    | (.error e, s'), (.error e', t') =>
      rw [hrun, hrun'] at hsame
      rwa [Action.exec_bind_of_error hrun, Action.exec_bind_of_error hrun',
        Except.error.injEq, ← Except.error.injEq (α := α)]
    | (.error e, s'), (.ok a, t') => simp [hrun, hrun'] at hsame
    | (.ok a, s'), (.error e, t') => simp [hrun, hrun'] at hsame
    | (.ok a, s'), (.ok b, t') =>
      simp only [hrun, hrun', Except.ok.injEq] at hsame hkeep hkeep'
      subst hsame
      rw [Action.exec_bind_of_ok hrun, Action.exec_bind_of_ok hrun']
      exact (hf a s hs (by rw [hrun])).same hapart hkeep hkeep'

lemma bind {x : Action Store α} {f : α → Action Store β} (hx : SteadyIf sure c d x)
    (hf : ∀ a, SteadyIf sure c d (f a)) : SteadyIf sure c d (x >>= f) :=
  hx.bind_of fun a _ _ _ => hf a

/-- A computation that looks at nothing but the configuration of the store. -/
lemma get_bind {f : Store → Action Store α} {g : Action Store α}
    (hf : ∀ s, s.config = c → f s = g) (hg : SteadyIf sure c d g) :
    SteadyIf sure c d (MonadState.get >>= f) := by
  have hrun : ∀ s, Recalls c d s → (MonadState.get >>= f).exec s = g.exec s := by
    intro s hs
    rw [Action.exec_bind_of_ok (Action.exec_get ..), hf s hs.config]
  exact ⟨fun hs => by rw [hrun _ hs]; exact hg.recalls hs,
    fun hapart _ _ hs ht => by rw [hrun _ hs, hrun _ ht]; exact hg.same hapart hs ht⟩

end SteadyIf

/-- A store that remembers nothing else gives the manifest of the disk. -/
lemma Recalls.getManifest (h : Recalls c d s) :
    ((getManifest d).exec s).1 = loadManifest c d ∧ Recalls c d ((getManifest d).exec s).2 := by
  rw [Store.getManifest, Action.exec_bind_of_ok (Action.exec_get ..)]
  match hm : s.manifest with
  | some m => exact ⟨(h.manifest m hm).symm, h⟩
  | none =>
    simp only [h.config]
    match hload : loadManifest c d with
    | .error e => exact ⟨rfl, h⟩
    | .ok found =>
      refine ⟨rfl, ⟨rfl, fun m hfound => ?_, h.shards⟩⟩
      rw [hload]
      exact congrArg Except.ok hfound

/-- A query goes on with the manifest of the disk, or without one. -/
lemma steady_getManifest_bind {f : Option (Manifest Json) → Action Store α}
    (hnone : SteadyIf sure c d (f none))
    (hsome : ∀ m, loadManifest c d = .ok (some m) → SteadyIf sure c d (f (some m))) :
    SteadyIf sure c d (getManifest d >>= f) := by
  have hget : SteadyIf sure c d (getManifest d) :=
    ⟨fun hs => hs.getManifest.2,
      fun _ _ _ hs ht => hs.getManifest.1.trans ht.getManifest.1.symm⟩
  refine hget.bind_of ?_
  rintro (_ | m) s hs hm
  · exact hnone
  · exact hsome m (hs.getManifest.1.symm.trans hm)

/-- A store that remembers nothing else gives the shard of the disk, unless it mistakes another
package for the one asked for. -/
lemma Recalls.getShard (h : Recalls c d s) {ns : Namespace} {package : Json}
    (hasked : Asked c d ns package) :
    (Unmistaken c d ∨ (∃ name, package = .str name) → ((getShard d ns package).exec s).1 =
        (checkKey package >>= fun _ => loadShard c d ns package)) ∧
      Recalls c d ((getShard d ns package).exec s).2 := by
  rw [Store.getShard]
  match checkKey package with
  | .error e => exact ⟨fun _ => rfl, h⟩
  | .ok _ =>
    rw [Action.exec_bind_of_ok (Action.exec_ofExcept ..),
      Action.exec_bind_of_ok (Action.exec_get ..), ok_bind]
    match hfound : s.remembered? ns package with
    | some shard => exact ⟨fun hsure => (h.remembered? hsure hasked hfound).symm, h⟩
    | none =>
      simp only [h.config]
      match hload : loadShard c d ns package with
      | .error e => exact ⟨fun _ => rfl, h⟩
      | .ok none => exact ⟨fun _ => rfl, h⟩
      | .ok (some shard) =>
        refine ⟨fun _ => rfl, ⟨rfl, h.manifest, fun entry hentry => ?_⟩⟩
        rcases List.mem_append.mp hentry with hold | hnew
        · exact h.shards entry hold
        · rw [List.mem_singleton.mp hnew]
          exact ⟨hasked, hload⟩

lemma steady_getShard {ns : Namespace} {package : Json} (hasked : Asked c d ns package)
    (hsure : sure → Unmistaken c d ∨ ∃ name, package = .str name) :
    SteadyIf sure c d (getShard d ns package) :=
  ⟨fun hs => (hs.getShard hasked).2, fun h _ _ hs ht =>
    ((hs.getShard hasked).1 (hsure h)).trans ((ht.getShard hasked).1 (hsure h)).symm⟩

/-! ### Queries -/

lemma steady_resolveSource (recorded : Json) (ns : Namespace) :
    SteadyIf sure c d (resolveSource d recorded ns) := by
  refine .bind (.ofExcept _) fun path => ?_
  split
  · exact .pure _
  · refine steady_getManifest_bind (.pure _) fun m _ => ?_
    refine .get_bind (fun s hs => by rw [hs]) ?_
    simp only
    split
    · split <;> exact .pure _
    · exact .bind (.ofExcept _) fun _ => .pure _

lemma steady_walkTypes {goOn : α → Bool} {visit : α → Visit → Action Store α}
    (hvisit : ∀ a v, SteadyIf sure c d (visit a v)) (ns : Namespace) (package : Json)
    (types : List (String × TypeDecl Json)) (a : α) :
    SteadyIf sure c d (walkPackages.walkTypes goOn visit ns package a types) := by
  induction types generalizing a with
  | nil => exact .pure a
  | cons type rest ih =>
    rw [walkPackages.walkTypes]
    split
    · exact .pure a
    · exact .bind (hvisit a _) fun a => ih a

/-- A walk through packages that are asked for is steady if its visits are. -/
lemma steady_walkPackages {goOn : α → Bool} {visit : α → Visit → Action Store α}
    {wanted : Json → Except Failure Bool} (hvisit : ∀ a v, Steady c d (visit a v))
    {packages : List (Namespace × Json)} (hasked : ∀ entry ∈ packages, Asked c d entry.1 entry.2)
    (a : α) : Steady c d (walkPackages d wanted goOn visit a packages) := by
  induction packages generalizing a with
  | nil => exact .pure a
  | cons entry rest ih =>
    obtain ⟨ns, package⟩ := entry
    have hrest := ih fun entry hentry => hasked entry (List.mem_cons_of_mem _ hentry)
    rw [walkPackages]
    split
    · exact .pure a
    · refine .bind (.ofExcept _) fun want => ?_
      split
      · refine .bind (steady_getShard (hasked _ List.mem_cons_self) Or.inl) fun found => ?_
        split
        · exact .bind (steady_walkTypes hvisit ns package _ a) fun a => hrest a
        · exact hrest a
      · exact hrest a

lemma asked_of_mem_packagesInOrder {m : Manifest Json} (hm : loadManifest c d = .ok (some m)) :
    ∀ entry ∈ packagesInOrder m, Asked c d entry.1 entry.2 := by
  intro entry hentry
  simp only [packagesInOrder, List.mem_flatMap, List.mem_map] at hentry
  obtain ⟨ns, -, package, hpackage, rfl⟩ := hentry
  exact ⟨m, hm, Or.inr hpackage⟩

lemma steady_listingOf (v : Visit) : SteadyIf sure c d (listingOf d v) :=
  .bind (steady_resolveSource _ _) fun _ => .pure _

lemma steady_hitsIn (needle : String) (kind : Option SymbolKind) (v : Visit) :
    SteadyIf sure c d (hitsIn d needle kind v) :=
  .bind (steady_resolveSource _ _) fun _ => .bind (.ofExcept _) fun _ =>
    .bind (.ofExcept _) fun _ => .pure _

lemma steady_search (query : String) (kind : Option SymbolKind) :
    Steady c d (search d query kind) := by
  refine steady_getManifest_bind (.pure _) fun m hm => ?_
  refine .bind (steady_walkPackages (fun hits v => ?_) (asked_of_mem_packagesInOrder hm) _)
    fun _ => .pure _
  exact .bind (steady_hitsIn _ kind v) fun _ => .pure _

lemma steady_listTypes (asked : Option String) : Steady c d (listTypes d asked) := by
  refine steady_getManifest_bind (.pure _) fun m hm => ?_
  refine steady_walkPackages (fun found v => ?_) (asked_of_mem_packagesInOrder hm) _
  exact .bind (steady_listingOf v) fun _ => .pure _

lemma steady_listPackages (ns : Option Namespace) : SteadyIf sure c d (listPackages d ns) := by
  refine steady_getManifest_bind (.pure _) fun m _ => ?_
  match ns with
  | some ns => exact .pure _
  | none => exact .pure _

lemma steady_findHierarchy (name : Json) (direction : Descent) :
    Steady c d (findHierarchy d name direction) := by
  refine steady_getManifest_bind (.pure _) fun m hm => ?_
  refine steady_walkPackages (fun found v => ?_) (asked_of_mem_packagesInOrder hm) _
  split
  · exact .bind (steady_listingOf v) fun _ => .pure _
  · exact .pure _

lemma steady_getType (name : String) : SteadyIf sure c d (getType d name) := by
  refine steady_getManifest_bind (.pure _) fun m hm => ?_
  refine .get_bind (fun s hs => by rw [hs]) ?_
  refine .bind (steady_getShard ⟨m, hm, Or.inl ⟨_, rfl⟩⟩ fun _ => Or.inr ⟨_, rfl⟩) fun found => ?_
  split
  · exact .pure _
  · split
    · exact .pure _
    · refine .bind (steady_resolveSource _ _) fun path => .bind (.ofExcept _) fun text => ?_
      split <;> exact .pure _

lemma steady_getMethod (typeName : String) (method : Json) :
    SteadyIf sure c d (getMethod d typeName method) := by
  refine .bind (steady_getType typeName) fun source => ?_
  split
  · exact .pure _
  · refine .bind (.ofExcept _) fun found => ?_
    split <;> exact .pure _

lemma steady_versions : SteadyIf sure c d (versions d) :=
  steady_getManifest_bind (.pure _) fun _ _ => .pure _

lemma steady_textIfIndexed (operation : String) (v : Json) :
    SteadyIf sure c d (textIfIndexed d operation v) :=
  steady_getManifest_bind (.pure _) fun _ _ => .bind (.ofExcept _) fun _ => .pure _

lemma steady_searchFor (query : Json) (kind : Option SymbolKind) :
    Steady c d (searchFor d query kind) :=
  .bind (.ofExcept _) fun text => steady_search text kind

lemma steady_typesWithin (package : Json) : Steady c d (typesWithin d package) := by
  cases package with
  | null => exact steady_listTypes none
  | bool _ | int _ | float _ | str _ | arr _ | obj _ =>
    refine .bind (steady_textIfIndexed _ _) fun asked => ?_
    split
    · exact steady_listTypes _
    · exact .pure _

lemma steady_typeNamed (name : Json) : SteadyIf sure c d (typeNamed d name) := by
  refine .bind (steady_textIfIndexed _ _) fun asked => ?_
  split
  · exact steady_getType _
  · exact .pure _

lemma steady_methodNamed (typeName method : Json) : SteadyIf sure c d (methodNamed d typeName method) := by
  refine .bind (steady_textIfIndexed _ _) fun asked => ?_
  split
  · exact steady_getMethod _ method
  · exact .pure _

end Store

end JavaAtlas

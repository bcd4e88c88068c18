import JavaAtlas.Proofs.Index.Store

/-!
# Answers of a store

What a store that has read nothing yet answers on a disk that serves the contents of a build: each
query is a list operation on the types that were collected, in the order of their packages. The
answers depend on the configuration and on the contents only.
-/

namespace JavaAtlas

open Index Store

/-! ### Visits -/

/-- A type as it is met: its names are read as JSON texts. -/
def Store.Visit.of (ns : Namespace) (package name : String) (decl : TypeDecl String) : Visit :=
  ⟨ns, .str package, name, decl.map .str⟩

namespace Index.Contents

variable (k : Contents)

/-- The packages with their namespaces, in the order of the manifest. -/
def listed : List (Namespace × String) :=
  Namespace.all.flatMap fun ns => (k.packages ns).names.map fun package => (ns, package)

/-- The types of a package as they are met. -/
def visitsIn (entry : Namespace × String) : List Visit :=
  (k.types entry.1 entry.2).map fun type => .of entry.1 entry.2 type.1 type.2

/-- The types of the wanted packages as they are met. -/
def visits (wanted : String → Bool) : List Visit :=
  (k.listed.filter fun entry => wanted entry.2).flatMap k.visitsIn

lemma mem_listed {ns : Namespace} {package : String} :
    (ns, package) ∈ k.listed ↔ package ∈ (k.packages ns).names := by
  simp only [listed, Namespace.all, List.flatMap_cons, List.flatMap_nil, List.append_nil,
    List.mem_append, List.mem_map, Prod.mk.injEq]
  cases ns <;> simp

lemma packagesInOrder_manifest :
    packagesInOrder (k.manifest.map .str) = k.listed.map fun entry => (entry.1, .str entry.2) := by
  simp only [packagesInOrder, listed, Namespace.all, List.flatMap_cons, List.flatMap_nil,
    List.append_nil, List.map_append, List.map_map, Manifest.packages, Manifest.map, manifest]
  rfl

/-- A visit is that of a type which was collected. -/
lemma mem_visits {wanted : String → Bool} {v : Visit} :
    v ∈ k.visits wanted ↔ ∃ ns package name decl, package ∈ (k.packages ns).names ∧
      wanted package = true ∧ (name, decl) ∈ k.types ns package ∧
      v = .of ns package name decl := by
  simp only [visits, visitsIn, List.mem_flatMap, List.mem_filter, List.mem_map, Prod.exists]
  constructor
  · rintro ⟨ns, package, ⟨hlisted, hwanted⟩, name, decl, hmem, rfl⟩
    exact ⟨ns, package, name, decl, k.mem_listed.mp hlisted, hwanted, hmem, rfl⟩
  · rintro ⟨ns, package, name, decl, hlisted, hwanted, hmem, rfl⟩
    exact ⟨ns, package, ⟨k.mem_listed.mpr hlisted, hwanted⟩, name, decl, hmem, rfl⟩

end Index.Contents

namespace Store

variable {c : Config} {d : Disk} {k : Contents} {s : Store} {α : Type}

/-- Go through visits while the state says so. -/
def visitWhile (goOn : α → Bool) (f : α → Visit → α) : α → List Visit → α
  | a, [] => a
  | a, v :: rest => if goOn a then visitWhile goOn f (f a v) rest else a

variable {goOn : α → Bool} {f : α → Visit → α}

lemma visitWhile_of_not {a : α} (h : goOn a = false) (visits : List Visit) :
    visitWhile goOn f a visits = a := by
  cases visits <;> simp [visitWhile, h]

lemma visitWhile_append (a : α) (xs ys : List Visit) :
    visitWhile goOn f a (xs ++ ys) = visitWhile goOn f (visitWhile goOn f a xs) ys := by
  induction xs generalizing a with
  | nil => rfl
  | cons v xs ih =>
    by_cases h : goOn a
    · simp [visitWhile, h, ih]
    · simp only [Bool.not_eq_true] at h
      rw [visitWhile_of_not h, visitWhile_of_not h, visitWhile_of_not h]

/-- Going through the types of a shard is going through their visits. -/
lemma exec_walkTypes {visit : α → Visit → Action Store α} (ns : Namespace) (package : Json)
    (types : List (String × TypeDecl Json)) (a : α)
    (hvisit : ∀ a, ∀ type ∈ types,
      (visit a ⟨ns, package, type.1, type.2⟩).exec s = (.ok (f a ⟨ns, package, type.1, type.2⟩), s)) :
    (walkPackages.walkTypes goOn visit ns package a types).exec s =
      (.ok (visitWhile goOn f a (types.map fun type => ⟨ns, package, type.1, type.2⟩)), s) := by
  induction types generalizing a with
  | nil => rfl
  | cons type rest ih =>
    rw [walkPackages.walkTypes, List.map_cons, visitWhile]
    by_cases h : goOn a
    · simp only [h, Bool.not_true, Bool.false_eq_true, if_false, if_true]
      rw [Action.exec_bind_of_ok (hvisit a type List.mem_cons_self)]
      exact ih _ fun a t ht => hvisit a t (List.mem_cons_of_mem _ ht)
    · simp only [h, Bool.not_false, if_true, Bool.false_eq_true, if_false]
      rfl

/-- Going through packages of the index is going through the visits of those that are wanted. -/
lemma exec_walkPackages {visit : α → Visit → Action Store α} {wanted : Json → Except Failure Bool}
    {keep : String → Bool} (goOn : α → Bool) (hserves : Serves c d k)
    (hwanted : ∀ package, wanted (.str package) = .ok (keep package))
    (hvisit : ∀ {s : Store}, Holds c d (k.manifest.map .str) s → ∀ a ns package name decl,
      (visit a (.of ns package name decl)).exec s = (.ok (f a (.of ns package name decl)), s))
    (entries : List (Namespace × String)) (hlisted : ∀ entry ∈ entries, entry ∈ k.listed)
    (a : α) (h : Holds c d (k.manifest.map .str) s) :
    ∃ s', Holds c d (k.manifest.map .str) s' ∧
      (walkPackages d wanted goOn visit a (entries.map fun e => (e.1, .str e.2))).exec s =
        (.ok (visitWhile goOn f a ((entries.filter fun e => keep e.2).flatMap k.visitsIn)), s') := by
  induction entries generalizing a s with
  | nil => exact ⟨s, h, rfl⟩
  | cons entry rest ih =>
    obtain ⟨ns, package⟩ := entry
    have hrest := fun a {s} hs => ih (fun e he => hlisted e (List.mem_cons_of_mem _ he)) a (s := s) hs
    rw [List.map_cons, walkPackages]
    by_cases hgo : goOn a
    · simp only [hgo, Bool.not_true, Bool.false_eq_true, if_false, hwanted]
      rw [Action.exec_bind_of_ok (Action.exec_ofExcept ..)]
      by_cases hkeep : keep package
      · simp only [hkeep, if_true, List.filter_cons_of_pos, List.flatMap_cons]
        rw [visitWhile_append]
        obtain ⟨s₁, hs₁, hget⟩ := exec_getShard h ns package
        rw [hserves.shard ns package (k.mem_listed.mp (hlisted _ List.mem_cons_self))] at hget
        rw [Action.exec_bind_of_ok hget]
        have hwalk : (walkPackages.walkTypes goOn visit ns (.str package) a
            ((k.shard ns package).map Json.str).types).exec s₁ =
              (.ok (visitWhile goOn f a (k.visitsIn (ns, package))), s₁) := by
          have htypes : k.visitsIn (ns, package) = (((k.shard ns package).map Json.str).types).map
              fun type => ⟨ns, .str package, type.1, type.2⟩ := by
            simp only [Contents.visitsIn, Shard.map, Contents.shard, List.map_map]
            rfl
          rw [htypes]
          refine exec_walkTypes ns _ _ a fun a type htype => ?_
          simp only [Shard.map, List.mem_map] at htype
          obtain ⟨⟨name, decl⟩, -, rfl⟩ := htype
          exact hvisit hs₁ a ns package name decl
        obtain ⟨s₂, hs₂, hrun⟩ := hrest (visitWhile goOn f a (k.visitsIn (ns, package))) hs₁
        exact ⟨s₂, hs₂, (Action.exec_bind_of_ok hwalk).trans hrun⟩
      · simp only [hkeep, Bool.false_eq_true, if_false, not_false_eq_true, List.filter_cons_of_neg]
        exact hrest a h
    · simp only [Bool.not_eq_true] at hgo
      simp only [hgo, Bool.not_false, if_true]
      exact ⟨s, h, by rw [visitWhile_of_not hgo]; rfl⟩

/-- A walk through the whole index, begun when its manifest was read. -/
lemma exec_walk_fresh {visit : α → Visit → Action Store α} {wanted : Json → Except Failure Bool}
    (f : α → Visit → α) (keep : String → Bool) (hserves : Serves c d k)
    (hwanted : ∀ package, wanted (.str package) = .ok (keep package))
    (hvisit : ∀ {s : Store}, Holds c d (k.manifest.map .str) s → ∀ a ns package name decl,
      (visit a (.of ns package name decl)).exec s = (.ok (f a (.of ns package name decl)), s))
    (a : α) :
    ((walkPackages d wanted goOn visit a (packagesInOrder (k.manifest.map .str))).exec
        { fresh c with manifest := some (k.manifest.map .str) }).1 =
      .ok (visitWhile goOn f a (k.visits keep)) := by
  obtain ⟨s', -, hwalk⟩ := exec_walkPackages goOn hserves hwanted hvisit k.listed
    (fun _ h => h) a (holds_fresh c d (k.manifest.map .str))
  rw [k.packagesInOrder_manifest, hwalk]
  rfl

lemma visitWhile_map (g : Visit → α) (found : List α) (visits : List Visit) :
    visitWhile (fun _ => true) (fun found v => found ++ [g v]) found visits =
      found ++ visits.map g := by
  induction visits generalizing found with
  | nil => simp [visitWhile]
  | cons v rest ih => simp [visitWhile, ih]

lemma visitWhile_filter (p : Visit → Bool) (g : Visit → α) (found : List α)
    (visits : List Visit) :
    visitWhile (fun _ => true) (fun found v => if p v then found ++ [g v] else found) found visits =
      found ++ (visits.filter p).map g := by
  induction visits generalizing found with
  | nil => simp [visitWhile]
  | cons v rest ih => by_cases hv : p v <;> simp [visitWhile, ih, hv]

/-- A walk that stops once enough was found misses nothing among the first. -/
lemma take_visitWhile (g : Visit → List α) (n : Nat) (found : List α) (visits : List Visit) :
    (visitWhile (fun found => found.length < n) (fun found v => found ++ g v) found visits).take n =
      (found ++ visits.flatMap g).take n := by
  induction visits generalizing found with
  | nil => simp [visitWhile]
  | cons v rest ih =>
    by_cases h : found.length < n
    · simp [visitWhile, h, ih]
    · simp only [visitWhile, h, decide_false, Bool.false_eq_true, if_false]
      rw [List.take_append_of_le_length (Nat.le_of_not_lt h)]

end Store

/-! ### Answers -/

namespace Index.Contents

variable (k : Contents) (c : Config)

def fileOf (v : Visit) : Path := k.sourcePath c v.ns v.decl.sourcePath.display

def listing (v : Visit) : TypeListing := ⟨v.qualifiedName, v.simpleName, (k.fileOf c v).text⟩

def hits (needle : String) (kind : Option SymbolKind) (v : Visit) : List SearchHit :=
  let path := (k.fileOf c v).text
  (if kind.all (· == .type) then typeHits needle path v else []) ++
    (if kind.all (· == .field) then
      (memberHits needle Field.name (fieldHit path v) v.decl.fields).toOption.getD [] else []) ++
    (if kind.all (· == .method) then
      (memberHits needle Method.name (methodHit path v) v.decl.methods).toOption.getD [] else [])

end Index.Contents

/-- Whether a package is asked for, without regard to case. -/
def asksFor (asked : Option String) (package : String) : Bool :=
  asked.all fun asked => isWithin (lowercase asked) (lowercase package)

namespace Store

variable {c : Config} {d : Disk} {k : Contents} {s : Store}

/-- Members with texts for names can be searched, and every hit is that of a member. -/
lemma exists_memberHits {β : Type} (needle : String) (nameOf : β → Json) (hitOf : β → SearchHit)
    {members : List β} (h : ∀ x ∈ members, ∃ text, nameOf x = .str text) :
    ∃ hits, memberHits needle nameOf hitOf members = .ok hits ∧
      ∀ hit ∈ hits, ∃ x ∈ members, hit = hitOf x := by
  induction members with
  | nil => exact ⟨[], rfl, by simp⟩
  | cons x rest ih =>
    obtain ⟨hits, hhits, hall⟩ := ih fun y hy => h y (List.mem_cons_of_mem _ hy)
    obtain ⟨text, htext⟩ := h x List.mem_cons_self
    have hlower : lowerOf (nameOf x) = .ok (lowercase text) := by rw [htext]; rfl
    have hrest : ∀ hit ∈ hits, ∃ y ∈ x :: rest, hit = hitOf y := by
      intro hit hhit
      obtain ⟨y, hy, heq⟩ := hall hit hhit
      exact ⟨y, List.mem_cons_of_mem _ hy, heq⟩
    rw [memberHits, hlower, hhits]
    refine ⟨_, rfl, ?_⟩
    split
    · intro hit hhit
      rcases List.mem_cons.mp hhit with rfl | hhit
      · exact ⟨x, List.mem_cons_self, rfl⟩
      · exact hrest hit hhit
    · exact hrest

variable {ns : Namespace} {package name : String} {decl : TypeDecl String}

/-- The members of a type that is met can be searched. -/
lemma exists_hits (needle path : String) (ns : Namespace) (package name : String)
    (decl : TypeDecl String) :
    ∃ fields methods,
      memberHits needle Field.name (fieldHit path (.of ns package name decl))
        (Visit.of ns package name decl).decl.fields = .ok fields ∧
      memberHits needle Method.name (methodHit path (.of ns package name decl))
        (Visit.of ns package name decl).decl.methods = .ok methods ∧
      ∀ hit, hit ∈ fields ∨ hit ∈ methods →
        hit.typeName = (Visit.of ns package name decl).qualifiedName ∧ hit.sourcePath = path := by
  obtain ⟨fields, hfields, hfall⟩ := exists_memberHits needle Field.name
    (fieldHit path (.of ns package name decl))
    fun f (hf : f ∈ (Visit.of ns package name decl).decl.fields) => by
      obtain ⟨g, -, rfl⟩ := List.mem_map.mp hf
      exact ⟨g.name, rfl⟩
  obtain ⟨methods, hmethods, hmall⟩ := exists_memberHits needle Method.name
    (methodHit path (.of ns package name decl))
    fun m (hm : m ∈ (Visit.of ns package name decl).decl.methods) => by
      obtain ⟨n, -, rfl⟩ := List.mem_map.mp hm
      exact ⟨n.name, rfl⟩
  refine ⟨fields, methods, hfields, hmethods, ?_⟩
  rintro hit (hhit | hhit)
  · obtain ⟨f, -, rfl⟩ := hfall hit hhit
    exact ⟨rfl, rfl⟩
  · obtain ⟨m, -, rfl⟩ := hmall hit hhit
    exact ⟨rfl, rfl⟩

/-- Every hit tells the type it was found in, and its file. -/
lemma mem_hits {needle : String} {kind : Option SymbolKind} {hit : SearchHit}
    (h : hit ∈ k.hits c needle kind (.of ns package name decl)) :
    hit.typeName = (Visit.of ns package name decl).qualifiedName ∧
      hit.sourcePath = (k.fileOf c (.of ns package name decl)).text := by
  obtain ⟨fields, methods, hfields, hmethods, hall⟩ := exists_hits needle
    (k.fileOf c (.of ns package name decl)).text ns package name decl
  simp only [Contents.hits, List.mem_append, hfields, hmethods, Except.toOption,
    Option.getD_some] at h
  rcases h with (h | h) | h
  · split at h
    · rw [typeHits] at h
      split at h
      · rw [List.mem_singleton] at h
        subst h
        exact ⟨rfl, rfl⟩
      · cases h
    · cases h
  · split at h
    · exact hall hit (Or.inl h)
    · cases h
  · split at h
    · exact hall hit (Or.inr h)
    · cases h

lemma exec_listingOf (h : Holds c d (k.manifest.map .str) s) :
    (listingOf d (.of ns package name decl)).exec s =
      (.ok (k.listing c (.of ns package name decl)), s) :=
  Action.exec_bind_of_ok (exec_resolveSource h decl.sourcePath ns)

lemma exec_hitsIn (h : Holds c d (k.manifest.map .str) s) (needle : String)
    (kind : Option SymbolKind) :
    (hitsIn d needle kind (.of ns package name decl)).exec s =
      (.ok (k.hits c needle kind (.of ns package name decl)), s) := by
  obtain ⟨fields, methods, hfields, hmethods, -⟩ := exists_hits needle
    (k.fileOf c (.of ns package name decl)).text ns package name decl
  have hresolve : (resolveSource d (Visit.of ns package name decl).decl.sourcePath
      (Visit.of ns package name decl).ns).exec s =
        (.ok (k.fileOf c (.of ns package name decl)), s) := exec_resolveSource h decl.sourcePath ns
  rw [hitsIn, Action.exec_bind_of_ok hresolve]
  simp only [hfields, hmethods, Contents.hits, Except.toOption, Option.getD_some]
  split <;> split <;> split <;> rfl

/-! ### Queries on a store that has read nothing -/

variable (h : Serves c d k)

include h

/-- A search gives the first fifty hits over all types. -/
theorem exec_search (query : String) (kind : Option SymbolKind) :
    ((search d query kind).exec (fresh c)).1 =
      .ok (((k.visits fun _ => true).flatMap (k.hits c (lowercase query) kind)).take maxHits) := by
  rw [search, Action.exec_bind_of_ok (exec_getManifest_fresh h.manifest)]
  refine (Action.exec_bind_pure_fst _ _ _).trans ?_
  rw [exec_walk_fresh (fun found v => found ++ k.hits c (lowercase query) kind v) (fun _ => true) h
    (fun _ => rfl)
    fun hs found ns package name decl => Action.exec_bind_of_ok (exec_hitsIn hs _ kind)]
  exact congrArg Except.ok (take_visitWhile _ maxHits [] _)

/-- A listing gives all types of the packages asked for. -/
theorem exec_listTypes (asked : Option String) :
    ((listTypes d asked).exec (fresh c)).1 =
      .ok ((k.visits (asksFor asked)).map (k.listing c)) := by
  rw [listTypes, Action.exec_bind_of_ok (exec_getManifest_fresh h.manifest)]
  refine (exec_walk_fresh (fun found v => found ++ [k.listing c v]) (asksFor asked) h
    (fun _ => by cases asked <;> rfl)
    (fun hs found ns package name decl => Action.exec_bind_of_ok (exec_listingOf hs)) []).trans ?_
  exact congrArg Except.ok (visitWhile_map _ [] _)

/-- The packages of one namespace or of both. -/
theorem exec_listPackages (ns : Option Namespace) :
    ((listPackages d ns).exec (fresh c)).1 =
      .ok (((ns.map fun ns => (k.packages ns).names).getD
        ((k.packages .primary).names ++ (k.packages .secondary).names)).map .str) := by
  rw [listPackages, Action.exec_bind_of_ok (exec_getManifest_fresh h.manifest)]
  match ns with
  | none => exact congrArg Except.ok (List.map_append ..).symm
  | some .primary => rfl
  | some .secondary => rfl

/-- The types whose declarations name a type as one they descend from. -/
theorem exec_findHierarchy (name : Json) (direction : Descent) :
    ((findHierarchy d name direction).exec (fresh c)).1 =
      .ok (((k.visits fun _ => true).filter fun v => descendsFrom name direction v.decl).map
        (k.listing c)) := by
  rw [findHierarchy, Action.exec_bind_of_ok (exec_getManifest_fresh h.manifest)]
  refine (exec_walk_fresh
    (fun found v => if descendsFrom name direction v.decl then found ++ [k.listing c v] else found)
    (fun _ => true) h (fun _ => rfl) (fun hs found ns package name' decl => ?_) []).trans ?_
  · split
    · exact Action.exec_bind_of_ok (exec_listingOf hs)
    · rfl
  · exact congrArg Except.ok (visitWhile_filter _ _ [] _)

end Store

end JavaAtlas

import JavaAtlas.Proofs.Index.Searches
import Mathlib.Data.List.Flatten

/-!
# Listings by the segments of a package

A listing asks for a package and everything below it. In lowercase, a package is asked for when it
is the one that was named or begins like it up to a dot. This is the same as saying that, cut at the
dots, the name that was asked for begins the name of the package segment by segment, empty segments
included. So to ask for more segments is to leave types out, and to change nothing else.
-/

namespace JavaAtlas

open Index Store

/-! ### Segments -/

def lowerSegments (name : String) : List (List Char) := (lowercase name).toList.splitOn '.'

/-- The segments of a name begin those of another name, without regard to case. -/
def Encloses (outer inner : String) : Prop := lowerSegments outer <+: lowerSegments inner

instance (outer inner : String) : Decidable (Encloses outer inner) :=
  inferInstanceAs (Decidable (_ <+: _))

lemma Text.intercalate_append (mark : Char) {xs : List (List Char)} (hxs : xs ≠ [])
    (y : List Char) (ys : List (List Char)) :
    [mark].intercalate (xs ++ y :: ys) =
      [mark].intercalate xs ++ mark :: [mark].intercalate (y :: ys) := by
  induction xs with
  | nil => exact absurd rfl hxs
  | cons x xs ih =>
    match xs with
    | [] => simp
    | w :: xs =>
      have hrest := ih (by simp)
      simp only [List.cons_append] at hrest ⊢
      rw [List.intercalate_cons_cons, hrest, List.intercalate_cons_cons]
      simp

/-- The pieces of a text begin those of another text if the texts are the same, or if the other one
goes on after a mark. -/
lemma Text.splitOn_prefix_iff {mark : Char} {s t : List Char} :
    s.splitOn mark <+: t.splitOn mark ↔ t = s ∨ s ++ [mark] <+: t := by
  constructor
  · rintro ⟨more, hmore⟩
    have hjoin : [mark].intercalate (s.splitOn mark ++ more) = t := by
      rw [hmore, List.intercalate_splitOn]
    match more with
    | [] =>
      left
      rw [← hjoin, List.append_nil, List.intercalate_splitOn]
    | piece :: more =>
      right
      rw [intercalate_append mark (List.splitOn_ne_nil mark s), List.intercalate_splitOn] at hjoin
      exact ⟨[mark].intercalate (piece :: more), by rw [← hjoin]; simp⟩
  · rintro (rfl | ⟨rest, rfl⟩)
    · exact List.prefix_rfl
    · rw [List.append_assoc, List.singleton_append, List.splitOn_append_cons_self]
      exact List.prefix_append ..

/-- Packages are asked for segment by segment. -/
lemma asksFor_eq (asked package : String) :
    asksFor (some asked) package = decide (Encloses asked package) := by
  rw [Bool.eq_iff_iff, decide_eq_true_iff, Encloses, lowerSegments, lowerSegments,
    Text.splitOn_prefix_iff, asksFor, Option.all_some, isWithin, Bool.or_eq_true, beq_iff_eq,
    List.isPrefixOf_iff_prefix, String.toList_inj]
  simp

example : Encloses "Net" "net.m" ∧ ¬ Encloses "net.m" "net.mod" ∧ ¬ Encloses "net." "net.m" ∧
    ¬ Encloses "" "net" := by decide

/-! ### The types of the packages asked for -/

/-- What tells a type that is met from all others. -/
def Store.Visit.place (v : Visit) : Namespace × Json × String := (v.ns, v.package, v.simpleName)

namespace Index.Contents

variable (k : Contents)

lemma nodup_listed : k.listed.Nodup := by
  refine List.nodup_flatMap.mpr ⟨fun ns _ => ?_, ?_⟩
  · exact (k.tidy ns).nodup_names.map fun a b h => (Prod.mk.inj h).2
  · have hall : Namespace.all.Nodup := by decide
    refine hall.imp fun hne => ?_
    intro entry h₁ h₂
    obtain ⟨a, -, rfl⟩ := List.mem_map.mp h₁
    obtain ⟨b, -, heq⟩ := List.mem_map.mp h₂
    exact hne (Prod.mk.inj heq).1.symm

lemma nodup_visitsIn (entry : Namespace × String) : ((k.visitsIn entry).map Visit.place).Nodup := by
  have hkeys := k.nodup_types entry.1 entry.2
  have hplaces : (k.visitsIn entry).map Visit.place =
      (Ordered.keys (k.types entry.1 entry.2)).map fun name => (entry.1, .str entry.2, name) := by
    simp only [visitsIn, Ordered.keys, List.map_map]
    rfl
  rw [hplaces]
  exact hkeys.map fun a b h => (Prod.mk.inj (Prod.mk.inj h).2).2

/-- No type is met twice. -/
lemma nodup_visits (wanted : String → Bool) : ((k.visits wanted).map Visit.place).Nodup := by
  rw [visits, List.map_flatMap]
  refine List.nodup_flatMap.mpr ⟨fun entry _ => k.nodup_visitsIn entry, ?_⟩
  refine (k.nodup_listed.filter _).imp fun {e₁ e₂} hne => ?_
  -- The package and the namespace of a type that is met are those of its entry.
  intro found h₁ h₂
  obtain ⟨_, hv₁, rfl⟩ := List.mem_map.mp h₁
  obtain ⟨_, hv₂, heq⟩ := List.mem_map.mp h₂
  obtain ⟨t₁, -, rfl⟩ := List.mem_map.mp hv₁
  obtain ⟨t₂, -, rfl⟩ := List.mem_map.mp hv₂
  obtain ⟨hns, hrest⟩ := Prod.mk.inj heq
  obtain ⟨hpackage, -⟩ := Prod.mk.inj hrest
  exact hne (Prod.ext hns (Json.str.inj hpackage)).symm

/-- Where fewer packages are wanted, types are left out. -/
lemma sublist_visits {p q : String → Bool} (h : ∀ package, p package = true → q package = true) :
    (k.visits p).Sublist (k.visits q) := by
  have hfilter : k.listed.filter (fun entry => p entry.2) =
      (k.listed.filter fun entry => q entry.2).filter fun entry => p entry.2 := by
    rw [List.filter_filter]
    refine List.filter_congr fun entry _ => ?_
    rw [Bool.eq_iff_iff, Bool.and_eq_true]
    exact (and_iff_left_of_imp (h entry.2)).symm
  rw [visits, hfilter]
  exact List.filter_sublist.flatMap k.visitsIn

/-- The types of the packages that an asked name encloses, in the order of the packages in the
manifest and of the types in their shards. -/
def enclosed (asked : String) : List Visit := k.visits fun package => Encloses asked package

/-- A type that is enclosed by a name is one that was collected, in a package that the name
encloses. -/
lemma mem_enclosed {asked : String} {v : Visit} :
    v ∈ k.enclosed asked ↔ ∃ ns package name decl, package ∈ (k.packages ns).names ∧
      Encloses asked package ∧ (name, decl) ∈ k.types ns package ∧ v = .of ns package name decl := by
  rw [enclosed, mem_visits]
  simp only [decide_eq_true_eq]

/-- A name that goes further encloses less. -/
lemma sublist_enclosed {outer inner : String} (h : Encloses outer inner) :
    (k.enclosed inner).Sublist (k.enclosed outer) := by
  refine k.sublist_visits fun package hpackage => ?_
  rw [decide_eq_true_iff] at hpackage ⊢
  exact h.trans hpackage

end Index.Contents

namespace Store

variable {c : Config} {d : Disk} {k : Contents} {s : Store}

/-- A listing gives the types that the name asked for encloses. -/
lemma listTypes_eq_enclosed (h : Serves c d k) (hs : Recalls c d s) (asked : String) :
    ((listTypes d (some asked)).exec s).1 = .ok ((k.enclosed asked).map (k.listing c)) := by
  rw [(steady_listTypes (some asked)).same h.unmistaken hs (recalls_fresh c d), exec_listTypes h]
  have hasks : asksFor (some asked) = fun package => decide (Encloses asked package) :=
    funext fun package => asksFor_eq asked package
  rw [hasks, Contents.enclosed]

end Store

namespace Index.Job

open Store

variable {j : Job} {c : Config} {d d' e : Disk} {s : Summary}

/-- As long as the index of a build that succeeds stays as it is, a listing gives, in the order of
the manifest and of the shards and each once, all types of the packages whose segments are begun by
those of the name that is asked for, whatever of the index is in memory. To go further with the name
is to leave types out of the listing. -/
theorem listing_by_segments (h : j.run d = (.ok s, d'))
    (hmanifest : loadManifest c e = loadManifest j.config d')
    (hshards : ∀ ns package, loadShard c e ns package = loadShard j.config d' ns package) :
    ∃ k, j.Collects d k ∧ Serves c e k ∧
      (∀ asked store, Recalls c e store →
        ((listTypes e (some asked)).exec store).1 = .ok ((k.enclosed asked).map (k.listing c))) ∧
      (∀ asked v, v ∈ k.enclosed asked ↔ ∃ ns package name decl,
        package ∈ (k.packages ns).names ∧ Encloses asked package ∧
        (name, decl) ∈ k.types ns package ∧ v = .of ns package name decl) ∧
      (∀ asked, ((k.enclosed asked).map Visit.place).Nodup) ∧
      ∀ outer inner, Encloses outer inner → ∀ store₁ store₂, Recalls c e store₁ →
        Recalls c e store₂ → ∃ found₁ found₂,
          ((listTypes e (some outer)).exec store₁).1 = .ok found₁ ∧
          ((listTypes e (some inner)).exec store₂).1 = .ok found₂ ∧ found₂.Sublist found₁ := by
  obtain ⟨k, hk, -, hstored⟩ := stored_of_run h
  have hserves := hstored.serves.of_same hmanifest hshards
  have hlists : ∀ asked store, Recalls c e store →
      ((listTypes e (some asked)).exec store).1 = .ok ((k.enclosed asked).map (k.listing c)) :=
    fun asked store hs => listTypes_eq_enclosed hserves hs asked
  refine ⟨k, hk, hserves, hlists, fun _ _ => k.mem_enclosed, fun _ => k.nodup_visits _, ?_⟩
  intro outer inner hencloses store₁ store₂ hs₁ hs₂
  exact ⟨_, _, hlists outer store₁ hs₁, hlists inner store₂ hs₂,
    (k.sublist_enclosed hencloses).map (k.listing c)⟩

theorem listing_by_segments_small : ∃ s d' found₁ found₂, smallJob.run smallDisk = (.ok s, d') ∧
    ((listTypes d' (some "b")).exec (fresh smallJob.config)).1 = .ok found₁ ∧
    ((listTypes d' (some "B")).exec (fresh smallJob.config)).1 = .ok found₂ ∧
    found₂.Sublist found₁ ∧ ∃ l ∈ found₂, l.qualifiedName = "b.A" := by
  obtain ⟨s, d', hrun⟩ := exists_run_small
  obtain ⟨k, hk, -, hlists, hmem, -, hless⟩ := listing_by_segments hrun rfl fun _ _ => rfl
  obtain ⟨found₁, found₂, hfound₁, hfound₂, hsublist⟩ :=
    hless "b" "B" (by decide) _ _ (recalls_fresh _ _) (recalls_fresh _ _)
  refine ⟨s, d', found₁, found₂, hrun, hfound₁, hfound₂, hsublist, ?_⟩
  rw [hlists "B" _ (recalls_fresh _ _), Except.ok.injEq] at hfound₂
  obtain ⟨hpackage, decl, hdecl, -⟩ := exists_type_small hk
  have hvisit : Visit.of .primary "b" "A" decl ∈ k.enclosed "B" :=
    (hmem _ _).mpr ⟨.primary, "b", "A", decl, hpackage, by decide, Ordered.mem_of_get? hdecl, rfl⟩
  rw [← hfound₂]
  exact ⟨_, List.mem_map.mpr ⟨_, hvisit, rfl⟩, rfl⟩

end Index.Job

end JavaAtlas

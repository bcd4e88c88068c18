import Mathlib.Data.Finset.Card
import Mathlib.Data.Finset.Image
import Mathlib.Data.List.Lex
import JavaAtlas.CallGraph.Query
import JavaAtlas.Proofs.Text.Order

/-!
# Counting distinct methods

Methods are counted by sorting them and dropping every one that equals the one before it. As equal
items of a sorted list stand side by side, what is left names nothing twice, so that the count is
the size of the set of types and names.
-/

namespace JavaAtlas

namespace Text

variable {xs ys zs : List String}

abbrev TextBefore (s t : String) : Prop := isBefore s t = true

instance : Std.Asymm TextBefore where
  asymm _ _ h h' := Bool.false_ne_true ((isBefore_asymm h).symm.trans h')

instance : Std.Trichotomous TextBefore where
  trichotomous _ _ h h' := by
    by_contra hne
    exact h (isBefore_of_ne hne (by simpa using h'))

lemma areBefore_iff : areBefore xs ys = true ↔ List.Lex TextBefore xs ys :=
  List.lex_eq_true_iff_lex _

/-- Lists of texts neither of which comes before the other are equal. -/
lemma eq_of_not_areBefore (h : areBefore xs ys = false) (h' : areBefore ys xs = false) :
    xs = ys := by
  rw [← Bool.not_eq_true, areBefore_iff] at h h'
  exact Std.Trichotomous.trichotomous xs ys h h'

lemma areBefore_asymm (h : areBefore xs ys = true) : areBefore ys xs = false := by
  rw [← Bool.not_eq_true, areBefore_iff]
  exact asymm (areBefore_iff.mp h)

lemma ne_of_areBefore (h : areBefore xs ys = true) : xs ≠ ys := by
  rintro rfl
  rw [areBefore_asymm h] at h
  cases h

lemma not_areBefore_trans (h : areBefore ys xs = false) (h' : areBefore zs ys = false) :
    areBefore zs xs = false := by
  by_contra hzx
  rw [Bool.not_eq_false, areBefore_iff] at hzx
  match hxy : areBefore xs ys with
  | true =>
    have hzy : List.Lex TextBefore zs ys :=
      List.lex_trans isBefore_trans hzx (areBefore_iff.mp hxy)
    rw [areBefore_iff.mpr hzy] at h'
    cases h'
  | false =>
    obtain rfl := eq_of_not_areBefore hxy h
    rw [areBefore_iff.mpr hzx] at h'
    cases h'

end Text

namespace CallGraph

variable {α : Type} [BEq α] [LawfulBEq α]

lemma mem_dropRepeats {a : α} {items : List α} : a ∈ dropRepeats items ↔ a ∈ items := by
  fun_induction dropRepeats items with
  | case1 => rfl
  | case2 b => rfl
  | case3 b c rest heq ih =>
    obtain rfl := eq_of_beq heq
    rw [ih]
    simp
  | case4 b c rest _ ih => simp [ih]

/-- In a sorted list, what equals an item stands beside it. -/
lemma nodup_dropRepeats {le : α → α → Prop} (hanti : ∀ a b, le a b → le b a → a = b)
    {items : List α} (h : items.Pairwise le) : (dropRepeats items).Nodup := by
  fun_induction dropRepeats items with
  | case1 => exact List.nodup_nil
  | case2 b => exact List.nodup_singleton b
  | case3 b c rest _ ih => exact ih (List.Pairwise.of_cons h)
  | case4 b c rest hne ih =>
    rw [List.pairwise_cons] at h
    refine List.nodup_cons.mpr ⟨fun hmem => ?_, ih h.2⟩
    -- an equal item further on would be both behind and in front of the next one
    rw [mem_dropRepeats] at hmem
    have hbc := h.1 c List.mem_cons_self
    rcases List.mem_cons.mp hmem with rfl | hrest
    · simp at hne
    · have hcb := (List.pairwise_cons.mp h.2).1 b hrest
      exact hne (by simp [hanti b c hbc hcb])

omit [LawfulBEq α] in
lemma dropRepeats_sublist (items : List α) : (dropRepeats items).Sublist items := by
  fun_induction dropRepeats items with
  | case1 => exact .slnil
  | case2 b => exact .refl [b]
  | case3 b c rest _ ih => exact ih.cons b
  | case4 b c rest _ ih => exact ih.cons_cons b

lemma mem_sortedDistinct {a : α} {key : α → List String} {items : List α} :
    a ∈ sortedDistinct key items ↔ a ∈ items := by
  rw [sortedDistinct, mem_dropRepeats, List.mem_mergeSort]

omit [BEq α] [LawfulBEq α] in
lemma pairwise_mergeSort_key (key : α → List String) (items : List α) :
    (items.mergeSort fun a b => !Text.areBefore (key b) (key a)).Pairwise fun a b =>
      Text.areBefore (key b) (key a) = false := by
  have hsorted := @List.pairwise_mergeSort _ (fun a b => !Text.areBefore (key b) (key a))
    (fun a b c hab hbc => by
      simp only [Bool.not_eq_true'] at hab hbc ⊢
      exact Text.not_areBefore_trans hab hbc)
    (fun a b => by
      match hba : Text.areBefore (key b) (key a) with
      | true => simp [Text.areBefore_asymm hba]
      | false => rfl)
    items
  simpa using hsorted

/-- Distinct items are given in the order of their keys. -/
lemma pairwise_sortedDistinct {key : α → List String} (hkey : Function.Injective key)
    (items : List α) :
    (sortedDistinct key items).Pairwise fun a b => Text.areBefore (key a) (key b) = true := by
  have hsorted := pairwise_mergeSort_key key items
  have hnodup : (sortedDistinct key items).Nodup :=
    nodup_dropRepeats (fun a b hab hba => hkey (Text.eq_of_not_areBefore hba hab)) hsorted
  refine ((hsorted.sublist (dropRepeats_sublist _)).and hnodup).imp fun {a b} ⟨hab, hne⟩ => ?_
  by_contra hba
  exact hne (hkey (Text.eq_of_not_areBefore (by simpa using hba) hab))

/-- The number of distinct items is the size of their set. -/
lemma length_sortedDistinct [DecidableEq α] {key : α → List String} (hkey : Function.Injective key)
    (items : List α) : (sortedDistinct key items).length = items.toFinset.card := by
  have hnodup : (sortedDistinct key items).Nodup :=
    (pairwise_sortedDistinct hkey items).imp fun hab heq =>
      Text.ne_of_areBefore hab (congrArg key heq)
  rw [← List.toFinset_card_of_nodup hnodup]
  congr 1
  ext a
  simp [mem_sortedDistinct]

lemma distinctCount_eq (methods : List MethodId) :
    distinctCount methods = (methods.map fun m => (m.type, m.name)).toFinset.card := by
  rw [distinctCount, length_sortedDistinct Function.injective_id]
  have hpair : Function.Injective fun pair : String × String => [pair.1, pair.2] := by
    rintro ⟨a, b⟩ ⟨c, d⟩ h
    simpa using h
  rw [← Finset.card_image_of_injective _ hpair]
  congr 1
  ext names
  simp

end CallGraph

end JavaAtlas

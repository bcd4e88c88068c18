import Mathlib.Tactic.Lemma
import JavaAtlas.Text.Order

/-!
# Texts are ordered

Coming before is a strict order, and of two different texts one comes before the other. So a list
that is sorted by it and names nothing twice increases.
-/

namespace JavaAtlas

namespace Text

variable {s t u : String}

abbrev CodeBefore (a b : Char) : Prop := a.toNat.blt b.toNat = true

lemma isBefore_iff : isBefore s t = true ↔ List.Lex CodeBefore s.toList t.toList :=
  List.lex_eq_true_iff_lex _

lemma isBefore_trans (h : isBefore s t = true) (h' : isBefore t u = true) :
    isBefore s u = true := by
  rw [isBefore_iff] at h h' ⊢
  refine List.lex_trans (fun {a b c} hab hbc => ?_) h h'
  simp only [CodeBefore, Nat.blt_eq] at hab hbc ⊢
  exact Nat.lt_trans hab hbc

lemma isBefore_asymm (h : isBefore s t = true) : isBefore t s = false := by
  rw [isBefore_iff] at h
  rw [← Bool.not_eq_true, isBefore_iff]
  refine List.lex_asymm (fun {a b} hab hba => ?_) h
  simp only [CodeBefore, Nat.blt_eq] at hab hba
  exact Nat.lt_asymm hab hba

lemma lex_or_eq_or_lex (xs ys : List Char) :
    List.Lex CodeBefore xs ys ∨ xs = ys ∨ List.Lex CodeBefore ys xs := by
  induction xs generalizing ys with
  | nil =>
    match ys with
    | [] => exact Or.inr (Or.inl rfl)
    | _ :: _ => exact Or.inl .nil
  | cons a xs ih =>
    match ys with
    | [] => exact Or.inr (Or.inr .nil)
    | b :: ys =>
      rcases Nat.lt_trichotomy a.toNat b.toNat with hlt | heq | hgt
      · exact Or.inl (.rel (Nat.blt_eq.mpr hlt))
      · obtain rfl := Char.toNat_inj.mp heq
        rcases ih ys with hlt | rfl | hgt
        · exact Or.inl (.cons hlt)
        · exact Or.inr (Or.inl rfl)
        · exact Or.inr (Or.inr (.cons hgt))
      · exact Or.inr (Or.inr (.rel (Nat.blt_eq.mpr hgt)))

/-- Of two different texts one comes before the other. -/
lemma isBefore_of_ne (hne : s ≠ t) (h : isBefore t s = false) : isBefore s t = true := by
  rw [← Bool.not_eq_true, isBefore_iff] at h
  rw [isBefore_iff]
  rcases lex_or_eq_or_lex s.toList t.toList with hlt | heq | hgt
  · exact hlt
  · exact absurd (String.toList_injective heq) hne
  · exact absurd hgt h

/-- Coming not after is transitive. -/
lemma not_isBefore_trans (h : isBefore t s = false) (h' : isBefore u t = false) :
    isBefore u s = false := by
  rw [← Bool.not_eq_true]
  intro hus
  by_cases hne : s = t
  · subst hne
    rw [h'] at hus
    cases hus
  · rw [isBefore_trans hus (isBefore_of_ne hne h)] at h'
    cases h'

end Text

end JavaAtlas

import Mathlib.Tactic.Lemma
import JavaAtlas.Java.Masking

/-!
# What masking keeps

A token is a piece of the text, and its masked form has as many line feeds. So the line feeds of a
masked text are those of the text.
-/

namespace JavaAtlas

namespace Java

variable {region next : Region} {s token rest : List Char} {masked : Bool}

/-- A token is what the text begins with. -/
lemma nextToken_eq_append (h : nextToken region s = some (token, masked, next, rest)) :
    s = token ++ rest := by
  unfold nextToken at h
  split at h <;> cases h <;> rfl

lemma count_blanksFor (c : Char) : (blanksFor c).count '\n' = [c].count '\n' := by
  rw [blanksFor]
  split
  · next hc => rw [eq_of_beq hc]
  · next hc =>
    rw [List.count_singleton, if_neg hc]
    exact List.count_eq_zero.mpr fun h => absurd (List.eq_of_mem_replicate h) (by decide)

lemma count_blankAll (token : List Char) : (blankAll token).count '\n' = token.count '\n' := by
  induction token with
  | nil => rfl
  | cons c token ih =>
    rw [blankAll, List.flatMap_cons, List.count_append, count_blanksFor]
    rw [blankAll] at ih
    rw [ih, ← List.count_append, List.singleton_append]

lemma count_maskFrom (region : Region) (done s : List Char) :
    (maskFrom region done s).count '\n' = done.count '\n' + s.count '\n' := by
  fun_induction maskFrom region done s with
  | case1 region done s hend =>
    have hs : s = [] := by
      unfold nextToken at hend
      split at hend <;> cases hend
      rfl
    rw [hs, List.count_reverse]
    rfl
  | case2 region done s token masked next rest htoken _ ih =>
    have hkept : (if masked then blankAll token else token).count '\n' = token.count '\n' := by
      split
      · exact count_blankAll token
      · rfl
    rw [dite_eq_ite] at ih
    rw [ih, List.count_append, List.count_reverse, hkept, nextToken_eq_append htoken,
      List.count_append]
    omega

/-- Masking keeps line feeds. -/
lemma count_mask (s : List Char) : (mask s).count '\n' = s.count '\n' := by
  rw [mask, count_maskFrom, List.count_nil, Nat.zero_add]

end Java

end JavaAtlas

import Mathlib.Tactic.Lemma
import JavaAtlas.Text.Lines

/-!
# Line numbers

A text has one line more than line feeds, the line of an offset is one of them, and the line of an
offset further on does not come before it.
-/

namespace JavaAtlas

namespace Text

lemma lines_cons (c : Char) (s : List Char) :
    lines (c :: s) = if c == '\n' then [] :: lines s else (lines s).modifyHead (c :: ·) :=
  List.splitOn_cons_eq_if_modifyHead ..

lemma length_lines (s : List Char) : (lines s).length = 1 + s.count '\n' := by
  induction s with
  | nil => rfl
  | cons c s ih =>
    rw [lines_cons]
    split
    · next hc =>
      rw [List.length_cons, ih, eq_of_beq hc, List.count_cons_self]
      omega
    · next hc => rw [List.length_modifyHead, ih, List.count_cons_of_ne (by simpa using hc)]

variable {s : List Char} {i j : Nat}

lemma one_le_lineOf (s : List Char) (i : Nat) : 1 ≤ lineOf s i := by
  rw [lineOf_eq]
  exact Nat.le_add_right ..

lemma lineOf_mono (h : i ≤ j) : lineOf s i ≤ lineOf s j := by
  rw [lineOf_eq, lineOf_eq]
  exact Nat.add_le_add_left ((List.take_sublist_take_left h).count_le _) 1

/-- Every offset lies on a line of the text. -/
lemma lineOf_le_length_lines (s : List Char) (i : Nat) : lineOf s i ≤ (lines s).length := by
  rw [lineOf_eq, length_lines]
  exact Nat.add_le_add_left ((List.take_sublist i s).count_le _) 1

end Text

end JavaAtlas

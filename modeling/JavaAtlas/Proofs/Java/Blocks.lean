import Mathlib.Tactic.Lemma
import JavaAtlas.Java.Source

/-!
# Where blocks end

A block ends at the brace before which its braces balance. The search for that brace counts the
blocks that are open; it finds the brace if there is one.
-/

namespace JavaAtlas

namespace Java

variable {depth offset p : Nat} {c : Char} {s inner : List Char}

/-- Inside of so many blocks, the text closes all of them and whatever it opens, and nothing
around them. -/
structure Closes (depth : Nat) (s : List Char) : Prop where
  all : s.count '\x7d' = s.count '\x7b' + depth
  within : ∀ t, t <+: s → t.count '\x7d' ≤ t.count '\x7b' + depth

/-- In a balanced text every brace that opens a block is closed in it, and no other is. -/
def IsBalanced (s : List Char) : Prop := Closes 0 s

lemma closes_nil_iff : Closes depth [] ↔ depth = 0 := by
  refine ⟨fun h => ?_, ?_⟩
  · simpa using h.all.symm
  · rintro rfl
    exact ⟨rfl, fun t ht => by simp [List.prefix_nil.mp ht]⟩

/-- A character that changes the number of open blocks from one to another. -/
lemma closes_cons_iff {next : Nat} (hc : [c].count '\x7d' + next = [c].count '\x7b' + depth) :
    Closes depth (c :: s) ↔ Closes next s := by
  have hcount : ∀ b (t : List Char), (c :: t).count b = [c].count b + t.count b :=
    fun b t => by rw [← List.count_append, List.singleton_append]
  constructor
  · intro h
    refine ⟨?_, fun t ht => ?_⟩
    · have hall := h.all
      rw [hcount _ s, hcount _ s] at hall
      omega
    · have hwithin := h.within (c :: t) (List.cons_prefix_cons.mpr ⟨rfl, ht⟩)
      rw [hcount _ t, hcount _ t] at hwithin
      omega
  · intro h
    refine ⟨?_, fun t ht => ?_⟩
    · have hall := h.all
      rw [hcount _ s, hcount _ s]
      omega
    · match t with
      | [] => simp
      | d :: t =>
        obtain ⟨rfl, htail⟩ := List.cons_prefix_cons.mp ht
        have hwithin := h.within t htail
        rw [hcount _ t, hcount _ t]
        omega

/-- A balanced text does not begin by closing a block. -/
lemma not_isBalanced_close : ¬ IsBalanced ('\x7d' :: s) := by
  intro h
  have := h.within ['\x7d'] (List.cons_prefix_cons.mpr ⟨rfl, List.nil_prefix⟩)
  exact absurd this (by decide)

/-- Behind a character that leaves the outermost block open, its end is looked for in the rest. -/
lemma exists_closes_cons_iff {next : Nat} (hc : [c].count '\x7d' + next = [c].count '\x7b' + depth)
    (hstays : c ≠ '\x7d' ∨ depth ≠ 0) :
    (∃ inner rest, s = inner ++ '\x7d' :: rest ∧ Closes next inner ∧
      p = offset + 1 + inner.length) ↔
    ∃ inner rest, c :: s = inner ++ '\x7d' :: rest ∧ Closes depth inner ∧
      p = offset + inner.length := by
  constructor
  · rintro ⟨inner, rest, rfl, hinner, rfl⟩
    refine ⟨c :: inner, rest, rfl, (closes_cons_iff hc).mpr hinner, ?_⟩
    rw [List.length_cons]
    omega
  · rintro ⟨inner, rest, hs, hinner, rfl⟩
    match inner with
    | [] =>
      obtain ⟨rfl, -⟩ := List.cons.inj hs
      rcases hstays with h | h
      · exact absurd rfl h
      · exact absurd (closes_nil_iff.mp hinner) h
    | d :: inner =>
      obtain ⟨rfl, rfl⟩ := List.cons.inj hs
      refine ⟨inner, rest, rfl, (closes_cons_iff hc).mp hinner, ?_⟩
      rw [List.length_cons]
      omega

/-- The search finds the brace that closes the outermost of the open blocks, which are one more
than `depth`. -/
lemma closingBrace?_eq_some_iff : closingBrace? depth offset s = some p ↔
    ∃ inner rest, s = inner ++ '\x7d' :: rest ∧ Closes depth inner ∧ p = offset + inner.length := by
  induction s generalizing depth offset with
  | nil => simp [closingBrace?]
  | cons c s ih =>
    rw [closingBrace?.eq_def]
    simp only
    split
    case isTrue hopen =>
      obtain rfl := eq_of_beq hopen
      exact ih.trans (exists_closes_cons_iff (by simp; omega) (Or.inl (by decide)))
    case isFalse hopen =>
      split
      case isTrue hclose =>
        obtain rfl := eq_of_beq hclose
        match depth with
        | 0 =>
          constructor
          · intro h
            obtain rfl := Option.some.inj h
            exact ⟨[], s, rfl, closes_nil_iff.mpr rfl, rfl⟩
          · rintro ⟨inner, rest, hs, hinner, rfl⟩
            match inner with
            | [] => rfl
            | d :: inner =>
              obtain ⟨rfl, -⟩ := List.cons.inj hs
              exact absurd hinner not_isBalanced_close
        | depth + 1 => exact ih.trans (exists_closes_cons_iff (by simp; omega) (Or.inr (by omega)))
      case isFalse hclose =>
        simp only [beq_iff_eq] at hopen hclose
        exact ih.trans (exists_closes_cons_iff (by simp [hopen, hclose]) (Or.inl hclose))

/-- Where no block can be closed, the search finds nothing. -/
lemma closingBrace?_eq_none_iff : closingBrace? depth offset s = none ↔
    ∀ inner rest, s = inner ++ '\x7d' :: rest → ¬ Closes depth inner := by
  rw [Option.eq_none_iff_forall_ne_some]
  constructor
  · intro h inner rest hs hinner
    exact h _ (closingBrace?_eq_some_iff.mpr ⟨inner, rest, hs, hinner, rfl⟩)
  · intro h p hp
    obtain ⟨inner, rest, hs, hinner, -⟩ := closingBrace?_eq_some_iff.mp hp
    exact h inner rest hs hinner

end Java

end JavaAtlas

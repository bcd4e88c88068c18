import Mathlib.Data.List.Basic
import Mathlib.Data.List.TakeWhile
import JavaAtlas.Text.Blank
import JavaAtlas.Text.Word

/-!
# Blanks and words

Stripping takes the blanks off both ends of a text and nothing else. The words of a text are its
pieces without blanks that stand between blanks or the ends of the text.
-/

namespace JavaAtlas

namespace Text

variable {b c : Char} {s t w word : List Char}

/-! ### Blanks -/

/-- The code points of white space. -/
def blankCodes : List Nat :=
  List.range' 9 5 ++ List.range' 28 5 ++ [0x85, 0xA0, 0x1680] ++ List.range' 0x2000 11 ++
    [0x2028, 0x2029, 0x202F, 0x205F, 0x3000]

lemma toNat_mem_blankCodes (h : isBlank c = true) : c.toNat ∈ blankCodes := by
  simp only [isBlank, Bool.or_eq_true, Bool.and_eq_true, decide_eq_true_eq, beq_iff_eq] at h
  simp only [blankCodes, List.mem_append, List.mem_range'_1, List.mem_cons, List.not_mem_nil,
    or_false]
  omega

set_option maxRecDepth 10000 in
lemma not_isBlank_wordChar (h : isWordChar c = true) : isBlank c = false := by
  by_contra hblank
  have hmem := toNat_mem_blankCodes (Bool.not_eq_false _ ▸ hblank)
  have hall : ∀ n ∈ blankCodes, isWordChar (Char.ofNat n) = false := by decide +kernel
  have hnot := hall _ hmem
  rw [Char.ofNat_toNat, h] at hnot
  cases hnot

lemma allBlank_iff : allBlank s = true ↔ ∀ c ∈ s, isBlank c = true := List.all_eq_true

/-! ### Stripping -/

/-- A text with no blank at its ends. -/
structure IsStripped (s : List Char) : Prop where
  first : ∀ c ∈ s.head?, isBlank c = false
  last : ∀ c ∈ s.getLast?, isBlank c = false

lemma IsStripped.strip_eq_self (h : IsStripped s) : strip s = s := by
  have hdrop : ∀ {t : List Char}, (∀ c ∈ t.head?, isBlank c = false) → t.dropWhile isBlank = t := by
    intro t ht
    match t with
    | [] => rfl
    | c :: t => simp [ht c rfl]
  have hrev : ∀ c ∈ s.reverse.head?, isBlank c = false := by simpa using h.last
  rw [strip, stripLeft, hdrop h.first, stripRight, hdrop hrev, List.reverse_reverse]

/-- A text is its stripped text between blanks. -/
lemma exists_strip (t : List Char) : ∃ front back, t = front ++ (strip t ++ back) ∧
    (∀ c ∈ front, isBlank c = true) ∧ ∀ c ∈ back, isBlank c = true := by
  have hback : stripLeft t = strip t ++ ((stripLeft t).reverse.takeWhile isBlank).reverse := by
    rw [strip, stripRight, ← List.reverse_append, List.takeWhile_append_dropWhile,
      List.reverse_reverse]
  refine ⟨t.takeWhile isBlank, ((stripLeft t).reverse.takeWhile isBlank).reverse, ?_, ?_, ?_⟩
  · rw [← hback, stripLeft, List.takeWhile_append_dropWhile]
  · intro c hc
    exact List.mem_takeWhile_imp hc
  · intro c hc
    exact List.mem_takeWhile_imp (List.mem_reverse.mp hc)

lemma isStripped_strip (t : List Char) : IsStripped (strip t) := by
  have hfirst : ∀ (s : List Char), ∀ c ∈ (s.dropWhile isBlank).head?, isBlank c = false := by
    intro s c hc
    have hnot := List.head?_dropWhile_not isBlank s
    rw [Option.mem_def.mp hc] at hnot
    simpa using hnot
  constructor
  · intro c hc
    have hprefix : strip t <+: stripLeft t := by
      rw [← List.reverse_suffix, strip, stripRight, List.reverse_reverse]
      exact List.dropWhile_suffix isBlank
    obtain ⟨back, hback⟩ := hprefix
    apply hfirst t c
    rw [← stripLeft, ← hback]
    exact List.mem_head?_append_of_mem_head? hc
  · intro c hc
    rw [strip, stripRight, List.getLast?_reverse] at hc
    exact hfirst _ c hc

@[simp] lemma strip_strip (t : List Char) : strip (strip t) = strip t :=
  (isStripped_strip t).strip_eq_self

lemma strip_space (s : List Char) : strip (' ' :: s) = strip s := by
  have hspace : isBlank ' ' = true := by decide
  simp [strip, stripLeft, hspace]

/-- Stripping drops nothing but white space. -/
lemma mem_strip (h : c ∈ t) (hc : isBlank c = false) : c ∈ strip t := by
  obtain ⟨front, back, ht, hfront, hback⟩ := exists_strip t
  rw [ht] at h
  simp only [List.mem_append] at h
  rcases h with h | h | h
  · simp [hfront c h] at hc
  · exact h
  · simp [hback c h] at hc

/-- Of a text of blanks nothing is left. -/
lemma strip_eq_nil (h : allBlank t = true) : strip t = [] := by
  match hs : strip t with
  | [] => rfl
  | c :: s =>
    obtain ⟨front, back, ht, -, -⟩ := exists_strip t
    have hmem : c ∈ t := by
      rw [ht, hs]
      simp
    have hfirst := (isStripped_strip t).first c (by simp [hs])
    rw [allBlank_iff.mp h c hmem] at hfirst
    cases hfirst

/-! ### Words -/

lemma words_space (s : List Char) : words (' ' :: s) = words s := by
  have hspace : isBlank ' ' = true := by decide
  simp [words, wordsFrom, hspace]

lemma wordsFrom_eq_nil_iff : wordsFrom word s = [] ↔ word = [] ∧ allBlank s = true := by
  induction s generalizing word with
  | nil => simp [wordsFrom, allBlank]
  | cons c s ih =>
    rw [allBlank, List.all_cons, ← allBlank, wordsFrom]
    by_cases hc : isBlank c <;> by_cases hword : word = [] <;> simp [hc, hword, ih]

/-- A text of blanks has no words. -/
lemma words_eq_nil_iff : words s = [] ↔ allBlank s = true := by
  rw [words, wordsFrom_eq_nil_iff, and_iff_right rfl]

lemma wordsFrom_append_blank (hb : isBlank b = true) (word s t : List Char) :
    wordsFrom word (s ++ b :: t) = wordsFrom word s ++ words t := by
  induction s generalizing word with
  | nil => by_cases hword : word.isEmpty <;> simp [wordsFrom, words, hb, hword]
  | cons c s ih =>
    rw [List.cons_append, wordsFrom, wordsFrom]
    split
    · split
      · exact ih []
      · rw [ih, List.cons_append]
    · exact ih (c :: word)

/-- A blank separates words. -/
lemma words_append_blank (hb : isBlank b = true) (s t : List Char) :
    words (s ++ b :: t) = words s ++ words t := wordsFrom_append_blank hb [] s t

/-- Blanks at the end of a text are part of no word. -/
lemma words_append_blanks (h : allBlank t = true) (s : List Char) : words (s ++ t) = words s := by
  match t with
  | [] => rw [List.append_nil]
  | b :: t =>
    obtain ⟨hb, ht⟩ := Bool.and_eq_true_iff.mp h
    rw [words_append_blank hb, words_eq_nil_iff.mpr ht, List.append_nil]

lemma wordsFrom_of_not_blank (h : ∀ c ∈ s, isBlank c = false) (word : List Char) :
    wordsFrom word s = wordsFrom (s.reverse ++ word) [] := by
  induction s generalizing word with
  | nil => rfl
  | cons c s ih =>
    obtain ⟨hc, hs⟩ := List.forall_mem_cons.mp h
    have hstep : wordsFrom word (c :: s) = wordsFrom (c :: word) s := by simp [wordsFrom, hc]
    rw [hstep, ih hs, List.reverse_cons, List.append_assoc, List.singleton_append]

/-- A text without blanks is a word. -/
lemma words_of_not_blank (hne : s ≠ []) (h : ∀ c ∈ s, isBlank c = false) : words s = [s] := by
  rw [words, wordsFrom_of_not_blank h]
  simp [wordsFrom, hne]

lemma mem_wordsFrom (hword : ∀ c ∈ word, isBlank c = false) (h : w ∈ wordsFrom word s) :
    w ≠ [] ∧ ∀ c ∈ w, isBlank c = false := by
  have hself : ∀ {word : List Char}, (∀ c ∈ word, isBlank c = false) → ¬ word.isEmpty = true →
      word.reverse ≠ [] ∧ ∀ c ∈ word.reverse, isBlank c = false := fun hword hne =>
    ⟨by simpa using hne, fun c hc => hword c (List.mem_reverse.mp hc)⟩
  induction s generalizing word with
  | nil =>
    rw [wordsFrom] at h
    split at h
    · cases h
    · next hne =>
      rw [List.mem_singleton.mp h]
      exact hself hword hne
  | cons c s ih =>
    rw [wordsFrom] at h
    split at h
    · split at h
      · exact ih (by simp) h
      · next hne =>
        rcases List.mem_cons.mp h with rfl | h
        · exact hself hword hne
        · exact ih (by simp) h
    · next hc => exact ih (List.forall_mem_cons.mpr ⟨Bool.not_eq_true _ ▸ hc, hword⟩) h

/-- Words are not empty and hold no blanks. -/
lemma mem_words (h : w ∈ words s) : w ≠ [] ∧ ∀ c ∈ w, isBlank c = false :=
  mem_wordsFrom (by simp) h

/-- The words of a text are those of its words, joined by blanks. -/
lemma words_intercalate {ws : List (List Char)}
    (h : ∀ w ∈ ws, w ≠ [] ∧ ∀ c ∈ w, isBlank c = false) : words ([' '].intercalate ws) = ws := by
  induction ws with
  | nil => rfl
  | cons w ws ih =>
    obtain ⟨⟨hne, hw⟩, hws⟩ := List.forall_mem_cons.mp h
    match ws with
    | [] =>
      rw [List.intercalate_singleton]
      exact words_of_not_blank hne hw
    | v :: ws =>
      rw [List.intercalate_cons_cons, List.append_assoc, List.singleton_append,
        words_append_blank (by decide), words_of_not_blank hne hw, ih hws, List.singleton_append]

/-! ### Where words stand -/

/-- A piece of a text with blanks or the ends of the text around it. -/
def StandsAlone (w s : List Char) : Prop :=
  ∃ front rest, s = front ++ (w ++ rest) ∧ (∀ c ∈ front.getLast?, isBlank c = true) ∧
    ∀ c ∈ rest.head?, isBlank c = true

/-- What stands alone in a text does so behind more of it, up to a blank. -/
lemma StandsAlone.behind (h : StandsAlone w s) (hb : isBlank b = true) (t : List Char) :
    StandsAlone w (t ++ b :: s) := by
  obtain ⟨front, rest, rfl, hfront, hrest⟩ := h
  refine ⟨t ++ b :: front, rest, by simp, ?_, hrest⟩
  intro c hc
  match front with
  | [] =>
    rw [List.getLast?_concat] at hc
    cases hc
    exact hb
  | d :: front =>
    rw [List.getLast?_append_of_ne_nil _ (by simp), List.getLast?_cons_of_ne_nil (by simp)] at hc
    exact hfront c hc

lemma standsAlone_of_mem_wordsFrom (h : w ∈ wordsFrom word s) :
    StandsAlone w (word.reverse ++ s) := by
  induction s generalizing word with
  | nil =>
    rw [wordsFrom] at h
    split at h
    · cases h
    · rw [List.mem_singleton.mp h]
      exact ⟨[], [], by simp, by simp, by simp⟩
  | cons c s ih =>
    rw [wordsFrom] at h
    split at h
    · next hc =>
      split at h
      · exact (ih h).behind hc word.reverse
      · rcases List.mem_cons.mp h with rfl | h
        · exact ⟨[], c :: s, by simp, by simp, by simpa using hc⟩
        · exact (ih h).behind hc word.reverse
    · simpa using ih h

/-- The words of a text are its pieces without blanks that stand alone. -/
lemma mem_words_iff :
    w ∈ words s ↔ w ≠ [] ∧ (∀ c ∈ w, isBlank c = false) ∧ StandsAlone w s := by
  constructor
  · intro h
    obtain ⟨hne, hblank⟩ := mem_words h
    exact ⟨hne, hblank, by simpa using standsAlone_of_mem_wordsFrom h⟩
  · rintro ⟨hne, hblank, front, rest, rfl, hfront, hrest⟩
    have hrest : w ∈ words (w ++ rest) := by
      match rest with
      | [] => simp [words_of_not_blank hne hblank]
      | b :: rest =>
        rw [words_append_blank (hrest b rfl), words_of_not_blank hne hblank]
        simp
    rcases List.eq_nil_or_concat' front with rfl | ⟨front, b, rfl⟩
    · exact hrest
    · rw [List.append_assoc, List.singleton_append, words_append_blank (hfront b (by simp))]
      exact List.mem_append_right _ hrest

end Text

end JavaAtlas

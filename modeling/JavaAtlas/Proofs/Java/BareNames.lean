import JavaAtlas.Proofs.Java.Parameters

/-!
# Bare names

A bare name is made of characters that are kept, so reducing it again changes nothing. Where nothing
of a type is kept as a name its text is recorded, and this text is reduced to itself for another
reason: stripping it has not changed what is kept of it.
-/

namespace JavaAtlas

namespace Java

variable {c : Char} {s t name : List Char}

/-- A text without generic arguments, array marks, dots and blanks. -/
def IsBare (s : List Char) : Prop := ∀ c ∈ s, c ∉ ['<', '[', ']', '.'] ∧ isBlank c = false

/-- A type whose text keeps no name, or one that begins with a dot. -/
def IsNameless (t : List Char) : Prop := keptName t = [] ∨ (keptName t).head? = some '.'

/-! ### What is kept of a type -/

lemma keptName_eq_nil (h : ∀ c ∈ t, isBlank c = true) : keptName t = [] := by
  have hdropped : ∀ c ∈ t, isDropped c = true := fun c hc => by simp [isDropped, h c hc]
  rw [← List.append_nil t, keptName_append_of_dropped hdropped]
  rfl

/-- Blanks behind a type are not kept, whether or not they stand in its generic arguments. -/
lemma keptName_append_blanks (h : ∀ c ∈ s, isBlank c = true) (t : List Char) :
    keptName (t ++ s) = keptName t := by
  by_cases hopen : '<' ∈ t
  · obtain ⟨front, rest, rfl, hfront⟩ := List.eq_append_cons_of_mem hopen
    have hchars : ∀ c ∈ front, c ≠ '<' := fun c hc heq => hfront (heq ▸ hc)
    rw [List.append_assoc, keptName_append hchars, keptName_append hchars]
    simp [keptName]
  · have hchars : ∀ c ∈ t, c ≠ '<' := fun c hc heq => hopen (heq ▸ hc)
    have hnone : keptName s = keptName [] := keptName_eq_nil h
    rw [keptName_append hchars, hnone, ← keptName_append hchars, List.append_nil]

/-- Stripping a type does not change what is kept of it. -/
lemma keptName_strip (t : List Char) : keptName (Text.strip t) = keptName t := by
  obtain ⟨front, back, ht, hfront, hback⟩ := Text.exists_strip t
  have hdropped : ∀ c ∈ front, isDropped c = true := fun c hc => by simp [isDropped, hfront c hc]
  conv_rhs => rw [ht, keptName_append_of_dropped hdropped, keptName_append_blanks hback]

lemma isBare_firstSegment (t : List Char) : IsBare (firstSegment (keptName t)) := by
  intro c hc
  have hdot : c ≠ '.' := by simpa using List.mem_takeWhile_imp hc
  obtain ⟨hkept, hdropped⟩ := List.mem_filter.mp (List.takeWhile_subset _ hc)
  have hopen : c ≠ '<' := by simpa using List.mem_takeWhile_imp hkept
  simp only [isDropped, Bool.not_eq_true', Bool.or_eq_false_iff, beq_eq_false_iff_ne] at hdropped
  exact ⟨by simp [hdot, hopen, hdropped.1], hdropped.2⟩

lemma firstSegment_eq_nil_iff : firstSegment s = [] ↔ s = [] ∨ s.head? = some '.' := by
  match s with
  | [] => simp [firstSegment]
  | c :: s => by_cases hc : c = '.' <;> simp [firstSegment, hc]

/-- A type is recorded with its text if it keeps no name, and otherwise with the first segment. -/
lemma bareTypeName_cases (t : List Char) :
    (IsNameless t ∧ bareTypeName t = Text.strip t) ∨
      (¬ IsNameless t ∧ bareTypeName t = firstSegment (keptName t)) := by
  rw [bareTypeName_eq]
  by_cases h : IsNameless t
  · exact Or.inl ⟨h, if_pos (List.isEmpty_iff.mpr (firstSegment_eq_nil_iff.mpr h))⟩
  · refine Or.inr ⟨h, if_neg ?_⟩
    rw [List.isEmpty_iff]
    exact mt firstSegment_eq_nil_iff.mp h

/-! ### Reducing a name again -/

lemma keptName_of_isBare (h : IsBare s) : keptName s = s := by
  have htake : s.takeWhile (· != '<') = s := by
    apply List.takeWhile_eq_self_iff.mpr
    intro c hc
    have hc := (h c hc).1
    simp at hc
    simp [hc]
  rw [keptName, htake]
  apply List.filter_eq_self.mpr
  intro c hc
  obtain ⟨hmark, hblank⟩ := h c hc
  simp at hmark
  simp [isDropped, hmark, hblank]

/-- A bare name is its own bare name. -/
lemma bareTypeName_of_isBare (hne : s ≠ []) (h : IsBare s) : bareTypeName s = s := by
  have hdot : ∀ c ∈ s, c ≠ '.' := by
    intro c hc heq
    exact (h c hc).1 (by simp [heq])
  rw [bareTypeName_eq, keptName_of_isBare h, firstSegment_of_no_dot hdot,
    if_neg (by simpa using hne)]

lemma bareTypeName_eq_nil_iff : bareTypeName t = [] ↔ Text.allBlank t = true := by
  constructor
  · intro h
    apply Text.allBlank_iff.mpr
    intro c hc
    by_contra hblank
    exact bareTypeName_ne_nil hc (by simpa using hblank) h
  · intro h
    have hkept := keptName_eq_nil (Text.allBlank_iff.mp h)
    rw [bareTypeName_eq, hkept]
    simpa [firstSegment] using Text.strip_eq_nil h

lemma bareTypeName_idempotent (t : List Char) :
    bareTypeName (bareTypeName t) = bareTypeName t := by
  rcases bareTypeName_cases t with ⟨hnameless, heq⟩ | ⟨hnamed, heq⟩
  · -- the stripped text keeps what the text keeps, so it is nameless too
    have hstrip : IsNameless (Text.strip t) := by
      rw [IsNameless, keptName_strip]
      exact hnameless
    rcases bareTypeName_cases (Text.strip t) with ⟨-, hself⟩ | ⟨hnamed, -⟩
    · rw [heq, hself, Text.strip_strip]
    · exact absurd hstrip hnamed
  · rw [heq]
    apply bareTypeName_of_isBare _ (isBare_firstSegment t)
    exact mt firstSegment_eq_nil_iff.mp hnamed

/-- Reducing a type to its bare name twice is reducing it once. The name is empty only for a blank
text; it is without generic arguments, array marks, dots and blanks unless nothing of the type is
kept as a name, and then it is the text without the blanks around it. So the names in a list of types
are not empty and are their own bare names. -/
theorem bareTypeName_normal (t : List Char) :
    bareTypeName (bareTypeName t) = bareTypeName t ∧
    (bareTypeName t = [] ↔ Text.allBlank t = true) ∧
    (IsBare (bareTypeName t) ∧ ¬ IsNameless t ∨ bareTypeName t = Text.strip t ∧ IsNameless t) ∧
    ∀ name ∈ bareTypeNames t, name ≠ [] ∧ bareTypeName name = name := by
  refine ⟨bareTypeName_idempotent t, bareTypeName_eq_nil_iff, ?_, ?_⟩
  · rcases bareTypeName_cases t with ⟨hnameless, heq⟩ | ⟨hnamed, heq⟩
    · exact Or.inr ⟨heq, hnameless⟩
    · rw [heq]
      exact Or.inl ⟨isBare_firstSegment t, hnamed⟩
  · intro name hname
    obtain ⟨hmem, hne⟩ := List.mem_filter.mp hname
    obtain ⟨part, -, rfl⟩ := List.mem_map.mp hmem
    exact ⟨by simpa using hne, bareTypeName_idempotent _⟩

theorem bareTypeName_normal_list :
    bareTypeNames " .c d , a.B<C, D>[], ,".toList = [".c d".toList, "a".toList] ∧
      bareTypeName ".c d".toList = ".c d".toList ∧ bareTypeName "a".toList = "a".toList := by
  have hnames : bareTypeNames " .c d , a.B<C, D>[], ,".toList = [".c d".toList, "a".toList] := by
    decide
  obtain ⟨-, -, -, hall⟩ := bareTypeName_normal " .c d , a.B<C, D>[], ,".toList
  rw [hnames] at hall
  exact ⟨hnames, (hall _ (by simp)).2, (hall _ (by simp)).2⟩

end Java

end JavaAtlas

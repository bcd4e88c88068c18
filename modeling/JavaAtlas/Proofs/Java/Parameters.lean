import JavaAtlas.Proofs.Java.ReturnTypes

/-!
# Parameters of a list

A parameter list is cut into groups, and what is recorded is one parameter for each group that holds
more than blanks. A parameter is looked for anywhere in the words of its group, but its shape ends
where the group does, so a name that is recorded is the last word, and a type stands before it.
-/

namespace JavaAtlas

namespace Java

open Pattern

/-- The bare name of a type is not empty if its text is not blank. -/
lemma bareTypeName_ne_nil {c : Char} {t : List Char} (h : c ∈ t) (hc : isBlank c = false) :
    bareTypeName t ≠ [] := by
  rw [bareTypeName_eq]
  split
  · exact List.ne_nil_of_mem (Text.mem_strip h hc)
  · next hne => simpa using hne

/-! ### A parameter in its group -/

/-- A parameter that is found in a text stands at its end, but for blanks: a type and behind it, set
off by blanks, a name. -/
lemma exists_parameter_of_found {s : List Char} {m : Match ParameterPart}
    {stop : Cursor ParameterPart} (h : Found parameterShape s m stop) :
    ∃ front gap tail, s = front ++ (m.text .type ++ (gap ++ (m.text .name ++ tail))) ∧
      Covers (typeShape : Pattern ParameterPart) (m.text .type) ∧
      (gap ≠ [] ∧ ∀ c ∈ gap, isBlank c = true) ∧
      (m.text .name ≠ [] ∧ ∀ c ∈ m.text .name, isWordChar c = true) ∧
      ∀ c ∈ tail, isBlank c = true := by
  obtain ⟨front, place, h, hof⟩ := h.exists_leads
  obtain ⟨type, _, htype, r₁, h⟩ := h.seq_reads_part rfl
  obtain ⟨gap, _, hgap, r₂, h⟩ := h.seq_reads rfl
  obtain ⟨name, _, hname, r₃, h⟩ := h.seq_reads_part rfl
  obtain ⟨tail, _, htail, r₄, h⟩ := h.seq_reads rfl
  cases h with
  | textEnd hend =>
    have hreads := r₁.trans (r₂.trans (r₃.trans r₄))
    obtain ⟨hs, hm⟩ := hof _ _ hreads
    have hmtype : m.text .type = type := by
      rw [hm, Match.text_of hreads.inside]
      rfl
    have hmname : m.text .name = name := by
      rw [hm, Match.text_of hreads.inside]
      rfl
    rw [hmtype, hmname]
    rw [hend, List.append_nil] at hs
    exact ⟨front, gap, tail, hs, htype, covers_greedy1 hgap, covers_greedy1 hname,
      covers_blanks htail⟩

/-- What is recorded of a group in a parameter list: a type and, if it has a name, the last of its
words, which is not its only one. -/
structure RecordedOf (group : List Char) (p : Parameter String) : Prop where
  type_ne : p.type ≠ ""
  name : p.name = "" ∨ ∃ front, front ≠ [] ∧ Text.words group = front ++ [p.name.toList] ∧
    ∀ c ∈ p.name.toList, isWordChar c = true

/-- In the words of a text, joined by blanks, a parameter that is found has the last word as its
name, and words before it. -/
lemma exists_words_of_found {ws : List (List Char)} {m : Match ParameterPart}
    {stop : Cursor ParameterPart} (hws : ∀ w ∈ ws, w ≠ [] ∧ ∀ c ∈ w, isBlank c = false)
    (h : Found parameterShape ([' '].intercalate ws) m stop) :
    bareTypeName (m.text .type) ≠ [] ∧ (∀ c ∈ m.text .name, isWordChar c = true) ∧
      ∃ front, front ≠ [] ∧ ws = front ++ [m.text .name] := by
  obtain ⟨front, gap, tail, heq, htype, ⟨hgap, hblank⟩, ⟨hname, hword⟩, htail⟩ :=
    exists_parameter_of_found h
  obtain ⟨name, rest, hsplit, hne, hchars, -, -⟩ := exists_of_covers_typeShape htype
  obtain ⟨c, hc⟩ := List.exists_mem_of_ne_nil name hne
  have hmem : c ∈ m.text .type := by
    rw [hsplit]
    exact List.mem_append_left _ hc
  have hcblank := not_isBlank_typeChar (hchars c hc)
  refine ⟨bareTypeName_ne_nil hmem hcblank, hword, Text.words (front ++ m.text .type), ?_, ?_⟩
  · rw [Ne, Text.words_eq_nil_iff, Text.allBlank, List.all_eq_true]
    intro hall
    rw [hall c (List.mem_append_right _ hmem)] at hcblank
    cases hcblank
  · have hnot : ∀ c ∈ m.text .name, isBlank c = false := fun c hc =>
      not_isBlank_typeChar (by simp [isTypeChar, hword c hc])
    -- of the blanks in front of the name, the last one sets it off
    obtain ⟨gap, b, rfl⟩ := (List.eq_nil_or_concat' gap).resolve_left hgap
    have hgap : Text.allBlank gap = true :=
      List.all_eq_true.mpr fun c hc => hblank c (List.mem_append_left _ hc)
    have hb : isBlank b = true := hblank b (by simp)
    calc ws
      _ = Text.words ([' '].intercalate ws) := (Text.words_intercalate hws).symm
      _ = Text.words (front ++ m.text .type ++ gap ++ b :: (m.text .name ++ tail)) := by
        rw [heq]
        simp
      _ = Text.words (front ++ m.text .type) ++ [m.text .name] := by
        rw [Text.words_append_blank hb, Text.words_append_blanks hgap,
          Text.words_append_blanks (List.all_eq_true.mpr htail),
          Text.words_of_not_blank hname hnot]

/-- A group that is not blank is recorded as one parameter. -/
lemma recordedOf_parameterOf {group : List Char} (h : Text.allBlank group = false) :
    RecordedOf group (parameterOf (Text.words group)) := by
  have hws : ∀ w ∈ Text.words group, w ≠ [] ∧ ∀ c ∈ w, isBlank c = false :=
    fun _ => Text.mem_words
  have hne : Text.words group ≠ [] := by
    rw [Ne, Text.words_eq_nil_iff, h]
    exact Bool.false_ne_true
  have htext : ∀ {t : List Char}, t ≠ [] → String.ofList t ≠ "" := by
    intro t ht hnil
    exact ht (String.ofList_injective hnil)
  rw [parameterOf]
  split
  · next m hfind =>
    obtain ⟨stop, hfound⟩ := found_of_find? hfind
    obtain ⟨htype, hword, front, hfront, hlast⟩ := exists_words_of_found hws hfound
    refine ⟨htext htype, Or.inr ⟨front, hfront, ?_, ?_⟩⟩
    · rw [String.toList_ofList]
      exact hlast
    · rw [String.toList_ofList]
      exact hword
  · obtain ⟨w, ws, hcons⟩ := List.exists_cons_of_ne_nil hne
    obtain ⟨hw, hnot⟩ := hws w (hcons ▸ List.mem_cons_self)
    obtain ⟨c, hc⟩ := List.exists_mem_of_ne_nil w hw
    refine ⟨htext ?_, Or.inl rfl⟩
    rw [hcons, List.headD_cons]
    exact bareTypeName_ne_nil hc (hnot c hc)

lemma parametersOf_eq (text : List Char) :
    parametersOf text = ((splitTopLevel [','] text).filter (!Text.allBlank ·)).map
      fun group => parameterOf (Text.words group) := by
  have hblank : ∀ group : List Char, (Text.words group).isEmpty = Text.allBlank group := by
    intro group
    rw [Bool.eq_iff_iff, List.isEmpty_iff, Text.words_eq_nil_iff]
  rw [parametersOf, List.filter_map, List.map_map]
  simp only [Function.comp_def, hblank]

/-- Of a parameter list, one parameter is recorded for each group that is not blank, in their order.
Its type is never empty, and its name is either empty or the last of at least two words of the
group, and made of word characters. -/
theorem one_parameter_per_group (text : List Char) :
    List.Forall₂ RecordedOf ((splitTopLevel [','] text).filter (!Text.allBlank ·))
      (parametersOf text) := by
  rw [parametersOf_eq, List.forall₂_map_right_iff, List.forall₂_same]
  intro group hgroup
  refine recordedOf_parameterOf ?_
  simpa using (List.mem_filter.mp hgroup).2

example : parametersOf "final Map<K, V> m, int[] b[], ,".toList = [⟨"m", "Map"⟩, ⟨"", "int"⟩] := by
  decide +kernel

end Java

end JavaAtlas

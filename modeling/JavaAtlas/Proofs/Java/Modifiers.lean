import JavaAtlas.Proofs.Java.TypeText
import JavaAtlas.Proofs.Text.Words

/-!
# Modifiers in front of a declaration

Modifiers that are written one after the other are taken as such, up to the type or the keyword
behind them, and those of the vocabulary that are written are those that are recorded.
-/

namespace JavaAtlas

namespace Java

open Pattern

variable {κ : Type} {size : Nat} {good : List Char → Prop} {r : List Char}

/-! ### Taking keywords -/

lemma within_keywords {cls : Char → Prop} {words : List String}
    (hblank : ∀ c, isBlank c = true → cls c) (h : ∀ w ∈ words, ∀ c ∈ w.toList, cls c) :
    Within cls (keywords words : Pattern κ) :=
  ⟨within_oneOf h, hblank, hblank⟩

lemma takes_oneOf {words : List String} {w : String} (hw : w ∈ words)
    (h : ∀ v ∈ words, v.toList <+: w.toList ++ r → v = w) :
    Takes size (oneOf words : Pattern κ) good w.toList r [] := by
  induction words with
  | nil => cases hw
  | cons v words ih =>
    match words, ih with
    | [], _ =>
      obtain rfl := List.mem_singleton.mp hw
      exact takes_text w
    | u :: words, ih =>
      by_cases hv : v = w
      · subst hv
        exact (takes_text v).first
      · have hw' : w ∈ u :: words := (List.mem_cons.mp hw).resolve_left (Ne.symm hv)
        refine .second ?_ (ih hw' fun x hx => h x (List.mem_cons_of_mem _ hx))
        intro cur next hcur hleads _
        refine hv (h v List.mem_cons_self ⟨next.rest, ?_⟩)
        rw [← hleads.text, hcur]

lemma length_le_length_flatMap {α : Type} {f : α → List Char} (hf : ∀ x, f x ≠ []) (xs : List α) :
    xs.length ≤ (xs.flatMap f).length := by
  induction xs with
  | nil => simp
  | cons x xs ih =>
    have hpos := List.length_pos_iff.mpr (hf x)
    simp only [List.flatMap_cons, List.length_append, List.length_cons]
    omega

lemma length_le_length_spaced (written : List String) : written.length ≤ (spaced written).length :=
  length_le_length_flatMap (by simp) written

/-- Words that begin like identifiers and can be told apart by what they begin with, without blanks
and brackets. -/
structure IsVocabulary (words : List String) : Prop where
  first : ∀ w ∈ words, ∃ c ∈ w.toList.head?, isIdentifierChar c = true
  chars : ∀ w ∈ words, ∀ c ∈ w.toList, isBlank c = false ∧ c ∉ ['<', '[', ' ']
  free : ∀ v ∈ words, ∀ w ∈ words, v.toList <+: w.toList → v = w

lemma isVocabulary_typeModifiers : IsVocabulary typeModifiers :=
  ⟨by decide, by decide, by decide⟩

lemma isVocabulary_visibilities : IsVocabulary visibilities :=
  ⟨by decide, by decide, by decide⟩

lemma isVocabulary_fieldModifiers : IsVocabulary fieldModifiers :=
  ⟨by decide, by decide, by decide⟩

lemma isVocabulary_methodModifiers : IsVocabulary methodModifiers :=
  ⟨by decide, by decide, by decide⟩

lemma IsVocabulary.head? {words : List String} (h : IsVocabulary words) {w : String}
    (hw : w ∈ words) (s : List Char) : ∀ c ∈ (w.toList ++ s).head?, isIdentifierChar c = true := by
  obtain ⟨c, hc, hchar⟩ := h.first w hw
  rw [Option.mem_def] at hc
  simpa [List.head?_append, hc] using hchar

lemma IsVocabulary.eq_of_prefix {words : List String} (h : IsVocabulary words) {v w : String}
    (hv : v ∈ words) (hw : w ∈ words) (hbegins : v.toList <+: w.toList ++ r) : v = w := by
  rcases List.prefix_or_prefix_of_prefix hbegins (List.prefix_append w.toList r) with hvw | hwv
  · exact h.free v hv w hw hvw
  · exact (h.free w hw v hv hwv).symm

/-- No keyword stands at the name of something else. -/
lemma IsVocabulary.balks {words : List String} (hwords : IsVocabulary words) {name : String}
    {x : Char} (hname : name ∉ words) (hchars : ∀ c ∈ name.toList, isBlank c = false)
    (hx : x ∈ ['<', '[', ' ']) :
    Balks (.seq (oneOf words) blanks1 : Pattern κ) good (name.toList ++ x :: r) := by
  intro cur next hcur hleads _
  cases hleads with
  | seq hone hblanks =>
    obtain ⟨w, hw, hrest⟩ := hone.oneOf
    obtain ⟨taken, hne, hall, htaken⟩ := hblanks.greedy1
    obtain ⟨b, taken, rfl⟩ := List.exists_cons_of_ne_nil hne
    have hb := hall b List.mem_cons_self
    rw [hcur, htaken] at hrest
    rcases List.append_eq_append_iff.mp hrest with ⟨a, hword, ha⟩ | ⟨a, hname', ha⟩
    · match a with
      | [] =>
        rw [List.append_nil] at hword
        exact hname (String.toList_injective hword ▸ hw)
      | c :: a =>
        cases ha
        exact (hwords.chars w hw x (by simp [hword])).2 hx
    · match a with
      | [] =>
        rw [List.append_nil] at hname'
        exact hname (String.toList_injective hname' ▸ hw)
      | c :: a =>
        obtain ⟨rfl, -⟩ := List.cons.inj ha
        rw [hchars _ (by simp [hname'])] at hb
        cases hb

/-- Keywords are taken up to something that is not one of them. -/
lemma IsVocabulary.takes {words written : List String} (hwords : IsVocabulary words)
    (hwritten : ∀ w ∈ written, w ∈ words) (hsize : written.length ≤ size)
    (hstop : Balks (.seq (oneOf words) blanks1 : Pattern κ) anything r)
    (hr : ∀ c ∈ r.head?, isBlank c = false) :
    Takes size (keywords words : Pattern κ) good (spaced written) r [] := by
  have hflatten : spaced written = (written.map fun w => w.toList ++ [' ']).flatten := by
    rw [spaced, List.flatMap]
  rw [hflatten]
  refine takes_many (by simpa using hsize) ?_ hstop
  intro s rest hs
  have hround : ∀ t ∈ s :: rest, ∃ w ∈ words, w.toList ++ [' '] = t := by
    intro t ht
    obtain ⟨w, hw, rfl⟩ := List.mem_map.mp (hs.subset ht)
    exact ⟨w, hwritten w hw, rfl⟩
  obtain ⟨w, hw, rfl⟩ := hround s List.mem_cons_self
  refine ⟨by simp, ?_⟩
  have hnext : ∀ c ∈ (rest.flatten ++ r).head?, isBlank c = false := by
    match rest with
    | [] => simpa using hr
    | t :: rest =>
      obtain ⟨v, hv, rfl⟩ := hround t (by simp)
      intro c hc
      rw [List.flatten_cons, List.append_assoc, List.append_assoc] at hc
      exact not_isBlank_identifierChar (hwords.head? hv _ c hc)
  exact (takes_oneOf hw fun v hv hbegins => hwords.eq_of_prefix hv hw hbegins).seq
    (takes_greedy1 (by simp) (by decide) hnext)

lemma IsVocabulary.head?_spaced {words written : List String} {t : List Char}
    (hwords : IsVocabulary words) (hwritten : ∀ w ∈ written, w ∈ words)
    (ht : ∀ c ∈ t.head?, isIdentifierChar c = true) :
    ∀ c ∈ (spaced written ++ t).head?, isIdentifierChar c = true := by
  match written with
  | [] => exact ht
  | w :: written =>
    rw [spaced, List.flatMap_cons, List.append_assoc, List.append_assoc]
    exact hwords.head? (hwritten w List.mem_cons_self) _

/-- No keyword stands at a type, unless it is a primitive one. -/
lemma IsVocabulary.balks_type {words : List String} (hwords : IsVocabulary words) (t : TypeRef)
    (h : ∀ w ∈ words, w ∈ reservedWords ++ contextualWords ∧ w ∉ primitiveTypes) :
    Balks (.seq (oneOf words) blanks1 : Pattern κ) good (t.text ++ ' ' :: r) := by
  obtain ⟨c, hc, s, hs⟩ := t.exists_behind_head r
  rw [hs]
  refine hwords.balks (t.headName_not_mem h) ?_ hc
  exact fun d hd => not_isBlank_identifierChar (t.isName_headName.chars d hd)

/-! ### Recorded modifiers -/

/-- A text of word characters, not empty. -/
def IsWholeWord (s : List Char) : Prop := s ≠ [] ∧ ∀ c ∈ s, isWordChar c = true

lemma IsWholeWord.head? {s : List Char} (h : IsWholeWord s) (t : List Char) :
    (s ++ t).head?.any isWordChar = true := by
  obtain ⟨c, s, rfl⟩ := List.exists_cons_of_ne_nil h.1
  simpa using h.2 c List.mem_cons_self

lemma IsWholeWord.getLast? {s : List Char} (h : IsWholeWord s) (c : Option Char) :
    (s.getLast?.or c).any isWordChar = true := by
  obtain ⟨d, hd⟩ : ∃ d, s.getLast? = some d :=
    Option.isSome_iff_exists.mp (by simpa using h.1)
  simpa [hd] using h.2 d (List.mem_of_mem_getLast? hd)

/-- A whole word is found where it stands between other characters. -/
lemma isSome_matchHere?_wholeWord {done : List Char} {w : String} {cur : Cursor Empty}
    (hw : IsWholeWord w.toList) (hdone : done.getLast?.any isWordChar = false)
    (hr : r.head?.any isWordChar = false) (hcur : cur.At done (w.toList ++ r)) :
    ((wholeWord w).matchHere? size cur).isSome := by
  have hbefore : cur.atWordEdge = true := by
    simp only [Cursor.atWordEdge, hcur.before, hcur.rest, hdone, hw.head? r]
    rfl
  have hafter : (cur.fresh.past w.toList []).atWordEdge = true := by
    simp only [Cursor.atWordEdge, Cursor.past, hw.getLast?, hcur.fresh.rest, List.drop_left, hr]
    rfl
  have hrun : run size (.seq (text w) .wordEdge) some cur.fresh =
      some (cur.fresh.past w.toList []) := by
    rw [run]
    refine (takes_text w).answer _ _ _ hcur.fresh.rest (wants_anything _) ?_
    rw [run, if_pos hafter]
  rw [wholeWord, matchHere?_wordEdge, if_pos hbefore]
  exact Option.isSome_of_eq_some hrun

lemma misses_wholeWord {done : List Char} {w : String} (hw : IsWholeWord w.toList)
    (h : ∀ t, r = w.toList ++ t → done.getLast?.any isWordChar = false →
      t.head?.any isWordChar = false → False) : Misses size (wholeWord w) done r := by
  intro cur hcur
  rw [wholeWord, matchHere?_wordEdge]
  refine Option.eq_none_iff_forall_ne_some.mpr fun stop hstop => ?_
  split at hstop
  · next hbefore =>
    obtain ⟨next, hleads, -⟩ := leads_of_run hstop
    cases hleads with
    | seq htext hafter => cases hafter with
      | wordEdge hafter =>
        have hrest : r = w.toList ++ next.rest := hcur.rest ▸ htext.text
        have hnext := htext.past_of_text
        refine h next.rest hrest ?_ ?_
        · rw [Cursor.atWordEdge, hcur.before, hcur.rest, hrest, hw.head?] at hbefore
          simpa using hbefore
        · have hbefore' : next.before.any isWordChar = true := by
            rw [hnext]
            exact hw.getLast? _
          simpa [Cursor.atWordEdge, hbefore'] using hafter
  · cases hstop

/-- A whole word occurs in a text where it stands between other characters. -/
lemma occursIn_wholeWord_iff {s : List Char} {w : String} (hw : IsWholeWord w.toList) :
    (wholeWord w).occursIn s = true ↔ ∃ front rest, s = front ++ (w.toList ++ rest) ∧
      front.getLast?.any isWordChar = false ∧ rest.head?.any isWordChar = false := by
  have hcur : (Cursor.ofText s : Cursor Empty).At [] s := Cursor.at_ofText rfl
  rw [occursIn, find?, Option.isSome_map]
  constructor
  · intro hsome
    by_contra hnone
    have hmiss : ∀ a t, s = a ++ t → Misses s.length (wholeWord w) a t := by
      intro a t hat
      apply misses_wholeWord hw
      intro rest ht ha hrest
      exact hnone ⟨a, rest, ht ▸ hat, ha, hrest⟩
    rw [findFrom?_none hcur (fun a t hat _ => by simpa using hmiss a t hat)
      (by simpa using hmiss _ [] (by simp))] at hsome
    cases hsome
  · rintro ⟨front, rest, rfl, hfront, hrest⟩
    exact isSome_findFrom? hcur fun cur hcur => isSome_matchHere?_wholeWord hw hfront hrest hcur

/-! ### Texts of words -/

/-- A text of word characters and the blanks that separate words. -/
def IsWordText (s : List Char) : Prop := ∀ c ∈ s, isWordChar c = true ∨ isBlank c = true

/-- In a text of words, what is no part of a word is blank. -/
lemma IsWordText.any_eq_false_iff {s : List Char} (h : IsWordText s) {o : Option Char}
    (ho : ∀ c ∈ o, c ∈ s) : o.any isWordChar = false ↔ ∀ c ∈ o, isBlank c = true := by
  match o with
  | none => simp
  | some c =>
    have hc := h c (ho c rfl)
    constructor
    · intro hnot d hd
      cases hd
      exact hc.resolve_left (by simpa using hnot)
    · intro hblank
      by_contra hword
      have hnot := Text.not_isBlank_wordChar (c := c) (by simpa using hword)
      rw [hblank c rfl] at hnot
      cases hnot

/-- What occurs as a whole word in a text of words is one of them. -/
lemma IsWordText.occursIn_iff {s : List Char} (h : IsWordText s) {w : String}
    (hw : IsWholeWord w.toList) : (wholeWord w).occursIn s = true ↔ w.toList ∈ Text.words s := by
  have hblank : ∀ c ∈ w.toList, isBlank c = false := fun c hc => Text.not_isBlank_wordChar (hw.2 c hc)
  rw [occursIn_wholeWord_iff hw, Text.mem_words_iff, and_iff_right hw.1, and_iff_right hblank]
  apply exists_congr
  intro front
  apply exists_congr
  intro rest
  apply and_congr_right
  rintro rfl
  apply and_congr
  · apply h.any_eq_false_iff
    intro c hc
    exact List.mem_append_left _ (List.mem_of_mem_getLast? hc)
  · apply h.any_eq_false_iff
    intro c hc
    exact List.mem_append_right _ (List.mem_append_right _ (List.mem_of_mem_head? hc))

lemma isWholeWord_of_mem_modifierVocabulary :
    ∀ w ∈ modifierVocabulary, IsWholeWord w.toList := by
  unfold IsWholeWord
  decide

/-- The modifiers that are recorded are the words of the text that are in the vocabulary. -/
lemma modifiersIn_of_isWordText {s : List Char} (h : IsWordText s) :
    modifiersIn s = modifierVocabulary.filter fun w => w.toList ∈ Text.words s := by
  apply List.filter_congr
  intro w hw
  have hwhole := isWholeWord_of_mem_modifierVocabulary w hw
  rw [Bool.eq_iff_iff, h.occursIn_iff hwhole, decide_eq_true_iff]

lemma words_spaced {written : List String} (h : ∀ v ∈ written, IsWholeWord v.toList) :
    Text.words (spaced written) = written.map String.toList := by
  induction written with
  | nil => rfl
  | cons v written ih =>
    obtain ⟨hv, hwritten⟩ := List.forall_mem_cons.mp h
    have hblank : ∀ c ∈ v.toList, isBlank c = false :=
      fun c hc => Text.not_isBlank_wordChar (hv.2 c hc)
    have hcons : spaced (v :: written) = v.toList ++ ' ' :: spaced written := by simp [spaced]
    rw [hcons, Text.words_append_blank (by decide), Text.words_of_not_blank hv.1 hblank,
      ih hwritten]
    rfl

lemma isWordText_spaced {written : List String} (h : ∀ v ∈ written, IsWholeWord v.toList) :
    IsWordText (spaced written) := by
  intro c hc
  obtain ⟨v, hv, hc⟩ := List.mem_flatMap.mp hc
  rcases List.mem_append.mp hc with hc | hc
  · exact Or.inl ((h v hv).2 c hc)
  · rw [List.mem_singleton.mp hc]
    exact Or.inr (by decide)

/-- The modifiers that are recorded are those of the vocabulary that are written. -/
lemma modifiersIn_spaced {written : List String} (h : ∀ v ∈ written, IsWholeWord v.toList) :
    modifiersIn (spaced written) = recordedModifiers written := by
  rw [modifiersIn_of_isWordText (isWordText_spaced h), words_spaced h]
  apply List.filter_congr
  intro w _
  have hinj : Function.Injective String.toList := fun _ _ => String.toList_injective
  rw [Bool.eq_iff_iff, decide_eq_true_iff, List.mem_map_of_injective hinj, List.contains_iff_mem]

end Java

end JavaAtlas

import JavaAtlas.Proofs.Java.Header

/-!
# The fields of a skeleton

Everything in a written skeleton that has the shape of a field is one of its fields: a match of
that shape crosses no bracket and no end of a declaration, so it lies inside of one line, and the
other lines have a bracket where a field would end.
-/

namespace JavaAtlas

namespace Java

open Pattern

variable {κ : Type} {size : Nat} {good : List Char → Prop} {done r : List Char}

/-! ### Where a field can be -/

/-- Characters that stand neither in a field before its end nor in a method before its
parameters. -/
def barriers : List Char := ['(', ')', '\x7b', '\x7d', ';', '=']

lemma not_mem_of_holds {holds : Char → Bool} {cs : List Char} (h : ∀ d ∈ cs, holds d = false) :
    ∀ c, holds c = true → c ∉ cs := by
  intro c hc hmem
  rw [h c hmem] at hc
  cases hc

lemma isBlank_not_mem_barriers : ∀ c, isBlank c = true → c ∉ barriers :=
  not_mem_of_holds (by decide)

lemma within_word : Within (· ∉ barriers) (word : Pattern κ) := by
  have hword : ∀ c, isWordChar c = true → c ∉ barriers := not_mem_of_holds (by decide)
  exact ⟨hword, hword⟩

lemma within_typeShape : Within (· ∉ barriers) (typeShape : Pattern κ) := by
  have htype : ∀ c, isTypeChar c = true → c ∉ barriers := not_mem_of_holds (by decide)
  rw [typeShape_eq]
  refine ⟨⟨htype, htype⟩, ⟨⟨isBlank_not_mem_barriers, within_char (by decide),
    not_mem_of_holds (by decide), within_char (by decide)⟩, trivial⟩,
    ⟨isBlank_not_mem_barriers, within_char (by decide), isBlank_not_mem_barriers,
      within_char (by decide)⟩, within_text (by decide), trivial⟩

lemma countP_blanks_pos {taken : List Char} (hne : taken ≠ [])
    (h : ∀ c ∈ taken, isBlank c = true) : 0 < taken.countP isBlank := by
  obtain ⟨c, taken, rfl⟩ := List.exists_cons_of_ne_nil hne
  exact List.countP_pos_iff.mpr ⟨c, List.mem_cons_self, h c List.mem_cons_self⟩

/-- What the shape of a field covers: a visibility first, two blanks at least, and no bracket and
no end of a declaration before its own. -/
lemma covers_fieldShape {taken : List Char} (h : Covers fieldShape taken) :
    ∃ w c, taken = w ++ [c] ∧ (c = '=' ∨ c = ';') ∧ (∀ d ∈ w, d ∉ barriers) ∧
      w.head? = some 'p' ∧ 2 ≤ w.countP isBlank := by
  obtain ⟨edge, s₁, rfl, hedge, h₁⟩ := h.seq
  obtain ⟨modifiers, s₂, rfl, hmodifiers, h₂⟩ := h₁.seq
  obtain ⟨type, s₃, rfl, htype, h₃⟩ := h₂.seq
  obtain ⟨gap', s₄, rfl, hgap', h₄⟩ := h₃.seq
  obtain ⟨name, s₅, rfl, hname, h₅⟩ := h₄.seq
  obtain ⟨more, stop, rfl, hmore, hstop⟩ := h₅.seq
  obtain ⟨visibility, t, rfl, hvisibility, ht⟩ := hmodifiers.part.seq
  obtain ⟨gap, keys, rfl, hgap, hkeys⟩ := ht.seq
  obtain rfl := hedge.wordEdge
  obtain ⟨v, hv, rfl⟩ := hvisibility.oneOf
  obtain ⟨hgapNe, hgapAll⟩ := covers_greedy1 hgap
  obtain ⟨hgapNe', hgapAll'⟩ := covers_greedy1 hgap'
  have hvis : ∀ v ∈ visibilities, v.toList.head? = some 'p' ∧ ∀ c ∈ v.toList, c ∉ barriers := by
    decide
  obtain ⟨c, rfl, hc⟩ : ∃ c, stop = [c] ∧ (c = '=' ∨ c = ';') := by
    rcases hstop.either with hstop | hstop
    · exact ⟨_, hstop.char, Or.inl rfl⟩
    · exact ⟨_, hstop.char, Or.inr rfl⟩
  refine ⟨v.toList ++ (gap ++ (keys ++ (type ++ (gap' ++ (name ++ more))))), c, by simp, hc,
    ?_, ?_, ?_⟩
  · intro d hd
    simp only [List.mem_append] at hd
    rcases hd with hd | hd | hd | hd | hd | hd | hd
    · exact (hvis v hv).2 d hd
    · exact isBlank_not_mem_barriers d (hgapAll d hd)
    · exact hkeys.within (within_keywords isBlank_not_mem_barriers (by decide)) d hd
    · exact htype.part.within within_typeShape d hd
    · exact isBlank_not_mem_barriers d (hgapAll' d hd)
    · exact hname.part.within within_word d hd
    · exact hmore.within isBlank_not_mem_barriers d hd
  · rw [List.head?_append, (hvis v hv).1]
    rfl
  · have h1 := countP_blanks_pos hgapNe hgapAll
    have h2 := countP_blanks_pos hgapNe' hgapAll'
    simp only [List.countP_append]
    omega

/-- No field begins where a bracket comes before the end of a declaration. -/
lemma balks_fieldShape_bracket {u : List Char} {b : Char} (hu : '=' ∉ u ∧ ';' ∉ u)
    (hb : b ∈ ['(', ')', '\x7b', '\x7d']) : Balks fieldShape good (u ++ b :: r) := by
  intro cur next hcur hleads _
  obtain ⟨taken, hcovers, hrest⟩ := hleads.exists_covers
  obtain ⟨w, c, rfl, hc, hbarriers, -, -⟩ := covers_fieldShape hcovers
  rw [hcur, List.append_assoc] at hrest
  have hcu : c ∉ u ∧ c ≠ b := by
    rcases hc with rfl | rfl
    · exact ⟨hu.1, by rintro rfl; exact absurd hb (by decide)⟩
    · exact ⟨hu.2, by rintro rfl; exact absurd hb (by decide)⟩
  rcases eq_or_mem_of_append_eq hrest.symm hcu.1 with ⟨-, h⟩ | h
  · exact hcu.2 h
  · have hall : ∀ b ∈ ['(', ')', '\x7b', '\x7d'], b ∈ barriers := by decide
    exact hbarriers b h (hall b hb)

/-- A field begins with the first letter of a visibility. -/
lemma balks_fieldShape_first {s : List Char} (hs : ∀ c ∈ s.head?, c ≠ 'p') :
    Balks fieldShape good s := by
  intro cur next hcur hleads _
  obtain ⟨taken, hcovers, hrest⟩ := hleads.exists_covers
  obtain ⟨w, c, rfl, -, -, hfirst, -⟩ := covers_fieldShape hcovers
  refine hs 'p' ?_ rfl
  rw [← hcur, hrest, List.head?_append, List.head?_append, hfirst]
  rfl

/-- No field lies in a declaration with one blank at most. -/
lemma balks_fieldShape_blank {u : List Char} (hu : '=' ∉ u ∧ ';' ∉ u)
    (hblanks : u.countP isBlank < 2) : Balks fieldShape good (u ++ ';' :: r) := by
  intro cur next hcur hleads _
  obtain ⟨taken, hcovers, hrest⟩ := hleads.exists_covers
  obtain ⟨w, c, rfl, hc, hbarriers, -, hcount⟩ := covers_fieldShape hcovers
  rw [hcur, List.append_assoc] at hrest
  have hcu : c ∉ u := by rcases hc with rfl | rfl <;> simp [hu]
  rcases eq_or_mem_of_append_eq hrest.symm hcu with ⟨rfl, -⟩ | h
  · omega
  · exact hbarriers _ h (by decide)

/-! ### Texts on one line -/

/-- Brackets and ends of declarations, and what begins an annotation or a line. -/
def lineMarks : List Char := ['=', ';', '(', ')', '\x7b', '\x7d', '@', '\n']

/-- A text without such marks. -/
def IsInline (s : List Char) : Prop := ∀ c ∈ s, c ∉ lineMarks

lemma IsInline.append {s t : List Char} (hs : IsInline s) (ht : IsInline t) : IsInline (s ++ t) :=
  fun c hc => (List.mem_append.mp hc).elim (hs c) (ht c)

lemma IsInline.space {s : List Char} (hs : IsInline s) : IsInline (' ' :: s) := by
  intro c hc
  rcases List.mem_cons.mp hc with rfl | hc
  · decide
  · exact hs c hc

lemma identifierChar_inline {c : Char} (h : isIdentifierChar c = true) : c ∉ lineMarks :=
  not_mem_of_holds (by decide) c h

lemma IsName.isInline {s : List Char} (h : IsName s) : IsInline s :=
  fun c hc => identifierChar_inline (h.chars c hc)

lemma IsTypeText.isInline {s : List Char} (h : IsTypeText s) : IsInline s := by
  have hall : ∀ c ∈ ['<', '>', '[', ']', ',', ' '], c ∉ lineMarks := by decide
  intro c hc
  rcases h.chars c hc with h | h
  · exact identifierChar_inline h
  · exact hall c h

lemma isInline_spaced {written : List String} (h : ∀ w ∈ written, IsInline w.toList) :
    IsInline (spaced written) := by
  intro c hc
  obtain ⟨w, hw, hc⟩ := List.mem_flatMap.mp hc
  exact (h w hw).append (IsInline.space (s := []) (by simp [IsInline])) c hc

namespace Skeleton

lemma isInline_clause {word : String} (hword : IsInline word.toList) (ts : List TypeRef) :
    IsInline (clause word ts) := by
  rw [clause]
  split
  · simp [IsInline]
  · next hts =>
    have htypes : IsTypeText (commaSeparated (TypeRef.texts ts)) :=
      TypeRef.isTypeText_texts (by simpa [TypeRef.texts_eq_map] using hts)
    exact hword.append (IsInline.space (htypes.isInline.append (IsInline.space (by simp [IsInline]))))

/-- The header of a skeleton without the brace that ends it. -/
lemma exists_headerText (u : Skeleton) : ∃ s, u.headerText = s ++ ['\x7b'] ∧ IsInline s := by
  have hmodifiers : IsInline (spaced (u.modifiers.map (·.val))) := by
    refine isInline_spaced fun w hw => ?_
    obtain ⟨m, -, rfl⟩ := List.mem_map.mp hw
    have hall : ∀ w ∈ typeModifiers, ∀ c ∈ w.toList, c ∉ lineMarks := by decide
    exact hall m.val m.property
  have hkind : IsInline u.kind.keyword.toList := by
    have hall : ∀ kind ∈ TypeKind.all, ∀ c ∈ kind.keyword.toList, c ∉ lineMarks := by decide
    exact hall u.kind (by cases u.kind <;> decide)
  have hclauses : IsInline (clause "extends" u.extended ++ clause "implements" u.implemented) :=
    (isInline_clause (by unfold IsInline; decide) _).append
      (isInline_clause (by unfold IsInline; decide) _)
  refine ⟨spaced (u.modifiers.map (·.val)) ++ (u.kind.keyword.toList ++ (' ' ::
    (u.name.text.toList ++ (' ' :: (clause "extends" u.extended ++
      clause "implements" u.implemented))))), by simp [headerText, clausesText], ?_⟩
  exact hmodifiers.append (hkind.append (IsInline.space (u.name.isName.isInline.append
    hclauses.space)))

end Skeleton

/-! ### Passing over other text -/

/-- No field begins in a text that ends in a bracket. -/
lemma passes_fieldShape_bracket {u : List Char} {b : Char} (hu : '=' ∉ u ∧ ';' ∉ u)
    (hb : b ∈ ['(', ')', '\x7b', '\x7d']) : Passes size fieldShape done (u ++ [b]) r := by
  refine passes_of_balks fun t ht hne => ?_
  obtain ⟨v, rfl, hv⟩ := (List.suffix_concat_iff.mp ht).resolve_left hne
  rw [List.append_assoc]
  exact balks_fieldShape_bracket ⟨fun h => hu.1 (hv.subset h), fun h => hu.2 (hv.subset h)⟩ hb

lemma passes_fieldShape_first {gap : List Char} (h : 'p' ∉ gap) :
    Passes size fieldShape done gap r := by
  refine passes_of_balks fun t ht hne => balks_fieldShape_first ?_
  rintro c hc rfl
  rw [List.head?_append_of_ne_nil _ hne] at hc
  exact h (ht.subset (List.mem_of_mem_head? hc))

lemma not_mem_newLine {indent : Nat} {c : Char} (hspace : c ≠ ' ') (hline : c ≠ '\n') :
    c ∉ Skeleton.newLine indent := by
  intro hmem
  rcases List.mem_cons.mp hmem with h | h
  · exact hline h
  · exact hspace (List.eq_of_mem_replicate h)

namespace Skeleton

/-- No field begins in front of the first member. -/
lemma passes_fieldShape_header (u : Skeleton) : Passes size fieldShape []
    (u.packageText ++ ('\n' :: '\n' :: u.headerText)) r := by
  refine Passes.append ?_ ?_
  · -- the line of the package has one blank only
    refine passes_of_balks fun t ht hne => ?_
    have hpackage : u.packageText = spaced ["package"] ++ u.packageName ++ [';'] := by
      rw [packageText, List.append_assoc]
    rw [hpackage] at ht
    obtain ⟨v, rfl, hv⟩ := (List.suffix_concat_iff.mp ht).resolve_left hne
    have hname : ∀ c ∈ u.packageName, isBlank c = false ∧ c ≠ '=' ∧ c ≠ ';' := by
      intro c hc
      rcases u.packageName_chars c hc with h | rfl
      · exact ⟨not_isBlank_identifierChar h, identifierChar_ne h (by decide),
          identifierChar_ne h (by decide)⟩
      · decide
    have hcount : (spaced ["package"] ++ u.packageName).countP isBlank = 1 := by
      have hnone : u.packageName.countP isBlank = 0 := by
        rw [List.countP_eq_zero]
        intro c hc
        simp [(hname c hc).1]
      rw [List.countP_append, hnone]
      decide
    rw [List.append_assoc]
    refine balks_fieldShape_blank ⟨fun h => ?_, fun h => ?_⟩ ?_
    · rcases List.mem_append.mp (hv.subset h) with h | h
      · exact absurd h (by decide)
      · exact (hname _ h).2.1 rfl
    · rcases List.mem_append.mp (hv.subset h) with h | h
      · exact absurd h (by decide)
      · exact (hname _ h).2.2 rfl
    · have hle : v.countP isBlank ≤ (spaced ["package"] ++ u.packageName).countP isBlank :=
        hv.sublist.countP_le
      omega
  · obtain ⟨s, hs, hinline⟩ := u.exists_headerText
    rw [hs]
    refine passes_fieldShape_bracket (u := '\n' :: '\n' :: s) ⟨?_, ?_⟩ (by simp)
    · simp only [List.mem_cons, not_or]
      exact ⟨by decide, by decide, fun h => hinline _ h (by decide)⟩
    · simp only [List.mem_cons, not_or]
      exact ⟨by decide, by decide, fun h => hinline _ h (by decide)⟩

end Skeleton

namespace SkeletonMethod

lemma isInline_words (m : SkeletonMethod) : IsInline (spaced m.words) := by
  refine isInline_spaced fun w hw => ?_
  obtain ⟨x, -, rfl⟩ := List.mem_map.mp hw
  have hall : ∀ w ∈ methodModifiers, ∀ c ∈ w.toList, c ∉ lineMarks := by decide
  exact hall x.val x.property

/-- The line of a method in front of its parameters. -/
lemma isInline_signature (m : SkeletonMethod) :
    IsInline (spaced m.words ++ (m.returnType.text ++ (' ' :: m.name.text.toList))) :=
  m.isInline_words.append (m.returnType.isTypeText.isInline.append m.name.isName.isInline.space)

lemma isInline_parameterText (m : SkeletonMethod) : IsInline m.parameterText := by
  refine Text.forall_mem_intercalate (by decide) fun t ht => ?_
  obtain ⟨p, -, rfl⟩ := List.mem_map.mp ht
  exact p.type.isTypeText.isInline.append p.name.isName.isInline.space

/-- The line of a method in pieces that end in a bracket, and its end. -/
lemma text_eq (m : SkeletonMethod) : m.text =
    spaced m.words ++ (m.returnType.text ++ (' ' :: m.name.text.toList)) ++ ['('] ++
      (m.parameterText ++ [')'] ++ m.ending) := by
  simp [text]

/-- No field begins in the line of a method. -/
lemma passes_fieldShape (m : SkeletonMethod) : Passes size fieldShape done m.text r := by
  rw [text_eq]
  refine Passes.append ?_ (Passes.append ?_ ?_)
  · exact passes_fieldShape_bracket ⟨fun h => m.isInline_signature _ h (by decide),
      fun h => m.isInline_signature _ h (by decide)⟩ (by simp)
  · exact passes_fieldShape_bracket ⟨fun h => m.isInline_parameterText _ h (by decide),
      fun h => m.isInline_parameterText _ h (by decide)⟩ (by simp)
  · refine passes_fieldShape_first ?_
    rw [ending]
    split <;> decide

end SkeletonMethod

namespace Skeleton

lemma passes_fieldShape_methods (indent : Nat) (methods : List SkeletonMethod) :
    Passes size fieldShape done (methodLines indent methods) r := by
  induction methods generalizing done with
  | nil => exact passes_nil
  | cons m methods ih =>
    have hnewLine : 'p' ∉ newLine indent := not_mem_newLine (by decide) (by decide)
    rw [methodLines, List.flatMap_cons, List.append_assoc, List.append_assoc]
    refine Passes.append (passes_fieldShape_first hnewLine) (Passes.append m.passes_fieldShape ?_)
    refine Passes.append ?_ ih
    split
    · exact passes_fieldShape_first (by simp [hnewLine])
    · exact passes_nil

end Skeleton

/-! ### Fields found -/

/-- The shape of a field behind the edge of its first word. -/
def fieldBodyShape : Pattern MemberPart :=
  inOrder [.part .modifiers (inOrder [oneOf visibilities, blanks1, keywords fieldModifiers]),
    .part .type typeShape, blanks1, .part .name word, blanks, .either (char '=') (char ';')]

namespace SkeletonField

lemma words_mem (f : SkeletonField) : ∀ w ∈ f.words, w ∈ visibilities ++ fieldModifiers := by
  intro w hw
  rcases List.mem_cons.mp hw with rfl | hw
  · exact List.mem_append_left _ f.visibility.property
  · obtain ⟨m, -, rfl⟩ := List.mem_map.mp hw
    exact List.mem_append_right _ m.property

lemma words_whole (f : SkeletonField) : ∀ w ∈ f.words, IsWholeWord w.toList := by
  have hall : ∀ w ∈ visibilities ++ fieldModifiers, w.toList ≠ [] ∧
      ∀ c ∈ w.toList, isWordChar c = true := by decide
  exact fun w hw => hall w (f.words_mem w hw)

lemma takes_modifiers (f : SkeletonField) {s : List Char} (hsize : f.modifiers.length ≤ size) :
    Takes size (inOrder [oneOf visibilities, blanks1, keywords fieldModifiers] : Pattern MemberPart)
      anything (spaced f.words) (f.type.text ++ ' ' :: s) [] := by
  have hmodifiers : ∀ w ∈ f.modifiers.map (·.val), w ∈ fieldModifiers := by
    intro w hw
    obtain ⟨m, -, rfl⟩ := List.mem_map.mp hw
    exact m.property
  have htype := f.type.head?_text (' ' :: s)
  have hkeywords : Takes size (keywords fieldModifiers : Pattern MemberPart) anything
      (spaced (f.modifiers.map (·.val))) (f.type.text ++ ' ' :: s) [] := by
    refine isVocabulary_fieldModifiers.takes hmodifiers (by simpa using hsize) ?_ ?_
    · exact isVocabulary_fieldModifiers.balks_type f.type (by decide)
    · exact fun c hc => not_isBlank_identifierChar (htype c hc)
  have hblanks : Takes size (blanks1 : Pattern MemberPart) anything [' ']
      (spaced (f.modifiers.map (·.val)) ++ (f.type.text ++ ' ' :: s)) [] := by
    refine takes_greedy1 (by simp) (by decide) fun c hc => not_isBlank_identifierChar ?_
    exact isVocabulary_fieldModifiers.head?_spaced hmodifiers htype c hc
  have hvisibility : Takes size (oneOf visibilities : Pattern MemberPart) anything
      f.visibility.val.toList ([' '] ++ spaced (f.modifiers.map (·.val)) ++
        (f.type.text ++ ' ' :: s)) [] :=
    takes_oneOf f.visibility.property fun v hv =>
      isVocabulary_visibilities.eq_of_prefix hv f.visibility.property
  have hwords : spaced f.words =
      f.visibility.val.toList ++ ([' '] ++ spaced (f.modifiers.map (·.val))) := by
    rw [words, spaced, List.flatMap_cons, List.append_assoc]
    rfl
  rw [hwords]
  exact hvisibility.seq (hblanks.seq hkeywords)

/-- The parts of a field are marked. -/
structure Marked (f : SkeletonField) (ms : List (Mark MemberPart)) : Prop where
  modifiers : Mark.text? ms .modifiers = some (spaced f.words)
  type : Mark.text? ms .type = some f.type.text
  name : Mark.text? ms .name = some f.name.text.toList

/-- The shape of a field takes a field. -/
lemma takes_fieldBodyShape (f : SkeletonField) (hplain : '$' ∉ f.name.text.toList)
    (hsize : f.text.length ≤ size) :
    ∃ ms, Takes size fieldBodyShape anything f.text r ms ∧ f.Marked ms := by
  have hlengths : f.modifiers.length ≤ size ∧ f.type.text.length ≤ size := by
    have hspaced := length_le_length_spaced f.words
    simp only [text, words, List.length_append, List.length_cons, List.length_map] at hsize hspaced
    omega
  have hstop : Takes size (.either (char '=') (char ';') : Pattern MemberPart) anything [';'] r [] :=
    Takes.second (balks_char (by simp)) (takes_one (by decide))
  have hblanks : Takes size (blanks : Pattern MemberPart) anything [] ([';'] ++ r) [] :=
    takes_greedy_none (by simp; decide)
  have hname := takes_typeAndName f.type MemberPart.type .name hlengths.2 f.name.isName hplain
    (by simp; decide) (hblanks.seq hstop)
  have hmodifiers : Takes size
      (inOrder [oneOf visibilities, blanks1, keywords fieldModifiers] : Pattern MemberPart) anything
      (spaced f.words) (f.type.text ++ (' ' :: (f.name.text.toList ++ [';'])) ++ r) [] := by
    rw [List.append_assoc]
    exact f.takes_modifiers hlengths.1
  exact ⟨_, (hmodifiers.part .modifiers).seq hname, rfl, rfl, rfl⟩

lemma isInline_text (f : SkeletonField) : ∃ s, f.text = s ++ [';'] ∧ IsInline s := by
  have hwords : IsInline (spaced f.words) := by
    refine isInline_spaced fun w hw => ?_
    have hall : ∀ w ∈ visibilities ++ fieldModifiers, ∀ c ∈ w.toList, c ∉ lineMarks := by decide
    exact hall w (f.words_mem w hw)
  refine ⟨spaced f.words ++ (f.type.text ++ (' ' :: f.name.text.toList)), by simp [text], ?_⟩
  exact hwords.append (f.type.isTypeText.isInline.append f.name.isName.isInline.space)

end SkeletonField

/-! ### Lines -/

/-- The text of a line, which is the one behind the line feeds before it. -/
lemma lineText_behind {a line r : List Char} (hline : '\n' ∉ line)
    (hr : ∀ c ∈ r.head?, c = '\n') :
    Text.lineText (a ++ '\n' :: (line ++ r)) (a.count '\n' + 2) = line := by
  have hdrop : Text.dropLines (a.count '\n' + 1) (a ++ '\n' :: (line ++ r)) = line ++ r := by
    induction a with
    | nil => simp [Text.dropLines]
    | cons c a ih =>
      by_cases hc : c = '\n'
      · subst hc
        rw [List.count_cons_self, List.cons_append, Text.dropLines]
        simpa using ih
      · rw [List.count_cons_of_ne hc, List.cons_append, Text.dropLines]
        simpa [hc] using ih
  have htake : (line ++ r).takeWhile (· != '\n') = line := by
    rw [List.takeWhile_append_of_pos]
    · match r with
      | [] => simp
      | c :: r => simp [hr c rfl]
    · intro c hc
      have hne : c ≠ '\n' := fun h => hline (h ▸ hc)
      simpa using hne
  rw [Text.lineText, if_neg (by omega)]
  rw [show a.count '\n' + 2 - 1 = a.count '\n' + 1 by omega, hdrop, htake]

lemma lineOf_append (a s : List Char) : Text.lineOf (a ++ s) a.length = 1 + a.count '\n' := by
  rw [Text.lineOf_eq, List.take_left]

lemma count_newLine (indent : Nat) : (Skeleton.newLine indent).count '\n' = 1 := by
  have hspaces : (List.replicate indent ' ').count '\n' = 0 :=
    List.count_eq_zero.mpr fun h => absurd (List.eq_of_mem_replicate h) (by decide)
  rw [Skeleton.newLine, List.count_cons_self, hspaces]

/-- What stands in front of a member ends in no word. -/
lemma getLast?_newLine (a : List Char) (indent : Nat) :
    (a ++ Skeleton.newLine indent).getLast?.any isWordChar = false := by
  have hne : Skeleton.newLine indent ≠ [] := by simp [Skeleton.newLine]
  have hmem : (Skeleton.newLine indent).getLast hne ∈ Skeleton.newLine indent := List.getLast_mem hne
  rw [List.getLast?_append_of_ne_nil _ hne, List.getLast?_eq_some_getLast hne, Option.any_some]
  rcases List.mem_cons.mp hmem with h | h
  · rw [h]
    decide
  · rw [List.eq_of_mem_replicate h]
    decide

namespace SkeletonField

lemma hits_fieldShape (f : SkeletonField) (hplain : '$' ∉ f.name.text.toList)
    (hsize : f.text.length ≤ size) (hdone : done.getLast?.any isWordChar = false) :
    ∃ ms, Hits size fieldShape done f.text r ms ∧ f.Marked ms := by
  obtain ⟨ms, htakes, hmarks⟩ := f.takes_fieldBodyShape (r := r) hplain hsize
  refine ⟨ms, htakes.hits.wordEdge hdone ?_, hmarks⟩
  have hall : ∀ v ∈ visibilities, v.toList.head? = some 'p' := by decide
  have hfirst : (f.text ++ r).head? = some 'p' := by
    simp only [text, words, spaced, List.flatMap_cons, List.append_assoc]
    rw [List.head?_append, hall _ f.visibility.property]
    rfl
  rw [hfirst]
  decide

/-- The match of a field describes it. -/
lemma fieldOf?_of (f : SkeletonField) (indent : Nat) (a : List Char) {r : List Char}
    {ms : List (Mark MemberPart)} (hr : ∀ c ∈ r.head?, c = '\n')
    (hinside : ∀ m ∈ ms, m.lead ++ m.text <+: f.text) (hms : f.Marked ms) :
    fieldOf? (a ++ Skeleton.newLine indent ++ (f.text ++ r))
      (.of (a ++ Skeleton.newLine indent) f.text r ms) = some f.field := by
  obtain ⟨s, hs, hinline⟩ := f.isInline_text
  have hline : IsInline (List.replicate indent ' ' ++ s) := by
    refine IsInline.append ?_ hinline
    intro c hc
    rw [List.eq_of_mem_replicate hc]
    decide
  have htext : Text.lineText (a ++ Skeleton.newLine indent ++ (f.text ++ r)) (a.count '\n' + 2) =
      List.replicate indent ' ' ++ f.text := by
    rw [List.append_assoc, Skeleton.newLine, List.cons_append, ← List.append_assoc]
    refine lineText_behind ?_ hr
    rw [hs, ← List.append_assoc]
    intro hmem
    rcases List.mem_append.mp hmem with h | h
    · exact hline _ h (by decide)
    · exact absurd h (by decide)
  have hnumber : Text.lineOf (a ++ Skeleton.newLine indent ++ (f.text ++ r))
      (a ++ Skeleton.newLine indent).length = a.count '\n' + 2 := by
    rw [lineOf_append, List.count_append, count_newLine]
    omega
  have hopen : (List.replicate indent ' ' ++ f.text).contains '(' = false := by
    rw [hs, ← List.append_assoc, Bool.eq_false_iff, Ne, List.contains_iff_mem]
    intro hmem
    rcases List.mem_append.mp hmem with h | h
    · exact hline _ h (by decide)
    · exact absurd h (by decide)
  have hstart : (Match.of (a ++ Skeleton.newLine indent) f.text r ms).start =
      (a ++ Skeleton.newLine indent).length := rfl
  rw [fieldOf?]
  simp only [hstart, hnumber, htext, hopen, Match.text_of hinside, hms.modifiers, hms.type,
    hms.name, Option.getD_some, bareTypeName_text, modifiersIn_spaced f.words_whole,
    String.ofList_toList]
  rfl

end SkeletonField

namespace Skeleton

/-- The fields found from the first of them on, and what is found behind them. -/
lemma filterMap_fields {indent n : Nat} {fields : List SkeletonField} {content : List Char}
    {cur : Cursor MemberPart} (hplain : ∀ f ∈ fields, '$' ∉ f.name.text.toList)
    (hr : ∀ c ∈ r.head?, c = '\n') (hcontent : content = done ++ (fieldLines indent fields ++ r))
    (hcur : cur.At done (fieldLines indent fields ++ r)) :
    ∃ stop : Cursor MemberPart, stop.At (done ++ fieldLines indent fields) r ∧
      (fieldShape.findAllFrom content.length (n + fields.length) cur).filterMap (fieldOf? content) =
        fields.map (·.field) ++
          (fieldShape.findAllFrom content.length n stop).filterMap (fieldOf? content) := by
  induction fields generalizing done cur with
  | nil => exact ⟨cur, by simpa [fieldLines] using hcur, by simp⟩
  | cons f fields ih =>
    have hlines : fieldLines indent (f :: fields) ++ r =
        newLine indent ++ (f.text ++ (fieldLines indent fields ++ r)) := by
      simp [fieldLines]
    rw [hlines] at hcur hcontent
    have hnext : ∀ c ∈ (fieldLines indent fields ++ r).head?, c = '\n' := by
      match fields with
      | [] => exact hr
      | g :: fields =>
        intro c hc
        cases hc
        rfl
    have hsize : f.text.length ≤ content.length := by
      simp only [hcontent, List.length_append]
      omega
    obtain ⟨ms, hhit, hms⟩ := f.hits_fieldShape (r := fieldLines indent fields ++ r)
      (hplain f List.mem_cons_self) hsize (getLast?_newLine done indent)
    have hpass : Passes content.length fieldShape done (newLine indent)
        (f.text ++ (fieldLines indent fields ++ r)) :=
      passes_fieldShape_first (not_mem_newLine (by decide) (by decide))
    obtain ⟨mid, hmid, hfound⟩ := findAllFrom_hit (n := n + fields.length) hcur hpass hhit
      (by simp [SkeletonField.text])
    obtain ⟨stop, hstop, hrest⟩ := ih (fun g hg => hplain g (List.mem_cons_of_mem _ hg))
      (by simp [hcontent]) hmid
    refine ⟨stop, by simpa [fieldLines] using hstop, ?_⟩
    have hfield := f.fieldOf?_of indent done hnext hhit.inside hms
    rw [List.append_assoc, ← hcontent] at hfield
    rw [List.length_cons, ← Nat.add_assoc, hfound, List.filterMap_cons, hfield, hrest]
    rfl

/-- The fields found in a written skeleton are its fields. -/
lemma fieldsOf_text (u : Skeleton) (indent : Nat)
    (hplain : ∀ f ∈ u.fields, '$' ∉ f.name.text.toList) :
    fieldsOf (u.text indent) = u.fields.map (·.field) := by
  have htext : u.text indent = (u.packageText ++ ('\n' :: '\n' :: u.headerText)) ++
      (fieldLines indent u.fields ++ (methodLines indent u.methods ++ ['\n', '\x7d'])) := by
    simp [text]
  generalize hcontent : u.text indent = content at htext
  have hcur : (Cursor.ofText content : Cursor MemberPart).At [] _ := Cursor.at_ofText htext
  have hnext : ∀ c ∈ (methodLines indent u.methods ++ ['\n', '\x7d']).head?, c = '\n' := by
    intro c hc
    match hm : u.methods with
    | [] => rw [hm] at hc; cases hc; rfl
    | m :: methods => rw [hm] at hc; cases hc; rfl
  obtain ⟨n, hn⟩ : ∃ n, content.length + 1 = n + u.fields.length := by
    have hlength : u.fields.length ≤ (fieldLines indent u.fields).length :=
      length_le_length_flatMap (by simp [newLine]) u.fields
    refine ⟨content.length + 1 - u.fields.length, ?_⟩
    simp only [htext, List.length_append]
    omega
  obtain ⟨stop, hstop, hfound⟩ := filterMap_fields (n := n) hplain hnext htext (hcur.past [])
  have hend : fieldShape.findAllFrom content.length n stop = [] := by
    refine findAllFrom_none hstop (Passes.append (passes_fieldShape_methods indent u.methods) ?_)
      (balks_fieldShape_first (by simp)).misses
    exact passes_fieldShape_first (by decide)
  rw [fieldsOf, findAll, hn, findAllFrom_skip hcur u.passes_fieldShape_header, hfound, hend]
  simp

end Skeleton

end Java

end JavaAtlas

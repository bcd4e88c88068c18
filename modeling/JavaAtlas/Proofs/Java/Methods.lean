import JavaAtlas.Proofs.Java.Fields

/-!
# The methods of a skeleton

Everything in a written skeleton that has the shape of a method is one of its methods: a match of
that shape reaches a parameter list before it meets a brace or the end of a declaration, and no
line but that of a method has one. The lines of a method are those it is written on.
-/

namespace JavaAtlas

namespace Java

open Pattern

variable {κ : Type} {size : Nat} {good : List Char → Prop} {done r : List Char}

/-! ### Where a method can be -/

/-- What may come behind the parameters of a method, and its end. -/
def methodTailShape : Pattern MemberPart :=
  inOrder [blanks, maybe (inOrder [text "throws", blanks1,
      lazy1 fun c => isTypeChar c || c == ',' || isBlank c]),
    blanks, .part .stop (.one fun c => c == '\x7b' || c == ';')]

/-- The shape of a method behind its annotations. -/
def methodBodyShape : Pattern MemberPart :=
  inOrder [.part .modifiers (keywords methodModifiers),
    maybe (inOrder [char '<', .lazy fun c => !"()\x7b\x7d;=".toList.contains c, char '>', blanks]),
    .part .type typeShape, blanks1, .part .name word, blanks, char '(',
    .part .parameters (.greedy (· != ')')), char ')', methodTailShape]

lemma methodShape_eq : methodShape = .seq (.many (.seq annotationShape blanks)) methodBodyShape := rfl

/-- A text that begins neither with a space nor with a line feed. -/
def BeginsInLine (s : List Char) : Prop := ∃ c ∈ s.head?, c ≠ ' ' ∧ c ≠ '\n'

lemma BeginsInLine.append {s : List Char} (h : BeginsInLine s) (t : List Char) :
    BeginsInLine (s ++ t) := by
  obtain ⟨c, hc, hne⟩ := h
  rw [Option.mem_def] at hc
  exact ⟨c, by simp [List.head?_append, hc], hne⟩

lemma beginsInLine_keywords {taken : List Char}
    (h : Covers (keywords methodModifiers : Pattern κ) taken) :
    taken = [] ∨ BeginsInLine taken := by
  rcases h.many with rfl | ⟨s, t, rfl, hs⟩
  · exact Or.inl rfl
  · obtain ⟨w, b, rfl, hw, -⟩ := hs.seq
    obtain ⟨v, hv, rfl⟩ := hw.oneOf
    have hall : ∀ v ∈ methodModifiers, ∃ c ∈ v.toList.head?, c ≠ ' ' ∧ c ≠ '\n' := by decide
    exact Or.inr ((show BeginsInLine v.toList from hall v hv).append b |>.append t)

lemma beginsInLine_typeShape {taken : List Char} (h : Covers (typeShape : Pattern κ) taken) :
    BeginsInLine taken := by
  rw [typeShape_eq] at h
  obtain ⟨name, t, rfl, hname, -⟩ := h.seq
  obtain ⟨hne, hall⟩ := covers_greedy1 hname
  obtain ⟨c, name, rfl⟩ := List.exists_cons_of_ne_nil hne
  have hc := hall c List.mem_cons_self
  refine ⟨c, rfl, ?_, ?_⟩
  · rintro rfl
    exact absurd hc (by decide)
  · rintro rfl
    exact absurd hc (by decide)

/-- What the shape of a method covers: no bracket and no end of a declaration before the
parameters, and no blank first. -/
lemma covers_methodBodyShape {taken : List Char} (h : Covers methodBodyShape taken) :
    ∃ w t, taken = w ++ '(' :: t ∧ (∀ d ∈ w, d ∉ barriers) ∧ BeginsInLine w := by
  obtain ⟨modifiers, s₁, rfl, hmodifiers, h₁⟩ := h.seq
  obtain ⟨generics, s₂, rfl, hgenerics, h₂⟩ := h₁.seq
  obtain ⟨type, s₃, rfl, htype, h₃⟩ := h₂.seq
  obtain ⟨gap, s₄, rfl, hgap, h₄⟩ := h₃.seq
  obtain ⟨name, s₅, rfl, hname, h₅⟩ := h₄.seq
  obtain ⟨gap', s₆, rfl, hgap', h₆⟩ := h₅.seq
  obtain ⟨bracket, s₇, rfl, hbracket, h₇⟩ := h₆.seq
  obtain rfl := hbracket.char
  refine ⟨modifiers ++ (generics ++ (type ++ (gap ++ (name ++ gap')))), s₇, by simp, ?_, ?_⟩
  · intro d hd
    simp only [List.mem_append] at hd
    rcases hd with hd | hd | hd | hd | hd | hd
    · exact hmodifiers.part.within (within_keywords isBlank_not_mem_barriers (by decide)) d hd
    · exact hgenerics.within ⟨⟨within_char (by decide), not_mem_of_holds (by decide),
        within_char (by decide), isBlank_not_mem_barriers⟩, trivial⟩ d hd
    · exact htype.part.within within_typeShape d hd
    · exact isBlank_not_mem_barriers d ((covers_greedy1 hgap).2 d hd)
    · exact hname.part.within within_word d hd
    · exact hgap'.within isBlank_not_mem_barriers d hd
  · rcases beginsInLine_keywords hmodifiers.part with rfl | hbegins
    · rcases hgenerics.maybe with rfl | hgenerics
      · exact (beginsInLine_typeShape htype.part).append _
      · obtain ⟨bracket, t, rfl, hbracket, -⟩ := hgenerics.seq
        obtain rfl := hbracket.char
        exact ⟨'<', rfl, by decide⟩
    · exact hbegins.append _

/-- A method has a parameter list. -/
lemma exists_of_leads_methodShape {cur next : Cursor MemberPart} {s : List Char}
    (hcur : cur.rest = s) (hs : ∀ c ∈ s.head?, c ≠ '@') (h : Leads methodShape cur next) :
    ∃ w t, s = w ++ '(' :: t ∧ (∀ d ∈ w, d ∉ barriers) ∧ BeginsInLine w := by
  rw [methodShape_eq] at h
  cases h with
  | seq hannotations hbody =>
    obtain rfl := (balks_annotated hs).eq_of_many hcur hannotations
    obtain ⟨taken, hcovers, hrest⟩ := hbody.exists_covers
    obtain ⟨w, t, rfl, hbarriers, hbegins⟩ := covers_methodBodyShape hcovers
    exact ⟨w, t ++ next.rest, by rw [← hcur, hrest, List.append_assoc]; rfl, hbarriers, hbegins⟩

/-- No method begins where a declaration ends, or a brace comes, before any parameters. -/
lemma balks_methodShape_end {u : List Char} {b : Char} (hu : '(' ∉ u ∧ '@' ∉ u)
    (hb : b ∈ [';', '\x7b', '\x7d']) : Balks methodShape good (u ++ b :: r) := by
  intro cur next hcur hleads _
  have hfirst : ∀ c ∈ (u ++ b :: r).head?, c ≠ '@' := by
    rintro c hc rfl
    match u with
    | [] =>
      cases hc
      exact absurd hb (by decide)
    | d :: u =>
      cases hc
      exact hu.2 List.mem_cons_self
  obtain ⟨w, t, hw, hbarriers, -⟩ := exists_of_leads_methodShape hcur hfirst hleads
  rcases eq_or_mem_of_append_eq hw.symm hu.1 with ⟨-, rfl⟩ | h
  · exact absurd hb (by decide)
  · have hall : ∀ b ∈ [';', '\x7b', '\x7d'], b ∈ barriers := by decide
    exact hbarriers b h (hall b hb)

/-- No method begins with a space or a line feed, or at the end of the text. -/
lemma balks_methodShape_blank {s : List Char} (hs : ∀ c ∈ s.head?, c = ' ' ∨ c = '\n') :
    Balks methodShape good s := by
  intro cur next hcur hleads _
  have hfirst : ∀ c ∈ s.head?, c ≠ '@' := by
    rintro c hc rfl
    exact absurd (hs _ hc) (by decide)
  obtain ⟨w, t, rfl, -, c, hc, hspace, hline⟩ := exists_of_leads_methodShape hcur hfirst hleads
  rw [Option.mem_def] at hc
  rcases hs c (by simp [List.head?_append, hc]) with h | h
  · exact hspace h
  · exact hline h

/-! ### Passing over other text -/

lemma passes_methodShape_end {u : List Char} {b : Char} (hu : '(' ∉ u ∧ '@' ∉ u)
    (hb : b ∈ [';', '\x7b', '\x7d']) : Passes size methodShape done (u ++ [b]) r := by
  refine passes_of_balks fun t ht hne => ?_
  obtain ⟨v, rfl, hv⟩ := (List.suffix_concat_iff.mp ht).resolve_left hne
  rw [List.append_assoc]
  exact balks_methodShape_end ⟨fun h => hu.1 (hv.subset h), fun h => hu.2 (hv.subset h)⟩ hb

lemma passes_methodShape_newLine (indent : Nat) :
    Passes size methodShape done (Skeleton.newLine indent) r := by
  refine passes_of_balks fun t ht hne => balks_methodShape_blank fun c hc => ?_
  rw [List.head?_append_of_ne_nil _ hne] at hc
  rcases List.mem_cons.mp (ht.subset (List.mem_of_mem_head? hc)) with h | h
  · exact Or.inr h
  · exact Or.inl (List.eq_of_mem_replicate h)

/-- No method begins in a line that ends a declaration or opens a body. -/
lemma passes_methodShape_line {indent : Nat} {s : List Char} {b : Char} (hs : IsInline s)
    (hb : b ∈ [';', '\x7b', '\x7d']) :
    Passes size methodShape done (Skeleton.newLine indent ++ (s ++ [b])) r := by
  rw [← List.append_assoc]
  refine passes_methodShape_end ⟨fun h => ?_, fun h => ?_⟩ hb
  · rcases List.mem_append.mp h with h | h
    · exact not_mem_newLine (by decide) (by decide) h
    · exact hs _ h (by decide)
  · rcases List.mem_append.mp h with h | h
    · exact not_mem_newLine (by decide) (by decide) h
    · exact hs _ h (by decide)

namespace Skeleton

/-- No method begins in front of the first member. -/
lemma passes_methodShape_header (u : Skeleton) : Passes size methodShape []
    (u.packageText ++ ('\n' :: '\n' :: u.headerText)) r := by
  refine Passes.append ?_ ?_
  · have hpackage : u.packageText = spaced ["package"] ++ u.packageName ++ [';'] := by
      rw [packageText, List.append_assoc]
    have hname : ∀ c ∈ u.packageName, c ≠ '(' ∧ c ≠ '@' := by
      intro c hc
      rcases u.packageName_chars c hc with h | rfl
      · exact ⟨identifierChar_ne h (by decide), identifierChar_ne h (by decide)⟩
      · decide
    rw [hpackage]
    refine passes_methodShape_end ⟨fun h => ?_, fun h => ?_⟩ (by simp)
    · rcases List.mem_append.mp h with h | h
      · exact absurd h (by decide)
      · exact (hname _ h).1 rfl
    · rcases List.mem_append.mp h with h | h
      · exact absurd h (by decide)
      · exact (hname _ h).2 rfl
  · obtain ⟨s, hs, hinline⟩ := u.exists_headerText
    rw [hs]
    refine passes_methodShape_end (u := '\n' :: '\n' :: s) ⟨?_, ?_⟩ (by simp)
    · simp only [List.mem_cons, not_or]
      exact ⟨by decide, by decide, fun h => hinline _ h (by decide)⟩
    · simp only [List.mem_cons, not_or]
      exact ⟨by decide, by decide, fun h => hinline _ h (by decide)⟩

lemma passes_methodShape_fields (indent : Nat) (fields : List SkeletonField) :
    Passes size methodShape done (fieldLines indent fields) r := by
  induction fields generalizing done with
  | nil => exact passes_nil
  | cons f fields ih =>
    obtain ⟨s, hs, hinline⟩ := f.isInline_text
    rw [fieldLines, List.flatMap_cons, hs]
    exact Passes.append (passes_methodShape_line hinline (by simp)) ih

end Skeleton

/-! ### Methods found -/

namespace SkeletonMethod

/-- No name in the signature of a method has a dollar sign, the names of types apart. -/
structure IsPlain (m : SkeletonMethod) : Prop where
  name : '$' ∉ m.name.text.toList
  parameters : ∀ p ∈ m.parameters, '$' ∉ p.name.text.toList

lemma words_mem (m : SkeletonMethod) : ∀ w ∈ m.words, w ∈ methodModifiers := by
  intro w hw
  obtain ⟨x, -, rfl⟩ := List.mem_map.mp hw
  exact x.property

lemma words_whole (m : SkeletonMethod) : ∀ w ∈ m.words, IsWholeWord w.toList := by
  have hall : ∀ w ∈ methodModifiers, w.toList ≠ [] ∧ ∀ c ∈ w.toList, isWordChar c = true := by
    decide
  exact fun w hw => hall w (m.words_mem w hw)

/-- What ends the line of a method, as one character. -/
def mark (m : SkeletonMethod) : Char := if m.hasBody then '\x7b' else ';'

/-- The tail of the shape of a method takes the end of its line. -/
lemma takes_methodTailShape (size : Nat) (r : List Char) (m : SkeletonMethod) :
    ∃ lead, Takes size methodTailShape anything m.ending r [⟨.stop, lead, [m.mark]⟩] := by
  have hmark : m.mark = '\x7b' ∨ m.mark = ';' := by
    rw [mark]
    split <;> simp
  have hall : ∀ c, c = '\x7b' ∨ c = ';' →
      isBlank c = false ∧ c ≠ 't' ∧ (c == '\x7b' || c == ';') = true := by
    rintro c (rfl | rfl) <;> decide
  obtain ⟨hblank, hthrows, hstop⟩ := hall _ hmark
  have hend : Takes size (.part MemberPart.stop (.one fun c => c == '\x7b' || c == ';')) anything
      [m.mark] r [⟨.stop, [], [m.mark]⟩] := (takes_one hstop).part MemberPart.stop
  have hnone : Takes size (blanks : Pattern MemberPart) anything [] ([m.mark] ++ r) [] :=
    takes_greedy_none (by simpa using hblank)
  have hmaybe : Takes size (maybe (inOrder [Pattern.text "throws", blanks1,
      lazy1 fun c => isTypeChar c || c == ',' || isBlank c]) : Pattern MemberPart) anything []
      ([m.mark] ++ r) [] := by
    refine takes_maybe_not (balks_text ?_).seq
    rintro ⟨t, ht⟩
    exact hthrows (List.cons.inj ht).1.symm
  have hbehind := hmaybe.seq (hnone.seq hend)
  by_cases hbody : m.hasBody = true
  · have hspace : Takes size (blanks : Pattern MemberPart) anything [' '] ([m.mark] ++ r) [] :=
      takes_greedy (by decide) (by simpa using hblank)
    have hending : m.ending = [' '] ++ [m.mark] := by simp [ending, mark, hbody]
    rw [hending]
    exact ⟨_, hspace.seq hbehind⟩
  · have hending : m.ending = [m.mark] := by simp [ending, mark, hbody]
    rw [hending]
    exact ⟨_, hnone.seq hbehind⟩

/-- The parts of a method are marked, the modifiers at its beginning. -/
structure Marked (m : SkeletonMethod) (ms : List (Mark MemberPart)) : Prop where
  modifiers : ms.find? (·.label == .modifiers) = some ⟨.modifiers, [], spaced m.words⟩
  type : Mark.text? ms .type = some m.returnType.text
  name : Mark.text? ms .name = some m.name.text.toList
  parameters : Mark.text? ms .parameters = some m.parameterText
  stop : Mark.text? ms .stop = some [m.mark]

/-- The line of a method behind its name. -/
def tail (m : SkeletonMethod) : List Char := '(' :: (m.parameterText ++ (')' :: m.ending))

/-- The shape of a method behind its name. -/
def tailShape : Pattern MemberPart :=
  inOrder [blanks, char '(', .part .parameters (.greedy (· != ')')), char ')', methodTailShape]

lemma takes_tailShape (size : Nat) (r : List Char) (m : SkeletonMethod) : ∃ lead lead',
    Takes size tailShape anything m.tail r
      [⟨.stop, lead, [m.mark]⟩, ⟨.parameters, lead', m.parameterText⟩] := by
  obtain ⟨lead, htail⟩ := m.takes_methodTailShape size r
  have hclose : Takes size (char ')' : Pattern MemberPart) anything [')'] (m.ending ++ r) [] :=
    takes_one (by decide)
  have hparameters : Takes size (.greedy (· != ')') : Pattern MemberPart) anything m.parameterText
      ([')'] ++ m.ending ++ r) [] := by
    refine takes_greedy (fun c hc => ?_) (by simp)
    have hne : c ≠ ')' := by
      rintro rfl
      exact m.isInline_parameterText _ hc (by decide)
    simpa using hne
  have hopen : Takes size (char '(' : Pattern MemberPart) anything ['(']
      (m.parameterText ++ ([')'] ++ m.ending) ++ r) [] := takes_one (by decide)
  have hblanks : Takes size (blanks : Pattern MemberPart) anything []
      (['('] ++ (m.parameterText ++ ([')'] ++ m.ending)) ++ r) [] :=
    takes_greedy_none (by simp; decide)
  exact ⟨_, _, hblanks.seq (hopen.seq ((hparameters.part .parameters).seq (hclose.seq htail)))⟩

lemma head?_tail (m : SkeletonMethod) : ∀ c ∈ (m.tail ++ r).head?, isWordChar c = false := by
  rintro c hc
  cases hc
  decide

/-- The shape of a method takes a method. -/
lemma takes_methodShape (m : SkeletonMethod) (hplain : m.IsPlain) (hsize : m.text.length ≤ size) :
    ∃ ms, Takes size methodShape anything m.text r ms ∧ m.Marked ms := by
  have htext : m.text = [] ++ (spaced m.words ++ ([] ++ (m.returnType.text ++
    (' ' :: (m.name.text.toList ++ m.tail))))) := rfl
  have hlengths : m.words.length ≤ size ∧ m.returnType.text.length ≤ size := by
    have hspaced := length_le_length_spaced m.words
    simp only [htext, List.length_append] at hsize
    omega
  obtain ⟨lead, lead', htail⟩ := m.takes_tailShape size r
  have hname := takes_typeAndName m.returnType MemberPart.type .name hlengths.2 m.name.isName
    hplain.name m.head?_tail htail
  have hfirst : ∀ c ∈ (m.returnType.text ++ (' ' :: (m.name.text.toList ++ m.tail)) ++ r).head?,
      isIdentifierChar c = true := by
    rw [List.append_assoc]
    exact m.returnType.head?_text _
  have hgenerics : Takes size (maybe (inOrder [char '<',
      .lazy fun c => !"()\x7b\x7d;=".toList.contains c, char '>', blanks]) : Pattern MemberPart)
      anything [] (m.returnType.text ++ (' ' :: (m.name.text.toList ++ m.tail)) ++ r) [] :=
    takes_maybe_not (balks_char fun c hc => identifierChar_ne (hfirst c hc) (by decide)).seq
  have hmodifiers : Takes size (keywords methodModifiers : Pattern MemberPart) anything
      (spaced m.words) ([] ++ (m.returnType.text ++ (' ' :: (m.name.text.toList ++ m.tail))) ++ r)
      [] := by
    refine isVocabulary_methodModifiers.takes m.words_mem hlengths.1 ?_ ?_
    · rw [List.nil_append, List.append_assoc]
      exact isVocabulary_methodModifiers.balks_type m.returnType (by decide)
    · exact fun c hc => not_isBlank_identifierChar (hfirst c hc)
  have hannotations : Takes size (.many (.seq annotationShape blanks) : Pattern MemberPart) anything
      [] (spaced m.words ++ ([] ++ (m.returnType.text ++
        (' ' :: (m.name.text.toList ++ m.tail)))) ++ r) [] := by
    refine takes_many_none (balks_annotated fun c hc => ?_)
    rw [List.append_assoc] at hc
    have hc := isVocabulary_methodModifiers.head?_spaced m.words_mem hfirst c hc
    exact identifierChar_ne hc (by decide)
  refine ⟨_, hannotations.seq ((hmodifiers.part .modifiers).seq (hgenerics.seq hname)), ?_⟩
  exact ⟨rfl, rfl, rfl, rfl, rfl⟩

end SkeletonMethod

/-! ### Lines -/

/-- Over characters that are no braces, the search for the end of a body goes on. -/
lemma closingBrace?_append {depth offset : Nat} {s : List Char}
    (hs : ∀ c ∈ s, c ≠ '\x7b' ∧ c ≠ '\x7d') (t : List Char) :
    closingBrace? depth offset (s ++ t) = closingBrace? depth (offset + s.length) t := by
  induction s generalizing offset with
  | nil => rfl
  | cons c s ih =>
    obtain ⟨hopen, hclose⟩ := hs c List.mem_cons_self
    have hnext : closingBrace? depth offset (c :: (s ++ t)) =
        closingBrace? depth (offset + 1) (s ++ t) := by simp [closingBrace?, hopen, hclose]
    rw [List.cons_append, hnext, ih fun d hd => hs d (List.mem_cons_of_mem _ hd), List.length_cons,
      Nat.add_assoc, Nat.add_comm 1]

/-- The line of an offset inside of a match. -/
lemma lineAt_of {s a b : List Char} (done : List Char) (ms : List (Mark κ)) (line : Nat)
    (h : s ++ r = a ++ b) :
    (Match.of done s r ms).lineAt line (done.length + a.length) = line + a.count '\n' := by
  have hhere : (Match.of done s r ms).here = a ++ b := h
  have hstart : done.length + a.length - (Match.of done s r ms).start = a.length :=
    Nat.add_sub_cancel_left ..
  rw [Match.lineAt, hstart, hhere, Text.lineAfter_eq, List.take_left]

namespace SkeletonMethod

/-- The closing line of a method, if it has a body. -/
def closing (indent : Nat) (m : SkeletonMethod) : List Char :=
  if m.hasBody then Skeleton.newLine indent ++ ['\x7d'] else []

/-- The line of a method without its last character. -/
lemma exists_text (m : SkeletonMethod) : ∃ s, m.text = s ++ [m.mark] ∧ '\n' ∉ s := by
  have hgap : ∃ gap, m.ending = gap ++ [m.mark] ∧ '\n' ∉ gap := by
    rw [ending, mark]
    split
    · exact ⟨[' '], rfl, by decide⟩
    · exact ⟨[], rfl, by decide⟩
  obtain ⟨gap, hending, hgap⟩ := hgap
  refine ⟨spaced m.words ++ (m.returnType.text ++ (' ' :: m.name.text.toList)) ++ ['('] ++
    (m.parameterText ++ [')'] ++ gap), by simp [text_eq, hending], ?_⟩
  simp only [List.mem_append, not_or]
  refine ⟨⟨?_, by decide⟩, ⟨?_, by decide⟩, hgap⟩
  · have hsignature : '\n' ∉ spaced m.words ++ (m.returnType.text ++ (' ' :: m.name.text.toList)) :=
      fun h => m.isInline_signature _ h (by decide)
    simpa only [List.mem_append, not_or] using hsignature
  · exact fun h => m.isInline_parameterText _ h (by decide)

lemma count_text (m : SkeletonMethod) : m.text.count '\n' = 0 := by
  obtain ⟨s, hs, hline⟩ := m.exists_text
  have hmark : m.mark ≠ '\n' := by
    rw [mark]
    split <;> decide
  rw [hs, List.count_append, List.count_eq_zero.mpr hline, List.count_singleton, if_neg (by simpa)]

/-- A method ends on its last line. -/
lemma methodEnd_of (m : SkeletonMethod) (indent line : Nat) {ms : List (Mark MemberPart)}
    (hinside : ∀ x ∈ ms, x.lead ++ x.text <+: m.text) (hms : m.Marked ms) :
    methodEnd (.of done m.text (m.closing indent ++ r) ms) line line = line + m.height - 1 := by
  have hstop : (Match.of done m.text (m.closing indent ++ r) ms).text .stop = [m.mark] := by
    rw [Match.text_of hinside, hms.stop]
    rfl
  rw [methodEnd, hstop]
  by_cases hbody : m.hasBody = true
  · have hmark : m.mark = '\x7b' := by simp [mark, hbody]
    have hclosing : m.closing indent = Skeleton.newLine indent ++ ['\x7d'] := by
      simp [closing, hbody]
    have hend : bodyEnd? (.of done m.text (m.closing indent ++ r) ms) =
        some (done.length + (m.text ++ Skeleton.newLine indent).length) := by
      have hdrop : (Match.of done m.text (m.closing indent ++ r) ms).here.drop
          (done.length + m.text.length - done.length) =
            Skeleton.newLine indent ++ ('\x7d' :: r) := by
        rw [Nat.add_sub_cancel_left, hclosing]
        simp [Match.of]
      have hbraces : ∀ c ∈ Skeleton.newLine indent, c ≠ '\x7b' ∧ c ≠ '\x7d' := by
        intro c hc
        constructor
        · rintro rfl
          exact not_mem_newLine (by decide) (by decide) hc
        · rintro rfl
          exact not_mem_newLine (by decide) (by decide) hc
      change closingBrace? 0 (done.length + m.text.length) ((Match.of done m.text
        (m.closing indent ++ r) ms).here.drop (done.length + m.text.length - done.length)) = _
      rw [hdrop, closingBrace?_append hbraces]
      simp [closingBrace?, Nat.add_assoc]
    have hline := lineAt_of done ms line (show m.text ++ (m.closing indent ++ r) =
      (m.text ++ Skeleton.newLine indent) ++ ('\x7d' :: r) by simp [hclosing])
    rw [if_pos (by simp [hmark]), hend, Option.map_some, Option.getD_some, hline,
      List.count_append, m.count_text, count_newLine]
    simp [height, hbody]
  · obtain ⟨s, hs, hnewline⟩ := m.exists_text
    have hmark : m.mark = ';' := by simp [mark, hbody]
    have hlast : (Match.of done m.text (m.closing indent ++ r) ms).stop - 1 =
        done.length + s.length := by
      simp [Match.of, hs]
    have hline := lineAt_of done ms line (show m.text ++ (m.closing indent ++ r) =
      s ++ (m.mark :: (m.closing indent ++ r)) by simp [hs])
    rw [if_neg (by simp [hmark]), hlast, hline, List.count_eq_zero.mpr hnewline]
    simp [height, hbody]

/-- A type is never a word that stands for something else. -/
lemma returnType_not_mem (m : SkeletonMethod) {words : List String}
    (hwords : ∀ w ∈ words, w ∈ reservedWords ++ contextualWords ∧ w ∉ primitiveTypes)
    (hbare : ∀ w ∈ words, bareTypeName w.toList = w.toList) :
    words.contains (String.ofList m.returnType.text) = false := by
  rw [Bool.eq_false_iff, Ne, List.contains_iff_mem]
  intro hmem
  refine m.returnType.headName_not_mem hwords ?_
  have hname := hbare _ hmem
  rw [String.toList_ofList, bareTypeName_text] at hname
  rwa [← hname, String.ofList_toList] at hmem

/-- The match of a method describes it. -/
lemma methodOf?_of (m : SkeletonMethod) (hplain : m.IsPlain) (indent : Nat) (a : List Char)
    {ms : List (Mark MemberPart)} (hinside : ∀ x ∈ ms, x.lead ++ x.text <+: m.text)
    (hms : m.Marked ms) :
    methodOf? (a ++ Skeleton.newLine indent ++ (m.text ++ (m.closing indent ++ r)))
        (.of (a ++ Skeleton.newLine indent) m.text (m.closing indent ++ r) ms) =
      some (m.method (2 + a.count '\n')) := by
  have htype : reservedForMethods.contains (String.ofList m.returnType.text) = false :=
    m.returnType_not_mem (by decide) (by decide)
  have hmodifier : modifierVocabulary.contains (String.ofList m.returnType.text) = false :=
    m.returnType_not_mem (by decide) (by decide)
  have hname : reservedForMethods.contains m.name.text = false := by
    rw [Bool.eq_false_iff, Ne, List.contains_iff_mem]
    exact m.name.not_mem (by decide)
  have hmodifiers : Mark.text? ms .modifiers = some (spaced m.words) := by
    rw [Mark.text?, hms.modifiers]
    rfl
  have hline : Text.lineOf (a ++ Skeleton.newLine indent ++ (m.text ++ (m.closing indent ++ r)))
      (a ++ Skeleton.newLine indent).length = 2 + a.count '\n' := by
    rw [lineOf_append, List.count_append, count_newLine]
    omega
  generalize a ++ Skeleton.newLine indent = front at hline ⊢
  have hstart : (Match.of front m.text (m.closing indent ++ r) ms).start = front.length := rfl
  have hpart : ((Match.of front m.text (m.closing indent ++ r) ms).part? .modifiers).map (·.start) =
      some (front.length + ([] : List Char).length) := by
    rw [Match.part?_of, hms.modifiers]
    rfl
  have hfirst := lineAt_of front ms (2 + a.count '\n')
    (show m.text ++ (m.closing indent ++ r) = [] ++ _ from rfl)
  rw [methodOf?]
  simp only [hstart, hline, hpart, hfirst, List.count_nil, Nat.add_zero, Match.text_of hinside,
    hms.type, hms.name, hms.parameters, hmodifiers, Option.getD_some, String.ofList_toList, htype,
    hname, hmodifier, Bool.or_self, Bool.false_eq_true, if_false, m.methodEnd_of indent _ hinside hms,
    bareTypeName_text, modifiersIn_spaced m.words_whole]
  rw [parameterText, parametersOf_text m.parameters hplain.parameters]
  rfl

end SkeletonMethod

namespace Skeleton

lemma methodLines_cons (indent : Nat) (m : SkeletonMethod) (methods : List SkeletonMethod) :
    methodLines indent (m :: methods) =
      newLine indent ++ (m.text ++ (m.closing indent ++ methodLines indent methods)) := by
  simp [methodLines, SkeletonMethod.closing]

lemma count_closing (indent : Nat) (m : SkeletonMethod) :
    (m.closing indent).count '\n' + 1 = m.height := by
  rw [SkeletonMethod.closing, SkeletonMethod.height]
  split
  · rw [List.count_append, count_newLine]
    rfl
  · rfl

lemma passes_methodShape_closing (indent : Nat) (m : SkeletonMethod) :
    Passes size methodShape done (m.closing indent) r := by
  rw [SkeletonMethod.closing]
  split
  · exact passes_methodShape_line (s := []) (by simp [IsInline]) (by simp)
  · exact passes_nil

/-- The methods found from the first of them on, and what is found behind them. -/
lemma filterMap_methods {indent n : Nat} {methods : List SkeletonMethod} {content : List Char}
    {cur : Cursor MemberPart} (hplain : ∀ m ∈ methods, m.IsPlain)
    (hcontent : content = done ++ (methodLines indent methods ++ r))
    (hcur : cur.At done (methodLines indent methods ++ r)) :
    ∃ stop : Cursor MemberPart, stop.At (done ++ methodLines indent methods) r ∧
      (methodShape.findAllFrom content.length (n + methods.length) cur).filterMap
          (methodOf? content) =
        methodsFrom (2 + done.count '\n') methods ++
          (methodShape.findAllFrom content.length n stop).filterMap (methodOf? content) := by
  induction methods generalizing done cur with
  | nil => exact ⟨cur, by simpa [methodLines] using hcur, by simp [methodsFrom]⟩
  | cons m methods ih =>
    have hlines : methodLines indent (m :: methods) ++ r = newLine indent ++
        (m.text ++ (m.closing indent ++ (methodLines indent methods ++ r))) := by
      simp [methodLines_cons]
    rw [hlines] at hcur hcontent
    have hsize : m.text.length ≤ content.length := by
      simp only [hcontent, List.length_append]
      omega
    obtain ⟨ms, htakes, hms⟩ := m.takes_methodShape
      (r := m.closing indent ++ (methodLines indent methods ++ r)) (hplain m List.mem_cons_self) hsize
    obtain ⟨mid, hmid, hfound⟩ := findAllFrom_hit (n := n + methods.length) hcur
      (passes_methodShape_newLine indent) htakes.hits (by simp [SkeletonMethod.text])
    -- the search goes on behind the closing line
    have hpass : Passes content.length methodShape (done ++ newLine indent ++ m.text)
        (m.closing indent) (methodLines indent methods ++ r) := passes_methodShape_closing indent m
    obtain ⟨stop, hstop, hrest⟩ := ih (fun x hx => hplain x (List.mem_cons_of_mem _ hx))
      (by simp [hcontent]) (hmid.past [])
    refine ⟨stop, by simpa [methodLines_cons] using hstop, ?_⟩
    have hmethod := m.methodOf?_of (r := methodLines indent methods ++ r)
      (hplain m List.mem_cons_self) indent done htakes.inside hms
    rw [List.append_assoc, ← hcontent] at hmethod
    have hcount : 2 + (done ++ newLine indent ++ m.text ++ m.closing indent).count '\n' =
        2 + done.count '\n' + m.height := by
      simp only [List.count_append, count_newLine, m.count_text, ← count_closing indent m]
      omega
    rw [List.length_cons, ← Nat.add_assoc, hfound, List.filterMap_cons, hmethod,
      findAllFrom_skip hmid hpass, hrest, hcount]
    rfl

lemma newline_not_mem_headerText (u : Skeleton) : '\n' ∉ u.headerText := by
  obtain ⟨s, hs, hinline⟩ := u.exists_headerText
  rw [hs, List.mem_append, not_or]
  exact ⟨fun h => hinline _ h (by decide), by decide⟩

lemma count_fieldLines (indent : Nat) (fields : List SkeletonField) :
    (fieldLines indent fields).count '\n' = fields.length := by
  induction fields with
  | nil => rfl
  | cons f fields ih =>
    obtain ⟨s, hs, hinline⟩ := f.isInline_text
    have hf : f.text.count '\n' = 0 := by
      rw [hs, List.count_eq_zero, List.mem_append, not_or]
      exact ⟨fun h => hinline _ h (by decide), by decide⟩
    rw [fieldLines] at ih ⊢
    rw [List.flatMap_cons, List.count_append, List.count_append, count_newLine, hf, ih,
      List.length_cons]
    omega

/-- The methods found in a written skeleton are its methods, on the lines they are written on. -/
lemma methodsOf_text (u : Skeleton) (indent : Nat) (hplain : ∀ m ∈ u.methods, m.IsPlain) :
    methodsOf (u.text indent) = methodsFrom (4 + u.fields.length) u.methods := by
  have htext : u.text indent =
      (u.packageText ++ ('\n' :: '\n' :: u.headerText) ++ fieldLines indent u.fields) ++
        (methodLines indent u.methods ++ ['\n', '\x7d']) := by
    simp [text]
  generalize hcontent : u.text indent = content at htext
  have hcur : (Cursor.ofText content : Cursor MemberPart).At [] _ := Cursor.at_ofText htext
  obtain ⟨n, hn⟩ : ∃ n, content.length + 1 = n + u.methods.length := by
    have hlength : u.methods.length ≤ (methodLines indent u.methods).length :=
      length_le_length_flatMap (by simp [newLine]) u.methods
    refine ⟨content.length + 1 - u.methods.length, ?_⟩
    simp only [htext, List.length_append]
    omega
  have hfront : Passes content.length methodShape []
      (u.packageText ++ ('\n' :: '\n' :: u.headerText) ++ fieldLines indent u.fields)
      (methodLines indent u.methods ++ ['\n', '\x7d']) :=
    Passes.append u.passes_methodShape_header (passes_methodShape_fields indent u.fields)
  obtain ⟨stop, hstop, hfound⟩ := filterMap_methods (n := n) hplain htext (hcur.past [])
  have hend : methodShape.findAllFrom content.length n stop = [] := by
    refine findAllFrom_none hstop ?_ (balks_methodShape_blank (by simp)).misses
    exact passes_methodShape_end (u := ['\n']) (by decide) (by simp)
  have hcount : 2 + (u.packageText ++ ('\n' :: '\n' :: u.headerText) ++
      fieldLines indent u.fields).count '\n' = 4 + u.fields.length := by
    simp only [List.count_append, List.count_cons_self, count_fieldLines,
      List.count_eq_zero.mpr u.newline_not_mem_packageText,
      List.count_eq_zero.mpr u.newline_not_mem_headerText]
    omega
  rw [methodsOf, findAll, hn, findAllFrom_skip hcur hfront, hfound, hend, hcount]
  simp

end Skeleton

end Java

end JavaAtlas

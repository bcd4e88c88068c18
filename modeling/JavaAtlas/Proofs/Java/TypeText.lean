import Mathlib.Data.List.Chain
import JavaAtlas.Proofs.Java.Skeleton
import JavaAtlas.Proofs.Pattern.Scan
import JavaAtlas.Proofs.Text.Codec

/-!
# Texts of types

What the written form of a type looks like: which characters stand in it, which of them follow
which, and how it begins and ends. This decides where the shape of a type stops, where a list of
types is cut, and which bare name a type has.
-/

namespace JavaAtlas

namespace Java

open Pattern

section Decidable

variable (p : Char → Prop) [DecidablePred p]

-- A statement about the characters of a text is decided on these alone, not on all there are.

scoped instance (priority := 1100) decidableForallMem (s : List Char) : Decidable (∀ c ∈ s, p c) :=
  List.decidableBAll p s

scoped instance (priority := 1100) decidableExistsMem (o : Option Char) : Decidable (∃ c ∈ o, p c) :=
  Option.decidableExistsMem o

end Decidable

/-! ### Identifiers -/

lemma toNat_identifierChar {c : Char} (h : isIdentifierChar c = true) :
    c.toNat = 36 ∨ 48 ≤ c.toNat ∧ c.toNat < 123 := by
  delta isIdentifierChar Char.isAlphanum Char.isAlpha Char.isUpper Char.isLower Char.isDigit at h
  simp only [Bool.or_eq_true, Bool.and_eq_true, decide_eq_true_eq, beq_iff_eq,
    UInt32.le_iff_toNat_le, ge_iff_le] at h
  have hc : c.toNat = c.val.toNat := rfl
  simp only [show 'A'.val.toNat = 65 from rfl, show 'Z'.val.toNat = 90 from rfl,
    show 'a'.val.toNat = 97 from rfl, show 'z'.val.toNat = 122 from rfl,
    show '0'.val.toNat = 48 from rfl, show '9'.val.toNat = 57 from rfl] at h
  rcases h with (h | rfl) | rfl
  · omega
  · decide
  · decide

lemma not_isBlank_identifierChar {c : Char} (h : isIdentifierChar c = true) :
    isBlank c = false := by
  have hc := toNat_identifierChar h
  simp only [isBlank, Bool.or_eq_false_iff, Bool.and_eq_false_iff, decide_eq_false_iff_not,
    beq_eq_false_iff_ne]
  omega

lemma isWordChar_identifierChar {c : Char} (h : isIdentifierChar c = true) (hc : c ≠ '$') :
    isWordChar c = true := by
  have hsmall := toNat_identifierChar h
  rw [isWordChar, if_pos (by omega)]
  simpa [isIdentifierChar, hc] using h

lemma isTypeChar_identifierChar {c : Char} (h : isIdentifierChar c = true) :
    isTypeChar c = true := by
  by_cases hc : c = '$'
  · simp [isTypeChar, hc]
  · simp [isTypeChar, isWordChar_identifierChar h hc]

lemma identifierChar_ne {c d : Char} (hc : isIdentifierChar c = true)
    (hd : isIdentifierChar d = false) : c ≠ d := by
  rintro rfl
  exact Bool.false_ne_true (hd.symm.trans hc)

/-- A text of identifier characters, not empty, that does not end in a word which opens a clause
of a header. -/
structure IsName (s : List Char) : Prop where
  ne : s ≠ []
  chars : ∀ c ∈ s, isIdentifierChar c = true
  ends : ∀ word ∈ clauseWords, ¬ word.toList <:+ s

lemma isName_of_isIdentifier {s : String} (h : isIdentifier s = true) : IsName s.toList := by
  simp only [isIdentifier, Bool.and_eq_true, Bool.not_eq_true', List.any_eq_false,
    List.isSuffixOf_iff_suffix, List.all_eq_true] at h
  obtain ⟨⟨⟨hfirst, hchars⟩, -⟩, hends⟩ := h
  refine ⟨?_, hchars, hends⟩
  intro hnil
  simp [hnil] at hfirst

lemma Identifier.isName (x : Identifier) : IsName x.text.toList := isName_of_isIdentifier x.valid

lemma TypeHead.isName (x : TypeHead) : IsName x.text.toList := by
  rcases Bool.or_eq_true _ _ |>.mp x.valid with h | h
  · exact isName_of_isIdentifier h
  · have hall : ∀ w ∈ primitiveTypes, w.toList ≠ [] ∧ (∀ c ∈ w.toList, isIdentifierChar c = true) ∧
        ∀ word ∈ clauseWords, ¬ word.toList <:+ w.toList := by decide
    obtain ⟨hne, hchars, hends⟩ := hall x.text (by simpa using h)
    exact ⟨hne, hchars, hends⟩

lemma TypeHead.not_mem {words : List String} (x : TypeHead)
    (h : ∀ w ∈ words, w ∈ reservedWords ++ contextualWords ∧ w ∉ primitiveTypes) :
    x.text ∉ words := by
  intro hmem
  obtain ⟨hreserved, hprimitive⟩ := h _ hmem
  have hvalid := x.valid
  simp only [isIdentifier, Bool.or_eq_true, Bool.and_eq_true, Bool.not_eq_true',
    List.contains_eq_mem, decide_eq_true_eq, decide_eq_false_iff_not] at hvalid
  rcases hvalid with h | h
  · exact h.1.2 hreserved
  · exact hprimitive h

lemma Identifier.not_mem {words : List String} (x : Identifier)
    (h : ∀ w ∈ words, w ∈ reservedWords ++ contextualWords) : x.text ∉ words := by
  intro hmem
  have hvalid := x.valid
  simp only [isIdentifier, Bool.and_eq_true, Bool.not_eq_true', List.contains_eq_mem,
    decide_eq_false_iff_not] at hvalid
  exact hvalid.1.2 (h _ hmem)

/-! ### The form of a text of types -/

/-- Which character may follow which in the text of a type: a blank stands behind a comma only, and
behind a bracket that closes there is another one, a comma or an array mark. -/
def Follows (a b : Char) : Prop :=
  (isBlank b = true → a = ',') ∧ (a = '[' → b = ']') ∧
    (a = '>' ∨ a = ']' → b = '>' ∨ b = ',' ∨ b = '[')

/-- The form of the text of one or more types. -/
structure IsTypeText (t : List Char) : Prop where
  ne : t ≠ []
  chars : ∀ c ∈ t, isIdentifierChar c = true ∨ c ∈ ['<', '>', '[', ']', ',', ' ']
  chain : t.IsChain Follows
  first : ∀ c ∈ t.head?, isIdentifierChar c = true
  last : ∀ c ∈ t.getLast?, isIdentifierChar c = true ∨ c = '>' ∨ c = ']'
  ends : ∀ word ∈ clauseWords, ¬ word.toList <:+ t

/-- What closes a type may be followed by a comma or by something that closes another type. -/
lemma follows_of_last {a b : Char} (ha : isIdentifierChar a = true ∨ a = '>' ∨ a = ']')
    (hb : b = '>' ∨ b = ',' ∨ b = '[') : Follows a b := by
  refine ⟨?_, ?_, fun _ => hb⟩
  · intro hblank
    rcases hb with rfl | rfl | rfl <;> exact absurd hblank (by decide)
  · rintro rfl
    exact absurd ha (by decide)

lemma follows_identifierChar {a b : Char} (ha : a ≠ '[' ∧ a ≠ '>' ∧ a ≠ ']')
    (hb : isIdentifierChar b = true) : Follows a b := by
  refine ⟨?_, fun h => absurd h ha.1, fun h => absurd h (by simp [ha])⟩
  intro hblank
  rw [not_isBlank_identifierChar hb] at hblank
  cases hblank

lemma isTypeText_of_isName {s : List Char} (h : IsName s) : IsTypeText s where
  ne := h.ne
  chars c hc := Or.inl (h.chars c hc)
  chain := by
    have hall := h.chars
    clear h
    induction s with
    | nil => exact .nil
    | cons a s ih =>
      refine List.isChain_cons.mpr ⟨fun b hb => ?_, ih fun c hc => hall c (List.mem_cons_of_mem _ hc)⟩
      have ha := hall a List.mem_cons_self
      have hb := hall b (List.mem_cons_of_mem _ (List.mem_of_mem_head? hb))
      exact follows_identifierChar ⟨identifierChar_ne ha (by decide),
        identifierChar_ne ha (by decide), identifierChar_ne ha (by decide)⟩ hb
  first c hc := h.chars c (List.mem_of_mem_head? hc)
  last c hc := Or.inl (h.chars c (List.mem_of_mem_getLast? hc))
  ends := h.ends

lemma ends_of_getLast? {t : List Char} {c : Char} (ht : t.getLast? = some c) (hc : c ≠ 's') :
    ∀ word ∈ clauseWords, ¬ word.toList <:+ t := by
  rintro word hword ⟨a, rfl⟩
  have hall : ∀ word ∈ clauseWords, word.toList.getLast? = some 's' := by decide
  have hlast := hall word hword
  rw [List.getLast?_append, hlast] at ht
  exact hc (Option.some.inj ht).symm

lemma IsTypeText.join {s t : List Char} (hs : IsTypeText s) (ht : IsTypeText t) :
    IsTypeText (s ++ ',' :: ' ' :: t) where
  ne := by simp
  chars c hc := by
    rcases List.mem_append.mp hc with hc | hc
    · exact hs.chars c hc
    · simp only [List.mem_cons] at hc
      rcases hc with rfl | rfl | hc
      · exact Or.inr (by decide)
      · exact Or.inr (by decide)
      · exact ht.chars c hc
  chain := by
    refine List.isChain_append.mpr ⟨hs.chain, ?_, ?_⟩
    · refine List.isChain_cons.mpr ⟨?_, List.isChain_cons.mpr ⟨?_, ht.chain⟩⟩
      · intro b hb
        cases hb
        exact ⟨fun _ => rfl, by decide, by decide⟩
      · intro b hb
        exact follows_identifierChar (by decide) (ht.first b hb)
    · intro a ha b hb
      cases hb
      exact follows_of_last (hs.last a ha) (by simp)
  first c hc := by
    rw [List.head?_append_of_ne_nil _ hs.ne] at hc
    exact hs.first c hc
  last c hc := by
    rw [List.getLast?_append_of_ne_nil _ (by simp), List.getLast?_cons_of_ne_nil (by simp),
      List.getLast?_cons_of_ne_nil ht.ne] at hc
    exact ht.last c hc
  ends word hword hsuffix := by
    have hall : ∀ word ∈ clauseWords, ' ' ∉ word.toList := by decide
    have hspace := hall word hword
    have htail : ' ' :: t <:+ s ++ ',' :: ' ' :: t := ⟨s ++ [','], by simp⟩
    rcases List.suffix_or_suffix_of_suffix hsuffix htail with h | h
    · rcases List.suffix_cons_iff.mp h with h | h
      · exact hspace (by simp [h])
      · exact ht.ends word hword h
    · exact hspace (h.subset List.mem_cons_self)

lemma intercalate_cons (sep s : List Char) {ts : List (List Char)} (h : ts ≠ []) :
    sep.intercalate (s :: ts) = s ++ (sep ++ sep.intercalate ts) := by
  obtain ⟨t, ts, rfl⟩ := List.exists_cons_of_ne_nil h
  simp [List.intercalate]

lemma commaSeparated_cons (s : List Char) {ts : List (List Char)} (h : ts ≠ []) :
    commaSeparated (s :: ts) = s ++ ',' :: ' ' :: commaSeparated ts :=
  intercalate_cons [',', ' '] s h

lemma isTypeText_commaSeparated {ts : List (List Char)} (hne : ts ≠ [])
    (h : ∀ t ∈ ts, IsTypeText t) : IsTypeText (commaSeparated ts) := by
  induction ts with
  | nil => exact absurd rfl hne
  | cons s ts ih =>
    have hs := h s List.mem_cons_self
    by_cases hts : ts = []
    · subst hts
      simpa [commaSeparated, List.intercalate] using hs
    · rw [commaSeparated_cons s hts]
      exact hs.join (ih hts fun t ht => h t (List.mem_cons_of_mem _ ht))

lemma IsTypeText.angles {s t : List Char} (hs : IsName s) (ht : IsTypeText t) :
    IsTypeText (s ++ '<' :: (t ++ ['>'])) where
  ne := by simp
  chars c hc := by
    simp only [List.mem_append, List.mem_cons, List.not_mem_nil, or_false] at hc
    rcases hc with hc | rfl | hc | rfl
    · exact Or.inl (hs.chars c hc)
    · exact Or.inr (by decide)
    · exact ht.chars c hc
    · exact Or.inr (by decide)
  chain := by
    refine List.isChain_append.mpr ⟨(isTypeText_of_isName hs).chain, ?_, ?_⟩
    · refine List.isChain_cons.mpr ⟨?_, List.isChain_append.mpr ⟨ht.chain, by simp, ?_⟩⟩
      · intro b hb
        rw [List.head?_append_of_ne_nil _ ht.ne] at hb
        exact follows_identifierChar (by decide) (ht.first b hb)
      · intro a ha b hb
        cases hb
        exact follows_of_last (ht.last a ha) (by simp)
    · intro a ha b hb
      cases hb
      have ha := hs.chars a (List.mem_of_mem_getLast? ha)
      refine ⟨fun h => absurd h (by decide), fun h => ?_, fun h => ?_⟩
      · exact absurd h (identifierChar_ne ha (by decide))
      · exact absurd h (by simp [identifierChar_ne ha (show isIdentifierChar '>' = false by decide),
          identifierChar_ne ha (show isIdentifierChar ']' = false by decide)])
  first c hc := by
    rw [List.head?_append_of_ne_nil _ hs.ne] at hc
    exact hs.chars c (List.mem_of_mem_head? hc)
  last c hc := by
    rw [← List.cons_append, ← List.append_assoc, List.getLast?_concat] at hc
    cases hc
    simp
  ends := by
    rw [← List.cons_append, ← List.append_assoc]
    exact ends_of_getLast? List.getLast?_concat (by decide)

lemma IsTypeText.mark {s : List Char} (hs : IsTypeText s) : IsTypeText (s ++ ['[', ']']) where
  ne := by simp
  chars c hc := by
    rcases List.mem_append.mp hc with hc | hc
    · exact hs.chars c hc
    · have hall : ∀ c ∈ ['[', ']'], c ∈ ['<', '>', '[', ']', ',', ' '] := by decide
      exact Or.inr (hall c hc)
  chain := by
    refine List.isChain_append.mpr ⟨hs.chain, ?_, ?_⟩
    · refine List.isChain_cons.mpr ⟨?_, by simp⟩
      intro b hb
      cases hb
      exact ⟨by decide, fun _ => rfl, by decide⟩
    · intro a ha b hb
      cases hb
      exact follows_of_last (hs.last a ha) (by simp)
  first c hc := by
    rw [List.head?_append_of_ne_nil _ hs.ne] at hc
    exact hs.first c hc
  last c hc := by
    rw [List.getLast?_append] at hc
    cases hc
    simp
  ends := ends_of_getLast? List.getLast?_append (by decide)

lemma IsTypeText.marks {s : List Char} (hs : IsTypeText s) (dims : Nat) :
    IsTypeText (s ++ arrayMarks dims) := by
  induction dims generalizing s with
  | zero => simpa [arrayMarks] using hs
  | succ dims ih => simpa [arrayMarks, List.replicate_succ] using ih hs.mark

namespace TypeRef

/-- The name of a type is a word of the language only if it is a primitive type. -/
lemma headName_not_mem {words : List String} (t : TypeRef)
    (h : ∀ w ∈ words, w ∈ reservedWords ++ contextualWords ∧ w ∉ primitiveTypes) :
    t.headName ∉ words := by
  obtain ⟨head, args, dims⟩ := t
  exact head.not_mem h

lemma isName_headName (t : TypeRef) : IsName t.headName.toList := by
  obtain ⟨head, args, dims⟩ := t
  exact head.isName

lemma texts_eq_map (ts : List TypeRef) : texts ts = ts.map text := by
  induction ts with
  | nil => rfl
  | cons t ts ih => rw [texts, ih, List.map_cons]

/-- What holds of a type if it holds of its arguments holds of every type. -/
theorem induction_args {P : TypeRef → Prop}
    (h : ∀ head args dims, (∀ a ∈ args, P a) → P (.mk head args dims)) : ∀ t, P t
  | .mk head args dims => h head args dims fun a _ => induction_args h a

lemma isTypeText (t : TypeRef) : IsTypeText t.text := by
  induction t using induction_args with
  | h head args dims ih =>
    rw [text, texts_eq_map, ← List.append_assoc]
    refine IsTypeText.marks ?_ dims
    rw [inAngles]
    split
    · simpa using isTypeText_of_isName head.isName
    · next hargs =>
      refine .angles head.isName (isTypeText_commaSeparated (by simpa using hargs) ?_)
      intro s hs
      obtain ⟨a, ha, rfl⟩ := List.mem_map.mp hs
      exact ih a ha

/-- Behind the name of a type there are arguments, an array mark or the blank behind the type. -/
lemma exists_behind_head (t : TypeRef) (s : List Char) :
    ∃ c ∈ ['<', '[', ' '], ∃ s', t.text ++ ' ' :: s = t.headName.toList ++ c :: s' := by
  obtain ⟨head, args, dims⟩ := t
  rw [text, inAngles, headName]
  split
  · match dims with
    | 0 => exact ⟨' ', by simp, s, by simp [arrayMarks]⟩
    | dims + 1 =>
      exact ⟨'[', by simp, ']' :: (arrayMarks dims ++ ' ' :: s),
        by simp [arrayMarks, List.replicate_succ]⟩
  · exact ⟨'<', by simp, commaSeparated (texts args) ++ '>' :: (arrayMarks dims ++ ' ' :: s),
      by simp⟩

/-- A written list of types has the form of the text of types. -/
lemma isTypeText_texts {ts : List TypeRef} (h : texts ts ≠ []) :
    IsTypeText (commaSeparated (texts ts)) := by
  refine isTypeText_commaSeparated h ?_
  rw [texts_eq_map]
  intro s hs
  obtain ⟨t, -, rfl⟩ := List.mem_map.mp hs
  exact t.isTypeText

lemma head?_text (t : TypeRef) (s : List Char) :
    ∀ c ∈ (t.text ++ s).head?, isIdentifierChar c = true := by
  intro c hc
  rw [List.head?_append_of_ne_nil _ t.isTypeText.ne] at hc
  exact t.isTypeText.first c hc

end TypeRef

/-! ### The shape of a type -/

def BlankNext (s : List Char) : Prop := ∃ c ∈ s.head?, isBlank c = true

/-- Nothing but array and varargs marks comes before the next blank. -/
def Closed (s : List Char) : Prop :=
  ∃ w t, s = w ++ t ∧ (∀ c ∈ w, isBlank c = true ∨ c ∈ ['[', ']', '.']) ∧ BlankNext t

lemma Closed.cons {c : Char} {s : List Char} (h : Closed (c :: s)) (hc : isBlank c = false) :
    c ∈ ['[', ']', '.'] ∧ Closed s := by
  obtain ⟨w, t, hst, hw, hblank⟩ := h
  match w with
  | [] =>
    subst hst
    obtain ⟨d, hd, hblank⟩ := hblank
    cases hd
    rw [hc] at hblank
    cases hblank
  | d :: w =>
    cases hst
    refine ⟨(hw c List.mem_cons_self).resolve_left (by simp [hc]), w, t, rfl, ?_, hblank⟩
    exact fun e he => hw e (List.mem_cons_of_mem _ he)

/-- Behind a bracket inside of a type, something else is to come before the next blank. -/
lemma not_closed {a : Char} {x y : List Char} (ha : a = '>' ∨ a = ']' ∨ a = '[')
    (hchain : (a :: (x ++ ['>'])).IsChain Follows) : ¬ Closed (x ++ '>' :: y) := by
  induction x generalizing a with
  | nil =>
    intro h
    exact absurd (h.cons (by decide)).1 (by decide)
  | cons b x ih =>
    intro h
    rw [List.cons_append, List.isChain_cons] at hchain
    have hab : Follows a b := hchain.1 b rfl
    have hb : b = '>' ∨ b = ',' ∨ b = '[' ∨ b = ']' := by
      rcases ha with rfl | rfl | rfl
      · have := hab.2.2 (by simp); tauto
      · have := hab.2.2 (by simp); tauto
      · have := hab.2.1 rfl; tauto
    have hnotBlank : isBlank b = false := by rcases hb with rfl | rfl | rfl | rfl <;> decide
    obtain ⟨hmem, hclosed⟩ := h.cons hnotBlank
    refine ih ?_ hchain.2 hclosed
    rcases hb with rfl | rfl | rfl | rfl
    · exact absurd hmem (by decide)
    · exact absurd hmem (by decide)
    · simp
    · simp

lemma balks_blanks_char {κ : Type} {q : Pattern κ} {good : List Char → Prop} {c : Char}
    {r : List Char} (hc : isBlank c = false) (hr : ∀ d ∈ (r.dropWhile isBlank).head?, d ≠ c) :
    Balks (.seq blanks (.seq (char c) q)) good r := by
  intro cur next hcur hleads
  cases hleads with
  | seq hblanks hrest => cases hrest with
    | seq hchar _ => cases hblanks with
      | greedy hskips =>
        obtain ⟨taken, htaken, -, -, hall⟩ := hskips.covers
        rw [hchar.char] at htaken
        refine absurd rfl (hr c ?_)
        rw [← hcur, htaken, List.dropWhile_append_of_pos hall]
        simp [hc]

section Shape

variable {κ : Type} {size : Nat} {good : List Char → Prop} {r : List Char}

/-- The part of the shape of a type that takes generic arguments. -/
def genericsShape : Pattern κ :=
  inOrder [blanks, char '<', .lazy fun c => !";=()\x7b\x7d".toList.contains c, char '>']

/-- The part of the shape of a type that takes array marks. -/
def marksShape : Pattern κ := .many (inOrder [blanks, char '[', blanks, char ']'])

lemma typeShape_eq : (typeShape : Pattern κ) = .seq (greedy1 isTypeChar)
    (.seq (maybe genericsShape) (.seq marksShape (maybe (text "...")))) := rfl

lemma takes_genericsShape {t : List Char} (ht : IsTypeText t) :
    Takes size (genericsShape : Pattern κ) Closed ('<' :: (t ++ ['>'])) r [] := by
  have hblanks : Takes size (blanks : Pattern κ) anything [] ('<' :: (t ++ ['>']) ++ r) [] :=
    takes_greedy_none (by simp; decide)
  have hopen : Takes size (char '<' : Pattern κ) anything ['<'] (t ++ ['>'] ++ r) [] :=
    takes_one (by decide)
  have hclose : Takes size (char '>' : Pattern κ) Closed ['>'] r [] := takes_one (by decide)
  -- the arguments end at the bracket behind which the type is closed
  have hargs : Takes size (.lazy fun c => !";=()\x7b\x7d".toList.contains c : Pattern κ)
      (fun s => ∃ s', s = '>' :: s' ∧ Closed s') t (['>'] ++ r) [] := by
    refine takes_lazy ?_ ?_
    · intro c hc
      rcases ht.chars c hc with h | h
      · have hall : ∀ d ∈ ";=()\x7b\x7d".toList, isIdentifierChar d = false := by decide
        simpa using fun hmem => identifierChar_ne h (hall c hmem) rfl
      · have hall : ∀ c ∈ ['<', '>', '[', ']', ',', ' '],
            (!";=()\x7b\x7d".toList.contains c) = true := by decide
        exact hall c h
    · rintro s ⟨a, ha⟩ hne ⟨s', hs', hclosed⟩
      have hchain : (t ++ ['>']).IsChain Follows := by
        refine List.isChain_append.mpr ⟨ht.chain, by simp, ?_⟩
        intro c hc d hd
        cases hd
        exact follows_of_last (ht.last c hc) (by simp)
      match s with
      | c :: s =>
        cases hs'
        rw [← ha, List.append_assoc, List.isChain_append] at hchain
        exact not_closed (Or.inl rfl) hchain.2.1 hclosed
  have hend := hargs.seq_of hclose fun cur next hleads hclosed =>
    ⟨next.rest, hleads.char, hclosed⟩
  exact hblanks.seq (hopen.seq hend)

lemma takes_marksShape {dims : Nat} (hdims : dims ≤ size)
    (hr : ∀ d ∈ (r.dropWhile isBlank).head?, d ≠ '[') :
    Takes size (marksShape : Pattern κ) good (arrayMarks dims) r [] := by
  refine takes_many (by simpa using hdims) ?_ (balks_blanks_char (by decide) hr)
  intro s rest hs
  have hmem : s ∈ List.replicate dims ['[', ']'] := hs.subset List.mem_cons_self
  obtain rfl := List.eq_of_mem_replicate hmem
  refine ⟨by simp, ?_⟩
  exact (takes_greedy_none (by simp; decide)).seq ((takes_one (by decide)).seq
    ((takes_greedy_none (by simp; decide)).seq (takes_one (by decide))))

/-- What comes before the blank behind the generic arguments of a type. -/
lemma closed_of_leads {cur next : Cursor κ}
    (h : Leads (.seq marksShape (maybe (text "..."))) cur next) (hblank : BlankNext next.rest) :
    Closed cur.rest := by
  have hwithin : Within (fun c => isBlank c = true ∨ c ∈ ['[', ']', '.'])
      (.seq marksShape (maybe (text "...")) : Pattern κ) := by
    refine ⟨⟨fun c hc => Or.inl hc, ?_, fun c hc => Or.inl hc, ?_⟩, ?_, trivial⟩
    · exact within_char (by simp)
    · exact within_char (by simp)
    · exact within_text (by decide)
  obtain ⟨taken, htaken, hall⟩ := h.within hwithin
  exact ⟨taken, next.rest, htaken, hall, hblank⟩

lemma takes_maybe_genericsShape (args : List TypeRef) {s : List Char}
    (hs : ∀ d ∈ ((s ++ r).dropWhile isBlank).head?, d ≠ '<')
    (htail : Takes size (.seq marksShape (maybe (text "...")) : Pattern κ) BlankNext s r []) :
    Takes size (.seq (maybe genericsShape) (.seq marksShape (maybe (text "..."))) : Pattern κ)
      BlankNext (inAngles (TypeRef.texts args) ++ s) r [] := by
  rw [inAngles]
  split
  · exact (takes_maybe_not (balks_blanks_char (by decide) hs)).seq htail
  · next hargs =>
    have htypes := TypeRef.isTypeText_texts (by simpa using hargs)
    exact (Takes.first (takes_genericsShape htypes)).seq_of htail fun _ _ => closed_of_leads

/-- The shape of a type takes a type up to the blank behind it. -/
lemma takes_typeShape (t : TypeRef) {d : Char} (hsize : t.text.length ≤ size)
    (hd : isIdentifierChar d = true) :
    Takes size (typeShape : Pattern κ) BlankNext t.text (' ' :: d :: r) [] := by
  obtain ⟨head, args, dims⟩ := t
  have hd' := not_isBlank_identifierChar hd
  have hspace : isBlank ' ' = true := by decide
  rw [TypeRef.text] at hsize ⊢
  have hdims : dims ≤ size := by
    have hlength : (arrayMarks dims).length = 2 * dims := by simp [arrayMarks, Nat.mul_comm]
    simp only [List.length_append] at hsize
    omega
  have hdots : Takes size (maybe (text "...") : Pattern κ) BlankNext [] (' ' :: d :: r) [] := by
    refine takes_maybe_not fun cur next hcur hleads => ?_
    have h := hleads.text
    rw [hcur] at h
    cases h
  have hmarks : Takes size (marksShape : Pattern κ) anything (arrayMarks dims) (' ' :: d :: r)
      [] := by
    refine takes_marksShape hdims ?_
    simp [hspace, hd', identifierChar_ne hd (show isIdentifierChar '[' = false by decide)]
  have htail := takes_maybe_genericsShape args (by
    match dims with
    | 0 =>
      have hne := identifierChar_ne hd (show isIdentifierChar '<' = false by decide)
      simp [arrayMarks, hspace, hd', hne]
    | dims + 1 =>
      have hopen : isBlank '[' = false := by decide
      simp [arrayMarks, List.replicate_succ, hopen]) (hmarks.seq hdots)
  have hname := head.isName
  have hnext : ∀ c ∈ (inAngles (TypeRef.texts args) ++ (arrayMarks dims ++ []) ++
      (' ' :: d :: r)).head?, isTypeChar c = false := by
    obtain ⟨c, hc, s, hs⟩ := TypeRef.exists_behind_head (.mk head args dims) (d :: r)
    rw [TypeRef.text, List.append_assoc] at hs
    have hall : ∀ c ∈ ['<', '[', ' '], isTypeChar c = false := by decide
    rw [List.append_nil, List.append_cancel_left hs]
    simpa using hall c hc
  have hhead : Takes size (greedy1 isTypeChar : Pattern κ) anything head.text.toList _ [] :=
    takes_greedy1 hname.ne (fun c hc => isTypeChar_identifierChar (hname.chars c hc)) hnext
  have hall := hhead.seq htail
  rw [List.append_nil] at hall
  exact hall

lemma blankNext_of_leads {q : Pattern κ} {cur next : Cursor κ}
    (h : Leads (.seq blanks1 q) cur next) : BlankNext cur.rest := by
  cases h with
  | seq hblanks _ =>
    obtain ⟨taken, hne, hall, htaken⟩ := hblanks.greedy1
    obtain ⟨c, taken, rfl⟩ := List.exists_cons_of_ne_nil hne
    exact ⟨c, by simp [htaken], hall c List.mem_cons_self⟩

/-- A name without dollar signs is taken as a word. -/
lemma IsName.takes_word {name : List Char} (h : IsName name) (hplain : '$' ∉ name)
    (hr : ∀ c ∈ r.head?, isWordChar c = false) :
    Takes size (word : Pattern κ) good name r [] := by
  refine takes_greedy1 h.ne (fun c hc => ?_) hr
  exact isWordChar_identifierChar (h.chars c hc) fun heq => hplain (heq ▸ hc)

lemma IsName.head? {name : List Char} (h : IsName name) (t : List Char) :
    ∀ c ∈ (name ++ t).head?, isIdentifierChar c = true := by
  intro c hc
  rw [List.head?_append_of_ne_nil _ h.ne] at hc
  exact h.chars c (List.mem_of_mem_head? hc)

/-- A type and a name with a space between them, each a marked part, and what follows them. -/
lemma takes_typeAndName (t : TypeRef) {name s : List Char} {q : Pattern κ} {ms : List (Mark κ)}
    (type nameOf : κ) (hsize : t.text.length ≤ size) (hname : IsName name) (hplain : '$' ∉ name)
    (hnext : ∀ c ∈ (s ++ r).head?, isWordChar c = false) (hq : Takes size q anything s r ms) :
    Takes size (.seq (.part type typeShape) (.seq blanks1 (.seq (.part nameOf word) q))) anything
      (t.text ++ (' ' :: (name ++ s))) r
      (ms.map (Mark.after (t.text ++ ' ' :: name)) ++
        [⟨nameOf, t.text ++ [' '], name⟩, ⟨type, [], t.text⟩]) := by
  have hword : Takes size (word : Pattern κ) anything name (s ++ r) [] :=
    hname.takes_word hplain hnext
  obtain ⟨d, tail, hd⟩ := List.exists_cons_of_ne_nil hname.ne
  have hfirst : isIdentifierChar d = true := hname.chars d (by simp [hd])
  have hblanks : Takes size (blanks1 : Pattern κ) anything [' '] (name ++ s ++ r) [] := by
    refine takes_greedy1 (by simp) (by decide) ?_
    simpa [hd] using not_isBlank_identifierChar hfirst
  have htype : Takes size (typeShape : Pattern κ) BlankNext t.text (' ' :: (name ++ s) ++ r) [] := by
    rw [hd]
    exact takes_typeShape t hsize hfirst
  have hall := (htype.part type).seq_of (hblanks.seq ((hword.part nameOf).seq hq))
    fun _ _ hleads _ => blankNext_of_leads hleads
  have hafter : Mark.after (t.text ++ ' ' :: name) = fun m : Mark κ =>
      ⟨m.label, t.text ++ ' ' :: (name ++ m.lead), m.text⟩ := by
    funext m
    simp [Mark.after]
  simpa [Mark.after, Function.comp_def, hafter] using hall

end Shape

end Java

end JavaAtlas

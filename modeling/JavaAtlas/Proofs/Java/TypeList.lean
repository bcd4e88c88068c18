import JavaAtlas.Proofs.Java.TypeText
import JavaAtlas.Proofs.Text.Words

/-!
# Lists of types and parameters

A list of types or parameters that is written with commas is cut into exactly its entries, since
the commas inside of a type stand in brackets. The entries give back the bare names of the types
and the names of the parameters.
-/

namespace JavaAtlas

namespace Java

open Pattern

/-! ### Blanks -/

/-- A text whose blanks are single spaces between other characters. -/
structure IsSpaced (s : List Char) : Prop where
  blanks : ∀ c ∈ s, isBlank c = true → c = ' '
  chain : s.IsChain fun a b => isBlank a = true → isBlank b = false
  first : ∀ c ∈ s.head?, isBlank c = false
  last : ∀ c ∈ s.getLast?, isBlank c = false

/-- Joining the words of a text gives it back, also if a word is being read in front of it. -/
lemma intercalate_wordsFrom {word s : List Char}
    (hblanks : ∀ c ∈ s, isBlank c = true → c = ' ')
    (hchain : s.IsChain fun a b => isBlank a = true → isBlank b = false)
    (hfirst : word = [] → ∀ c ∈ s.head?, isBlank c = false)
    (hlast : ∀ c ∈ s.getLast?, isBlank c = false) :
    [' '].intercalate (Text.wordsFrom word s) = word.reverse ++ s := by
  induction s generalizing word with
  | nil => cases word <;> simp [Text.wordsFrom, List.intercalate]
  | cons c s ih =>
    obtain ⟨hnext, hchain⟩ := List.isChain_cons.mp hchain
    have hblanks' : ∀ d ∈ s, isBlank d = true → d = ' ' :=
      fun d hd => hblanks d (List.mem_cons_of_mem _ hd)
    have hlast' : ∀ d ∈ s.getLast?, isBlank d = false := by
      intro d hd
      refine hlast d ?_
      rwa [List.getLast?_cons_of_ne_nil (by rintro rfl; cases hd)]
    by_cases hc : isBlank c = true
    · -- a word ends here, and another one begins behind the blank
      have hword : word ≠ [] := by
        intro hnil
        have := hfirst hnil c rfl
        simp [hc] at this
      have hs : [' '].intercalate (Text.wordsFrom [] s) = s :=
        ih hblanks' hchain (fun _ d hd => hnext d hd hc) hlast'
      have hmore : Text.wordsFrom [] s ≠ [] := by
        intro hnil
        rw [hnil] at hs
        have := hlast c (by rw [← hs]; rfl)
        simp [hc] at this
      rw [Text.wordsFrom, if_pos hc, if_neg (by simpa using hword), intercalate_cons _ _ hmore, hs,
        hblanks c List.mem_cons_self hc]
      rfl
    · have hs : [' '].intercalate (Text.wordsFrom (c :: word) s) = (c :: word).reverse ++ s :=
        ih hblanks' hchain (by simp) hlast'
      rw [Text.wordsFrom, if_neg hc, hs]
      simp

lemma IsSpaced.intercalate_words {s : List Char} (h : IsSpaced s) :
    [' '].intercalate (Text.words s) = s :=
  intercalate_wordsFrom h.blanks h.chain (fun _ => h.first) h.last

/-! ### Cutting a list -/

/-- A text that is not cut, in whatever brackets it stands. -/
def Uncut (s : List Char) : Prop := ∀ depth current rest,
  splitFrom [','] depth current (s ++ rest) = splitFrom [','] depth (s.reverse ++ current) rest

/-- A text that is not cut inside of brackets. -/
def UncutInside (s : List Char) : Prop := ∀ depth current rest,
  splitFrom [','] (depth + 1) current (s ++ rest) =
    splitFrom [','] (depth + 1) (s.reverse ++ current) rest

lemma Uncut.inside {s : List Char} (h : Uncut s) : UncutInside s := fun depth => h (depth + 1)

lemma Uncut.append {s t : List Char} (hs : Uncut s) (ht : Uncut t) : Uncut (s ++ t) := by
  intro depth current rest
  rw [List.append_assoc, hs, ht, List.reverse_append, List.append_assoc]

lemma UncutInside.append {s t : List Char} (hs : UncutInside s) (ht : UncutInside t) :
    UncutInside (s ++ t) := by
  intro depth current rest
  rw [List.append_assoc, hs, ht, List.reverse_append, List.append_assoc]

lemma uncut_char {c : Char} (ho : isOpening c = false) (hc : isClosing c = false) (hne : c ≠ ',') :
    Uncut [c] := by
  intro depth current rest
  simp [splitFrom, ho, hc, hne]

lemma uncut_of_forall {s : List Char} (h : ∀ c ∈ s, Uncut [c]) : Uncut s := by
  induction s with
  | nil =>
    intro depth current rest
    rfl
  | cons c s ih =>
    exact Uncut.append (h c List.mem_cons_self) (ih fun d hd => h d (List.mem_cons_of_mem _ hd))

lemma uncutInside_comma : UncutInside [','] := by
  intro depth current rest
  have ho : isOpening ',' = false := by decide
  have hc : isClosing ',' = false := by decide
  simp [splitFrom, ho, hc]

/-- What stands in brackets is not cut. -/
lemma UncutInside.brackets {s : List Char} {a b : Char} (hs : UncutInside s)
    (ha : isOpening a = true) (hb : isOpening b = false) (hb' : isClosing b = true) :
    Uncut (a :: (s ++ [b])) := by
  intro depth current rest
  have hopen : splitFrom [','] depth current (a :: (s ++ (b :: rest))) =
      splitFrom [','] (depth + 1) (a :: current) (s ++ (b :: rest)) := by
    rw [splitFrom, if_pos ha]
  have hclose : splitFrom [','] (depth + 1) (s.reverse ++ a :: current) (b :: rest) =
      splitFrom [','] depth (b :: (s.reverse ++ a :: current)) rest := by
    simp [splitFrom, hb, hb']
  simp only [List.cons_append, List.append_assoc, List.nil_append]
  rw [hopen, hs, hclose]
  simp

lemma uncut_identifierChar {c : Char} (h : isIdentifierChar c = true) : Uncut [c] := by
  have hne : ∀ d, isIdentifierChar d = false → c ≠ d := fun d hd => identifierChar_ne h hd
  refine uncut_char ?_ ?_ (hne _ (by decide))
  · simp only [isOpening, Bool.or_eq_false_iff, beq_eq_false_iff_ne]
    exact ⟨⟨⟨hne _ (by decide), hne _ (by decide)⟩, hne _ (by decide)⟩, hne _ (by decide)⟩
  · simp only [isClosing, Bool.or_eq_false_iff, beq_eq_false_iff_ne]
    exact ⟨⟨⟨hne _ (by decide), hne _ (by decide)⟩, hne _ (by decide)⟩, hne _ (by decide)⟩

lemma uncut_name {s : List Char} (h : IsName s) : Uncut s :=
  uncut_of_forall fun c hc => uncut_identifierChar (h.chars c hc)

lemma uncut_space : Uncut [' '] := uncut_char (by decide) (by decide) (by decide)

lemma uncut_arrayMarks (dims : Nat) : Uncut (arrayMarks dims) := by
  induction dims with
  | zero =>
    intro depth current rest
    rfl
  | succ dims ih =>
    have hmark : Uncut ['[', ']'] :=
      UncutInside.brackets (s := []) (fun _ _ _ => rfl) (by decide) (by decide) (by decide)
    rw [arrayMarks, List.replicate_succ, List.flatten_cons]
    exact hmark.append ih

lemma uncutInside_commaSeparated {ts : List (List Char)} (h : ∀ t ∈ ts, Uncut t) :
    UncutInside (commaSeparated ts) := by
  induction ts with
  | nil =>
    intro depth current rest
    rfl
  | cons s ts ih =>
    have hs := h s List.mem_cons_self
    by_cases hts : ts = []
    · subst hts
      simpa [commaSeparated, List.intercalate] using hs.inside
    · rw [commaSeparated_cons s hts]
      have hrest := ih fun t ht => h t (List.mem_cons_of_mem _ ht)
      exact hs.inside.append (uncutInside_comma.append (uncut_space.inside.append hrest))

lemma TypeRef.uncut (t : TypeRef) : Uncut t.text := by
  induction t using TypeRef.induction_args with
  | h head args dims ih =>
    rw [TypeRef.text, TypeRef.texts_eq_map]
    refine (uncut_name head.isName).append (Uncut.append ?_ (uncut_arrayMarks dims))
    rw [inAngles]
    split
    · intro depth current rest
      rfl
    · refine UncutInside.brackets (uncutInside_commaSeparated ?_) (by decide) (by decide) (by decide)
      intro s hs
      obtain ⟨a, ha, rfl⟩ := List.mem_map.mp hs
      exact ih a ha

lemma splitFrom_commaSeparated {s current : List Char} {ts : List (List Char)}
    (h : ∀ t ∈ s :: ts, Uncut t ∧ Text.allBlank t = false) :
    splitFrom [','] 0 current (commaSeparated (s :: ts)) =
      (current.reverse ++ s) :: ts.map (' ' :: ·) := by
  obtain ⟨hs, hblank⟩ := h s List.mem_cons_self
  induction ts generalizing s current with
  | nil =>
    have hnotBlank : Text.allBlank (s.reverse ++ current) = false := by
      simp only [Text.allBlank, List.all_append, List.all_reverse] at hblank ⊢
      rw [hblank, Bool.false_and]
    have hone : commaSeparated [s] = s ++ [] := by simp [commaSeparated, List.intercalate]
    rw [hone, hs, splitFrom, hnotBlank]
    simp
  | cons t ts ih =>
    have hrest := fun u hu => h u (List.mem_cons_of_mem _ hu)
    have ho : isOpening ',' = false := by decide
    have hc : isClosing ',' = false := by decide
    have hcut : ∀ current rest, splitFrom [','] 0 current (',' :: rest) =
        current.reverse :: splitFrom [','] 0 [] rest := by simp [splitFrom, ho, hc]
    have hspace : ∀ rest, splitFrom [','] 0 [] (' ' :: rest) = splitFrom [','] 0 [' '] rest :=
      fun rest => uncut_space 0 [] rest
    obtain ⟨ht, htblank⟩ := hrest t List.mem_cons_self
    rw [commaSeparated_cons s (by simp), hs, hcut, hspace, ih hrest ht htblank]
    simp

/-- A list written with commas is cut into its entries, up to the space in front of them. -/
lemma map_splitTopLevel {β : Type} {f : List Char → β} {ts : List (List Char)}
    (hf : ∀ t, f (' ' :: t) = f t) (h : ∀ t ∈ ts, Uncut t ∧ Text.allBlank t = false) :
    (splitTopLevel [','] (commaSeparated ts)).map f = ts.map f := by
  match ts with
  | [] => rfl
  | s :: ts =>
    rw [splitTopLevel, splitFrom_commaSeparated h]
    simp [Function.comp_def, hf]

/-! ### Bare names -/

lemma bareTypeName_text (t : TypeRef) : bareTypeName t.text = t.headName.toList := by
  obtain ⟨head, args, dims⟩ := t
  have hname := head.isName
  have hne : ∀ c ∈ head.text.toList, ∀ d, isIdentifierChar d = false → c ≠ d :=
    fun c hc d hd => identifierChar_ne (hname.chars c hc) hd
  -- the name is kept, and nothing else before the arguments is
  have hbefore : ∀ c ∈ (inAngles (TypeRef.texts args) ++ arrayMarks dims).takeWhile (· != '<'),
      c = '[' ∨ c = ']' := by
    rw [inAngles]
    split
    · intro c hc
      have hmem : c ∈ arrayMarks dims := List.takeWhile_subset _ hc
      obtain ⟨mark, hmark, hc⟩ := List.mem_flatten.mp hmem
      rw [List.eq_of_mem_replicate hmark] at hc
      simpa using hc
    · simp
  have hplain : ((TypeRef.mk head args dims).text.takeWhile (· != '<')).filter
      (fun c => !(c == '[' || c == ']' || isBlank c)) = head.text.toList := by
    rw [TypeRef.text, List.takeWhile_append_of_pos (by simpa using fun c hc => hne c hc '<' (by decide)),
      List.filter_append, List.filter_eq_self.mpr, List.filter_eq_nil_iff.mpr, List.append_nil]
    · intro c hc
      rcases hbefore c hc with rfl | rfl <;> decide
    · intro c hc
      simp [hne c hc '[' (by decide), hne c hc ']' (by decide),
        not_isBlank_identifierChar (hname.chars c hc)]
  have hdot : head.text.toList.takeWhile (· != '.') = head.text.toList :=
    List.takeWhile_eq_self_iff.mpr (by simpa using fun c hc => hne c hc '.' (by decide))
  simp only [bareTypeName, hplain, hdot]
  rw [if_neg (by simpa using hname.ne)]
  rfl

lemma IsTypeText.not_isBlank_first {t : List Char} (h : IsTypeText t) :
    ∀ c ∈ t.head?, isBlank c = false :=
  fun c hc => not_isBlank_identifierChar (h.first c hc)

lemma IsTypeText.not_isBlank_last {t : List Char} (h : IsTypeText t) :
    ∀ c ∈ t.getLast?, isBlank c = false := by
  intro c hc
  rcases h.last c hc with hc | rfl | rfl
  · exact not_isBlank_identifierChar hc
  · decide
  · decide

lemma not_allBlank_of_head? {s : List Char} (hne : s ≠ []) (h : ∀ c ∈ s.head?, isBlank c = false) :
    Text.allBlank s = false := by
  obtain ⟨c, s, rfl⟩ := List.exists_cons_of_ne_nil hne
  simp [Text.allBlank, h c rfl]

/-- A written list of types names its types. -/
lemma bareTypeNames_text (ts : List TypeRef) :
    bareTypeNames (commaSeparated (TypeRef.texts ts)) = ts.map (·.headName.toList) := by
  rw [bareTypeNames, TypeRef.texts_eq_map, map_splitTopLevel]
  · have hbare : ∀ t : TypeRef, bareTypeName (Text.strip t.text) = t.headName.toList := by
      intro t
      have hstripped : Text.IsStripped t.text :=
        ⟨t.isTypeText.not_isBlank_first, t.isTypeText.not_isBlank_last⟩
      rw [hstripped.strip_eq_self, bareTypeName_text]
    rw [List.map_map, List.filter_eq_self.mpr]
    · exact List.map_congr_left fun t _ => hbare t
    · intro name hname
      obtain ⟨⟨head, args, dims⟩, -, rfl⟩ := List.mem_map.mp hname
      simpa [hbare, TypeRef.headName] using head.isName.ne
  · intro t
    rw [Text.strip_space]
  · intro s hs
    obtain ⟨t, -, rfl⟩ := List.mem_map.mp hs
    exact ⟨t.uncut, not_allBlank_of_head? t.isTypeText.ne t.isTypeText.not_isBlank_first⟩

/-! ### Parameters -/

lemma IsTypeText.isSpaced {t : List Char} (h : IsTypeText t) : IsSpaced t where
  blanks c hc hblank := by
    rcases h.chars c hc with hc | hc
    · rw [not_isBlank_identifierChar hc] at hblank
      cases hblank
    · have hall : ∀ c ∈ ['<', '>', '[', ']', ',', ' '], isBlank c = true → c = ' ' := by decide
      exact hall c hc hblank
  chain := by
    refine h.chain.imp ?_
    intro a b hab ha
    by_contra hb
    obtain rfl := hab.1 (by simpa using hb)
    exact absurd ha (by decide)
  first := h.not_isBlank_first
  last := h.not_isBlank_last

lemma IsSpaced.append {s t : List Char} (hs : IsSpaced s) (ht : IsSpaced t) (hne : s ≠ [])
    (hne' : t ≠ []) : IsSpaced (s ++ ' ' :: t) where
  blanks c hc hblank := by
    rcases List.mem_append.mp hc with hc | hc
    · exact hs.blanks c hc hblank
    · rcases List.mem_cons.mp hc with rfl | hc
      · rfl
      · exact ht.blanks c hc hblank
  chain := by
    refine List.isChain_append.mpr ⟨hs.chain, List.isChain_cons.mpr ⟨?_, ht.chain⟩, ?_⟩
    · exact fun b hb _ => ht.first b hb
    · intro a ha b _ hblank
      rw [hs.last a ha] at hblank
      cases hblank
  first c hc := by
    rw [List.head?_append_of_ne_nil _ hne] at hc
    exact hs.first c hc
  last c hc := by
    rw [List.getLast?_append_of_ne_nil _ (by simp), List.getLast?_cons_of_ne_nil hne'] at hc
    exact ht.last c hc

namespace SkeletonParameter

lemma isSpaced (p : SkeletonParameter) : IsSpaced p.text :=
  p.type.isTypeText.isSpaced.append (isTypeText_of_isName p.name.isName).isSpaced
    p.type.isTypeText.ne p.name.isName.ne

lemma uncut (p : SkeletonParameter) : Uncut p.text :=
  p.type.uncut.append (uncut_space.append (uncut_name p.name.isName))

lemma takes (p : SkeletonParameter) {size : Nat} (hsize : p.text.length ≤ size)
    (hplain : '$' ∉ p.name.text.toList) :
    Takes size parameterShape anything p.text []
      [⟨.name, p.type.text ++ [' '], p.name.text.toList⟩, ⟨.type, [], p.type.text⟩] := by
  have hend : Takes size (.seq blanks .textEnd : Pattern ParameterPart) anything [] [] [] :=
    (takes_greedy_none (by simp)).seq takes_textEnd
  have hlength : p.type.text.length ≤ size := by
    rw [text, List.length_append] at hsize
    omega
  have h := takes_typeAndName p.type ParameterPart.type .name hlength p.name.isName hplain
    (by simp) hend
  rw [List.append_nil] at h
  exact h

lemma parameterOf_words (p : SkeletonParameter) (hplain : '$' ∉ p.name.text.toList) :
    parameterOf (Text.words p.text) = p.parameter := by
  have htakes := p.takes (show p.text.length ≤ (p.text ++ []).length by simp) hplain
  have hfind := find?_here htakes.hits
  rw [List.append_nil] at hfind
  rw [parameterOf]
  simp only [p.isSpaced.intercalate_words, hfind, Match.text_of htakes.inside]
  have hname : String.ofList p.name.text.toList = p.name.text := String.ofList_toList
  have htype : String.ofList (bareTypeName p.type.text) = p.type.headName := by
    rw [bareTypeName_text, String.ofList_toList]
  simp [parameter, hname, htype]

end SkeletonParameter

/-- A written list of parameters gives back the parameters. -/
lemma parametersOf_text (ps : List SkeletonParameter)
    (hplain : ∀ p ∈ ps, '$' ∉ p.name.text.toList) :
    parametersOf (commaSeparated (ps.map (·.text))) = ps.map (·.parameter) := by
  rw [parametersOf, map_splitTopLevel Text.words_space]
  · rw [List.map_map, List.filter_eq_self.mpr, List.map_map]
    · exact List.map_congr_left fun p hp => p.parameterOf_words (hplain p hp)
    · intro group hgroup
      obtain ⟨p, -, rfl⟩ := List.mem_map.mp hgroup
      have hwords := p.isSpaced.intercalate_words
      have hne : Text.words p.text ≠ [] := by
        intro hnil
        rw [hnil] at hwords
        simp [SkeletonParameter.text, List.intercalate] at hwords
      simpa using hne
  · intro s hs
    obtain ⟨p, -, rfl⟩ := List.mem_map.mp hs
    exact ⟨p.uncut, not_allBlank_of_head? (by simp [SkeletonParameter.text]) p.isSpaced.first⟩

end Java

end JavaAtlas

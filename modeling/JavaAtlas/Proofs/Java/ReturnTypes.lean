import JavaAtlas.Proofs.Java.Signatures

/-!
# Words recorded as return types

A word that is neither a method's name nor its type is looked for before the type is reduced to its
bare name. So it is never recorded as a name, and as a type exactly where the text has generic
arguments, array marks or a dot behind it.
-/

namespace JavaAtlas

namespace Java

open Pattern

variable {κ : Type}

/-! ### Characters of types -/

lemma not_isBlank_typeChar {c : Char} (h : isTypeChar c = true) : isBlank c = false := by
  simp only [isTypeChar, Bool.or_eq_true, beq_iff_eq] at h
  rcases h with (h | rfl) | rfl
  · exact Text.not_isBlank_wordChar h
  · decide
  · decide

/-- Characters that are dropped from the text of a type. -/
def isDropped (c : Char) : Bool := c == '[' || c == ']' || isBlank c

lemma typeChar_kept {c : Char} (h : isTypeChar c = true) : c ≠ '<' ∧ isDropped c = false := by
  refine ⟨?_, ?_⟩
  · rintro rfl
    exact absurd h (by decide)
  · rw [isDropped, not_isBlank_typeChar h, Bool.or_false, Bool.or_eq_false_iff]
    constructor
    · exact beq_false_of_ne (by rintro rfl; exact absurd h (by decide))
    · exact beq_false_of_ne (by rintro rfl; exact absurd h (by decide))

/-! ### The text of a type -/

def firstSegment (name : List Char) : List Char := name.takeWhile (· != '.')

/-- What makes the text of a type more than a name: blanks, and then generic arguments, array marks
or a dot. -/
def Extends (s : List Char) : Prop :=
  ∃ gap c tail, s = gap ++ c :: tail ∧ (∀ b ∈ gap, isBlank b = true) ∧ c ∈ ['<', '[', '.']

lemma firstSegment_append {name dots : List Char} (hdots : dots = [] ∨ dots.head? = some '.') :
    firstSegment (name ++ dots) = firstSegment name := by
  rw [firstSegment, firstSegment, List.takeWhile_append]
  split
  · next hall =>
    have hname : name.takeWhile (· != '.') = name :=
      (List.takeWhile_prefix _).eq_of_length hall
    rw [hname]
    rcases hdots with rfl | hdots
    · simp
    · obtain ⟨tail, rfl⟩ := List.head?_eq_some_iff.mp hdots
      simp
  · rfl

/-- What is kept of the text of a type: the characters in front of its generic arguments, without
blanks and array marks. -/
def keptName (t : List Char) : List Char :=
  (t.takeWhile (· != '<')).filter fun c => !isDropped c

lemma bareTypeName_eq (t : List Char) :
    bareTypeName t =
      if (firstSegment (keptName t)).isEmpty then Text.strip t else firstSegment (keptName t) := rfl

lemma keptName_append {s : List Char} (h : ∀ c ∈ s, c ≠ '<') (t : List Char) :
    keptName (s ++ t) = (s.filter fun c => !isDropped c) ++ keptName t := by
  rw [keptName, List.takeWhile_append_of_pos fun c hc => bne_iff_ne.mpr (h c hc),
    List.filter_append, keptName]

lemma keptName_append_of_typeChar {name : List Char} (h : ∀ c ∈ name, isTypeChar c = true)
    (t : List Char) : keptName (name ++ t) = name ++ keptName t := by
  have hall : (name.filter fun c => !isDropped c) = name :=
    List.filter_eq_self.mpr fun c hc => by simp [(typeChar_kept (h c hc)).2]
  rw [keptName_append fun c hc => (typeChar_kept (h c hc)).1, hall]

lemma keptName_append_of_dropped {s : List Char} (h : ∀ c ∈ s, isDropped c = true)
    (t : List Char) : keptName (s ++ t) = keptName t := by
  have hnone : (s.filter fun c => !isDropped c) = [] :=
    List.filter_eq_nil_iff.mpr fun c hc => by simp [h c hc]
  have hopen : ∀ c ∈ s, c ≠ '<' := by
    rintro c hc rfl
    exact absurd (h _ hc) (by decide)
  rw [keptName_append hopen, hnone, List.nil_append]

lemma covers_blanks {s : List Char} (h : Covers (blanks : Pattern κ) s) :
    ∀ b ∈ s, isBlank b = true := by
  have hwithin : Within (fun c => isBlank c = true) (blanks : Pattern κ) := fun _ hc => hc
  exact h.within hwithin

lemma covers_genericsShape {s : List Char} (h : Covers (genericsShape : Pattern κ) s) :
    ∃ gap tail, s = gap ++ '<' :: tail ∧ ∀ b ∈ gap, isBlank b = true := by
  obtain ⟨gap, s₁, rfl, hgap, h₁⟩ := h.seq
  obtain ⟨bracket, tail, rfl, hbracket, -⟩ := h₁.seq
  obtain rfl := hbracket.char
  exact ⟨gap, tail, rfl, covers_blanks hgap⟩

lemma covers_marksShape {s : List Char} (h : Covers (marksShape : Pattern κ) s) :
    (s = [] ∨ ∃ gap tail, s = gap ++ '[' :: tail ∧ ∀ b ∈ gap, isBlank b = true) ∧
      ∀ c ∈ s, isDropped c = true := by
  have hblank : ∀ c, isBlank c = true → isDropped c = true := fun c hc => by simp [isDropped, hc]
  have hwithin : Within (fun c => isDropped c = true) (marksShape : Pattern κ) :=
    ⟨hblank, within_char (by decide), hblank, within_char (by decide)⟩
  refine ⟨?_, h.within hwithin⟩
  rcases h.many with rfl | ⟨s, t, rfl, hs⟩
  · exact Or.inl rfl
  · obtain ⟨gap, s₁, rfl, hgap, h₁⟩ := hs.seq
    obtain ⟨bracket, tail, rfl, hbracket, -⟩ := h₁.seq
    obtain rfl := hbracket.char
    exact Or.inr ⟨gap, tail ++ t, by simp, covers_blanks hgap⟩

lemma covers_text {w : String} {s : List Char} (h : Covers (text w : Pattern κ) s) :
    s = w.toList := by
  obtain ⟨cur, next, hleads, hrest, -⟩ := h
  exact List.append_cancel_right (hrest.symm.trans hleads.text)

/-- The text of a type is a name and what is said behind it, and its bare name is the first segment
of the name if there is one. -/
lemma exists_of_covers_typeShape {t : List Char} (h : Covers (typeShape : Pattern κ) t) :
    ∃ name rest, t = name ++ rest ∧ name ≠ [] ∧ (∀ c ∈ name, isTypeChar c = true) ∧
      (rest = [] ∨ Extends rest) ∧
      bareTypeName t =
        if (firstSegment name).isEmpty then Text.strip t else firstSegment name := by
  rw [typeShape_eq] at h
  obtain ⟨name, s₁, rfl, hname, h₁⟩ := h.seq
  obtain ⟨angles, s₂, rfl, hangles, h₂⟩ := h₁.seq
  obtain ⟨marks, dots, rfl, hmarks, hdots⟩ := h₂.seq
  obtain ⟨hne, hchars⟩ := covers_greedy1 hname
  obtain ⟨hmarks, hdropped⟩ := covers_marksShape hmarks
  have hdots : dots = [] ∨ dots = ['.', '.', '.'] := hdots.maybe.imp id covers_text
  refine ⟨name, angles ++ (marks ++ dots), rfl, hne, hchars, ?_, ?_⟩
  · rcases hangles.maybe with rfl | hangles
    · rcases hmarks with rfl | ⟨gap, tail, rfl, hgap⟩
      · rcases hdots with rfl | rfl
        · exact Or.inl rfl
        · exact Or.inr ⟨[], '.', ['.', '.'], rfl, by simp, by decide⟩
      · exact Or.inr ⟨gap, '[', tail ++ dots, by simp, hgap, by decide⟩
    · obtain ⟨gap, tail, rfl, hgap⟩ := covers_genericsShape hangles
      exact Or.inr ⟨gap, '<', tail ++ (marks ++ dots), by simp, hgap, by decide⟩
  · -- of what stands behind the name nothing is kept but a mark of dots
    have hkept : ∃ kept, (kept = [] ∨ kept.head? = some '.') ∧
        keptName (name ++ (angles ++ (marks ++ dots))) = name ++ kept := by
      rw [keptName_append_of_typeChar hchars]
      rcases hangles.maybe with rfl | hangles
      · refine ⟨dots, hdots.imp id fun hdots => by rw [hdots]; rfl, ?_⟩
        rw [List.nil_append, keptName_append_of_dropped hdropped]
        rcases hdots with rfl | rfl <;> rfl
      · obtain ⟨gap, tail, rfl, hgap⟩ := covers_genericsShape hangles
        refine ⟨[], Or.inl rfl, ?_⟩
        rw [List.append_assoc, keptName_append_of_dropped fun c hc => by
          simp [isDropped, hgap c hc]]
        rfl
    obtain ⟨kept, hhead, hkept⟩ := hkept
    rw [bareTypeName_eq, hkept, firstSegment_append hhead]

/-- What extends a name does not go on with it, unless by a dot. -/
lemma Extends.exists_cons {s : List Char} (h : Extends s) :
    ∃ d tail, s = d :: tail ∧ (isTypeChar d = true → d = '.') := by
  obtain ⟨gap, c, tail, rfl, hgap, hc⟩ := h
  match gap with
  | [] =>
    refine ⟨c, tail, rfl, fun htype => ?_⟩
    have hall : ∀ c ∈ ['<', '[', '.'], isTypeChar c = true → c = '.' := by decide
    exact hall c hc htype
  | b :: gap =>
    refine ⟨b, gap ++ c :: tail, rfl, fun htype => ?_⟩
    have hb := hgap b List.mem_cons_self
    rw [not_isBlank_typeChar htype] at hb
    cases hb

lemma firstSegment_of_no_dot {word : List Char} (h : ∀ c ∈ word, c ≠ '.') :
    firstSegment word = word :=
  List.takeWhile_eq_self_iff.mpr fun c hc => bne_iff_ne.mpr (h c hc)

/-- Where a word without dots stands with nothing behind it that goes on with it, it is the first
segment of the name there. -/
lemma firstSegment_eq_of_append_eq {name rest word more : List Char}
    (hname : ∀ c ∈ name, isTypeChar c = true) (hword : ∀ c ∈ word, isTypeChar c = true ∧ c ≠ '.')
    (hrest : rest = [] ∨ Extends rest) (hmore : more = [] ∨ Extends more)
    (heq : name ++ rest = word ++ more) : firstSegment name = word := by
  have hself := firstSegment_of_no_dot fun c hc => (hword c hc).2
  rcases List.append_eq_append_iff.mp heq with ⟨a, rfl, ha⟩ | ⟨a, rfl, ha⟩
  · -- the name cannot end within the word
    match a with
    | [] => simpa using hself
    | d :: a =>
      obtain ⟨d', tail, hcons, htype⟩ := (hrest.resolve_left (by simp [ha])).exists_cons
      rw [ha, List.cons_append, List.cons.injEq] at hcons
      obtain ⟨rfl, -⟩ := hcons
      have hd := hword d (by simp)
      exact absurd (htype hd.1) hd.2
  · -- and it goes on behind the word only with a dot
    match a with
    | [] => simpa using hself
    | d :: a =>
      obtain ⟨d', tail, hcons, htype⟩ := (hmore.resolve_left (by simp [ha])).exists_cons
      rw [ha, List.cons_append, List.cons.injEq] at hcons
      obtain ⟨rfl, -⟩ := hcons
      have hd := htype (hname d (by simp))
      rw [firstSegment_append (Or.inr (by simp [hd])), hself]

/-- A name whose first segment is a word is that word, or it goes on with a dot. -/
lemma exists_of_firstSegment_eq {name word rest : List Char} (h : firstSegment name = word)
    (hrest : rest = [] ∨ Extends rest) :
    ∃ more, name ++ rest = word ++ more ∧ (more = [] ∨ Extends more) := by
  have hsplit := List.takeWhile_append_dropWhile (p := (· != '.')) (l := name)
  rw [firstSegment] at h
  rw [h] at hsplit
  refine ⟨name.dropWhile (· != '.') ++ rest, by rw [← List.append_assoc, hsplit], ?_⟩
  match hdrop : name.dropWhile (· != '.') with
  | [] => exact hrest
  | d :: tail =>
    have hd : d = '.' := by
      have hhead := List.head?_dropWhile_not (· != '.') name
      simpa [hdrop] using hhead
    exact Or.inr ⟨[], d, tail ++ rest, rfl, by simp, by simp [hd]⟩

/-- The bare name of a type is a word without dots exactly if the text of the type is that word, or
the word and something behind it that makes it more than a name. -/
lemma bareTypeName_eq_iff {t word : List Char} (h : Covers (typeShape : Pattern κ) t)
    (hne : word ≠ []) (hword : ∀ c ∈ word, isTypeChar c = true ∧ c ≠ '.') :
    bareTypeName t = word ↔ ∃ rest, t = word ++ rest ∧ (rest = [] ∨ Extends rest) := by
  obtain ⟨name, rest, rfl, hname, hchars, hrest, hbare⟩ := exists_of_covers_typeShape h
  rw [hbare]
  constructor
  · intro heq
    split at heq
    · next hempty =>
      -- then the name begins with a dot, which is not stripped
      obtain ⟨c, name, rfl⟩ := List.exists_cons_of_ne_nil hname
      have hdot : c = '.' := by
        by_contra hc
        simp [firstSegment, hc] at hempty
      have hmem : '.' ∈ Text.strip (c :: name ++ rest) :=
        Text.mem_strip (by simp [hdot]) (by decide)
      rw [heq] at hmem
      exact absurd rfl (hword _ hmem).2
    · exact exists_of_firstSegment_eq heq hrest
  · rintro ⟨more, heq, hmore⟩
    have hfirst := firstSegment_eq_of_append_eq hchars hword hrest hmore heq
    rw [hfirst, if_neg (by simpa using hne)]

/-! ### Recorded methods -/

/-- A recorded method stands in the text as a signature, and neither its name nor the text of its
type is a word that no method has there. -/
lemma exists_signature_of_mem_methodsOf {content : List Char} {x : Method String}
    (hx : x ∈ methodsOf content) :
    ∃ before g after, content = before ++ (Signature.text g ++ after) ∧ g.Describes x ∧
      x.name ∉ reservedForMethods ∧
      String.ofList g.type ∉ reservedForMethods ++ modifierVocabulary := by
  obtain ⟨m, hm, hx⟩ := List.mem_filterMap.mp hx
  obtain ⟨_, hfound⟩ := found_of_findAll.1 m hm
  obtain ⟨done, front, g, after, ms, hcontent, rfl, hinside, hms⟩ :=
    exists_signature_of_found hfound
  exact ⟨done ++ front, g, after, by simp [hcontent], hms.describes hinside hx⟩

/-- No method is recorded under a reserved word as its name. A reserved word or a modifier is
recorded as the type of a method exactly where it stands in the file with generic arguments, array
marks or a dot behind it. -/
theorem reserved_type_iff_extended {masked : Bool} {path : String} {content : List Char}
    {unit : SourceUnit} (h : parseSource masked path content = some unit) :
    ∀ x ∈ unit.decl.methods, x.name ∉ reservedForMethods ∧
      ∃ before g after, scanned masked content = before ++ (Signature.text g ++ after) ∧
        g.Describes x ∧
        ∀ word ∈ reservedForMethods ++ modifierVocabulary, x.returnType = word ↔
          ∃ gap c tail, g.type = word.toList ++ (gap ++ c :: tail) ∧
            (∀ b ∈ gap, isBlank b = true) ∧ c ∈ ['<', '[', '.'] := by
  intro x hx
  rw [methods_of_parseSource h] at hx
  obtain ⟨before, g, after, hscanned, hdescribes, hname, htype⟩ :=
    exists_signature_of_mem_methodsOf hx
  refine ⟨hname, before, g, after, hscanned, hdescribes, fun word hword => ?_⟩
  have hletters : ∀ word ∈ reservedForMethods ++ modifierVocabulary,
      word.toList ≠ [] ∧ ∀ c ∈ word.toList, isTypeChar c = true ∧ c ≠ '.' := by decide
  obtain ⟨hne, hchars⟩ := hletters word hword
  have hbare : x.returnType = word ↔ bareTypeName g.type = word.toList := by
    rw [hdescribes.returnType]
    exact ⟨fun heq => by rw [← heq, String.toList_ofList], fun heq => by
      rw [heq, String.ofList_toList]⟩
  rw [hbare, bareTypeName_eq_iff g.type_covered hne hchars]
  constructor
  · rintro ⟨rest, heq, rfl | ⟨gap, c, tail, rfl, hgap, hc⟩⟩
    · rw [List.append_nil] at heq
      rw [heq, String.ofList_toList] at htype
      exact absurd hword htype
    · exact ⟨gap, c, tail, heq, hgap, hc⟩
  · rintro ⟨gap, c, tail, heq, hgap, hc⟩
    exact ⟨_, heq, Or.inr ⟨gap, c, tail, rfl, hgap, hc⟩⟩

/-- A constructor with type parameters, and an object made with type arguments. -/
def genericCreation : List Char :=
  "class A\x7b\n  public <T> A(T t)\x7b\x7d\n  Object b = new <String> B(1);\n\x7d\n".toList

set_option maxRecDepth 100000 in
lemma parseSource_genericCreation : ∃ unit,
    parseSource false "A.java" genericCreation = some unit ∧
    (unit.decl.methods.map fun x => (x.name, x.returnType)) = [("A", "public"), ("B", "new")] := by
  have hmethods : ((parseSource false "A.java" genericCreation).map fun unit =>
      unit.decl.methods.map fun x => (x.name, x.returnType)) =
        some [("A", "public"), ("B", "new")] := by decide +kernel
  exact Option.map_eq_some_iff.mp hmethods

/-- Both are recorded as methods, with a modifier and a reserved word as their types. -/
theorem reserved_type_recorded : ∃ unit,
    parseSource false "A.java" genericCreation = some unit ∧
    (unit.decl.methods.map fun x => (x.name, x.returnType)) = [("A", "public"), ("B", "new")] ∧
    "public" ∈ modifierVocabulary ∧ "new" ∈ reservedForMethods := by
  obtain ⟨unit, hunit, hmethods⟩ := parseSource_genericCreation
  exact ⟨unit, hunit, hmethods, by decide, by decide⟩

theorem reserved_type_iff_extended_creation : ∃ unit,
    parseSource false "A.java" genericCreation = some unit ∧ unit.decl.methods ≠ [] ∧
    ∀ x ∈ unit.decl.methods, x.name ∉ reservedForMethods ∧ ∃ g : Signature, g.Describes x ∧
      (x.returnType = "new" ↔ ∃ gap c tail, g.type = "new".toList ++ (gap ++ c :: tail) ∧
        (∀ b ∈ gap, isBlank b = true) ∧ c ∈ ['<', '[', '.']) := by
  obtain ⟨unit, hunit, hmethods⟩ := parseSource_genericCreation
  have hall := reserved_type_iff_extended hunit
  refine ⟨unit, hunit, by rintro hnil; simp [hnil] at hmethods, fun x hx => ?_⟩
  obtain ⟨hname, -, g, -, -, hdescribes, hwords⟩ := hall x hx
  exact ⟨hname, g, hdescribes, hwords "new" (by decide)⟩

end Java

end JavaAtlas

import JavaAtlas.Proofs.Java.Signatures

/-!
# Recorded modifiers

What stands in front of a field or a method is a text of words, whatever the file holds. Of such a
text the words of the vocabulary are recorded, once each and in the order of the vocabulary.
-/

namespace JavaAtlas

namespace Java

open Pattern

variable {written : List Char} {modifiers : List String}

/-- What is recorded where modifiers are written: the words of the vocabulary among those written,
in the order of the vocabulary and none of them twice. -/
structure Records (written : List Char) (modifiers : List String) : Prop where
  sublist : modifiers.Sublist modifierVocabulary
  nodup : modifiers.Nodup
  mem_iff : ∀ w, w ∈ modifiers ↔ w ∈ modifierVocabulary ∧ w.toList ∈ Text.words written

lemma records_modifiersIn (h : IsWordText written) : Records written (modifiersIn written) := by
  have hvocabulary : modifierVocabulary.Nodup := by decide
  rw [modifiersIn_of_isWordText h]
  constructor
  · exact List.filter_sublist
  · exact hvocabulary.filter _
  · intro w
    rw [List.mem_filter, decide_eq_true_iff]

/-- It does not matter in which order and how often the words are written. -/
lemma modifiersIn_congr {other : List Char} (h : IsWordText written) (hother : IsWordText other)
    (hsame : ∀ w, w ∈ Text.words written ↔ w ∈ Text.words other) :
    modifiersIn written = modifiersIn other := by
  rw [modifiersIn_of_isWordText h, modifiersIn_of_isWordText hother]
  apply List.filter_congr
  intro w _
  simp only [hsame]

/-! ### The text in front of a declaration -/

lemma within_modifiers {words : List String}
    (h : ∀ w ∈ words, ∀ c ∈ w.toList, isWordChar c = true) :
    Within (fun c => isWordChar c = true ∨ isBlank c = true)
      (keywords words : Pattern MemberPart) := by
  apply within_keywords
  · exact fun c hc => Or.inr hc
  · exact fun w hw c hc => Or.inl (h w hw c hc)

lemma fieldShape_obeys :
    fieldShape.Obeys fun label taken => label = .modifiers → IsWordText taken := by
  have hwithin : Within (fun c => isWordChar c = true ∨ isBlank c = true)
      (inOrder [oneOf visibilities, blanks1, keywords fieldModifiers] : Pattern MemberPart) := by
    have hall : ∀ w ∈ visibilities, ∀ c ∈ w.toList, isWordChar c = true := by decide
    refine ⟨within_oneOf ?_, ⟨?_, ?_⟩, within_modifiers (by decide)⟩
    · exact fun w hw c hc => Or.inl (hall w hw c hc)
    · exact fun c hc => Or.inr hc
    · exact fun c hc => Or.inr hc
  simp only [fieldShape, typeShape, inOrder, maybe, keywords, blanks1, blanks, greedy1, word, char,
    Obeys, obeys_oneOf, obeys_text, true_and, and_true, reduceCtorEq, false_imp_iff, implies_true]
  intro taken h _
  exact Covers.within h hwithin

lemma methodShape_obeys :
    methodShape.Obeys fun label taken => label = .modifiers → IsWordText taken := by
  have hwithin : Within (fun c => isWordChar c = true ∨ isBlank c = true)
      (keywords methodModifiers : Pattern MemberPart) := within_modifiers (by decide)
  simp only [methodShape, annotationShape, typeShape, inOrder, maybe, keywords, blanks1, blanks,
    lazy1, greedy1, word, char, Obeys, obeys_oneOf, obeys_text, true_and, and_true, reduceCtorEq,
    false_imp_iff, implies_true]
  intro taken h _
  exact Covers.within h hwithin

variable {content : List Char} {m : Match MemberPart}

/-- The modifiers that a match marks are a text of words. -/
lemma isWordText_of_mem_findAll {p : Pattern MemberPart}
    (hp : p.Obeys fun label taken => label = .modifiers → IsWordText taken)
    (hm : m ∈ p.findAll content) : IsWordText (m.text .modifiers) := by
  obtain ⟨stop, hfound⟩ := found_of_findAll.1 m hm
  rcases hfound.text_obeys hp .modifiers with hnil | hwords
  · rw [hnil]
    simp [IsWordText]
  · exact hwords rfl

/-! ### Declarations of a file -/

lemma modifiers_of_fieldOf? {x : Field String} (h : fieldOf? content m = some x) :
    x.modifiers = modifiersIn (m.text .modifiers) := by
  simp only [fieldOf?] at h
  split at h
  · cases h
  · cases h
    rfl

lemma modifiers_of_methodOf? {x : Method String} (h : methodOf? content m = some x) :
    x.modifiers = modifiersIn (m.text .modifiers) := by
  simp only [methodOf?] at h
  split at h
  · cases h
  · cases h
    rfl

/-- Of a text of words the modifiers are those words of the vocabulary that are among them, in the
order of the vocabulary, however the words are arranged and repeated. So what is recorded of a field
or a method in any file is a part of the vocabulary in its order, without repetitions, and consists
of the words of the vocabulary among the modifiers that its match has read. -/
theorem modifiers_in_vocabulary_order :
    (∀ text, IsWordText text →
      modifiersIn text = modifierVocabulary.filter fun w => w.toList ∈ Text.words text) ∧
    (∀ text other, IsWordText text → IsWordText other →
      (∀ w, w ∈ Text.words text ↔ w ∈ Text.words other) → modifiersIn text = modifiersIn other) ∧
    ∀ masked path content unit, parseSource masked path content = some unit →
      (∀ x ∈ unit.decl.fields, ∃ m ∈ fieldShape.findAll (scanned masked content),
        fieldOf? (scanned masked content) m = some x ∧ Records (m.text .modifiers) x.modifiers) ∧
      ∀ x ∈ unit.decl.methods, ∃ m ∈ methodShape.findAll (scanned masked content),
        methodOf? (scanned masked content) m = some x ∧
          Records (m.text .modifiers) x.modifiers := by
  refine ⟨fun text h => modifiersIn_of_isWordText h, fun text other => modifiersIn_congr, ?_⟩
  intro masked path content unit hunit
  obtain ⟨hfields, hmethods⟩ := members_of_parseSource hunit
  constructor
  · intro x hx
    rw [hfields] at hx
    obtain ⟨m, hm, hx⟩ := List.mem_filterMap.mp hx
    refine ⟨m, hm, hx, ?_⟩
    rw [modifiers_of_fieldOf? hx]
    exact records_modifiersIn (isWordText_of_mem_findAll fieldShape_obeys hm)
  · intro x hx
    rw [hmethods] at hx
    obtain ⟨m, hm, hx⟩ := List.mem_filterMap.mp hx
    refine ⟨m, hm, hx, ?_⟩
    rw [modifiers_of_methodOf? hx]
    exact records_modifiersIn (isWordText_of_mem_findAll methodShape_obeys hm)

/-- A field and a method whose modifiers are not in the order of the vocabulary. -/
def mixedModifiers : List Char :=
  "class A\x7b\n  private final static int a;\n  final default static void f();\n\x7d\n".toList

set_option maxRecDepth 100000 in
theorem modifiers_in_vocabulary_order_mixed :
    modifiersIn "static\tpublicly  public static ".toList =
      modifiersIn "public static publicly".toList ∧
    modifiersIn "public static publicly".toList = ["public", "static"] ∧
    ∃ unit, parseSource false "A.java" mixedModifiers = some unit ∧
      (unit.decl.fields.map (·.modifiers)) = [["private", "static", "final"]] ∧
      (unit.decl.methods.map (·.modifiers)) = [["static", "final"]] ∧
      (∀ x ∈ unit.decl.fields, ∃ m ∈ fieldShape.findAll mixedModifiers,
        Records (m.text .modifiers) x.modifiers) ∧
      ∀ x ∈ unit.decl.methods, ∃ m ∈ methodShape.findAll mixedModifiers,
        Records (m.text .modifiers) x.modifiers := by
  obtain ⟨hfilter, hcongr, hrecorded⟩ := modifiers_in_vocabulary_order
  have hword : ∀ s ∈ ["static\tpublicly  public static ".toList, "public static publicly".toList],
      IsWordText s := by
    unfold IsWordText
    decide
  have hthere : ∀ w ∈ Text.words "static\tpublicly  public static ".toList,
      w ∈ Text.words "public static publicly".toList := by decide
  have hback : ∀ w ∈ Text.words "public static publicly".toList,
      w ∈ Text.words "static\tpublicly  public static ".toList := by decide
  refine ⟨hcongr _ _ (hword _ (by simp)) (hword _ (by simp)) ?_, ?_, ?_⟩
  · intro w
    exact ⟨hthere w, hback w⟩
  · rw [hfilter _ (hword _ (by simp))]
    decide
  · have hparsed : ((parseSource false "A.java" mixedModifiers).map fun unit =>
        (unit.decl.fields.map (·.modifiers), unit.decl.methods.map (·.modifiers))) =
          some ([["private", "static", "final"]], [["static", "final"]]) := by decide +kernel
    obtain ⟨unit, hunit, hboth⟩ := Option.map_eq_some_iff.mp hparsed
    obtain ⟨hfields, hmethods⟩ := Prod.mk.inj hboth
    obtain ⟨hallFields, hallMethods⟩ := hrecorded _ _ _ _ hunit
    refine ⟨unit, hunit, hfields, hmethods, fun x hx => ?_, fun x hx => ?_⟩
    · obtain ⟨m, hm, -, hrecords⟩ := hallFields x hx
      exact ⟨m, hm, hrecords⟩
    · obtain ⟨m, hm, -, hrecords⟩ := hallMethods x hx
      exact ⟨m, hm, hrecords⟩

end Java

end JavaAtlas

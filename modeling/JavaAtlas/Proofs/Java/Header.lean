import JavaAtlas.Proofs.Java.Modifiers
import JavaAtlas.Proofs.Java.TypeList

/-!
# The package and the header of a skeleton

The package line of a written skeleton names its package, and the first header found in it is its
own. A clause of a header ends where another clause or the body opens, which happens nowhere
inside of a list of types.
-/

namespace JavaAtlas

namespace Java

open Pattern

variable {κ : Type} {size : Nat} {good : List Char → Prop} {r : List Char}

/-! ### Where a clause ends -/

/-- The body opens next, or a clause. -/
def Opens (s : List Char) : Prop :=
  (∃ t, s = '\x7b' :: t) ∨
    ∃ word ∈ clauseWords, ∃ b t, isBlank b = true ∧ s = word.toList ++ b :: t

/-- The body or a clause opens after some blanks. -/
def OpensLater (s : List Char) : Prop :=
  ∃ w t, s = w ++ t ∧ (∀ c ∈ w, isBlank c = true) ∧ Opens t

lemma IsTypeText.not_blank_suffix {u t : List Char} (hu : IsTypeText u) (ht : t <:+ u)
    (hne : t ≠ []) : ¬ ∀ c ∈ t, isBlank c = true := by
  intro hblank
  obtain ⟨a, rfl⟩ := ht
  have hlast : (a ++ t).getLast? = some (t.getLast hne) := by
    rw [List.getLast?_append_of_ne_nil _ hne, List.getLast?_eq_some_getLast]
  have := hu.not_isBlank_last _ hlast
  rw [hblank _ (List.getLast_mem hne)] at this
  cases this

lemma IsTypeText.not_opens {u t : List Char} (hu : IsTypeText u) (ht : t <:+ u) (hne : t ≠ []) :
    ¬ Opens (t ++ ' ' :: r) := by
  rintro (⟨s, hs⟩ | ⟨word, hword, b, s, hb, hs⟩)
  · obtain ⟨c, t, rfl⟩ := List.exists_cons_of_ne_nil hne
    cases hs
    rcases hu.chars _ (ht.subset List.mem_cons_self) with h | h
    · exact absurd h (by decide)
    · exact absurd h (by decide)
  · have hall : ∀ word ∈ clauseWords, ' ' ∉ word.toList ∧ word.toList.getLast? = some 's' := by
      decide
    obtain ⟨hspace, hlast⟩ := hall word hword
    rcases List.append_eq_append_iff.mp hs with ⟨a, ha, hs⟩ | ⟨a, ha, hs⟩
    · match a with
      | [] =>
        rw [List.append_nil] at ha
        exact hu.ends word hword (ha ▸ ht)
      | c :: a =>
        obtain ⟨rfl, -⟩ := List.cons.inj hs
        exact hspace (by simp [ha])
    · match a with
      | [] =>
        rw [List.append_nil] at ha
        exact hu.ends word hword (ha ▸ ht)
      | c :: a =>
        -- a blank would stand behind a letter
        obtain ⟨rfl, -⟩ := List.cons.inj hs
        obtain ⟨x, hx⟩ := ht
        rw [← hx, ha, ← List.append_assoc] at hu
        have hfollows := (List.isChain_append.mp hu.chain).2.2 's'
          (by simp [List.getLast?_append, hlast]) _ rfl
        exact absurd (hfollows.1 hb) (by decide)

/-- Inside of a list of types, neither the body nor a clause opens. -/
lemma IsTypeText.not_opensLater {u t : List Char} (hu : IsTypeText u) (ht : t <:+ u)
    (hne : t ≠ []) : ¬ OpensLater (t ++ ' ' :: r) := by
  rintro ⟨w, s, hs, hw, hopens⟩
  rcases List.append_eq_append_iff.mp hs with ⟨a, rfl, -⟩ | ⟨a, rfl, rfl⟩
  · exact hu.not_blank_suffix ht hne fun c hc => hw c (List.mem_append_left a hc)
  · match a with
    | [] => exact hu.not_blank_suffix ht hne (by simpa using hw)
    | c :: a => exact hu.not_opens ((List.suffix_append w _).trans ht) (by simp) hopens

/-! ### Clauses -/

/-- The shape of a clause: a word, blanks, something and blanks. -/
def clauseShape (word : String) (body : Pattern κ) : Pattern κ :=
  inOrder [text word, blanks1, body, blanks]

/-- The shape of what comes behind the name of a type. -/
def clausesShape : Pattern HeaderPart :=
  inOrder [maybe (clauseShape "extends" (.part .extended beforeBrace)),
    maybe (clauseShape "implements" (.part .implemented beforeBrace)),
    maybe (clauseShape "permits" beforeBrace), char '\x7b']

lemma opens_of_leads_clause {word : String} {body : Pattern κ} {cur next : Cursor κ}
    (hword : word ∈ clauseWords) (h : Leads (clauseShape word body) cur next) :
    Opens cur.rest := by
  cases h with
  | seq htext hrest => cases hrest with
    | @seq _ _ _ mid _ hblanks _ =>
      obtain ⟨taken, hne, hall, htaken⟩ := hblanks.greedy1
      obtain ⟨b, taken, rfl⟩ := List.exists_cons_of_ne_nil hne
      refine Or.inr ⟨word, hword, b, taken ++ mid.rest, hall b List.mem_cons_self, ?_⟩
      rw [htext.text, htaken, List.cons_append]

lemma opens_of_leads_maybe {word : String} {body q : Pattern κ} {cur next : Cursor κ}
    (hword : word ∈ clauseWords) (hq : ∀ cur next : Cursor κ, Leads q cur next → Opens cur.rest)
    (h : Leads (.seq (maybe (clauseShape word body)) q) cur next) : Opens cur.rest := by
  cases h with
  | seq hmaybe hrest => cases hmaybe with
    | first hclause => exact opens_of_leads_clause hword hclause
    | second hnothing =>
      cases hnothing
      exact hq cur next hrest

lemma opens_of_leads_brace {cur next : Cursor κ} (h : Leads (char '\x7b') cur next) :
    Opens cur.rest :=
  Or.inl ⟨next.rest, h.char⟩

/-- A clause takes its list of types. -/
lemma takes_clauseShape {word : String} {label : κ} {u : List Char} (hu : IsTypeText u)
    (hr : ∀ c ∈ r.head?, isBlank c = false) :
    Takes size (clauseShape word (.part label beforeBrace)) Opens
      (word.toList ++ (' ' :: (u ++ [' ']))) r [⟨label, word.toList ++ [' '], u⟩] := by
  have hspace : Takes size (blanks : Pattern κ) Opens [' '] r [] := takes_greedy (by decide) hr
  have hlist : Takes size (beforeBrace : Pattern κ) OpensLater u ([' '] ++ r) [] := by
    refine takes_lazy1 hu.ne ?_ fun t ht hne => hu.not_opensLater ht hne
    intro c hc
    rcases hu.chars c hc with h | h
    · simpa using identifierChar_ne h (by decide)
    · have hall : ∀ c ∈ ['<', '>', '[', ']', ',', ' '], (c != '\x7b') = true := by decide
      exact hall c h
  have hblanks : Takes size (blanks1 : Pattern κ) anything [' '] (u ++ [' '] ++ r) [] := by
    refine takes_greedy1 (by simp) (by decide) ?_
    intro c hc
    rw [List.append_assoc, List.head?_append_of_ne_nil _ hu.ne] at hc
    exact hu.not_isBlank_first c hc
  have hend := (hlist.part label).seq_of hspace fun cur next hleads hopens => by
    cases hleads with
    | greedy hskips =>
      obtain ⟨taken, htaken, -, -, hall⟩ := hskips.covers
      exact ⟨taken, next.rest, htaken, hall, hopens⟩
  exact (takes_text word).seq (hblanks.seq hend)

/-- What a clause marks. -/
def clauseMarks (word : String) (label : κ) (ts : List TypeRef) : List (Mark κ) :=
  if ts.isEmpty then [] else [⟨label, word.toList ++ [' '], commaSeparated (TypeRef.texts ts)⟩]

lemma text?_clauseMarks [BEq κ] (word : String) (label label' : κ) (ts : List TypeRef) :
    Mark.text? (clauseMarks word label ts) label' =
      if ts.isEmpty then none
      else if label == label' then some (commaSeparated (TypeRef.texts ts)) else none := by
  rw [clauseMarks]
  split <;> simp

/-- A clause that may be missing, and what follows it. -/
lemma takes_clause (word : String) (label : κ) {q : Pattern κ} {s : List Char} {ms : List (Mark κ)}
    (ts : List TypeRef) (hq : Takes size q anything s r ms)
    (hopens : ∀ cur next : Cursor κ, Leads q cur next → Opens cur.rest)
    (hnot : ts = [] → ¬ word.toList <+: s ++ r) (hs : ∀ c ∈ (s ++ r).head?, isBlank c = false) :
    Takes size (.seq (maybe (clauseShape word (.part label beforeBrace))) q) anything
      (Skeleton.clause word ts ++ s) r
      (ms.map (Mark.after (Skeleton.clause word ts)) ++ clauseMarks word label ts) := by
  rw [Skeleton.clause, clauseMarks]
  split
  · next hempty => exact (takes_maybe_not (balks_text (hnot (by simpa using hempty))).seq).seq hq
  · next hsome =>
    have htypes : IsTypeText (commaSeparated (TypeRef.texts ts)) :=
      TypeRef.isTypeText_texts (by simpa [TypeRef.texts_eq_map] using hsome)
    exact (Takes.first (takes_clauseShape htypes hs)).seq_of hq fun cur next hleads _ =>
      hopens cur next hleads

lemma head?_implements (ts : List TypeRef) :
    ∀ c ∈ (Skeleton.clause "implements" ts ++ '\x7b' :: r).head?, c = 'i' ∨ c = '\x7b' := by
  rw [Skeleton.clause]
  split <;> simp

/-- The clauses of a header take the types that a skeleton extends and implements. -/
lemma takes_clausesShape (size : Nat) (r : List Char) (u : Skeleton) : ∃ ms,
    Takes size clausesShape anything u.clausesText r ms ∧
    (Mark.text? ms .extended).getD [] = commaSeparated (TypeRef.texts u.extended) ∧
    (Mark.text? ms .implemented).getD [] = commaSeparated (TypeRef.texts u.implemented) ∧
    Mark.text? ms .kind = none ∧ Mark.text? ms .name = none := by
  have hbrace : Takes size (char '\x7b' : Pattern HeaderPart) anything ['\x7b'] r [] :=
    takes_one (by decide)
  have hpermits : Takes size (.seq (maybe (clauseShape "permits" beforeBrace)) (char '\x7b'))
      anything ['\x7b'] r ([] : List (Mark HeaderPart)) := by
    refine (takes_maybe_not (balks_text ?_).seq).seq hbrace
    rintro ⟨t, ht⟩
    cases ht
  have hopens : ∀ cur next : Cursor HeaderPart,
      Leads (.seq (maybe (clauseShape "permits" beforeBrace)) (char '\x7b')) cur next →
        Opens cur.rest :=
    fun _ _ => opens_of_leads_maybe (by decide) fun _ _ => opens_of_leads_brace
  have hnotImplements : ¬ "implements".toList <+: ['\x7b'] ++ r := by
    rintro ⟨t, ht⟩
    cases ht
  have himplements := takes_clause "implements" HeaderPart.implemented u.implemented hpermits hopens
    (fun _ => hnotImplements) (by simp; decide)
  have hnotExtends : ¬ "extends".toList <+:
      Skeleton.clause "implements" u.implemented ++ ['\x7b'] ++ r := by
    rintro ⟨t, ht⟩
    rw [List.append_assoc, List.singleton_append] at ht
    have hfirst := head?_implements u.implemented 'e' (by rw [← ht]; rfl)
    exact absurd hfirst (by decide)
  have hfirst : ∀ c ∈ (Skeleton.clause "implements" u.implemented ++ ['\x7b'] ++ r).head?,
      isBlank c = false := by
    intro c hc
    rw [List.append_assoc, List.singleton_append] at hc
    rcases head?_implements u.implemented c hc with rfl | rfl <;> decide
  have hextends := takes_clause "extends" HeaderPart.extended u.extended himplements
    (fun _ _ => opens_of_leads_maybe (by decide) hopens) (fun _ => hnotExtends) hfirst
  refine ⟨_, hextends, ?_, ?_, ?_, ?_⟩
  · by_cases h : u.extended = [] <;> simp [text?_clauseMarks, h, TypeRef.texts, commaSeparated]
  · by_cases h : u.implemented = [] <;> simp [text?_clauseMarks, h, TypeRef.texts, commaSeparated]
  · simp [text?_clauseMarks]
  · simp [text?_clauseMarks]

/-! ### The header -/

/-- The shape of a header behind its modifiers. -/
def declarationShape : Pattern HeaderPart :=
  inOrder [maybe (char '@'), .part .kind (oneOf ["class", "interface", "enum"]), blanks1,
    .part .name word, blanks, maybe (inOrder [char '<', .lazy (· != '\x7b'), char '>']), blanks,
    clausesShape]

/-- The shape of a header behind the beginning of its line. -/
def headerShape : Pattern HeaderPart :=
  inOrder [.greedy fun c => c == ' ' || c == '\t', .many (.seq annotationShape blanks1),
    keywords typeModifiers, declarationShape]

lemma typeHeader_eq : typeHeader = .seq .lineStart headerShape := rfl

lemma head?_clausesText (u : Skeleton) :
    ∀ c ∈ (u.clausesText ++ r).head?, isBlank c = false ∧ c ≠ '<' := by
  have hall : ∀ c ∈ ['e', 'i', '\x7b'], isBlank c = false ∧ c ≠ '<' := by decide
  intro c hc
  refine hall c ?_
  rw [Skeleton.clausesText, List.append_assoc, List.append_assoc, Skeleton.clause] at hc
  split at hc
  · rcases head?_implements u.implemented c hc with rfl | rfl <;> simp
  · obtain rfl : 'e' = c := by simpa using hc
    simp

lemma balks_annotated {q : Pattern κ} (hr : ∀ c ∈ r.head?, c ≠ '@') :
    Balks (.seq annotationShape q) good r :=
  (show Balks (annotationShape : Pattern κ) anything r from (balks_char hr).seq).seq

lemma isVocabulary_kinds : IsVocabulary ["class", "interface", "enum"] :=
  ⟨by decide, by decide, by decide⟩

lemma keyword_mem (kind : TypeKind) :
    kind.keyword ∈ ["class", "interface", "enum"] ∧ kind.keyword ∉ typeModifiers := by
  cases kind <;> decide

def Skeleton.declarationText (u : Skeleton) : List Char :=
  u.kind.keyword.toList ++ (' ' :: (u.name.text.toList ++ (' ' :: u.clausesText)))

lemma head?_declarationText (u : Skeleton) :
    ∀ c ∈ (u.declarationText ++ r).head?, isIdentifierChar c = true := by
  rw [Skeleton.declarationText, List.append_assoc]
  exact isVocabulary_kinds.head? (keyword_mem u.kind).1 _

lemma takes_declarationShape (size : Nat) (r : List Char) (u : Skeleton)
    (hplain : '$' ∉ u.name.text.toList) : ∃ ms,
    Takes size declarationShape anything u.declarationText r ms ∧
    Mark.text? ms .kind = some u.kind.keyword.toList ∧
    Mark.text? ms .name = some u.name.text.toList ∧
    (Mark.text? ms .extended).getD [] = commaSeparated (TypeRef.texts u.extended) ∧
    (Mark.text? ms .implemented).getD [] = commaSeparated (TypeRef.texts u.implemented) := by
  obtain ⟨ms, hclauses, hextended, himplemented, hkind, hname⟩ :=
    takes_clausesShape size r u
  have hfirst := head?_clausesText (r := r) u
  have hnone : Takes size (blanks : Pattern HeaderPart) anything [] (u.clausesText ++ r) [] :=
    takes_greedy_none fun c hc => (hfirst c hc).1
  have hgenerics : Takes size (maybe (inOrder [char '<', .lazy (· != '\x7b'), char '>']))
      anything [] (u.clausesText ++ r) ([] : List (Mark HeaderPart)) :=
    takes_maybe_not (balks_char fun c hc => (hfirst c hc).2).seq
  have hspace : Takes size (blanks : Pattern HeaderPart) anything [' '] (u.clausesText ++ r) [] :=
    takes_greedy (by decide) fun c hc => (hfirst c hc).1
  have hword : Takes size (word : Pattern HeaderPart) anything u.name.text.toList
      (' ' :: u.clausesText ++ r) [] :=
    u.name.isName.takes_word hplain (by simp; decide)
  have hblanks : Takes size (blanks1 : Pattern HeaderPart) anything [' ']
      (u.name.text.toList ++ (' ' :: u.clausesText) ++ r) [] := by
    refine takes_greedy1 (by simp) (by decide) fun c hc => ?_
    rw [List.append_assoc] at hc
    exact not_isBlank_identifierChar (u.name.isName.head? _ c hc)
  have hmem := (keyword_mem u.kind).1
  have hkeyword : Takes size (oneOf ["class", "interface", "enum"] : Pattern HeaderPart) anything
      u.kind.keyword.toList (' ' :: (u.name.text.toList ++ (' ' :: u.clausesText)) ++ r) [] :=
    takes_oneOf hmem fun v hv hbegins => isVocabulary_kinds.eq_of_prefix hv hmem hbegins
  have hat : Takes size (maybe (char '@') : Pattern HeaderPart) anything []
      (u.declarationText ++ r) [] :=
    takes_maybe_not (balks_char fun c hc =>
      identifierChar_ne (head?_declarationText u c hc) (by decide))
  refine ⟨_, hat.seq ((hkeyword.part .kind).seq (hblanks.seq ((hword.part .name).seq
    (hspace.seq (hgenerics.seq (hnone.seq hclauses)))))), ?_, ?_, ?_, ?_⟩
  · simp only [Mark.text?_append, Mark.text?_after, Mark.text?_nil, Mark.text?_cons, hkind]
    rfl
  · simp only [Mark.text?_append, Mark.text?_after, Mark.text?_nil, Mark.text?_cons, hname]
    rfl
  · simp only [Mark.text?_append, Mark.text?_after, Mark.text?_nil, Mark.text?_cons]
    simpa using hextended
  · simp only [Mark.text?_append, Mark.text?_after, Mark.text?_nil, Mark.text?_cons]
    simpa using himplemented

/-- The shape of a header takes the header of a skeleton. -/
lemma takes_headerShape (u : Skeleton) (hplain : '$' ∉ u.name.text.toList)
    (hsize : u.modifiers.length ≤ size) : ∃ ms,
    Takes size headerShape anything u.headerText r ms ∧
    Mark.text? ms .kind = some u.kind.keyword.toList ∧
    Mark.text? ms .name = some u.name.text.toList ∧
    (Mark.text? ms .extended).getD [] = commaSeparated (TypeRef.texts u.extended) ∧
    (Mark.text? ms .implemented).getD [] = commaSeparated (TypeRef.texts u.implemented) := by
  obtain ⟨ms, hdeclaration, hmarks⟩ := takes_declarationShape size r u hplain
  have hbehind := head?_declarationText (r := r) u
  obtain ⟨hmem, hnot⟩ := keyword_mem u.kind
  have hwritten : ∀ w ∈ u.modifiers.map (·.val), w ∈ typeModifiers := by
    intro w hw
    obtain ⟨m, -, rfl⟩ := List.mem_map.mp hw
    exact m.property
  have hmodifiers : Takes size (keywords typeModifiers : Pattern HeaderPart) anything
      (spaced (u.modifiers.map (·.val))) (u.declarationText ++ r) [] := by
    refine isVocabulary_typeModifiers.takes hwritten (by simpa using hsize) ?_ ?_
    · rw [Skeleton.declarationText, List.append_assoc]
      refine isVocabulary_typeModifiers.balks hnot ?_ (by simp)
      exact fun c hc => (isVocabulary_kinds.chars _ hmem c hc).1
    · exact fun c hc => not_isBlank_identifierChar (hbehind c hc)
  have hfirst : ∀ c ∈ (u.headerText ++ r).head?, isIdentifierChar c = true := by
    rw [Skeleton.headerText, List.append_assoc]
    exact isVocabulary_typeModifiers.head?_spaced hwritten hbehind
  have hannotations : Takes size (.many (.seq annotationShape blanks1) : Pattern HeaderPart)
      anything [] (u.headerText ++ r) [] :=
    takes_many_none (balks_annotated fun c hc => identifierChar_ne (hfirst c hc) (by decide))
  have hindent : Takes size (.greedy fun c => c == ' ' || c == '\t' : Pattern HeaderPart) anything
      [] (u.headerText ++ r) [] := by
    refine takes_greedy_none fun c hc => ?_
    have hc := hfirst c hc
    simp [identifierChar_ne hc (show isIdentifierChar ' ' = false by decide),
      identifierChar_ne hc (show isIdentifierChar '\t' = false by decide)]
  refine ⟨_, hindent.seq (hannotations.seq (hmodifiers.seq hdeclaration)), ?_⟩
  simpa only [List.append_nil, Mark.text?_after] using hmarks

/-- No header is where neither a modifier nor a kind stands. -/
lemma balks_headerShape {s : List Char} (hfirst : ∀ c ∈ s.head?, c ∉ [' ', '\t', '@'])
    (hmodifier : ∀ w ∈ typeModifiers, ¬ w.toList <+: s)
    (hkind : ∀ w ∈ ["class", "interface", "enum"], ¬ w.toList <+: s) :
    Balks headerShape good s := by
  intro cur next hcur hleads _
  cases hleads with
  | @seq _ _ _ a _ hindent hleads => cases hleads with
  | @seq _ _ _ b _ hannotations hleads => cases hleads with
  | @seq _ _ _ c _ hmodifiers hleads => cases hleads with
  | @seq _ _ _ d _ hat hleads => cases hleads with
  | @seq _ _ _ e _ hpart hleads =>
    have ha : a.rest = s := by
      cases hindent with
      | greedy hskips =>
        obtain ⟨taken, htaken, -, -, hall⟩ := hskips.covers
        rw [hcur] at htaken
        match taken with
        | [] => exact htaken.symm
        | x :: taken =>
          have hx := hall x List.mem_cons_self
          refine absurd ?_ (hfirst x (by simp [htaken]))
          rcases Bool.or_eq_true _ _ |>.mp hx with hx | hx <;> simp [eq_of_beq hx]
    have hat' : ∀ x ∈ s.head?, x ≠ '@' := by
      rintro x hx rfl
      exact hfirst _ hx (by simp)
    obtain rfl := Balks.eq_of_many (balks_annotated hat') ha hannotations
    obtain rfl := Balks.eq_of_many (balks_oneOf hmodifier).seq ha hmodifiers
    cases hat with
    | first hat => exact (balks_char hat').elim ha hat
    | second hnothing =>
      cases hnothing
      cases hpart with
      | part hone => exact (balks_oneOf hkind).elim ha hone

/-! ### The first lines -/

namespace Skeleton

lemma packageName_chars (u : Skeleton) :
    ∀ c ∈ u.packageName, isIdentifierChar c = true ∨ c = '.' := by
  refine Text.forall_mem_intercalate (by simp) fun t ht c hc => ?_
  obtain ⟨x, -, rfl⟩ := List.mem_map.mp ht
  exact Or.inl (x.isName.chars c hc)

lemma packageName_dotted (u : Skeleton) (hplain : ∀ x ∈ u.package, '$' ∉ x.text.toList) :
    ∀ c ∈ u.packageName, isDottedChar c = true := by
  refine Text.forall_mem_intercalate (by decide) fun t ht c hc => ?_
  obtain ⟨x, hx, rfl⟩ := List.mem_map.mp ht
  have hword := isWordChar_identifierChar (x.isName.chars c hc) fun h => hplain x hx (h ▸ hc)
  simp [isDottedChar, hword]

lemma packageName_ne (u : Skeleton) : u.packageName ≠ [] := by
  obtain ⟨x, xs, hxs⟩ := List.exists_cons_of_ne_nil u.package_ne
  have hx := x.isName.ne
  rw [packageName, hxs, List.map_cons]
  by_cases hnil : xs = []
  · simpa [hnil, List.intercalate] using hx
  · rw [intercalate_cons _ _ (by simpa using hnil)]
    simp

lemma packageText_eq (u : Skeleton) :
    u.packageText = "package".toList ++ ([' '] ++ (u.packageName ++ [';'])) := by
  simp only [packageText, spaced, List.flatMap_cons, List.flatMap_nil, List.append_nil,
    List.append_assoc]

/-- The package line takes the line of the package. -/
lemma takes_packageLine (u : Skeleton) (hplain : ∀ x ∈ u.package, '$' ∉ x.text.toList) :
    Takes size packageLine anything u.packageText r
      [⟨.name, "package".toList ++ [' '], u.packageName⟩] := by
  have hend : Takes size (.seq blanks (char ';') : Pattern PackagePart) anything [';'] r [] :=
    (takes_greedy_none (by simp; decide)).seq (takes_one (by decide))
  have hname : Takes size (greedy1 isDottedChar : Pattern PackagePart) anything u.packageName
      ([';'] ++ r) [] :=
    takes_greedy1 u.packageName_ne (u.packageName_dotted hplain) (by simp; decide)
  have hblanks : Takes size (blanks1 : Pattern PackagePart) anything [' ']
      (u.packageName ++ [';'] ++ r) [] := by
    refine takes_greedy1 (by simp) (by decide) fun c hc => ?_
    rw [List.append_assoc, List.head?_append_of_ne_nil _ u.packageName_ne] at hc
    rcases u.packageName_chars c (List.mem_of_mem_head? hc) with h | rfl
    · exact not_isBlank_identifierChar h
    · decide
  rw [packageText_eq]
  exact (takes_text "package").seq (hblanks.seq ((hname.part .name).seq hend))

lemma packageOf_text (u : Skeleton) (hplain : ∀ x ∈ u.package, '$' ∉ x.text.toList) :
    packageOf (u.packageText ++ r) = String.ofList u.packageName := by
  have htakes : Takes (u.packageText ++ r).length packageLine anything u.packageText r _ :=
    u.takes_packageLine hplain
  rw [packageOf, find?_here htakes.hits]
  simp only [Match.text_of htakes.inside]
  rfl

lemma newline_not_mem_packageText (u : Skeleton) : '\n' ∉ u.packageText := by
  intro hmem
  rw [packageText, List.mem_append, List.mem_append] at hmem
  rcases hmem with h | h | h
  · exact absurd h (by decide)
  · rcases u.packageName_chars _ h with h | h
    · exact absurd h (by decide)
    · exact absurd h (by decide)
  · exact absurd h (by decide)

lemma balks_package (u : Skeleton) : Balks headerShape good (u.packageText ++ r) := by
  have hbegins : ∀ w, ¬ w <+: "package".toList → ¬ "package".toList <+: w →
      ¬ w <+: u.packageText ++ r := by
    intro w hw hw' h
    rw [packageText_eq, List.append_assoc] at h
    rcases List.prefix_or_prefix_of_prefix h (List.prefix_append _ _) with h | h
    · exact hw h
    · exact hw' h
  refine balks_headerShape ?_ ?_ ?_
  · have hfirst : (u.packageText ++ r).head? = some 'p' := by
      rw [packageText_eq]
      rfl
    simp [hfirst]
  · have hall : ∀ w ∈ typeModifiers, ¬ w.toList <+: "package".toList ∧
        ¬ "package".toList <+: w.toList := by decide
    exact fun w hw => hbegins _ (hall w hw).1 (hall w hw).2
  · have hall : ∀ w ∈ ["class", "interface", "enum"], ¬ w.toList <+: "package".toList ∧
        ¬ "package".toList <+: w.toList := by decide
    exact fun w hw => hbegins _ (hall w hw).1 (hall w hw).2

lemma balks_newline : Balks headerShape good ('\n' :: r) := by
  have hfirst : ∀ {w : String}, '\n' ∉ w.toList → w.toList ≠ [] → ¬ w.toList <+: '\n' :: r := by
    rintro w hw hne ⟨t, ht⟩
    obtain ⟨c, s, hs⟩ := List.exists_cons_of_ne_nil hne
    rw [hs] at ht hw
    cases ht
    exact hw List.mem_cons_self
  have hmodifiers : ∀ w ∈ typeModifiers, '\n' ∉ w.toList ∧ w.toList ≠ [] := by decide
  have hkinds : ∀ w ∈ ["class", "interface", "enum"], '\n' ∉ w.toList ∧ w.toList ≠ [] := by decide
  refine balks_headerShape (by simp) ?_ ?_
  · exact fun w hw => hfirst (hmodifiers w hw).1 (hmodifiers w hw).2
  · exact fun w hw => hfirst (hkinds w hw).1 (hkinds w hw).2

/-- No header begins before that of the skeleton. -/
lemma passes_typeHeader (u : Skeleton) :
    Passes size typeHeader [] (u.packageText ++ ['\n', '\n']) r := by
  rw [typeHeader_eq]
  refine Passes.append ?_ ?_
  · rintro a t hat hne
    refine misses_lineStart fun hline => ?_
    match a with
    | [] =>
      rw [List.nil_append] at hat
      rw [← hat]
      exact u.balks_package
    | c :: a =>
      -- inside of the line of the package, no line begins
      have hlast : (c :: a).getLast? = some ((c :: a).getLast (by simp)) :=
        List.getLast?_eq_some_getLast _
      have hmem : (c :: a).getLast (by simp) ∈ u.packageText := by
        rw [hat]
        exact List.mem_append_left t (List.getLast_mem _)
      rw [List.nil_append, hlast] at hline
      have hnewline : (c :: a).getLast (by simp) = '\n' := by simpa using hline
      exact absurd (hnewline ▸ hmem) u.newline_not_mem_packageText
  · rintro (_ | ⟨c, _ | ⟨d, a⟩⟩) t hat hne
    · refine misses_lineStart fun hline => ?_
      rw [List.nil_append, List.append_nil, packageText, ← List.append_assoc,
        List.getLast?_concat] at hline
      cases hline
    · cases hat
      exact misses_lineStart fun _ => balks_newline
    · simp only [List.cons_append, List.cons.injEq, List.nil_eq, List.append_eq_nil_iff] at hat
      exact absurd hat.2.2.2 hne

/-- The first header in a written skeleton is its own. -/
lemma exists_typeHeader (u : Skeleton) (hplain : '$' ∉ u.name.text.toList) : ∃ header,
    typeHeader.find? (u.packageText ++ ('\n' :: '\n' :: (u.headerText ++ r))) = some header ∧
    header.text .kind = u.kind.keyword.toList ∧ header.text .name = u.name.text.toList ∧
    header.text .extended = commaSeparated (TypeRef.texts u.extended) ∧
    header.text .implemented = commaSeparated (TypeRef.texts u.implemented) := by
  have hcontent : u.packageText ++ ('\n' :: '\n' :: (u.headerText ++ r)) =
      u.packageText ++ ['\n', '\n'] ++ (u.headerText ++ r) := by simp
  have hsize : u.modifiers.length ≤
      (u.packageText ++ ['\n', '\n'] ++ (u.headerText ++ r)).length := by
    have hspaced := length_le_length_spaced (u.modifiers.map (·.val))
    simp only [List.length_append, List.length_map, headerText] at hspaced ⊢
    omega
  obtain ⟨ms, htakes, hkind, hname, hextended, himplemented⟩ :=
    takes_headerShape (r := r) u hplain hsize
  have hhit : Hits _ typeHeader (u.packageText ++ ['\n', '\n']) u.headerText r ms :=
    htakes.hits.lineStart (by simp)
  refine ⟨_, hcontent ▸ find?_hit u.passes_typeHeader hhit rfl, ?_, ?_, ?_, ?_⟩
  · rw [Match.text_of htakes.inside, hkind]
    rfl
  · rw [Match.text_of htakes.inside, hname]
    rfl
  · rw [Match.text_of htakes.inside, hextended]
  · rw [Match.text_of htakes.inside, himplemented]

end Skeleton

end Java

end JavaAtlas

import Mathlib.Data.List.Basic
import Mathlib.Data.List.Induction
import JavaAtlas.Java.TypeName

/-!
# Cuts outside all brackets

A text is cut at the separators at which no bracket is open. How many are open is counted over all
of the text before a place, whatever brackets they are, and one that closes counts for nothing where
none is open. The scan keeps this count, the parts that it has cut off and the part that it reads,
and from what it has after each character everything else follows.
-/

namespace JavaAtlas

namespace Java

variable {c d : Char} {s tail : List Char} {parts : List (List Char)}

/-! ### Open brackets -/

def isBracket (c : Char) : Bool := isOpening c || isClosing c

/-- The number of brackets open behind a character when so many are open before it. -/
def depthBehind (depth : Nat) (c : Char) : Nat :=
  if isOpening c then depth + 1 else if isClosing c then depth - 1 else depth

/-- The number of brackets open at the end of a text. -/
def openBrackets (s : List Char) : Nat := s.foldl depthBehind 0

@[simp] lemma openBrackets_nil : openBrackets [] = 0 := rfl

@[simp] lemma openBrackets_concat (s : List Char) (d : Char) :
    openBrackets (s ++ [d]) = depthBehind (openBrackets s) d := by simp [openBrackets]

lemma isOpening_of_not_isBracket (h : isBracket c = false) : isOpening c = false :=
  (Bool.or_eq_false_iff.mp h).1

lemma isClosing_of_not_isBracket (h : isBracket c = false) : isClosing c = false :=
  (Bool.or_eq_false_iff.mp h).2

lemma depthBehind_of_not_isBracket (h : isBracket c = false) (depth : Nat) :
    depthBehind depth c = depth := by
  simp [depthBehind, isOpening_of_not_isBracket h, isClosing_of_not_isBracket h]

/-! ### One step of the scan -/

/-- What is kept of the last part: a blank one is dropped. -/
def keptTail (tail : List Char) : List (List Char) := if Text.allBlank tail then [] else [tail]

lemma eq_of_mem_keptTail {p : List Char} (h : p ∈ keptTail tail) : p = tail := by
  rw [keptTail] at h
  split at h
  · cases h
  · exact List.mem_singleton.mp h

lemma splitFrom_nil (separator : List Char) (depth : Nat) (current : List Char) :
    splitFrom separator depth current [] = keptTail current.reverse := by
  simp [splitFrom, keptTail, Text.allBlank]

/-- A character is read into a part unless it is a separator outside all brackets. -/
lemma splitFrom_read {separator : List Char} {depth : Nat}
    (h : separator = [d] → isBracket d = false → depth ≠ 0) (current rest : List Char) :
    splitFrom separator depth current (d :: rest) =
      splitFrom separator (depthBehind depth d) (d :: current) rest := by
  rw [splitFrom, depthBehind]
  by_cases hopen : isOpening d = true
  · simp [hopen]
  · by_cases hclose : isClosing d = true
    · simp [hopen, hclose]
    · have hnot : ([d] == separator && depth == 0) = false := by
        rw [Bool.and_eq_false_iff]
        by_cases hd : separator = [d]
        · exact Or.inr (by simpa using h hd (by simp [isBracket, hopen, hclose]))
        · exact Or.inl (beq_false_of_ne (Ne.symm hd))
      simp [hopen, hclose, hnot]

/-- A separator outside all brackets ends a part. -/
lemma splitFrom_cut (hc : isBracket c = false) (current rest : List Char) :
    splitFrom [c] 0 current (c :: rest) = current.reverse :: splitFrom [c] 0 [] rest := by
  simp [splitFrom, isOpening_of_not_isBracket hc, isClosing_of_not_isBracket hc]

/-- A bracket does not cut, and neither does what is not a single character. -/
lemma splitFrom_uncut {separator : List Char} (h : ∀ c, separator = [c] → isBracket c = true)
    (depth : Nat) (current s : List Char) :
    splitFrom separator depth current s = keptTail (current.reverse ++ s) := by
  induction s generalizing depth current with
  | nil => rw [splitFrom_nil, List.append_nil]
  | cons d s ih =>
    have hread : separator = [d] → isBracket d = false → depth ≠ 0 := by
      intro hd hbracket
      rw [h d hd] at hbracket
      cases hbracket
    rw [splitFrom_read hread, ih]
    simp

/-! ### Texts that are cut -/

/-- Parts, each followed by the separator. -/
def separated (c : Char) (parts : List (List Char)) : List Char := parts.flatMap (· ++ [c])

lemma separated_concat (c : Char) (parts : List (List Char)) (p : List Char) :
    separated c (parts ++ [p]) = separated c parts ++ (p ++ [c]) := by simp [separated]

/-- A text consists of parts, each followed by the separator, and a tail. The separators behind the
parts are those outside all brackets. -/
structure CutInto (c : Char) (text : List Char) (parts : List (List Char)) (tail : List Char) :
    Prop where
  whole : text = separated c parts ++ tail
  cut_iff : ∀ front rest, text = front ++ c :: rest →
    (openBrackets front = 0 ↔
      ∃ done p more, parts = done ++ p :: more ∧ front = separated c done ++ p)

/-- No separator in a text stands outside all brackets. -/
def IsSingle (c : Char) (s : List Char) : Prop :=
  ∀ front rest, s = front ++ c :: rest → openBrackets front ≠ 0

/-- Where a character stands in a text that ends in a given one: at its end or before it. -/
lemma concat_eq_append_cons {front rest : List Char} (h : s ++ [d] = front ++ c :: rest) :
    (front = s ∧ c = d) ∨ ∃ rest', s = front ++ c :: rest' := by
  rcases List.eq_nil_or_concat' rest with rfl | ⟨rest, x, rfl⟩
  · obtain ⟨hfront, hlast⟩ := List.append_inj' h rfl
    simp at hlast
    exact Or.inl ⟨hfront.symm, hlast.symm⟩
  · rw [← List.cons_append, ← List.append_assoc] at h
    exact Or.inr ⟨rest, (List.append_inj' h rfl).1⟩

lemma isSingle_nil : IsSingle c [] := by
  intro front rest h
  simp at h

lemma IsSingle.concat (h : IsSingle c s) (hd : d = c → openBrackets s ≠ 0) :
    IsSingle c (s ++ [d]) := by
  intro front rest heq
  rcases concat_eq_append_cons heq with ⟨rfl, rfl⟩ | ⟨rest', hs⟩
  · exact hd rfl
  · exact h front rest' hs

lemma CutInto.of_isSingle (h : CutInto c s parts tail) (hs : IsSingle c s) :
    parts = [] ∧ tail = s := by
  match parts with
  | [] => exact ⟨rfl, by simpa [separated] using h.whole.symm⟩
  | p :: parts =>
    have heq : s = p ++ c :: (separated c parts ++ tail) := by
      simpa [separated] using h.whole
    have hcut := (h.cut_iff p _ heq).mpr ⟨[], p, parts, rfl, rfl⟩
    exact absurd hcut (hs p _ heq)

/-! ### The scan -/

/-- What the scan has behind a text: the parts it has cut off and the one it reads, each of which
would not be cut by itself, and as many open brackets as there are in the latter. -/
structure ScansTo (c : Char) (s : List Char) (parts : List (List Char)) (tail : List Char) : Prop
    extends CutInto c s parts tail where
  single : ∀ p ∈ parts, IsSingle c p
  single_tail : IsSingle c tail
  depth_tail : openBrackets tail = openBrackets s
  scan : ∀ rest, splitFrom [c] 0 [] (s ++ rest) =
    parts ++ splitFrom [c] (openBrackets s) tail.reverse rest

lemma scansTo_nil : ScansTo c [] [] [] where
  whole := rfl
  cut_iff front rest h := by simp at h
  single := by simp
  single_tail := isSingle_nil
  depth_tail := rfl
  scan rest := rfl

/-- Behind a character that does not cut, the part that is read goes on. -/
lemma ScansTo.read (h : ScansTo c s parts tail) (hd : d = c → openBrackets s ≠ 0) :
    ScansTo c (s ++ [d]) parts (tail ++ [d]) where
  whole := by rw [h.whole, List.append_assoc]
  cut_iff front rest heq := by
    rcases concat_eq_append_cons heq with ⟨rfl, rfl⟩ | ⟨rest', hs⟩
    · refine iff_of_false (hd rfl) ?_
      rintro ⟨done, p, more, rfl, hfront⟩
      -- the front would end within its own parts
      have hlength := congrArg List.length (h.whole.symm.trans hfront)
      simp [separated] at hlength
    · exact h.cut_iff front rest' hs
  single := h.single
  single_tail := h.single_tail.concat (h.depth_tail ▸ hd)
  depth_tail := by simp [h.depth_tail]
  scan rest := by
    have hread : [c] = [d] → isBracket d = false → openBrackets s ≠ 0 :=
      fun heq _ => hd (List.singleton_inj.mp heq).symm
    rw [List.append_assoc, List.singleton_append, h.scan, splitFrom_read hread]
    simp

/-- Behind a separator outside all brackets, the part that is read is cut off. -/
lemma ScansTo.cut (h : ScansTo c s parts tail) (hc : isBracket c = false)
    (hs : openBrackets s = 0) : ScansTo c (s ++ [c]) (parts ++ [tail]) [] where
  whole := by rw [separated_concat, h.whole, List.append_nil, List.append_assoc]
  cut_iff front rest heq := by
    rcases concat_eq_append_cons heq with ⟨rfl, -⟩ | ⟨rest', hfront⟩
    · exact iff_of_true hs ⟨parts, tail, [], rfl, h.whole⟩
    · refine (h.cut_iff front rest' hfront).trans ⟨?_, ?_⟩
      · rintro ⟨done, p, more, rfl, heq⟩
        exact ⟨done, p, more ++ [tail], by simp, heq⟩
      · rintro ⟨done, p, more, hparts, heq⟩
        rcases List.eq_nil_or_concat' more with rfl | ⟨more, x, rfl⟩
        · -- the last part ends at the end of the text, and the front before it
          obtain ⟨rfl, hlast⟩ := List.append_inj' hparts rfl
          simp at hlast
          have hlength := congrArg List.length (h.whole.symm.trans hfront)
          simp [heq, ← hlast] at hlength
        · rw [← List.cons_append, ← List.append_assoc] at hparts
          exact ⟨done, p, more, (List.append_inj' hparts rfl).1, heq⟩
  single p hp := by
    rcases List.mem_append.mp hp with hp | hp
    · exact h.single p hp
    · rw [List.mem_singleton.mp hp]
      exact h.single_tail
  single_tail := isSingle_nil
  depth_tail := by simp [hs, depthBehind_of_not_isBracket hc]
  scan rest := by
    rw [List.append_assoc, List.singleton_append, h.scan, hs, splitFrom_cut hc]
    simp [hs, depthBehind_of_not_isBracket hc]

/-- The scan reads every text. -/
lemma exists_scansTo (hc : isBracket c = false) (s : List Char) :
    ∃ parts tail, ScansTo c s parts tail := by
  induction s using List.reverseRecOn with
  | nil => exact ⟨[], [], scansTo_nil⟩
  | append_singleton s d ih =>
    obtain ⟨parts, tail, h⟩ := ih
    by_cases hd : d = c → openBrackets s ≠ 0
    · exact ⟨parts, tail ++ [d], h.read hd⟩
    · obtain ⟨rfl, hs⟩ := Classical.not_imp.mp hd
      exact ⟨parts ++ [tail], [], h.cut hc (not_not.mp hs)⟩

/-! ### What is cut -/

lemma ScansTo.splitTopLevel (h : ScansTo c s parts tail) :
    splitTopLevel [c] s = parts ++ keptTail tail := by
  have hscan := h.scan []
  rw [List.append_nil, splitFrom_nil, List.reverse_reverse] at hscan
  exact hscan

lemma splitTopLevel_of_isSingle (hc : isBracket c = false) (hs : IsSingle c s) :
    splitTopLevel [c] s = keptTail s := by
  obtain ⟨parts, tail, h⟩ := exists_scansTo hc s
  obtain ⟨rfl, rfl⟩ := h.of_isSingle hs
  exact h.splitTopLevel

/-- A text is cut at the separators outside all brackets and nowhere else: it consists of its parts,
each followed by the separator, and of a tail that is its last part unless it is blank. None of the
parts is cut any further, and where the brackets of a text are closed, a separator behind it divides
it from what follows. A separator that is a bracket or not a single character does not cut. -/
theorem cut_outside_brackets (text : List Char) :
    (∀ c, isBracket c = false → ∃ parts tail, CutInto c text parts tail ∧
      splitTopLevel [c] text = parts ++ keptTail tail ∧
      (∀ p ∈ splitTopLevel [c] text, splitTopLevel [c] p = keptTail p) ∧
      (openBrackets text = 0 → ∀ more,
        splitTopLevel [c] (text ++ c :: more) = parts ++ tail :: splitTopLevel [c] more)) ∧
    ∀ separator, (separator.length ≠ 1 ∨ ∃ c, separator = [c] ∧ isBracket c = true) →
      splitTopLevel separator text = keptTail text := by
  refine ⟨fun c hc => ?_, fun separator hseparator => ?_⟩
  · obtain ⟨parts, tail, h⟩ := exists_scansTo hc text
    refine ⟨parts, tail, h.toCutInto, h.splitTopLevel, fun p hp => ?_, fun hclosed more => ?_⟩
    · apply splitTopLevel_of_isSingle hc
      rw [h.splitTopLevel] at hp
      rcases List.mem_append.mp hp with hp | hp
      · exact h.single p hp
      · rw [eq_of_mem_keptTail hp]
        exact h.single_tail
    · rw [Java.splitTopLevel, h.scan, hclosed, splitFrom_cut hc, List.reverse_reverse,
        Java.splitTopLevel]
  · apply splitFrom_uncut
    rintro c rfl
    rcases hseparator with hlength | ⟨d, hd, hbracket⟩
    · exact absurd rfl hlength
    · rwa [List.singleton_inj.mp hd]

/-- A list with a bracket too many, and with a blank tail. -/
def surplusBracket : List Char := "a>, b<c, d>, ".toList

theorem cut_outside_brackets_surplus :
    isBracket ',' = false ∧ openBrackets surplusBracket = 0 ∧
    (∃ parts tail, CutInto ',' surplusBracket parts tail ∧
      parts ++ keptTail tail = ["a>".toList, " b<c, d>".toList] ∧
      splitTopLevel [','] " b<c, d>".toList = [" b<c, d>".toList] ∧
      splitTopLevel [','] (surplusBracket ++ [',', 'e']) = parts ++ [tail, ['e']]) ∧
    splitTopLevel ['>'] surplusBracket = [surplusBracket] := by
  obtain ⟨hcuts, hnone⟩ := cut_outside_brackets surplusBracket
  have hcomma : isBracket ',' = false := by decide
  have hclosed : openBrackets surplusBracket = 0 := by decide
  have hsplit : splitTopLevel [','] surplusBracket = ["a>".toList, " b<c, d>".toList] := by decide
  obtain ⟨parts, tail, hinto, hparts, halone, hmore⟩ := hcuts ',' hcomma
  refine ⟨hcomma, hclosed, ⟨parts, tail, hinto, hparts.symm.trans hsplit, ?_, ?_⟩, ?_⟩
  · exact halone _ (by simp [hsplit])
  · exact hmore hclosed ['e']
  · exact hnone ['>'] (Or.inr ⟨'>', rfl, by decide⟩)

end Java

end JavaAtlas

import Mathlib.Data.List.Induction
import Mathlib.Order.Bounds.Basic
import JavaAtlas.Proofs.Java.Signatures

/-!
# The ends of blocks

Behind an opening brace, a block ends at the first place where more braces have been closed than
opened. One block that begins within another ends within it, since the braces between their
beginnings cannot have closed more than they opened.
-/

namespace JavaAtlas

namespace Java

open Pattern

variable {content s t inner rest : List Char} {depth offset o p : Nat}

/-- With the closing brace at `p`, more braces are closed than opened from `o` on. -/
structure ClosesAt (content : List Char) (o p : Nat) : Prop where
  behind : o ≤ p
  brace : content[p]? = some '\x7d'
  surplus : (Text.slice content o (p + 1)).count '\x7b' < (Text.slice content o (p + 1)).count '\x7d'

/-- The line on which the block ends whose text begins at an offset. -/
def blockEnd? (content : List Char) (o : Nat) : Option Nat :=
  (closingBrace? 0 o (content.drop o)).map (Text.lineOf content)

/-! ### One block -/

lemma closesAt_add_iff {k : Nat} : ClosesAt content o (o + k) ↔
    (content.drop o)[k]? = some '\x7d' ∧
      ((content.drop o).take (k + 1)).count '\x7b' < ((content.drop o).take (k + 1)).count '\x7d' := by
  have hslice : Text.slice content o (o + k + 1) = (content.drop o).take (k + 1) := by
    rw [Text.slice, Nat.add_assoc, Nat.add_sub_cancel_left]
  constructor
  · intro h
    refine ⟨?_, ?_⟩
    · rw [List.getElem?_drop]
      exact h.brace
    · rw [← hslice]
      exact h.surplus
  · rintro ⟨hbrace, hsurplus⟩
    refine ⟨Nat.le_add_right .., ?_, ?_⟩
    · rw [← List.getElem?_drop]
      exact hbrace
    · rw [hslice]
      exact hsurplus

/-- Behind a balanced text, a closing brace is the first that is one too many. -/
lemma isLeast_of_isBalanced (h : content.drop o = inner ++ '\x7d' :: rest)
    (hinner : IsBalanced inner) : IsLeast {q | ClosesAt content o q} (o + inner.length) := by
  refine ⟨?_, ?_⟩
  · have htake : (inner ++ '\x7d' :: rest).take (inner.length + 1) = inner ++ ['\x7d'] := by
      rw [List.take_length_add_append]
      rfl
    have hall := hinner.all
    apply closesAt_add_iff.mpr
    rw [h, htake]
    simp [hall]
  · intro q hq
    obtain ⟨k, rfl⟩ := Nat.exists_eq_add_of_le hq.behind
    by_contra hlt
    have hk : k + 1 ≤ inner.length := by omega
    have hsurplus := (closesAt_add_iff.mp hq).2
    rw [h, List.take_append_of_le_length hk] at hsurplus
    have hwithin := hinner.within _ (List.take_prefix (k + 1) inner)
    omega

/-- Where the search finds no brace, none is one too many: in every text from there on, no more
braces are closed than are opened in it and around it. -/
lemma count_le_of_closingBrace?_eq_none (h : closingBrace? depth offset s = none) (ht : t <+: s) :
    ∀ u, u <+: t → u.count '\x7d' ≤ u.count '\x7b' + depth := by
  induction t using List.reverseRecOn with
  | nil =>
    intro u hu
    simp [List.prefix_nil.mp hu]
  | append_singleton t c ih =>
    have hbefore := ih ((List.prefix_append t [c]).trans ht)
    intro u hu
    rcases List.prefix_concat_iff.mp hu with rfl | hu
    · have hle := hbefore t List.prefix_rfl
      by_cases hc : c = '\x7d'
      · subst hc
        -- the brace would close the outermost block if all the others were closed before it
        have hopen : t.count '\x7d' ≠ t.count '\x7b' + depth := by
          intro hall
          obtain ⟨rest, rfl⟩ := ht
          exact closingBrace?_eq_none_iff.mp h t rest (by simp) ⟨hall, hbefore⟩
        simp
        omega
      · simp [hc]
        omega
    · exact hbefore u hu

/-- The search finds the first brace that is one too many. -/
lemma closingBrace?_drop_eq_some_iff :
    closingBrace? 0 o (content.drop o) = some p ↔ IsLeast {q | ClosesAt content o q} p := by
  have hleast : ∀ {q}, closingBrace? 0 o (content.drop o) = some q →
      IsLeast {q | ClosesAt content o q} q := by
    intro q hq
    obtain ⟨inner, rest, hsplit, hinner, rfl⟩ := closingBrace?_eq_some_iff.mp hq
    exact isLeast_of_isBalanced hsplit hinner
  constructor
  · exact hleast
  · intro h
    obtain ⟨k, rfl⟩ := Nat.exists_eq_add_of_le h.1.behind
    match hfind : closingBrace? 0 o (content.drop o) with
    | some q => rw [(hleast hfind).unique h]
    | none =>
      have hsurplus := (closesAt_add_iff.mp h.1).2
      have hle := count_le_of_closingBrace?_eq_none hfind (List.take_prefix (k + 1) _) _
        List.prefix_rfl
      omega

lemma closingBrace?_drop_eq_none_iff :
    closingBrace? 0 o (content.drop o) = none ↔ ∀ p, ¬ ClosesAt content o p := by
  constructor
  · intro hnone p hp
    obtain ⟨k, rfl⟩ := Nat.exists_eq_add_of_le hp.behind
    have hsurplus := (closesAt_add_iff.mp hp).2
    have hle := count_le_of_closingBrace?_eq_none hnone (List.take_prefix (k + 1) _) _
      List.prefix_rfl
    omega
  · intro h
    rw [Option.eq_none_iff_forall_ne_some]
    intro p hp
    exact h p (closingBrace?_drop_eq_some_iff.mp hp).1

/-! ### A block in a block -/

/-- A block that begins within another one ends within it. -/
lemma exists_isLeast_within {o₁ o₂ p₁ : Nat} (hlt : o₁ < o₂)
    (hopen : content[o₂ - 1]? = some '\x7b') (h : IsLeast {q | ClosesAt content o₁ q} p₁)
    (hle : o₂ ≤ p₁) : ∃ p₂, IsLeast {q | ClosesAt content o₂ q} p₂ ∧ p₂ < p₁ := by
  obtain ⟨inner, rest, hsplit, hinner, rfl⟩ :=
    closingBrace?_eq_some_iff.mp (closingBrace?_drop_eq_some_iff.mpr h)
  obtain ⟨k, rfl⟩ : ∃ k, o₂ = o₁ + (k + 1) := ⟨o₂ - o₁ - 1, by omega⟩
  have hk : k < inner.length := by omega
  -- the outer block up to the inner one, and the outer block from there on
  have hbrace : inner[k] = '\x7b' := by
    have hplace : content[o₁ + k]? = some '\x7b' := hopen
    rw [← List.getElem?_drop, hsplit, List.getElem?_append_left hk, List.getElem?_eq_getElem hk]
      at hplace
    exact Option.some.inj hplace
  have hparts : inner = inner.take k ++ '\x7b' :: inner.drop (k + 1) := by
    rw [← hbrace, ← List.drop_eq_getElem_cons hk, List.take_append_drop]
  have hdrop : content.drop (o₁ + (k + 1)) = inner.drop (k + 1) ++ '\x7d' :: rest := by
    rw [← List.drop_drop, hsplit, List.drop_append_of_le_length hk]
  have hbefore := hinner.within _ (List.take_prefix k inner)
  have hall := hinner.all
  rw [hparts] at hall
  simp only [List.count_append, List.count_cons] at hall
  have hsurplus : (inner.drop (k + 1)).count '\x7b' < (inner.drop (k + 1)).count '\x7d' := by
    simp at hall
    omega
  match hfind : closingBrace? 0 (o₁ + (k + 1)) (inner.drop (k + 1)) with
  | none =>
    have hle := count_le_of_closingBrace?_eq_none hfind List.prefix_rfl _ List.prefix_rfl
    omega
  | some p₂ =>
    obtain ⟨body, more, hbody, hbalanced, rfl⟩ := closingBrace?_eq_some_iff.mp hfind
    have hlength := congrArg List.length hbody
    have hwhole : content.drop (o₁ + (k + 1)) = body ++ '\x7d' :: (more ++ '\x7d' :: rest) := by
      rw [hdrop, hbody, List.append_assoc, List.cons_append]
    refine ⟨_, isLeast_of_isBalanced hwhole hbalanced, ?_⟩
    simp at hlength
    omega

/-! ### The bodies of methods -/

/-- A method with a body ends on the line on which the block behind its signature does. -/
lemma methodEnd_eq_blockEnd? {m : Match MemberPart} (hm : m ∈ methodShape.findAll content)
    (hbody : m.text .stop = ['\x7b']) (start : Nat) :
    methodEnd m (Text.lineOf content m.start) start =
      (blockEnd? content m.stop).getD (start + unbalancedSpan) := by
  obtain ⟨stop, hfound⟩ := found_of_findAll.1 m hm
  obtain ⟨done, -, hcontent, hstart, -⟩ := hfound.leads
  have hle := hfound.at_stop.1
  have hdrop : content.drop m.stop = m.here.drop (m.stop - m.start) := by
    rw [hcontent, hstart, List.drop_append, List.drop_of_length_le (hstart ▸ hle), List.nil_append]
  have hline : (bodyEnd? m).map (m.lineAt (Text.lineOf content m.start)) =
      blockEnd? content m.stop := by
    rw [bodyEnd?, blockEnd?, ← hdrop]
    apply Option.map_congr
    intro p hp
    have hbehind := (closingBrace?_drop_eq_some_iff.mp hp).1.behind
    exact lineAt_lineOf hcontent hstart (hle.trans hbehind)
  simp [methodEnd, hbody, hline]

/-- From every place on, the block ends on the line of the first closing brace with which more
braces are closed than opened, and it has no end if there is none. A block that begins within
another one ends before it, and a method with a body ends where the block behind its signature
does. -/
theorem blocks_end_and_nest (content : List Char) :
    (∀ o line, blockEnd? content o = some line ↔
      ∃ p, IsLeast {q | ClosesAt content o q} p ∧ line = 1 + (content.take p).count '\n') ∧
    (∀ o, blockEnd? content o = none ↔ ∀ p, ¬ ClosesAt content o p) ∧
    (∀ o₁ o₂ p₁, o₁ < o₂ → content[o₂ - 1]? = some '\x7b' →
      IsLeast {q | ClosesAt content o₁ q} p₁ → o₂ ≤ p₁ →
      ∃ p₂, IsLeast {q | ClosesAt content o₂ q} p₂ ∧ p₂ < p₁) ∧
    ∀ m ∈ methodShape.findAll content, m.text .stop = ['\x7b'] → ∀ start,
      methodEnd m (Text.lineOf content m.start) start =
        (blockEnd? content m.stop).getD (start + 10) := by
  refine ⟨fun o line => ?_, fun o => ?_, fun o₁ o₂ p₁ hlt hopen h hle => ?_,
    fun m hm hbody start => ?_⟩
  · rw [blockEnd?, Option.map_eq_some_iff]
    constructor
    · rintro ⟨p, hp, rfl⟩
      exact ⟨p, closingBrace?_drop_eq_some_iff.mp hp, Text.lineOf_eq content p⟩
    · rintro ⟨p, hp, rfl⟩
      exact ⟨p, closingBrace?_drop_eq_some_iff.mpr hp, Text.lineOf_eq content p⟩
  · rw [blockEnd?, Option.map_eq_none_iff]
    exact closingBrace?_drop_eq_none_iff
  · exact exists_isLeast_within hlt hopen h hle
  · exact methodEnd_eq_blockEnd? hm hbody start

/-- A method whose body holds a block, in a class that is not closed. -/
def nestedBlocks : List Char := "class A\x7b\n void f() \x7b\n  \x7b \x7d\n \x7d\n".toList

theorem blocks_end_and_nest_method :
    (∀ p, ¬ ClosesAt nestedBlocks 8 p) ∧
    (∃ p₁ p₂, IsLeast {q | ClosesAt nestedBlocks 20 q} p₁ ∧
      IsLeast {q | ClosesAt nestedBlocks 24 q} p₂ ∧ p₂ < p₁) ∧
    ∃ m ∈ methodShape.findAll nestedBlocks, m.text .stop = ['\x7b'] ∧
      methodEnd m (Text.lineOf nestedBlocks m.start) 2 = 4 := by
  obtain ⟨hends, hnone, hnest, hmethods⟩ := blocks_end_and_nest nestedBlocks
  refine ⟨(hnone 8).mp (by decide), ?_, ?_⟩
  · obtain ⟨p₁, hp₁, -⟩ := (hends 20 4).mp (by decide)
    -- the outer block ends on its line, so behind the beginning of the inner one
    have hle : 24 ≤ p₁ := by
      have hfind : closingBrace? 0 20 (nestedBlocks.drop 20) = some 28 := by decide
      rw [hp₁.unique (closingBrace?_drop_eq_some_iff.mp hfind)]
      decide
    obtain ⟨p₂, hp₂, hlt⟩ := hnest 20 24 p₁ (by decide) (by decide) hp₁ hle
    exact ⟨p₁, p₂, hp₁, hp₂, hlt⟩
  · obtain ⟨m, hm, hbody, hstop⟩ : ∃ m ∈ methodShape.findAll nestedBlocks,
        m.text .stop = ['\x7b'] ∧ blockEnd? nestedBlocks m.stop = some 4 := by
      have hany : (methodShape.findAll nestedBlocks).any (fun m =>
          m.text .stop == ['\x7b'] && blockEnd? nestedBlocks m.stop == some 4) = true := by
        decide +kernel
      obtain ⟨m, hm, hboth⟩ := List.any_eq_true.mp hany
      exact ⟨m, hm, by simpa using hboth⟩
    refine ⟨m, hm, hbody, ?_⟩
    rw [hmethods m hm hbody 2, hstop, Option.getD_some]

end Java

end JavaAtlas

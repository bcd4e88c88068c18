import Mathlib.Tactic.Lemma
import JavaAtlas.Pattern.Search

/-!
# What a pattern can match

`Pattern.Leads` says, without regard to which choice is preferred, from which place a pattern can
lead to which. Whatever the search finds it finds along such a way. A law that holds for every
text a marked part can cover therefore holds for the text of that part in every match.
-/

namespace JavaAtlas

namespace Pattern

variable {κ β : Type} {p q : Pattern κ} {cur mid next : Cursor κ} {holds : Char → Bool}

/-- From one place to another over characters of a class. -/
inductive Skips (holds : Char → Bool) : Cursor κ → Cursor κ → Prop
  | stay (cur : Cursor κ) : Skips holds cur cur
  | step {cur next : Cursor κ} {c : Char} {rest : List Char} (hrest : cur.rest = c :: rest)
      (hc : holds c = true) (h : Skips holds (cur.advance c rest) next) : Skips holds cur next

/-- A pattern can lead from one place to another, marking parts on the way. -/
inductive Leads : Pattern κ → Cursor κ → Cursor κ → Prop
  | nothing (cur : Cursor κ) : Leads .nothing cur cur
  | one {holds : Char → Bool} {cur : Cursor κ} {c : Char} {rest : List Char}
      (hrest : cur.rest = c :: rest) (hc : holds c = true) :
      Leads (.one holds) cur (cur.advance c rest)
  | greedy {holds : Char → Bool} {cur next : Cursor κ} (h : Skips holds cur next) :
      Leads (.greedy holds) cur next
  | lazy {holds : Char → Bool} {cur next : Cursor κ} (h : Skips holds cur next) :
      Leads (.lazy holds) cur next
  | seq {p q : Pattern κ} {cur mid next : Cursor κ} (hp : Leads p cur mid) (hq : Leads q mid next) :
      Leads (.seq p q) cur next
  | first {p q : Pattern κ} {cur next : Cursor κ} (h : Leads p cur next) :
      Leads (.either p q) cur next
  | second {p q : Pattern κ} {cur next : Cursor κ} (h : Leads q cur next) :
      Leads (.either p q) cur next
  | done {p : Pattern κ} (cur : Cursor κ) : Leads (.many p) cur cur
  | round {p : Pattern κ} {cur mid next : Cursor κ} (hp : Leads p cur mid)
      (hmore : cur.offset < mid.offset) (h : Leads (.many p) mid next) : Leads (.many p) cur next
  | part {p : Pattern κ} {label : κ} {cur next : Cursor κ} (h : Leads p cur next) :
      Leads (.part label p) cur
        { next with parts := ⟨label, cur.offset, next.offset⟩ :: next.parts }
  | wordEdge {cur : Cursor κ} (h : cur.atWordEdge = true) : Leads .wordEdge cur cur
  | lineStart {cur : Cursor κ} (h : cur.atLineStart = true) : Leads .lineStart cur cur
  | textEnd {cur : Cursor κ} (h : cur.rest = []) : Leads .textEnd cur cur

/-! ### The search follows the pattern -/

lemma exists_of_firstOf {k : Rest κ β} {places : List (Cursor κ)} {b : β}
    (h : firstOf k places = some b) : ∃ next ∈ places, k next = some b := by
  induction places with
  | nil => simp [firstOf] at h
  | cons cur others ih =>
    rw [firstOf] at h
    match hk : k cur with
    | some answer =>
      rw [hk] at h
      exact ⟨cur, List.mem_cons_self, hk.trans h⟩
    | none =>
      rw [hk] at h
      obtain ⟨next, hmem, hnext⟩ := ih h
      exact ⟨next, List.mem_cons_of_mem _ hmem, hnext⟩

lemma skips_of_mem_reach {found : List (Cursor κ)} {s : List Char} (hs : cur.rest = s)
    (h : next ∈ reach holds found cur s) : next ∈ found ∨ Skips holds cur next := by
  induction s generalizing cur found with
  | nil =>
    rcases List.mem_cons.mp h with rfl | hmem
    · exact Or.inr (.stay _)
    · exact Or.inl hmem
  | cons c rest ih =>
    rw [reach] at h
    split at h
    · next hc =>
      rcases ih rfl h with hmem | hskips
      · rcases List.mem_cons.mp hmem with rfl | hmem
        · exact Or.inr (.stay _)
        · exact Or.inl hmem
      · exact Or.inr (.step hs hc hskips)
    · rcases List.mem_cons.mp h with rfl | hmem
      · exact Or.inr (.stay _)
      · exact Or.inl hmem

lemma skips_of_runLazy {k : Rest κ β} {b : β} {s : List Char} (hs : cur.rest = s)
    (h : runLazy holds k cur s = some b) : ∃ next, Skips holds cur next ∧ k next = some b := by
  induction s generalizing cur with
  | nil => exact ⟨cur, .stay cur, h⟩
  | cons c rest ih =>
    rw [runLazy] at h
    match hk : k cur with
    | some answer =>
      rw [hk] at h
      exact ⟨cur, .stay cur, hk.trans h⟩
    | none =>
      simp only [hk] at h
      split at h
      · next hc =>
        obtain ⟨next, hskips, hnext⟩ := ih rfl h
        exact ⟨next, .step hs hc hskips, hnext⟩
      · cases h

lemma leads_of_runMany {step : Rest κ β → Rest κ β} {k : Rest κ β} {b : β} (rounds : Nat)
    (hstep : ∀ {k : Rest κ β} {cur : Cursor κ}, step k cur = some b →
      ∃ next, Leads p cur next ∧ k next = some b)
    (h : runMany step k rounds cur = some b) :
    ∃ next, Leads (.many p) cur next ∧ k next = some b := by
  induction rounds generalizing cur with
  | zero => exact ⟨cur, .done cur, h⟩
  | succ rounds ih =>
    rw [runMany] at h
    split at h
    · next answer hmore =>
      obtain ⟨mid, hmid, hrest⟩ := hstep (hmore.trans h)
      split at hrest
      · next hlt =>
        obtain ⟨next, hnext, hk⟩ := ih hrest
        exact ⟨next, .round hmid hlt hnext, hk⟩
      · cases hrest
    · exact ⟨cur, .done cur, h⟩

/-- Whatever answer the search gives, it gives at a place the pattern leads to. -/
theorem leads_of_run {size : Nat} {k : Rest κ β} {b : β} (h : run size p k cur = some b) :
    ∃ next, Leads p cur next ∧ k next = some b := by
  induction p generalizing k cur with
  | nothing => exact ⟨cur, .nothing cur, h⟩
  | one holds =>
    rw [run] at h
    match hrest : cur.rest with
    | [] => simp [hrest] at h
    | c :: rest =>
      simp only [hrest] at h
      split at h
      · next hc => exact ⟨_, .one hrest hc, h⟩
      · cases h
  | greedy holds =>
    rw [run] at h
    obtain ⟨next, hmem, hk⟩ := exists_of_firstOf h
    rcases skips_of_mem_reach rfl hmem with hnil | hskips
    · cases hnil
    · exact ⟨next, .greedy hskips, hk⟩
  | «lazy» holds =>
    rw [run] at h
    obtain ⟨next, hskips, hk⟩ := skips_of_runLazy rfl h
    exact ⟨next, .lazy hskips, hk⟩
  | seq p q ihp ihq =>
    rw [run] at h
    obtain ⟨mid, hmid, hrest⟩ := ihp h
    obtain ⟨next, hnext, hk⟩ := ihq hrest
    exact ⟨next, .seq hmid hnext, hk⟩
  | either p q ihp ihq =>
    rw [run] at h
    split at h
    · next answer hp =>
      obtain ⟨next, hnext, hk⟩ := ihp (hp.trans h)
      exact ⟨next, .first hnext, hk⟩
    · obtain ⟨next, hnext, hk⟩ := ihq h
      exact ⟨next, .second hnext, hk⟩
  | many p ih =>
    rw [run] at h
    exact leads_of_runMany size (fun hstep => ih hstep) h
  | part label p ih =>
    rw [run] at h
    obtain ⟨next, hnext, hk⟩ := ih h
    exact ⟨_, .part hnext, hk⟩
  | wordEdge =>
    rw [run] at h
    split at h
    · next hedge => exact ⟨cur, .wordEdge hedge, h⟩
    · cases h
  | lineStart =>
    rw [run] at h
    split at h
    · next hline => exact ⟨cur, .lineStart hline, h⟩
    · cases h
  | textEnd =>
    rw [run] at h
    split at h
    · next hend => exact ⟨cur, .textEnd (List.isEmpty_iff.mp hend), h⟩
    · cases h

/-! ### The text a pattern covers -/

lemma Skips.covers (h : Skips holds cur next) :
    ∃ taken, cur.rest = taken ++ next.rest ∧ next.offset = cur.offset + taken.length ∧
      next.parts = cur.parts ∧ ∀ c ∈ taken, holds c = true := by
  induction h with
  | stay cur => exact ⟨[], by simp⟩
  | @step cur next c rest hrest hc h ih =>
    obtain ⟨taken, htaken, hoffset, hparts, hall⟩ := ih
    refine ⟨c :: taken, ?_, ?_, hparts, ?_⟩
    · rw [hrest, List.cons_append, ← htaken]
      rfl
    · rw [hoffset, List.length_cons]
      simp only [Cursor.advance]
      omega
    · intro a ha
      rcases List.mem_cons.mp ha with rfl | ha
      · exact hc
      · exact hall a ha

/-- A pattern leads from one place to another over the text between them. -/
lemma Leads.covers (h : Leads p cur next) :
    ∃ taken, cur.rest = taken ++ next.rest ∧ next.offset = cur.offset + taken.length := by
  induction h with
  | nothing | done | wordEdge | lineStart | textEnd => exact ⟨[], by simp⟩
  | one hrest hc => exact ⟨[_], hrest, rfl⟩
  | greedy h | «lazy» h =>
    obtain ⟨taken, htaken, hoffset, -, -⟩ := h.covers
    exact ⟨taken, htaken, hoffset⟩
  | seq _ _ ihp ihq =>
    obtain ⟨s, hs, hsoffset⟩ := ihp
    obtain ⟨t, ht, htoffset⟩ := ihq
    exact ⟨s ++ t, by rw [hs, ht, List.append_assoc], by simp [htoffset, hsoffset, Nat.add_assoc]⟩
  | first _ ih | second _ ih => exact ih
  | round _ _ _ ihp ih =>
    obtain ⟨s, hs, hsoffset⟩ := ihp
    obtain ⟨t, ht, htoffset⟩ := ih
    exact ⟨s ++ t, by rw [hs, ht, List.append_assoc], by simp [htoffset, hsoffset, Nat.add_assoc]⟩
  | part _ ih => exact ih

/-- A pattern can cover a text. -/
def Covers (p : Pattern κ) (taken : List Char) : Prop :=
  ∃ cur next : Cursor κ, Leads p cur next ∧ cur.rest = taken ++ next.rest ∧
    next.offset = cur.offset + taken.length

lemma covers_greedy1 {taken : List Char} (h : Covers (greedy1 holds : Pattern κ) taken) :
    taken ≠ [] ∧ ∀ c ∈ taken, holds c = true := by
  obtain ⟨cur, next, hleads, hrest, -⟩ := h
  cases hleads with
  | seq hone hmore =>
    cases hone with
    | @one _ _ c rest hcur hc =>
      cases hmore with
      | greedy hskips =>
        obtain ⟨more, hmore, -, -, hall⟩ := hskips.covers
        have heq : taken ++ next.rest = (c :: more) ++ next.rest := by
          rw [← hrest, hcur, List.cons_append, ← hmore]
          rfl
        rw [List.append_cancel_right heq]
        refine ⟨by simp, fun a ha => ?_⟩
        rcases List.mem_cons.mp ha with rfl | ha
        · exact hc
        · exact hall a ha

lemma Leads.char {c : Char} (h : Leads (char c : Pattern κ) cur next) :
    cur.rest = c :: next.rest := by
  cases h with
  | one hrest hc =>
    rw [hrest, eq_of_beq hc]
    rfl

lemma Leads.text {w : String} (h : Leads (text w : Pattern κ) cur next) :
    cur.rest = w.toList ++ next.rest := by
  rw [Pattern.text] at h
  generalize w.toList = s at h ⊢
  induction s generalizing cur with
  | nil => cases h; rfl
  | cons c s ih =>
    match s with
    | [] => exact h.char
    | d :: s =>
      cases h with
      | seq hc hs => rw [hc.char, ih hs, ← List.cons_append]

lemma Leads.oneOf {words : List String} (h : Leads (oneOf words : Pattern κ) cur next) :
    ∃ w ∈ words, cur.rest = w.toList ++ next.rest := by
  induction words with
  | nil =>
    cases h with
    | one hrest hc => cases hc
  | cons w words ih =>
    match words, ih with
    | [], _ => exact ⟨w, List.mem_cons_self, Leads.text h⟩
    | v :: words, ih =>
      cases h with
      | first h => exact ⟨w, List.mem_cons_self, h.text⟩
      | second h =>
        obtain ⟨u, hu, hrest⟩ := ih h
        exact ⟨u, List.mem_cons_of_mem _ hu, hrest⟩

lemma Leads.greedy1 (h : Leads (greedy1 holds : Pattern κ) cur next) :
    ∃ taken, taken ≠ [] ∧ (∀ c ∈ taken, holds c = true) ∧ cur.rest = taken ++ next.rest := by
  obtain ⟨taken, hrest, hoffset⟩ := h.covers
  obtain ⟨hne, hall⟩ := covers_greedy1 ⟨cur, next, h, hrest, hoffset⟩
  exact ⟨taken, hne, hall, hrest⟩

/-- A pattern matches characters of a class only. -/
def Within (cls : Char → Prop) : Pattern κ → Prop
  | .one holds | .greedy holds | .lazy holds => ∀ c, holds c = true → cls c
  | .seq p q | .either p q => Within cls p ∧ Within cls q
  | .many p | .part _ p => Within cls p
  | _ => True

lemma within_char {cls : Char → Prop} {c : Char} (h : cls c) :
    Within cls (Pattern.char c : Pattern κ) := by
  intro d hd
  rw [eq_of_beq hd]
  exact h

lemma within_text {cls : Char → Prop} {w : String} (h : ∀ c ∈ w.toList, cls c) :
    Within cls (text w : Pattern κ) := by
  rw [Pattern.text]
  generalize w.toList = s at h
  induction s with
  | nil => trivial
  | cons c s ih =>
    have hc : Within cls (Pattern.char c : Pattern κ) := within_char (h c List.mem_cons_self)
    have hs := ih fun d hd => h d (List.mem_cons_of_mem _ hd)
    match s with
    | [] => exact hc
    | d :: s => exact ⟨hc, hs⟩

lemma within_oneOf {cls : Char → Prop} {words : List String}
    (h : ∀ w ∈ words, ∀ c ∈ w.toList, cls c) : Within cls (oneOf words : Pattern κ) := by
  induction words with
  | nil =>
    intro c hc
    cases hc
  | cons w words ih =>
    have hw : Within cls (Pattern.text w : Pattern κ) := within_text (h w List.mem_cons_self)
    have hwords := ih fun v hv => h v (List.mem_cons_of_mem _ hv)
    match words with
    | [] => exact hw
    | v :: words => exact ⟨hw, hwords⟩

/-- The text that a pattern covers is made of the characters it matches. -/
lemma Leads.within {cls : Char → Prop} (h : Leads p cur next) (hp : Within cls p) :
    ∃ taken, cur.rest = taken ++ next.rest ∧ ∀ c ∈ taken, cls c := by
  induction h with
  | nothing | done | wordEdge | lineStart | textEnd => exact ⟨[], by simp⟩
  | one hrest hc => exact ⟨[_], hrest, by simpa using hp _ hc⟩
  | greedy h | «lazy» h =>
    obtain ⟨taken, htaken, -, -, hall⟩ := h.covers
    exact ⟨taken, htaken, fun c hc => hp c (hall c hc)⟩
  | seq _ _ ihp ihq =>
    obtain ⟨s, hs, hscls⟩ := ihp hp.1
    obtain ⟨t, ht, htcls⟩ := ihq hp.2
    refine ⟨s ++ t, by rw [hs, ht, List.append_assoc], ?_⟩
    intro c hc
    exact (List.mem_append.mp hc).elim (hscls c) (htcls c)
  | first _ ih => exact ih hp.1
  | second _ ih => exact ih hp.2
  | round _ _ _ ihp ih =>
    obtain ⟨s, hs, hscls⟩ := ihp hp
    obtain ⟨t, ht, htcls⟩ := ih hp
    refine ⟨s ++ t, by rw [hs, ht, List.append_assoc], ?_⟩
    intro c hc
    exact (List.mem_append.mp hc).elim (hscls c) (htcls c)
  | part _ ih => exact ih hp

lemma Leads.exists_covers (h : Leads p cur next) :
    ∃ taken, Covers p taken ∧ cur.rest = taken ++ next.rest := by
  obtain ⟨taken, hrest, hoffset⟩ := h.covers
  exact ⟨taken, ⟨cur, next, h, hrest, hoffset⟩, hrest⟩

lemma Covers.seq {taken : List Char} (h : Covers (.seq p q) taken) :
    ∃ s t, taken = s ++ t ∧ Covers p s ∧ Covers q t := by
  obtain ⟨cur, next, hleads, hrest, -⟩ := h
  cases hleads with
  | seq hp hq =>
    obtain ⟨s, hs, hsrest⟩ := hp.exists_covers
    obtain ⟨t, ht, htrest⟩ := hq.exists_covers
    have htaken : taken ++ next.rest = s ++ t ++ next.rest := by
      rw [← hrest, hsrest, htrest, List.append_assoc]
    exact ⟨s, t, List.append_cancel_right htaken, hs, ht⟩

lemma Covers.either {taken : List Char} (h : Covers (.either p q) taken) :
    Covers p taken ∨ Covers q taken := by
  obtain ⟨cur, next, hleads, hrest⟩ := h
  cases hleads with
  | first hp => exact Or.inl ⟨cur, next, hp, hrest⟩
  | second hq => exact Or.inr ⟨cur, next, hq, hrest⟩

lemma Covers.part {label : κ} {taken : List Char} (h : Covers (.part label p) taken) :
    Covers p taken := by
  obtain ⟨cur, next, hleads, hrest⟩ := h
  cases hleads with
  | part hp => exact ⟨cur, _, hp, hrest⟩

lemma Covers.maybe {taken : List Char} (h : Covers (maybe p) taken) :
    taken = [] ∨ Covers p taken := by
  rcases h.either with h | ⟨cur, next, hleads, hrest, -⟩
  · exact Or.inr h
  · cases hleads
    exact Or.inl (List.self_eq_append_left.mp hrest)

/-- A repetition covers nothing or begins with a round. -/
lemma Covers.many {taken : List Char} (h : Covers (.many p) taken) :
    taken = [] ∨ ∃ s t, taken = s ++ t ∧ Covers p s := by
  obtain ⟨cur, next, hleads, hrest, -⟩ := h
  cases hleads with
  | done => exact Or.inl (List.self_eq_append_left.mp hrest)
  | round hp _ hmore =>
    obtain ⟨s, hs, hsrest⟩ := hp.exists_covers
    obtain ⟨t, -, htrest⟩ := hmore.exists_covers
    have htaken : taken ++ next.rest = s ++ t ++ next.rest := by
      rw [← hrest, hsrest, htrest, List.append_assoc]
    exact Or.inr ⟨s, t, List.append_cancel_right htaken, hs⟩

lemma Covers.wordEdge {taken : List Char} (h : Covers (.wordEdge : Pattern κ) taken) :
    taken = [] := by
  obtain ⟨cur, next, hleads, hrest, -⟩ := h
  cases hleads
  exact List.self_eq_append_left.mp hrest

lemma Covers.char {c : Char} {taken : List Char} (h : Covers (char c : Pattern κ) taken) :
    taken = [c] := by
  obtain ⟨cur, next, hleads, hrest, -⟩ := h
  have htaken : taken ++ next.rest = [c] ++ next.rest := hrest.symm.trans hleads.char
  exact List.append_cancel_right htaken

lemma Covers.oneOf {words : List String} {taken : List Char}
    (h : Covers (oneOf words : Pattern κ) taken) : ∃ w ∈ words, taken = w.toList := by
  obtain ⟨cur, next, hleads, hrest, -⟩ := h
  obtain ⟨w, hw, hrest'⟩ := hleads.oneOf
  exact ⟨w, hw, List.append_cancel_right (hrest.symm.trans hrest')⟩

lemma Covers.within {cls : Char → Prop} {taken : List Char} (h : Covers p taken)
    (hp : Within cls p) : ∀ c ∈ taken, cls c := by
  obtain ⟨cur, next, hleads, hrest, -⟩ := h
  obtain ⟨taken', hrest', hall⟩ := hleads.within hp
  rwa [List.append_cancel_right (hrest.symm.trans hrest')]

/-! ### Marked parts -/

/-- Every text that a marked part can cover obeys the law of its label. -/
def Obeys (law : κ → List Char → Prop) : Pattern κ → Prop
  | .seq p q | .either p q => Obeys law p ∧ Obeys law q
  | .many p => Obeys law p
  | .part label p => Obeys law p ∧ ∀ taken, Covers p taken → law label taken
  | _ => True

lemma obeys_inOrder {law : κ → List Char → Prop} {patterns : List (Pattern κ)}
    (h : ∀ p ∈ patterns, Obeys law p) : Obeys law (inOrder patterns) := by
  induction patterns with
  | nil => exact trivial
  | cons p rest ih =>
    have hrest := ih fun q hq => h q (List.mem_cons_of_mem _ hq)
    match rest with
    | [] => exact h p List.mem_cons_self
    | q :: rest => exact ⟨h p List.mem_cons_self, hrest⟩

@[simp] lemma obeys_text (law : κ → List Char → Prop) (s : String) : Obeys law (text s) := by
  refine obeys_inOrder fun p hp => ?_
  obtain ⟨c, -, rfl⟩ := List.mem_map.mp hp
  exact trivial

@[simp] lemma obeys_oneOf (law : κ → List Char → Prop) (words : List String) :
    Obeys law (oneOf words) := by
  induction words with
  | nil => exact trivial
  | cons s rest ih =>
    match rest with
    | [] => exact obeys_text law s
    | t :: rest => exact ⟨obeys_text law s, ih⟩

/-- A place in a text that begins at an offset, with parts that obey a law. -/
structure Lawful (law : κ → List Char → Prop) (start : Nat) (s : List Char) (cur : Cursor κ) :
    Prop where
  after : start ≤ cur.offset
  rest : cur.rest = s.drop (cur.offset - start)
  parts : ∀ part ∈ cur.parts,
    law part.label (Text.slice s (part.start - start) (part.stop - start))

variable {law : κ → List Char → Prop} {start : Nat} {s : List Char}

/-- A place further on, as far as its parts obey the law. -/
lemma Lawful.of_leads (h : Lawful law start s cur) (hleads : Leads p cur next)
    (hparts : ∀ part ∈ next.parts,
      law part.label (Text.slice s (part.start - start) (part.stop - start))) :
    Lawful law start s next where
  after := by
    obtain ⟨taken, -, hoffset⟩ := hleads.covers
    have := h.after
    omega
  rest := by
    obtain ⟨taken, htaken, hoffset⟩ := hleads.covers
    have hdrop : next.rest = cur.rest.drop taken.length := by rw [htaken, List.drop_left]
    have hafter := h.after
    rw [hdrop, h.rest, List.drop_drop]
    congr 1
    omega
  parts := hparts

/-- The law of the parts is kept along the way of a pattern that obeys it. -/
lemma lawful_of_leads (hp : Obeys law p) (hleads : Leads p cur next)
    (h : Lawful law start s cur) : Lawful law start s next := by
  induction hleads with
  | nothing | done | wordEdge | lineStart | textEnd => exact h
  | one hrest hc => exact h.of_leads (.one hrest hc) h.parts
  | greedy hskips =>
    obtain ⟨-, -, -, hsame, -⟩ := hskips.covers
    exact h.of_leads (.greedy hskips) (hsame ▸ h.parts)
  | «lazy» hskips =>
    obtain ⟨-, -, -, hsame, -⟩ := hskips.covers
    exact h.of_leads (.lazy hskips) (hsame ▸ h.parts)
  | seq _ _ ihp ihq => exact ihq hp.2 (ihp hp.1 h)
  | first _ ih => exact ih hp.1 h
  | second _ ih => exact ih hp.2 h
  | round _ _ _ ihp ih => exact ih hp (ihp hp h)
  | @part p label cur next hbody ih =>
    have hnext := ih hp.1 h
    -- the new part marks what its pattern has covered
    obtain ⟨taken, htaken, hoffset⟩ := hbody.covers
    have hslice : Text.slice s (cur.offset - start) (next.offset - start) = taken := by
      have hafter := h.after
      have hlength : next.offset - start - (cur.offset - start) = taken.length := by omega
      rw [Text.slice, ← h.rest, hlength, htaken, List.take_left]
    refine ⟨hnext.after, hnext.rest, fun part hpart => ?_⟩
    rcases List.mem_cons.mp hpart with rfl | hpart
    · exact hslice ▸ hp.2 taken ⟨cur, next, hbody, htaken, hoffset⟩
    · exact hnext.parts part hpart

/-! ### Matches -/

lemma leads_of_findFrom? {size : Nat} {m : Match κ} {stop : Cursor κ} (hs : cur.rest = s)
    (h : p.findFrom? size cur s = some (m, stop)) :
    ∃ before, Leads p ⟨m.start, before, m.here, []⟩ stop ∧ m.parts = stop.parts := by
  induction s generalizing cur with
  | nil =>
    rw [findFrom?, Option.map_eq_some_iff] at h
    obtain ⟨place, hplace, heq⟩ := h
    cases heq
    obtain ⟨next, hleads, hnext⟩ := leads_of_run hplace
    cases hnext
    exact ⟨cur.before, by simpa only [hs] using hleads, rfl⟩
  | cons c rest ih =>
    rw [findFrom?] at h
    split at h
    · next place hplace =>
      cases h
      obtain ⟨next, hleads, hnext⟩ := leads_of_run hplace
      cases hnext
      exact ⟨cur.before, by simpa only [hs] using hleads, rfl⟩
    · exact ih rfl h

/-- What a match marks on its way obeys the laws of the labels. -/
lemma text_of_leads [BEq κ] [LawfulBEq κ] {m : Match κ} {before : Option Char} {stop : Cursor κ}
    (hp : Obeys law p) (hleads : Leads p ⟨m.start, before, m.here, []⟩ stop)
    (hparts : m.parts = stop.parts) (label : κ) : m.text label = [] ∨ law label (m.text label) := by
  have hlawful : Lawful law m.start m.here stop :=
    lawful_of_leads hp hleads ⟨Nat.le_refl _, by simp, by simp⟩
  simp only [Match.text, Match.part?]
  match hfind : m.parts.find? (·.label == label) with
  | none => exact Or.inl (by rw [hfind]; rfl)
  | some found =>
    refine Or.inr ?_
    have hlabel : found.label = label := by simpa using List.find?_some hfind
    rw [hfind, Option.map_some, Option.getD_some, ← hlabel]
    exact hlawful.parts found (hparts ▸ List.mem_of_find?_eq_some hfind)

/-- The text of a marked part in a match obeys the law of its label. -/
theorem text_of_find? [BEq κ] [LawfulBEq κ] {m : Match κ} (hp : Obeys law p)
    (h : p.find? s = some m) (label : κ) : m.text label = [] ∨ law label (m.text label) := by
  rw [find?, Option.map_eq_some_iff] at h
  obtain ⟨⟨m, stop⟩, hfound, rfl⟩ := h
  obtain ⟨before, hleads, hparts⟩ := leads_of_findFrom? rfl hfound
  exact text_of_leads hp hleads hparts label

end Pattern

end JavaAtlas

import JavaAtlas.Proofs.Pattern.Takes

/-!
# Scanning a text

A text is scanned from left to right. Where it is known to consist of pieces at which no match
begins and of pieces that are matched whole, the matches found are the latter, and what they mark
can be read off.
-/

namespace JavaAtlas

namespace Cursor

variable {κ : Type} {cur : Cursor κ} {done s r : List Char}

/-- A place in a text with `done` before it and `rest` after it. -/
structure At (cur : Cursor κ) (done rest : List Char) : Prop where
  offset : cur.offset = done.length
  before : cur.before = done.getLast?
  rest : cur.rest = rest

lemma at_ofText (h : s = r) : (ofText s : Cursor κ).At [] r := ⟨rfl, rfl, h⟩

lemma At.past (h : cur.At done (s ++ r)) (ms : List (Mark κ)) :
    (cur.past s ms).At (done ++ s) r where
  offset := by simp [Cursor.past, h.offset]
  before := by simp [Cursor.past, h.before, List.getLast?_append]
  rest := by simp [Cursor.past, h.rest]

lemma At.advance {c : Char} (h : cur.At done (c :: r)) : (cur.advance c r).At (done ++ [c]) r :=
  ⟨by simp [Cursor.advance, h.offset], by simp [Cursor.advance], rfl⟩

/-- The same place with nothing marked. -/
def fresh (cur : Cursor κ) : Cursor κ := { cur with parts := [] }

lemma At.fresh (h : cur.At done r) : cur.fresh.At done r := ⟨h.offset, h.before, h.rest⟩

end Cursor

namespace Mark

variable {κ : Type} [BEq κ]

/-- The text that is marked with a label. -/
def text? (ms : List (Mark κ)) (label : κ) : Option (List Char) :=
  (ms.find? (·.label == label)).map (·.text)

@[simp] lemma text?_nil (label : κ) : text? [] label = none := rfl

@[simp] lemma text?_cons (m : Mark κ) (ms : List (Mark κ)) (label : κ) :
    text? (m :: ms) label = if m.label == label then some m.text else text? ms label := by
  rw [text?, List.find?_cons]
  split <;> simp_all [text?]

@[simp] lemma text?_append (ms ns : List (Mark κ)) (label : κ) :
    text? (ms ++ ns) label = (text? ms label).or (text? ns label) := by
  rw [text?, List.find?_append, Option.map_or]
  rfl

@[simp] lemma text?_after (taken : List Char) (ms : List (Mark κ)) (label : κ) :
    text? (ms.map (after taken)) label = text? ms label := by
  rw [text?, List.find?_map, Option.map_map]
  rfl

end Mark

namespace Match

variable {κ : Type} {done s r : List Char} {ms : List (Mark κ)}

/-- The match of a text that `done` stands before and `r` after. -/
def of (done s r : List Char) (ms : List (Mark κ)) : Match κ where
  start := done.length
  stop := done.length + s.length
  parts := ms.map (Mark.part done.length)
  here := s ++ r

variable [BEq κ]

lemma part?_of (label : κ) :
    (of done s r ms).part? label = (ms.find? (·.label == label)).map (Mark.part done.length) := by
  rw [part?, of, List.find?_map]
  rfl

/-- The text of a marked part is the text of its mark. -/
lemma text_of (hms : ∀ m ∈ ms, m.lead ++ m.text <+: s) (label : κ) :
    (of done s r ms).text label = (Mark.text? ms label).getD [] := by
  rw [text, part?_of, Option.map_map, Mark.text?]
  cases hfind : ms.find? (·.label == label) with
  | none => simp
  | some m =>
    obtain ⟨tail, htail⟩ := hms m (List.mem_of_find?_eq_some hfind)
    have hhere : (of done s r ms).here = m.lead ++ (m.text ++ (tail ++ r)) := by
      rw [of, ← htail]
      simp
    simp only [hhere, Option.map_some, Function.comp_apply, Option.getD_some, Text.slice]
    simp [Mark.part, of, Nat.add_assoc]

end Match

namespace Pattern

variable {κ : Type} {p q : Pattern κ} {size n : Nat} {cur : Cursor κ}
  {done gap s r : List Char} {ms : List (Mark κ)}

/-- The match at a place is the text `s` with the marks `ms`. -/
structure Hits (size : Nat) (p : Pattern κ) (done s r : List Char) (ms : List (Mark κ)) :
    Prop where
  inside : ∀ m ∈ ms, m.lead ++ m.text <+: s
  here : ∀ cur : Cursor κ, cur.At done (s ++ r) →
    p.matchHere? size cur = some (cur.fresh.past s ms)

/-- There is no match at a place. -/
def Misses (size : Nat) (p : Pattern κ) (done rest : List Char) : Prop :=
  ∀ cur : Cursor κ, cur.At done rest → p.matchHere? size cur = none

/-- There is no match at a place inside of a text that stands between `done` and `r`. -/
def Passes (size : Nat) (p : Pattern κ) (done gap r : List Char) : Prop :=
  ∀ a t, gap = a ++ t → t ≠ [] → Misses size p (done ++ a) (t ++ r)

lemma Takes.hits (h : Takes size p anything s r ms) : Hits size p done s r ms where
  inside := h.inside
  here _ hcur := h.answer some _ _ hcur.rest (wants_anything _) rfl

lemma Balks.misses (h : Balks p anything r) : Misses size p done r := by
  intro cur hcur
  exact h.run_eq_none hcur.rest (wants_anything _)

lemma matchHere?_wordEdge (cur : Cursor κ) : (seq .wordEdge p).matchHere? size cur =
    if cur.atWordEdge then p.matchHere? size cur else none := by
  rw [matchHere?, run, run]
  rfl

lemma matchHere?_lineStart (cur : Cursor κ) : (seq .lineStart p).matchHere? size cur =
    if cur.atLineStart then p.matchHere? size cur else none := by
  rw [matchHere?, run, run]
  rfl

lemma Hits.wordEdge (h : Hits size p done s r ms) (hdone : done.getLast?.any isWordChar = false)
    (hs : (s ++ r).head?.any isWordChar = true) : Hits size (.seq .wordEdge p) done s r ms where
  inside := h.inside
  here cur hcur := by
    have hedge : cur.atWordEdge = true := by
      rw [Cursor.atWordEdge, hcur.before, hcur.rest, hdone, hs]
      rfl
    rw [matchHere?_wordEdge, if_pos hedge]
    exact h.here cur hcur

lemma Hits.lineStart (h : Hits size p done s r ms) (hdone : done.getLast?.all (· == '\n') = true) :
    Hits size (.seq .lineStart p) done s r ms where
  inside := h.inside
  here cur hcur := by
    rw [matchHere?_lineStart, if_pos (by rw [Cursor.atLineStart, hcur.before, hdone])]
    exact h.here cur hcur

lemma misses_lineStart
    (h : done.getLast?.all (· == '\n') = true → Balks p anything r) :
    Misses size (.seq .lineStart p) done r := by
  intro cur hcur
  rw [matchHere?_lineStart]
  split
  · next hline =>
    rw [Cursor.atLineStart, hcur.before] at hline
    exact (h hline).misses cur hcur
  · rfl

lemma passes_nil : Passes size p done [] r := by
  intro a t hat hne
  exact absurd (List.append_eq_nil_iff.mp hat.symm).2 hne

lemma passes_of_balks (h : ∀ t, t <:+ gap → t ≠ [] → Balks p anything (t ++ r)) :
    Passes size p done gap r := by
  intro a t hat hne
  exact (h t ⟨a, hat.symm⟩ hne).misses

lemma Passes.append {gap' : List Char} (h : Passes size p done gap (gap' ++ r))
    (h' : Passes size p (done ++ gap) gap' r) : Passes size p done (gap ++ gap') r := by
  intro a t hat hne
  rcases List.append_eq_append_iff.mp hat with ⟨b, rfl, hb⟩ | ⟨b, hb, rfl⟩
  · rw [← List.append_assoc]
    exact h' b t hb hne
  · match b with
    | [] =>
      rw [List.append_nil] at hb
      subst hb
      simpa using h' [] _ rfl hne
    | c :: b =>
      rw [List.append_assoc]
      exact h a (c :: b) hb (by simp)

/-- A text that goes up to a mark it does not contain otherwise goes at least as far as the next
mark of another kind, or holds it. -/
lemma eq_or_mem_of_append_eq {w u v : List Char} {a b : Char} (h : w ++ a :: s = u ++ b :: v)
    (ha : a ∉ u) : w = u ∧ a = b ∨ b ∈ w := by
  rcases List.append_eq_append_iff.mp h with ⟨c, hu, hc⟩ | ⟨c, hw, hc⟩
  · match c with
    | [] =>
      rw [List.append_nil] at hu
      exact Or.inl ⟨hu.symm, (List.cons.inj hc).1⟩
    | d :: c =>
      obtain ⟨rfl, -⟩ := List.cons.inj hc
      exact absurd (by simp [hu]) ha
  · match c with
    | [] =>
      rw [List.append_nil] at hw
      exact Or.inl ⟨hw, (List.cons.inj hc).1.symm⟩
    | d :: c =>
      obtain ⟨rfl, -⟩ := List.cons.inj hc
      exact Or.inr (by simp [hw])

/-! ### The first match -/

lemma findFrom?_skip (hcur : cur.At done (gap ++ r)) (hgap : Passes size p done gap r) :
    p.findFrom? size cur (gap ++ r) = p.findFrom? size (cur.past gap []) r := by
  induction gap generalizing cur done with
  | nil => simp
  | cons c gap ih =>
    have hmiss : p.matchHere? size cur = none :=
      hgap [] (c :: gap) rfl (by simp) cur (by simpa using hcur)
    have hnext : (cur.advance c (gap ++ r)).At (done ++ [c]) (gap ++ r) := hcur.advance
    rw [List.cons_append, findFrom?, hmiss]
    simp only
    rw [ih hnext, Cursor.past_advance hcur.rest]
    intro a t hat hne
    simpa using hgap (c :: a) t (by simp [hat]) hne

/-- The first match is the piece that is matched behind those that are not. -/
lemma findFrom?_hit (hcur : cur.At done (gap ++ (s ++ r)))
    (hgap : Passes size p done gap (s ++ r)) (hhit : Hits size p (done ++ gap) s r ms) :
    ∃ stop : Cursor κ, stop.At (done ++ gap ++ s) r ∧
      p.findFrom? size cur (gap ++ (s ++ r)) = some (.of (done ++ gap) s r ms, stop) := by
  have hplace := hcur.past []
  refine ⟨_, hplace.fresh.past ms, ?_⟩
  rw [findFrom?_skip hcur hgap]
  have hhere := hhit.here _ hplace
  have hmatch : (⟨(cur.past gap []).offset, ((cur.past gap []).fresh.past s ms).offset,
      ((cur.past gap []).fresh.past s ms).parts, s ++ r⟩ : Match κ) = .of (done ++ gap) s r ms := by
    have hoffset := hplace.offset
    simp [Match.of, Cursor.past, Cursor.fresh] at hoffset ⊢
    simp [hoffset]
  rw [← hmatch]
  cases s ++ r with
  | nil => rw [findFrom?, hhere]; rfl
  | cons c rest => rw [findFrom?, hhere]

lemma find?_hit (hgap : Passes size p [] gap (s ++ r)) (hhit : Hits size p gap s r ms)
    (hsize : size = (gap ++ (s ++ r)).length) :
    p.find? (gap ++ (s ++ r)) = some (.of gap s r ms) := by
  obtain ⟨stop, -, hfind⟩ := findFrom?_hit (Cursor.at_ofText rfl) hgap hhit
  rw [find?, ← hsize, hfind]
  rfl

lemma find?_here (hhit : Hits (s ++ r).length p [] s r ms) :
    p.find? (s ++ r) = some (.of [] s r ms) :=
  find?_hit passes_nil hhit rfl

lemma findFrom?_none (hcur : cur.At done gap) (hgap : Passes size p done gap [])
    (hend : Misses size p (done ++ gap) []) : p.findFrom? size cur gap = none := by
  have hcur' : cur.At done (gap ++ []) := by simpa using hcur
  have hskip := findFrom?_skip hcur' hgap
  rw [List.append_nil] at hskip
  rw [hskip, findFrom?, hend _ (hcur'.past [])]
  rfl

lemma isSome_findFrom? (hcur : cur.At done (gap ++ r))
    (hhere : ∀ cur : Cursor κ, cur.At (done ++ gap) r → (p.matchHere? size cur).isSome) :
    (p.findFrom? size cur (gap ++ r)).isSome := by
  induction gap generalizing cur done with
  | nil =>
    obtain ⟨stop, hstop⟩ := Option.isSome_iff_exists.mp (hhere cur (by simpa using hcur))
    match r with
    | [] => simp [findFrom?, hstop]
    | c :: r => simp [findFrom?, hstop]
  | cons c gap ih =>
    rw [List.cons_append, findFrom?]
    split
    · rfl
    · exact ih hcur.advance (by simpa using hhere)

/-! ### All matches -/

lemma findAllFrom_skip (hcur : cur.At done (gap ++ r)) (hgap : Passes size p done gap r) :
    p.findAllFrom size n cur = p.findAllFrom size n (cur.past gap []) := by
  match n with
  | 0 => rfl
  | n + 1 =>
    rw [findAllFrom, findAllFrom, hcur.rest, findFrom?_skip hcur hgap, (hcur.past []).rest]

/-- The matches found are the first piece that is matched and those behind it. -/
lemma findAllFrom_hit (hcur : cur.At done (gap ++ (s ++ r)))
    (hgap : Passes size p done gap (s ++ r)) (hhit : Hits size p (done ++ gap) s r ms)
    (hs : s ≠ []) :
    ∃ stop : Cursor κ, stop.At (done ++ gap ++ s) r ∧
      p.findAllFrom size (n + 1) cur = .of (done ++ gap) s r ms :: p.findAllFrom size n stop := by
  obtain ⟨stop, hstop, hfind⟩ := findFrom?_hit hcur hgap hhit
  refine ⟨stop, hstop, ?_⟩
  have hpos : 0 < s.length := List.length_pos_iff.mpr hs
  rw [findAllFrom, hcur.rest, hfind]
  simp [Match.of, hpos]

lemma findAllFrom_none (hcur : cur.At done gap) (hgap : Passes size p done gap [])
    (hend : Misses size p (done ++ gap) []) : p.findAllFrom size n cur = [] := by
  match n with
  | 0 => rfl
  | n + 1 => rw [findAllFrom, hcur.rest, findFrom?_none hcur hgap hend]

/-! ### Matches of whole texts -/

lemma leads_of_matchAll? {m : Match κ} (h : p.matchAll? s = some m) :
    ∃ next : Cursor κ, Leads p (.ofText s) next ∧ next.rest = [] := by
  obtain ⟨stop, hstop, -⟩ := Option.map_eq_some_iff.mp h
  obtain ⟨next, hleads, -⟩ := leads_of_run hstop
  cases hleads with
  | seq hp hend =>
    cases hend with
    | textEnd hrest => exact ⟨_, hp, hrest⟩

/-- A pattern that takes a text before the end matches the whole of it. -/
lemma matchAll?_of (h : Takes s.length p (· = []) s [] ms) :
    p.matchAll? s = some (.of [] s [] ms) := by
  have hend : Takes s.length (.seq p .textEnd) anything s [] ms := by
    have hstop : Takes s.length (.textEnd : Pattern κ) anything [] [] [] := takes_textEnd
    have hrest : ∀ cur next : Cursor κ, Leads .textEnd cur next → anything next.rest →
        cur.rest = [] := by
      rintro cur next ⟨⟩ -
      assumption
    simpa using h.seq_of hstop hrest
  have hhits : Hits s.length (.seq p .textEnd) [] s [] ms := hend.hits
  rw [matchAll?, hhits.here (.ofText s) (Cursor.at_ofText (by simp))]
  simp [Match.of, Cursor.past, Cursor.fresh, Cursor.ofText]

end Pattern

end JavaAtlas

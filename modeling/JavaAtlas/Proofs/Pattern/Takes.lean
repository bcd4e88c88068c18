import Mathlib.Tactic.Lemma
import JavaAtlas.Proofs.Pattern.Leads

/-!
# What a pattern prefers to match

`Pattern.Takes` says that a pattern takes a text first when another text follows it: if what
remains to be done succeeds behind the text, the search answers with that. Laws for the
constructors put such facts together for whole patterns. A lazy repetition takes a text only if
what remains fails at every place before its end, so `Takes` has a condition on the places at
which the rest can succeed. `Pattern.Balks` says that a pattern cannot match at a text.
-/

namespace JavaAtlas

/-- A marked part as text: what the pattern takes before the part, and the part itself. -/
structure Mark (κ : Type) where
  label : κ
  lead : List Char
  text : List Char

namespace Mark

variable {κ : Type}

/-- A mark of a pattern that begins behind a text. -/
def after (taken : List Char) (m : Mark κ) : Mark κ := { m with lead := taken ++ m.lead }

/-- The part that a mark describes when its pattern begins at an offset. -/
def part (offset : Nat) (m : Mark κ) : Part κ :=
  ⟨m.label, offset + m.lead.length, offset + m.lead.length + m.text.length⟩

lemma part_after (offset : Nat) (taken : List Char) (m : Mark κ) :
    part offset (after taken m) = part (offset + taken.length) m := by
  simp [part, after, Nat.add_assoc]

end Mark

namespace Cursor

variable {κ : Type}

/-- The place behind a text, with what was marked on the way. -/
def past (cur : Cursor κ) (taken : List Char) (marks : List (Mark κ)) : Cursor κ where
  offset := cur.offset + taken.length
  before := taken.getLast?.or cur.before
  rest := cur.rest.drop taken.length
  parts := marks.map (Mark.part cur.offset) ++ cur.parts

@[simp] lemma past_nil (cur : Cursor κ) : cur.past [] [] = cur := by simp [past]

lemma past_past (cur : Cursor κ) (s t : List Char) (ms ns : List (Mark κ)) :
    (cur.past s ms).past t ns = cur.past (s ++ t) (ns.map (Mark.after s) ++ ms) := by
  have hparts : Mark.part (κ := κ) (cur.offset + s.length) =
      Mark.part cur.offset ∘ Mark.after s := by
    funext m
    exact (Mark.part_after _ _ _).symm
  simp [past, Nat.add_assoc, Option.or_assoc, hparts]

lemma advance_eq_past {cur : Cursor κ} {c : Char} {rest : List Char} (h : cur.rest = c :: rest) :
    cur.advance c rest = cur.past [c] [] := by
  simp [advance, past, h]

lemma past_advance {cur : Cursor κ} {c : Char} {s r : List Char} (h : cur.rest = c :: s ++ r) :
    (cur.advance c (s ++ r)).past s [] = cur.past (c :: s) [] := by
  rw [List.cons_append] at h
  rw [advance_eq_past h, past_past]
  rfl

end Cursor

namespace Pattern

variable {κ β : Type} {p q : Pattern κ} {holds : Char → Bool} {size : Nat}
  {good good' : List Char → Prop} {s t r : List Char} {ms ns : List (Mark κ)}

lemma Leads.past_of_text {w : String} {cur next : Cursor κ}
    (h : Leads (Pattern.text w) cur next) : next = cur.past w.toList [] := by
  rw [Pattern.text] at h
  generalize w.toList = s at h
  have hchar : ∀ {c : Char} {cur next : Cursor κ}, Leads (Pattern.char c) cur next →
      next = cur.past [c] [] := by
    intro c cur next h
    cases h with
    | one hrest hc =>
      rw [eq_of_beq hc] at hrest ⊢
      exact Cursor.advance_eq_past hrest
  induction s generalizing cur with
  | nil => cases h; simp
  | cons c s ih =>
    cases s with
    | nil => exact hchar h
    | cons d s =>
      cases h with
      | seq hc hs => rw [ih hs, hchar hc, Cursor.past_past]; rfl

/-- What remains to be done succeeds only before texts of a kind. -/
def Wants (k : Rest κ β) (good : List Char → Prop) : Prop :=
  ∀ cur b, k cur = some b → good cur.rest

/-- The condition that any text meets. -/
def anything (_ : List Char) : Prop := True

lemma wants_anything (k : Rest κ β) : Wants k anything := fun _ _ _ => trivial

lemma Wants.run {k : Rest κ β} (hk : Wants k good)
    (h : ∀ cur next, Leads q cur next → good next.rest → good' cur.rest) :
    Wants (run size q k) good' := by
  intro cur b hb
  obtain ⟨next, hleads, hnext⟩ := leads_of_run hb
  exact h cur next hleads (hk next b hnext)

/-- A pattern takes the text `s` first when `r` follows it, provided that what remains succeeds
behind it and succeeds only where `good` holds. -/
structure Takes (size : Nat) (p : Pattern κ) (good : List Char → Prop) (s r : List Char)
    (ms : List (Mark κ)) : Prop where
  inside : ∀ m ∈ ms, m.lead ++ m.text <+: s
  answer : ∀ {β : Type} (k : Rest κ β) (cur : Cursor κ) (b : β), cur.rest = s ++ r →
    Wants k good → k (cur.past s ms) = some b → run size p k cur = some b

/-- A pattern cannot match at a text and be followed by a text for which `good` holds. -/
def Balks (p : Pattern κ) (good : List Char → Prop) (s : List Char) : Prop :=
  ∀ cur next : Cursor κ, cur.rest = s → Leads p cur next → ¬ good next.rest

lemma Balks.elim (h : Balks p anything s) {cur next : Cursor κ} (hcur : cur.rest = s)
    (hleads : Leads p cur next) : False :=
  h cur next hcur hleads trivial

lemma Balks.run_eq_none (h : Balks p good s) {k : Rest κ β} {cur : Cursor κ} (hcur : cur.rest = s)
    (hk : Wants k good) : run size p k cur = none := by
  refine Option.eq_none_iff_forall_ne_some.mpr fun b hb => ?_
  obtain ⟨next, hleads, hnext⟩ := leads_of_run hb
  exact h cur next hcur hleads (hk next b hnext)

/-! ### Characters and texts -/

lemma takes_nothing : Takes size (.nothing : Pattern κ) good [] r [] where
  inside := by simp
  answer k cur b _ _ hk := by simpa [run] using hk

lemma takes_textEnd : Takes size (.textEnd : Pattern κ) good [] [] [] where
  inside := by simp
  answer k cur b hcur _ hk := by
    rw [List.append_nil] at hcur
    simpa [run, hcur] using hk

lemma takes_one {c : Char} (hc : holds c = true) :
    Takes size (.one holds : Pattern κ) good [c] r [] where
  inside := by simp
  answer k cur b hcur _ hk := by
    rw [List.singleton_append] at hcur
    rw [← Cursor.advance_eq_past hcur] at hk
    simp [run, hcur, hc, hk]

lemma Takes.seq_of (hp : Takes size p good' s (t ++ r) ms) (hq : Takes size q good t r ns)
    (h : ∀ cur next, Leads q cur next → good next.rest → good' cur.rest) :
    Takes size (.seq p q) good (s ++ t) r (ns.map (Mark.after s) ++ ms) where
  inside m hm := by
    rcases List.mem_append.mp hm with hm | hm
    · obtain ⟨n, hn, rfl⟩ := List.mem_map.mp hm
      simpa [Mark.after, List.append_assoc] using hq.inside n hn
    · exact (hp.inside m hm).trans (List.prefix_append s t)
  answer k cur b hcur hk hb := by
    rw [List.append_assoc] at hcur
    rw [run]
    refine hp.answer _ cur b hcur (hk.run h) ?_
    refine hq.answer k _ b ?_ hk ?_
    · simp [Cursor.past, hcur]
    · rwa [Cursor.past_past]

lemma Takes.seq (hp : Takes size p anything s (t ++ r) ms) (hq : Takes size q good t r ns) :
    Takes size (.seq p q) good (s ++ t) r (ns.map (Mark.after s) ++ ms) :=
  hp.seq_of hq fun _ _ _ _ => trivial

lemma Takes.part (hp : Takes size p good s r ms) (label : κ) :
    Takes size (.part label p) good s r (⟨label, [], s⟩ :: ms) where
  inside m hm := by
    rcases List.mem_cons.mp hm with rfl | hm
    · simp
    · exact hp.inside m hm
  answer k cur b hcur hk hb := by
    rw [run]
    refine hp.answer _ cur b hcur ?_ ?_
    · intro next a ha
      have hgood := hk _ a ha
      exact hgood
    · simpa [Cursor.past, Mark.part] using hb

lemma Takes.first (hp : Takes size p good s r ms) : Takes size (.either p q) good s r ms where
  inside := hp.inside
  answer k cur b hcur hk hb := by rw [run, hp.answer k cur b hcur hk hb]

lemma Takes.second (hp : Balks p good (s ++ r)) (hq : Takes size q good s r ms) :
    Takes size (.either p q) good s r ms where
  inside := hq.inside
  answer k cur b hcur hk hb := by
    rw [run, hp.run_eq_none hcur hk]
    exact hq.answer k cur b hcur hk hb

lemma takes_maybe_not (hp : Balks p good r) : Takes size (maybe p) good [] r [] :=
  .second hp takes_nothing

lemma takes_text (w : String) : Takes size (text w : Pattern κ) good w.toList r [] := by
  rw [text]
  generalize w.toList = s
  induction s with
  | nil => exact takes_nothing
  | cons c s ih =>
    have hc : Takes size (char c : Pattern κ) anything [c] (s ++ r) [] := takes_one (by simp)
    cases s with
    | nil => exact takes_one (by simp)
    | cons d s => exact hc.seq ih

/-! ### Repetitions -/

lemma firstOf_of_head {k : Rest κ β} {cur : Cursor κ} {places : List (Cursor κ)} {b : β}
    (h : k cur = some b) : firstOf k (cur :: places) = some b := by
  rw [firstOf, h]

lemma firstOf_of_behind {k : Rest κ β} {cur : Cursor κ} {beyond places : List (Cursor κ)} {b : β}
    (hbeyond : ∀ next ∈ beyond, k next = none) (h : k cur = some b) :
    firstOf k (beyond ++ cur :: places) = some b := by
  induction beyond with
  | nil => exact firstOf_of_head h
  | cons next beyond ih =>
    rw [List.cons_append, firstOf, hbeyond next List.mem_cons_self]
    exact ih fun place hplace => hbeyond place (List.mem_cons_of_mem _ hplace)

/-- A place is the last of those reached from it, and the others lie behind characters of the
class. -/
lemma exists_reach (found : List (Cursor κ)) {cur : Cursor κ} (hcur : cur.rest = r) :
    ∃ beyond, reach holds found cur r = beyond ++ cur :: found ∧
      ∀ next ∈ beyond, ∃ t, t ≠ [] ∧ (∀ c ∈ t, holds c = true) ∧ r = t ++ next.rest := by
  induction r generalizing found cur with
  | nil => exact ⟨[], rfl, by simp⟩
  | cons c r ih =>
    by_cases hc : holds c = true
    · have hnext : (cur.advance c r).rest = r := rfl
      obtain ⟨beyond, hplaces, hbeyond⟩ := ih (cur :: found) hnext
      refine ⟨beyond ++ [cur.advance c r], by simp [reach, hc, hplaces], fun next hmem => ?_⟩
      rcases List.mem_append.mp hmem with hmem | hmem
      · obtain ⟨t, -, hall, ht⟩ := hbeyond next hmem
        exact ⟨c :: t, by simp, by simpa [hc] using hall, by rw [ht, List.cons_append]⟩
      · rw [List.mem_singleton.mp hmem]
        exact ⟨[c], by simp, by simpa using hc, rfl⟩
    · exact ⟨[], by simp [reach, hc], by simp⟩

lemma reach_append (hs : ∀ c ∈ s, holds c = true) (found : List (Cursor κ)) {cur : Cursor κ}
    (hcur : cur.rest = s ++ r) :
    ∃ beyond places, reach holds found cur (s ++ r) = beyond ++ cur.past s [] :: places ∧
      ∀ next ∈ beyond, ∃ t, t ≠ [] ∧ (∀ c ∈ t, holds c = true) ∧ r = t ++ next.rest := by
  induction s generalizing found cur with
  | nil =>
    obtain ⟨beyond, hplaces, hbeyond⟩ := exists_reach found hcur
    exact ⟨beyond, found, by rw [Cursor.past_nil]; exact hplaces, hbeyond⟩
  | cons c s ih =>
    have hc := hs c List.mem_cons_self
    have hnext : (cur.advance c (s ++ r)).rest = s ++ r := rfl
    obtain ⟨beyond, places, hplaces, hbeyond⟩ :=
      ih (fun d hd => hs d (List.mem_cons_of_mem _ hd)) (cur :: found) hnext
    refine ⟨beyond, places, ?_, hbeyond⟩
    rw [List.cons_append, reach, if_pos hc, hplaces, Cursor.past_advance hcur]

/-- A greedy repetition takes a text if what remains cannot succeed behind more characters of the
class. -/
lemma takes_greedy_of (hs : ∀ c ∈ s, holds c = true)
    (hbad : ∀ t u, r = t ++ u → t ≠ [] → (∀ c ∈ t, holds c = true) → ¬ good u) :
    Takes size (.greedy holds : Pattern κ) good s r [] where
  inside := by simp
  answer k cur b hcur hk hb := by
    obtain ⟨beyond, places, hplaces, hbeyond⟩ := reach_append hs [] hcur
    rw [run, hcur, hplaces]
    refine firstOf_of_behind (fun next hnext => ?_) hb
    obtain ⟨t, hne, hall, hr⟩ := hbeyond next hnext
    exact Option.eq_none_iff_forall_ne_some.mpr fun a ha => hbad t _ hr hne hall (hk next a ha)

lemma takes_greedy1_of (hne : s ≠ []) (hs : ∀ c ∈ s, holds c = true)
    (hbad : ∀ t u, r = t ++ u → t ≠ [] → (∀ c ∈ t, holds c = true) → ¬ good u) :
    Takes size (greedy1 holds : Pattern κ) good s r [] := by
  obtain ⟨c, s, rfl⟩ := List.exists_cons_of_ne_nil hne
  exact (takes_one (hs c List.mem_cons_self)).seq
    (takes_greedy_of (fun d hd => hs d (List.mem_cons_of_mem _ hd)) hbad)

lemma not_append_of_head? {t u : List Char} (hr : ∀ c ∈ r.head?, holds c = false)
    (hrt : r = t ++ u) (hne : t ≠ []) : ¬ ∀ c ∈ t, holds c = true := by
  intro hall
  obtain ⟨c, t, rfl⟩ := List.exists_cons_of_ne_nil hne
  have hc := hr c (by simp [hrt])
  rw [hall c List.mem_cons_self] at hc
  cases hc

lemma takes_greedy (hs : ∀ c ∈ s, holds c = true) (hr : ∀ c ∈ r.head?, holds c = false) :
    Takes size (.greedy holds : Pattern κ) good s r [] :=
  takes_greedy_of hs fun _ _ hrt hne hall => absurd hall (not_append_of_head? hr hrt hne)

lemma takes_greedy_none (hr : ∀ c ∈ r.head?, holds c = false) :
    Takes size (.greedy holds : Pattern κ) good [] r [] :=
  takes_greedy (by simp) hr

lemma takes_greedy1 (hne : s ≠ []) (hs : ∀ c ∈ s, holds c = true)
    (hr : ∀ c ∈ r.head?, holds c = false) :
    Takes size (greedy1 holds : Pattern κ) good s r [] :=
  takes_greedy1_of hne hs fun _ _ hrt hne hall => absurd hall (not_append_of_head? hr hrt hne)

/-- A lazy repetition takes a text if what remains cannot succeed at a place inside of it. -/
lemma takes_lazy (hs : ∀ c ∈ s, holds c = true)
    (hbad : ∀ t, t <:+ s → t ≠ [] → ¬ good (t ++ r)) :
    Takes size (.lazy holds : Pattern κ) good s r [] where
  inside := by simp
  answer k cur b hcur hk hb := by
    rw [run, hcur]
    induction s generalizing cur with
    | nil =>
      rw [Cursor.past_nil] at hb
      cases r with
      | nil => simpa [runLazy] using hb
      | cons c r => simp [runLazy, hb]
    | cons c s ih =>
      -- nothing that remains succeeds here, since the text is not at its end
      have hnone : k cur = none := by
        refine Option.eq_none_iff_forall_ne_some.mpr fun a ha => ?_
        exact hbad (c :: s) List.suffix_rfl (by simp) (hcur ▸ hk cur a ha)
      have hc := hs c List.mem_cons_self
      simp only [List.cons_append, runLazy, hnone, hc, if_true]
      refine ih (fun d hd => hs d (List.mem_cons_of_mem _ hd))
        (fun t ht hne => hbad t (ht.trans (List.suffix_cons c s)) hne) _ rfl ?_
      rwa [Cursor.past_advance hcur]

lemma takes_lazy1 (hne : s ≠ []) (hs : ∀ c ∈ s, holds c = true)
    (hbad : ∀ t, t <:+ s → t ≠ [] → ¬ good (t ++ r)) :
    Takes size (lazy1 holds : Pattern κ) good s r [] := by
  obtain ⟨c, s, rfl⟩ := List.exists_cons_of_ne_nil hne
  exact (takes_one (hs c List.mem_cons_self)).seq
    (takes_lazy (fun d hd => hs d (List.mem_cons_of_mem _ hd))
      fun t ht => hbad t (ht.trans (List.suffix_cons c s)))

lemma answer_runMany {rounds : List (List Char)} {k : Rest κ β} {b : β} {n : Nat}
    (hn : rounds.length ≤ n)
    (hround : ∀ s rest, s :: rest <:+ rounds →
      s ≠ [] ∧ Takes size p anything s (rest.flatten ++ r) [])
    (hstop : Balks p anything r) {cur : Cursor κ} (hcur : cur.rest = rounds.flatten ++ r)
    (hb : k (cur.past rounds.flatten []) = some b) :
    runMany (run size p) k n cur = some b := by
  induction rounds generalizing n cur with
  | nil =>
    rw [List.flatten_nil, Cursor.past_nil] at hb
    cases n with
    | zero => exact hb
    | succ n => rw [runMany, hstop.run_eq_none hcur (wants_anything _)]; exact hb
  | cons s rounds ih =>
    obtain ⟨hne, htakes⟩ := hround s rounds List.suffix_rfl
    cases n with
    | zero => cases hn
    | succ n =>
      rw [List.flatten_cons, List.append_assoc] at hcur
      have hpos : 0 < s.length := List.length_pos_iff.mpr hne
      have hmid : runMany (run size p) k n (cur.past s []) = some b := by
        refine ih (by simpa using hn)
          (fun t rest ht => hround t rest (ht.trans (List.suffix_cons s rounds))) ?_ ?_
        · simp [Cursor.past, hcur]
        · rwa [Cursor.past_past]
      rw [runMany, htakes.answer _ cur b hcur (wants_anything _)]
      simpa [Cursor.past, hpos] using hmid

/-- A repetition takes the texts of its rounds and ends where another round is impossible. -/
lemma takes_many {rounds : List (List Char)} (hsize : rounds.length ≤ size)
    (hround : ∀ s rest, s :: rest <:+ rounds →
      s ≠ [] ∧ Takes size p anything s (rest.flatten ++ r) [])
    (hstop : Balks p anything r) : Takes size (.many p) good rounds.flatten r [] where
  inside := by simp
  answer k cur b hcur _ hb := by
    rw [run]
    exact answer_runMany hsize hround hstop hcur hb

lemma takes_many_none (hstop : Balks p anything r) : Takes size (.many p) good [] r [] := by
  have hrounds : ([] : List (List Char)).length ≤ size := Nat.zero_le _
  exact takes_many hrounds (by simp) hstop

/-! ### What cannot match -/

lemma Balks.seq (h : Balks p anything s) : Balks (.seq p q) good s := by
  intro cur next hcur hleads _
  cases hleads with
  | seq hp _ => exact h.elim hcur hp

lemma balks_char {c : Char} (hs : ∀ d ∈ s.head?, d ≠ c) : Balks (char c : Pattern κ) good s := by
  intro cur next hcur hleads _
  have hrest := hleads.char
  rw [hcur] at hrest
  exact hs c (by simp [hrest]) rfl

lemma balks_text {w : String} (h : ¬ w.toList <+: s) : Balks (text w : Pattern κ) good s := by
  intro cur next hcur hleads _
  exact h ⟨next.rest, by rw [← hcur, hleads.text]⟩

lemma balks_oneOf {words : List String} (h : ∀ w ∈ words, ¬ w.toList <+: s) :
    Balks (oneOf words : Pattern κ) good s := by
  intro cur next hcur hleads _
  obtain ⟨w, hw, hrest⟩ := hleads.oneOf
  exact h w hw ⟨next.rest, by rw [← hcur, hrest]⟩

/-- A repetition stays where no round is possible. -/
lemma Balks.eq_of_many (h : Balks p anything s) {cur next : Cursor κ} (hcur : cur.rest = s)
    (hleads : Leads (.many p) cur next) : next = cur := by
  cases hleads with
  | done => rfl
  | round hround _ _ => exact (h.elim hcur hround).elim

end Pattern

end JavaAtlas

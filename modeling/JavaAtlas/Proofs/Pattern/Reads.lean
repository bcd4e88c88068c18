import JavaAtlas.Proofs.Pattern.Scan

/-!
# What a match reads

Whatever way a pattern leads, it leads over a text and marks parts of it. So a match of a known
pattern can be taken apart: its text consists of the texts of the pieces, and what a marked piece
has read is the text of that mark. Of several matches in a text, each begins behind the one before.
-/

namespace JavaAtlas

namespace Cursor

variable {κ : Type} {cur mid next : Cursor κ} {s t done r : List Char} {ms ns : List (Mark κ)}

/-- From one place to another over a text, parts of which are marked. -/
structure Reads (cur next : Cursor κ) (s : List Char) (ms : List (Mark κ)) : Prop where
  rest : cur.rest = s ++ next.rest
  past : next = cur.past s ms
  inside : ∀ m ∈ ms, m.lead ++ m.text <+: s

lemma reads_nil (cur : Cursor κ) : cur.Reads cur [] [] := ⟨rfl, (past_nil cur).symm, by simp⟩

lemma Reads.trans (h : cur.Reads mid s ms) (h' : mid.Reads next t ns) :
    cur.Reads next (s ++ t) (ns.map (Mark.after s) ++ ms) where
  rest := by rw [h.rest, h'.rest, List.append_assoc]
  past := by rw [h'.past, h.past, past_past]
  inside m hm := by
    rcases List.mem_append.mp hm with hm | hm
    · obtain ⟨n, hn, rfl⟩ := List.mem_map.mp hm
      change s ++ n.lead ++ n.text <+: s ++ t
      rw [List.append_assoc]
      exact (List.prefix_append_right_inj s).mpr (h'.inside n hn)
    · exact (h.inside m hm).trans (List.prefix_append s t)

lemma reads_advance {c : Char} (h : cur.rest = c :: r) : cur.Reads (cur.advance c r) [c] [] :=
  ⟨h, advance_eq_past h, by simp⟩

/-- What is read as a whole can be marked. -/
lemma Reads.mark (h : cur.Reads next s ms) (label : κ) :
    cur.Reads { next with parts := ⟨label, cur.offset, next.offset⟩ :: next.parts } s
      (⟨label, [], s⟩ :: ms) where
  rest := h.rest
  past := by
    rw [h.past]
    rfl
  inside := List.forall_mem_cons.mpr ⟨List.prefix_rfl, h.inside⟩

lemma Reads.at (h : cur.Reads next s ms) (hcur : cur.At done r) :
    r = s ++ next.rest ∧ next.At (done ++ s) next.rest := by
  have hr : r = s ++ next.rest := hcur.rest.symm.trans h.rest
  refine ⟨hr, ?_⟩
  rw [h.past]
  have hplace : cur.At done (s ++ next.rest) := hr ▸ hcur
  simpa only [h.past] using hplace.past ms

end Cursor

namespace Pattern

variable {κ : Type} {p q : Pattern κ} {holds : Char → Bool} {cur next : Cursor κ}
  {s done r : List Char}

def isUnmarked : Pattern κ → Bool
  | .part _ _ => false
  | .seq p q | .either p q => isUnmarked p && isUnmarked q
  | .many p => isUnmarked p
  | _ => true

lemma Skips.reads (h : Skips holds cur next) : ∃ s, cur.Reads next s [] := by
  induction h with
  | stay cur => exact ⟨[], cur.reads_nil⟩
  | step hrest hc h ih =>
    obtain ⟨s, hs⟩ := ih
    exact ⟨_, (Cursor.reads_advance hrest).trans hs⟩

/-- Whatever way a pattern leads, it reads a text; without marks if it has none. -/
lemma Leads.reads (h : Leads p cur next) :
    ∃ s ms, cur.Reads next s ms ∧ (p.isUnmarked = true → ms = []) := by
  induction h with
  | nothing cur | done cur => exact ⟨[], [], cur.reads_nil, fun _ => rfl⟩
  | @wordEdge cur | @lineStart cur | @textEnd cur => exact ⟨[], [], cur.reads_nil, fun _ => rfl⟩
  | one hrest hc => exact ⟨_, [], Cursor.reads_advance hrest, fun _ => rfl⟩
  | greedy h | «lazy» h =>
    obtain ⟨s, hs⟩ := h.reads
    exact ⟨s, [], hs, fun _ => rfl⟩
  | seq _ _ ihp ihq =>
    obtain ⟨s, ms, hs, hms⟩ := ihp
    obtain ⟨t, ns, ht, hns⟩ := ihq
    refine ⟨_, _, hs.trans ht, fun h => ?_⟩
    obtain ⟨hp, hq⟩ := Bool.and_eq_true_iff.mp h
    rw [hms hp, hns hq]
    rfl
  | first _ ih =>
    obtain ⟨s, ms, hs, hms⟩ := ih
    exact ⟨s, ms, hs, fun h => hms (Bool.and_eq_true_iff.mp h).1⟩
  | second _ ih =>
    obtain ⟨s, ms, hs, hms⟩ := ih
    exact ⟨s, ms, hs, fun h => hms (Bool.and_eq_true_iff.mp h).2⟩
  | round _ _ _ ihp ih =>
    obtain ⟨s, ms, hs, hms⟩ := ihp
    obtain ⟨t, ns, ht, hns⟩ := ih
    refine ⟨_, _, hs.trans ht, fun h => ?_⟩
    rw [hms h, hns h]
    rfl
  | part _ ih =>
    obtain ⟨s, ms, hs, -⟩ := ih
    exact ⟨s, _, hs.mark _, nofun⟩

/-- A pattern without marks reads a text that it can cover. -/
lemma Leads.reads_unmarked (h : Leads p cur next) (hp : p.isUnmarked = true) :
    ∃ s, Covers p s ∧ cur.Reads next s [] := by
  obtain ⟨s, ms, hs, hms⟩ := h.reads
  obtain rfl := hms hp
  refine ⟨s, ⟨cur, next, h, hs.rest, ?_⟩, hs⟩
  rw [hs.past]
  rfl

/-- A marked pattern reads what it marks. -/
lemma Leads.reads_part {label : κ} (h : Leads (.part label p) cur next)
    (hp : p.isUnmarked = true) : ∃ s, Covers p s ∧ cur.Reads next s [⟨label, [], s⟩] := by
  cases h with
  | part h =>
    obtain ⟨s, hcovers, hs⟩ := h.reads_unmarked hp
    exact ⟨s, hcovers, hs.mark label⟩

/-- The first of two patterns reads a text before the second. -/
lemma Leads.seq_reads (h : Leads (.seq p q) cur next) (hp : p.isUnmarked = true) :
    ∃ s mid, Covers p s ∧ cur.Reads mid s [] ∧ Leads q mid next := by
  cases h with
  | seq h hq =>
    obtain ⟨s, hcovers, hreads⟩ := h.reads_unmarked hp
    exact ⟨s, _, hcovers, hreads, hq⟩

lemma Leads.seq_reads_part {label : κ} (h : Leads (.seq (.part label p) q) cur next)
    (hp : p.isUnmarked = true) :
    ∃ s mid, Covers p s ∧ cur.Reads mid s [⟨label, [], s⟩] ∧ Leads q mid next := by
  cases h with
  | seq h hq =>
    obtain ⟨s, hcovers, hreads⟩ := h.reads_part hp
    exact ⟨s, _, hcovers, hreads, hq⟩

/-! ### Matches found in a text -/

/-- A match in a text: the pattern leads from where the match begins to where it ends. -/
structure Found (p : Pattern κ) (s : List Char) (m : Match κ) (stop : Cursor κ) : Prop where
  leads : ∃ done place, s = done ++ m.here ∧ m.start = done.length ∧ place.At done m.here ∧
    place.parts = [] ∧ Leads p place stop
  ends : m.stop = stop.offset
  marks : m.parts = stop.parts

variable {m : Match κ} {stop : Cursor κ} {size n : Nat}

/-- A match is found at the place where the search goes on or behind it. -/
lemma found_of_findFrom? (hcur : cur.At done r) (h : p.findFrom? size cur r = some (m, stop)) :
    Found p (done ++ r) m stop ∧ cur.offset ≤ m.start := by
  induction r generalizing cur done with
  | nil =>
    rw [findFrom?, Option.map_eq_some_iff] at h
    obtain ⟨place, hplace, heq⟩ := h
    cases heq
    obtain ⟨_, hleads, hnext⟩ := leads_of_run hplace
    cases hnext
    refine ⟨⟨⟨done, cur.fresh, rfl, hcur.offset, hcur.fresh, rfl, hleads⟩, rfl, rfl⟩, Nat.le_refl _⟩
  | cons c rest ih =>
    rw [findFrom?] at h
    split at h
    · next place hplace =>
      cases h
      obtain ⟨_, hleads, hnext⟩ := leads_of_run hplace
      cases hnext
      exact ⟨⟨⟨done, cur.fresh, rfl, hcur.offset, hcur.fresh, rfl, hleads⟩, rfl, rfl⟩,
        Nat.le_refl _⟩
    · obtain ⟨hfound, hle⟩ := ih hcur.advance h
      rw [List.append_assoc] at hfound
      exact ⟨hfound, Nat.le_of_succ_le hle⟩

/-- The first match of a pattern is found in the text. -/
lemma found_of_find? (h : p.find? s = some m) : ∃ stop, Found p s m stop := by
  rw [find?, Option.map_eq_some_iff] at h
  obtain ⟨⟨_, stop⟩, hfound, rfl⟩ := h
  exact ⟨stop, (found_of_findFrom? (Cursor.at_ofText rfl) hfound).1⟩

/-- A match is what its pattern reads. -/
lemma Found.exists_leads (h : Found p s m stop) : ∃ done place, Leads p place stop ∧
    ∀ taken ms, place.Reads stop taken ms →
      s = done ++ (taken ++ stop.rest) ∧ m = .of done taken stop.rest ms := by
  obtain ⟨done, place, hs, hstart, hplace, hparts, hleads⟩ := h.leads
  refine ⟨done, place, hleads, fun taken ms hreads => ?_⟩
  obtain ⟨hhere, hstop⟩ := hreads.at hplace
  refine ⟨hs.trans (congrArg (done ++ ·) hhere), ?_⟩
  obtain ⟨start, stop', parts, here⟩ := m
  obtain rfl : here = taken ++ stop.rest := hhere
  obtain rfl : start = done.length := hstart
  obtain rfl : stop' = stop.offset := h.ends
  obtain rfl : parts = stop.parts := h.marks
  rw [Match.of, hstop.offset, List.length_append, hreads.past]
  simp [Cursor.past, hparts, hplace.offset]

/-- What a match that is found marks obeys the laws of the labels. -/
lemma Found.text_obeys [BEq κ] [LawfulBEq κ] {law : κ → List Char → Prop} (hp : Obeys law p)
    (h : Found p s m stop) (label : κ) : m.text label = [] ∨ law label (m.text label) := by
  obtain ⟨done, place, -, hstart, hplace, hparts, hleads⟩ := h.leads
  have hbegin : place = ⟨m.start, place.before, m.here, []⟩ := by
    rw [← hparts, ← hplace.rest, hstart, ← hplace.offset]
  rw [hbegin] at hleads
  exact text_of_leads hp hleads h.marks label

/-- A match ends where the text can be read on. -/
lemma Found.at_stop (h : Found p s m stop) :
    m.start ≤ m.stop ∧ ∃ before, s = before ++ stop.rest ∧ stop.At before stop.rest := by
  obtain ⟨done, place, hs, hstart, hplace, -, hleads⟩ := h.leads
  obtain ⟨taken, ms, hreads, -⟩ := hleads.reads
  obtain ⟨hhere, hstop⟩ := hreads.at hplace
  refine ⟨?_, done ++ taken, ?_, hstop⟩
  · rw [hstart, h.ends, hstop.offset, List.length_append]
    exact Nat.le_add_right ..
  · rw [hs, hhere, List.append_assoc]

/-- All matches are found in the text, from the place on where the search begins, and each begins
behind the one before it. -/
lemma found_of_findAllFrom (size n : Nat) (hcur : cur.At done r) :
    (∀ m ∈ p.findAllFrom size n cur,
      cur.offset ≤ m.start ∧ ∃ stop, Found p (done ++ r) m stop) ∧
    (p.findAllFrom size n cur).Pairwise fun a b => a.stop ≤ b.start := by
  induction n generalizing cur done r with
  | zero => simp [findAllFrom]
  | succ n ih =>
    rw [findAllFrom, hcur.rest]
    split
    · simp
    · next m stop hfind =>
      obtain ⟨hfound, hle⟩ := found_of_findFrom? hcur hfind
      obtain ⟨hlen, before, htext, hstop⟩ := hfound.at_stop
      -- what is found behind the match
      have hbehind : ∀ {place : Cursor κ} {front rest : List Char}, place.At front rest →
          done ++ r = front ++ rest → stop.offset ≤ place.offset →
          (∀ m' ∈ m :: p.findAllFrom size n place,
            cur.offset ≤ m'.start ∧ ∃ stop, Found p (done ++ r) m' stop) ∧
          (m :: p.findAllFrom size n place).Pairwise fun a b => a.stop ≤ b.start := by
        intro place front rest hplace heq hoffset
        obtain ⟨hall, hpairs⟩ := ih hplace
        rw [← heq] at hall
        have hafter : ∀ m' ∈ p.findAllFrom size n place, m.stop ≤ m'.start := fun m' hm' =>
          hfound.ends ▸ Nat.le_trans hoffset (hall m' hm').1
        refine ⟨?_, List.pairwise_cons.mpr ⟨hafter, hpairs⟩⟩
        rintro m' (_ | ⟨_, hm'⟩)
        · exact ⟨hle, stop, hfound⟩
        · exact ⟨Nat.le_trans (Nat.le_trans hle hlen) (hafter m' hm'), (hall m' hm').2⟩
      split
      · exact hbehind hstop htext (Nat.le_refl _)
      · split
        · exact ⟨by simpa using ⟨hle, stop, hfound⟩, List.pairwise_singleton ..⟩
        · next c rest hrest =>
          refine hbehind (hrest ▸ hstop).advance ?_ (Nat.le_succ _)
          rw [htext, hrest, List.append_assoc]
          rfl

/-- All matches of a pattern are found in the text, and each begins behind the one before it. -/
lemma found_of_findAll :
    (∀ m ∈ p.findAll s, ∃ stop, Found p s m stop) ∧
      (p.findAll s).Pairwise fun a b => a.stop ≤ b.start := by
  obtain ⟨hall, hpairs⟩ :=
    found_of_findAllFrom (p := p) s.length (s.length + 1) (Cursor.at_ofText (rfl : s = s))
  exact ⟨fun m hm => (hall m hm).2, hpairs⟩

end Pattern

end JavaAtlas

import JavaAtlas.Json.Printer
import JavaAtlas.Json.Reader
import JavaAtlas.Proofs.Action
import JavaAtlas.Proofs.Ordered
import JavaAtlas.Proofs.Text.Codec

/-!
# JSON written and read again

A value whose whole numbers are not too long, whose objects have distinct names and which nests no
more lists and objects than there is room for is read back from its text as it was. Numbers that
are not whole are left out. The layout must keep characters as they are; blanks between the tokens
do not matter.

The proof follows the value: each lemma reads the text of one part with any text after it, so that
the parts fit together.
-/

namespace JavaAtlas

namespace Json

/-- A value that is read back from its text, with room for so many lists and objects inside each
other. -/
inductive ReadsBack : Nat → Json → Prop
  | null {room : Nat} : ReadsBack room .null
  | bool {room : Nat} (b : Bool) : ReadsBack room (.bool b)
  | int {room : Nat} {n : Int} (h : (Nat.toDigits 10 n.natAbs).length ≤ Text.digitLimit) :
      ReadsBack room (.int n)
  | str {room : Nat} (s : String) : ReadsBack room (.str s)
  | arr {room : Nat} {items : List Json} (h : ∀ v ∈ items, ReadsBack room v) :
      ReadsBack (room + 1) (.arr items)
  | obj {room : Nat} {members : List (String × Json)} (hkeys : (Ordered.keys members).Nodup)
      (h : ∀ m ∈ members, ReadsBack room m.2) : ReadsBack (room + 1) (.obj members)

/-! ### Blanks -/

lemma skipGap_cons {c : Char} (h : isGap c = false) (s : List Char) :
    skipGap (c :: s) = c :: s := by
  simp [skipGap, List.dropWhile, h]

@[simp] lemma skipGap_lineBreak (fmt : Layout) (level : Nat) (s : List Char) :
    skipGap (lineBreak fmt level ++ s) = skipGap s := by
  have hblanks : ∀ n, skipGap (List.replicate n ' ' ++ s) = skipGap s := by
    intro n
    induction n with
    | zero => rfl
    | succ n ih =>
      rw [List.replicate_succ, List.cons_append]
      simpa [skipGap, List.dropWhile, isGap] using ih
  unfold lineBreak
  split
  · simpa [skipGap, List.dropWhile, isGap] using hblanks (2 * level)
  · rfl

/-- What follows an item is a comma and blanks. -/
lemma itemBreak_eq (fmt : Layout) (level : Nat) (s : List Char) :
    ∃ gap, itemBreak fmt level ++ s = ',' :: gap ∧ skipGap gap = skipGap s := by
  unfold itemBreak
  split
  · exact ⟨lineBreak fmt level ++ s, rfl, skipGap_lineBreak fmt level s⟩
  · exact ⟨' ' :: s, rfl, by simp [skipGap, List.dropWhile, isGap]⟩

/-! ### Strings -/

/-- The escape of a control character is read as that character. -/
lemma hexUnit?_hex : ∀ n < 32,
    (match (Text.hex 4 n).toList with
      | [a, b, c, d] => hexUnit? a b c d
      | _ => none) = some n := by
  decide

lemma readText_unitEscape {n : Nat} (hn : n < 32) (done rest : List Char) :
    readText done none (unitEscape n ++ rest) = readText (Char.ofNat n :: done) none rest := by
  have hunit := hexUnit?_hex n hn
  unfold unitEscape
  split at hunit
  · rename_i a b c d heq
    rw [heq]
    have hlow : ¬ (0xDC00 ≤ n) := by omega
    have hhigh : ¬ (0xD800 ≤ n) := by omega
    simp [readText, hunit, hlow, hhigh, settle]
  · simp at hunit

/-- Only quotes, backslashes and control characters are escaped. -/
lemma escapeChar_of_plain {c : Char} (hq : c ≠ '"') (hb : c ≠ '\\') (hlow : ¬ c.toNat < 0x20) :
    escapeChar false c = [c] := by
  have hn : c ≠ '\n' := by rintro rfl; exact hlow (by decide)
  have hr : c ≠ '\r' := by rintro rfl; exact hlow (by decide)
  have ht : c ≠ '\t' := by rintro rfl; exact hlow (by decide)
  have hf : c.toNat ≠ 0x0C := by omega
  have hbs : c.toNat ≠ 0x08 := by omega
  simp [escapeChar, hq, hb, hn, hr, ht, hf, hbs, hlow]

lemma readText_escapeChar (c : Char) (done rest : List Char) :
    readText done none (escapeChar false c ++ rest) = readText (c :: done) none rest := by
  by_cases hq : c = '"'
  · subst hq; simp [escapeChar, readText, escapeValue?, settle]
  by_cases hb : c = '\\'
  · subst hb; simp [escapeChar, readText, escapeValue?, settle]
  by_cases hn : c = '\n'
  · subst hn; simp [escapeChar, readText, escapeValue?, settle]
  by_cases hr : c = '\r'
  · subst hr; simp [escapeChar, readText, escapeValue?, settle]
  by_cases ht : c = '\t'
  · subst ht; simp [escapeChar, readText, escapeValue?, settle]
  by_cases hf : c.toNat = 0x0C
  · have : c = '\x0C' := by rw [← Char.ofNat_toNat c, hf]
    subst this; simp [escapeChar, readText, escapeValue?, settle]
  by_cases hbs : c.toNat = 0x08
  · have : c = '\x08' := by rw [← Char.ofNat_toNat c, hbs]
    subst this; simp [escapeChar, readText, escapeValue?, settle]
  by_cases hlow : c.toNat < 0x20
  · have hesc : escapeChar false c = unitEscape c.toNat := by
      simp [escapeChar, hq, hb, hn, hr, ht, hf, hbs, hlow]
    rw [hesc, readText_unitEscape hlow, Char.ofNat_toNat]
  · rw [escapeChar_of_plain hq hb hlow, List.singleton_append, readText]
    · simp [hlow, settle]
    all_goals simp_all

lemma readText_renderText (s : String) (rest : List Char) :
    readText [] none (s.toList.flatMap (escapeChar false) ++ ('"' :: rest)) = some (s, rest) := by
  have hchars : ∀ (cs done : List Char),
      readText done none (cs.flatMap (escapeChar false) ++ ('"' :: rest)) =
        some (String.ofList (done.reverse ++ cs), rest) := by
    intro cs
    induction cs with
    | nil => simp [readText, settle]
    | cons c cs ih =>
      intro done
      rw [List.flatMap_cons, List.append_assoc, readText_escapeChar, ih]
      simp
  simpa using hchars s.toList []

/-! ### Numbers -/

/-- A text that does not go on with a number that stands before it. -/
def EndsNumber (rest : List Char) : Prop :=
  ∀ c, rest.head? = some c → c.isDigit = false ∧ c ≠ '.' ∧ c ≠ 'e' ∧ c ≠ 'E'

lemma endsNumber_cons {c : Char} (h : c.isDigit = false ∧ c ≠ '.' ∧ c ≠ 'e' ∧ c ≠ 'E')
    (rest : List Char) : EndsNumber (c :: rest) := by
  intro d hd
  obtain rfl : c = d := by simpa using hd
  exact h

lemma takeDigits_append {digits rest : List Char} (hd : ∀ c ∈ digits, c.isDigit = true)
    (hr : EndsNumber rest) : takeDigits (digits ++ rest) = digits := by
  have hnone : takeDigits rest = [] := by
    cases rest with
    | nil => rfl
    | cons c rest => simp [takeDigits, (hr c rfl).1]
  rw [takeDigits, List.takeWhile_append_of_pos hd, ← takeDigits, hnone, List.append_nil]

lemma wholePart_toDigits (n : Nat) {rest : List Char} (hr : EndsNumber rest) :
    wholePart (Nat.toDigits 10 n ++ rest) = Nat.toDigits 10 n := by
  obtain ⟨c, cs, heq, hzero⟩ := Text.toDigits_head n
  by_cases hc : c = '0'
  · rw [heq, hzero hc, hc]
    rfl
  · have hdigits := takeDigits_append (fun c hc => Text.isDigit_of_mem_toDigits (n := n) hc) hr
    rw [heq] at hdigits ⊢
    rw [wholePart]
    · exact hdigits
    · intro rest' hcons
      exact hc (List.cons.inj hcons).1

lemma readNumber_toDigits (negative : Bool) (n : Nat) {rest : List Char}
    (hlen : (Nat.toDigits 10 n).length ≤ Text.digitLimit) (hr : EndsNumber rest) :
    readNumber negative (Nat.toDigits 10 n ++ rest) =
      .ok (.int (if negative then -(n : Int) else n), rest) := by
  have hfraction : fractionPart rest = [] := by
    cases rest with
    | nil => rfl
    | cons c rest =>
      rw [fractionPart]
      intro rest' hcons
      exact (hr c rfl).2.1 (List.cons.inj hcons).1
  have hexponent : exponentPart rest = none := by
    cases rest with
    | nil => rfl
    | cons c rest => simp [exponentPart, (hr c rfl).2.2]
  simp [readNumber, wholePart_toDigits n hr, hfraction, hexponent, Text.readDigits, hlen,
    Text.digitsValue_toDigits]

/-- No word begins like a number. -/
lemma findWord_of_isDigit {c : Char} (h : c.isDigit = true) (rest : List Char) :
    words.findSome? (fun w => (dropWord w.1 (c :: rest)).map fun rest => (w.2, rest)) = none ∧
      words.findSome? (fun w => (dropWord w.1 ('-' :: c :: rest)).map fun rest => (w.2, rest)) =
        none := by
  have hne : ∀ d : Char, d.isDigit = false → d ≠ c := by
    rintro d hd rfl
    simp [h] at hd
  have hn := hne 'n' (by decide)
  have ht := hne 't' (by decide)
  have hf := hne 'f' (by decide)
  have hN := hne 'N' (by decide)
  have hI := hne 'I' (by decide)
  have hm := hne '-' (by decide)
  simp [words, dropWord, hn, ht, hf, hN, hI, hm]

lemma toList_toString_ofNat (m : Nat) :
    (toString (Int.ofNat m)).toList = Nat.toDigits 10 m := Nat.toList_repr

lemma toList_toString_negSucc (m : Nat) :
    (toString (Int.negSucc m)).toList = '-' :: Nat.toDigits 10 (m + 1) := by
  change ("-" ++ Nat.repr (m + 1)).toList = _
  rw [String.toList_append, Nat.toList_repr]
  rfl

/-- The digits of a number begin with a digit, which is not followed by more if it is zero. -/
lemma toDigits_eq_cons (n : Nat) : ∃ c cs, Nat.toDigits 10 n = c :: cs ∧ c.isDigit = true := by
  obtain ⟨c, cs, heq, -⟩ := Text.toDigits_head n
  exact ⟨c, cs, heq, Text.isDigit_of_mem_toDigits (n := n) (by simp [heq])⟩

lemma readScalar_int {n : Int} (hlen : (Nat.toDigits 10 n.natAbs).length ≤ Text.digitLimit)
    {rest : List Char} (hr : EndsNumber rest) :
    readScalar ((toString n).toList ++ rest) = .ok (.int n, rest) := by
  cases n with
  | ofNat m =>
    obtain ⟨c, cs, heq, hc⟩ := toDigits_eq_cons m
    have hread := readNumber_toDigits false m (by simpa using hlen) hr
    rw [toList_toString_ofNat]
    rw [heq, List.cons_append] at hread ⊢
    rw [readScalar, (findWord_of_isDigit hc _).1]
    · simpa using hread
    · intro rest' hcons
      rw [(List.cons.inj hcons).1] at hc
      simp at hc
  | negSucc m =>
    obtain ⟨c, cs, heq, hc⟩ := toDigits_eq_cons (m + 1)
    have hread := readNumber_toDigits true (m + 1) (by simpa using hlen) hr
    rw [toList_toString_negSucc]
    rw [heq, List.cons_append] at hread
    rw [heq, List.cons_append, List.cons_append, readScalar, (findWord_of_isDigit hc _).2]
    simpa [Int.negSucc_eq] using hread

/-! ### Values -/

lemma isGap_of_isDigit {c : Char} (h : c.isDigit = true) : isGap c = false := by
  by_contra hgap
  simp only [isGap, Bool.not_eq_false, Bool.or_eq_true, beq_iff_eq] at hgap
  rcases hgap with ((rfl | rfl) | rfl) | rfl <;> simp at h

/-- A value does not begin with a blank nor with the end of a list. -/
lemma render_head (fmt : Layout) (level : Nat) {room : Nat} {v : Json} (h : ReadsBack room v) :
    ∃ c cs, v.render fmt level = c :: cs ∧ isGap c = false ∧ c ≠ ']' := by
  cases h with
  | null => exact ⟨'n', "ull".toList, rfl, by decide, by decide⟩
  | bool b =>
    cases b
    · exact ⟨'f', "alse".toList, rfl, by decide, by decide⟩
    · exact ⟨'t', "rue".toList, rfl, by decide, by decide⟩
  | @int _ n hlen =>
    cases n with
    | ofNat m =>
      obtain ⟨c, cs, heq, hc⟩ := toDigits_eq_cons m
      refine ⟨c, cs, ?_, isGap_of_isDigit hc, ?_⟩
      · rw [render, toList_toString_ofNat, heq]
      · rintro rfl
        simp at hc
    | negSucc m =>
      exact ⟨'-', _, by rw [render, toList_toString_negSucc], by decide, by decide⟩
  | str s => exact ⟨'"', _, rfl, by decide, by decide⟩
  | @arr _ items h =>
    cases items with
    | nil => exact ⟨'[', _, rfl, by decide, by decide⟩
    | cons v rest => exact ⟨'[', _, rfl, by decide, by decide⟩
  | @obj _ members hkeys h =>
    cases members with
    | nil => exact ⟨'\x7b', _, rfl, by decide, by decide⟩
    | cons m rest => exact ⟨'\x7b', _, rfl, by decide, by decide⟩

lemma renderItems_head (fmt : Layout) (level : Nat) {room : Nat} {v : Json} (rest : List Json)
    (h : ReadsBack room v) :
    ∃ c cs, renderItems fmt level (v :: rest) = c :: cs ∧ isGap c = false ∧ c ≠ ']' := by
  obtain ⟨c, cs, heq, hc⟩ := render_head fmt level h
  cases rest with
  | nil => exact ⟨c, cs, by rw [renderItems, heq], hc⟩
  | cons w rest => exact ⟨c, _, by rw [renderItems, heq, List.cons_append], hc⟩

lemma endsNumber_lineBreak (fmt : Layout) (level : Nat) {c : Char}
    (h : c.isDigit = false ∧ c ≠ '.' ∧ c ≠ 'e' ∧ c ≠ 'E') (rest : List Char) :
    EndsNumber (lineBreak fmt level ++ c :: rest) := by
  unfold lineBreak
  split
  · exact endsNumber_cons (by decide) _
  · exact endsNumber_cons h rest

lemma endsNumber_itemBreak (fmt : Layout) (level : Nat) (rest : List Char) :
    EndsNumber (itemBreak fmt level ++ rest) := endsNumber_cons (by decide) _

/-- A value is read from its text at any level and before any text that ends it. -/
def ReadsFromText (fmt : Layout) (room : Nat) (v : Json) : Prop :=
  ∀ (level fuel : Nat) (rest : List Char), EndsNumber rest → (v.render fmt level).length ≤ fuel →
    readValue fuel room (v.render fmt level ++ rest) = .ok (v, rest)

lemma readItems_render {fmt : Layout} {room : Nat} (level outer : Nat) :
    ∀ (items : List Json) (fuel : Nat) (rest : List Char), items ≠ [] →
      (∀ v ∈ items, ReadsBack room v ∧ ReadsFromText fmt room v) →
      (renderItems fmt level items).length + 1 ≤ fuel →
      readItems fuel room (renderItems fmt level items ++ (lineBreak fmt outer ++ (']' :: rest))) =
        .ok (items, rest)
  | [], _, _, hne, _, _ => absurd rfl hne
  | [v], fuel + 1, rest, _, h, hfuel => by
    have hv := (h v (by simp)).2 level fuel (lineBreak fmt outer ++ (']' :: rest))
      (endsNumber_lineBreak fmt outer (by decide) rest) (by simpa [renderItems] using hfuel)
    have hgap : skipGap (']' :: rest) = ']' :: rest := skipGap_cons (by decide) rest
    simp [readItems, renderItems, hv, hgap]
  | v :: w :: items, fuel + 1, rest, _, h, hfuel => by
    simp only [renderItems, List.length_append] at hfuel
    obtain ⟨gap, hbreak, hskip⟩ := itemBreak_eq fmt level
      (renderItems fmt level (w :: items) ++ (lineBreak fmt outer ++ (']' :: rest)))
    have hv := (h v (by simp)).2 level fuel _ (endsNumber_itemBreak fmt level
      (renderItems fmt level (w :: items) ++ (lineBreak fmt outer ++ (']' :: rest)))) (by omega)
    have hcomma : 1 ≤ (itemBreak fmt level).length := by simp [itemBreak]
    have hrest := readItems_render level outer (w :: items) fuel rest (by simp)
      (fun u hu => h u (List.mem_cons_of_mem _ hu)) (by omega)
    obtain ⟨c, cs, hhead, hc⟩ := renderItems_head fmt level items (h w (by simp)).1
    have hstart : skipGap gap =
        renderItems fmt level (w :: items) ++ (lineBreak fmt outer ++ (']' :: rest)) := by
      rw [hskip, hhead, List.cons_append, skipGap_cons hc.1]
    have hgap : skipGap (',' :: gap) = ',' :: gap := skipGap_cons (by decide) gap
    rw [renderItems, List.append_assoc, List.append_assoc, readItems, hv, hbreak]
    simp [hgap, hstart, hrest]

/-- The members of an object begin with the quote of the first name. -/
lemma renderMembers_cons (fmt : Layout) (hfmt : fmt.ascii = false) (level : Nat) (key : String)
    (v : Json) (rest : List (String × Json)) :
    renderMembers fmt level ((key, v) :: rest) =
      '"' :: (key.toList.flatMap (escapeChar false) ++ ('"' :: ':' :: ' ' ::
        (v.render fmt level ++ (if rest = [] then [] else
          itemBreak fmt level ++ renderMembers fmt level rest)))) := by
  cases rest with
  | nil => simp [renderMembers, renderText, hfmt]
  | cons m rest => simp [renderMembers, renderText, hfmt]

/-- One member is read up to the text after it, which says whether there are more. -/
lemma readMembers_member {fmt : Layout} {room : Nat} (level fuel : Nat) (key : String) {v : Json}
    {after : List Char} (hv : ReadsBack room v) (hread : ReadsFromText fmt room v)
    (hafter : EndsNumber after) (hfuel : (v.render fmt level).length ≤ fuel) :
    readMembers (fuel + 1) room ('"' :: (key.toList.flatMap (escapeChar false) ++
        ('"' :: ':' :: ' ' :: (v.render fmt level ++ after)))) =
      match skipGap after with
      | '\x7d' :: rest => .ok ([(key, v)], rest)
      | ',' :: rest => do
        let (members, rest) ← readMembers fuel room (skipGap rest)
        return ((key, v) :: members, rest)
      | _ => .error .malformed := by
  have hkey := readText_renderText key (':' :: ' ' :: (v.render fmt level ++ after))
  have hcolon : ∀ s, skipGap (':' :: s) = ':' :: s := skipGap_cons (by decide)
  have hspace : skipGap (' ' :: (v.render fmt level ++ after)) = v.render fmt level ++ after := by
    obtain ⟨c, cs, hhead, hc⟩ := render_head fmt level hv
    rw [hhead, List.cons_append]
    simpa [skipGap, List.dropWhile, isGap] using skipGap_cons hc.1 (cs ++ after)
  have hvalue := hread level fuel after hafter hfuel
  simp only [readMembers, hkey, hcolon, hspace, hvalue, ok_bind]
  rfl

lemma readMembers_render {fmt : Layout} (hfmt : fmt.ascii = false) {room : Nat}
    (level outer : Nat) :
    ∀ (members : List (String × Json)) (fuel : Nat) (rest : List Char), members ≠ [] →
      (∀ m ∈ members, ReadsBack room m.2 ∧ ReadsFromText fmt room m.2) →
      (renderMembers fmt level members).length + 1 ≤ fuel →
      readMembers fuel room
          (renderMembers fmt level members ++ (lineBreak fmt outer ++ ('\x7d' :: rest))) =
        .ok (members, rest)
  | [], _, _, hne, _, _ => absurd rfl hne
  | [(key, v)], fuel + 1, rest, _, h, hfuel => by
    obtain ⟨hv, hread⟩ := h (key, v) (by simp)
    have hclose : skipGap ('\x7d' :: rest) = '\x7d' :: rest := skipGap_cons (by decide) rest
    have hmember := readMembers_member level fuel key hv hread
      (endsNumber_lineBreak fmt outer (c := '\x7d') (by decide) rest)
      (by simp [renderMembers, renderText] at hfuel; simp; omega)
    simpa [renderMembers_cons fmt hfmt, hclose] using hmember
  | (key, v) :: m :: members, fuel + 1, rest, _, h, hfuel => by
    obtain ⟨hv, hread⟩ := h (key, v) (by simp)
    rw [renderMembers_cons fmt hfmt] at hfuel
    simp only [List.length_cons, List.length_append, reduceCtorEq, ↓reduceIte] at hfuel
    obtain ⟨gap, hbreak, hskip⟩ := itemBreak_eq fmt level
      (renderMembers fmt level (m :: members) ++ (lineBreak fmt outer ++ ('\x7d' :: rest)))
    have hmember := readMembers_member level fuel key hv hread (endsNumber_itemBreak fmt level
      (renderMembers fmt level (m :: members) ++ (lineBreak fmt outer ++ ('\x7d' :: rest))))
      (by simp only; omega)
    have hrest := readMembers_render hfmt level outer (m :: members) fuel rest (by simp)
      (fun u hu => h u (List.mem_cons_of_mem _ hu)) (by omega)
    have hstart : skipGap gap =
        renderMembers fmt level (m :: members) ++ (lineBreak fmt outer ++ ('\x7d' :: rest)) := by
      rw [hskip, renderMembers_cons fmt hfmt, List.cons_append, skipGap_cons (by decide)]
    have hgap : skipGap (',' :: gap) = ',' :: gap := skipGap_cons (by decide) gap
    rw [hbreak] at hmember
    rw [renderMembers_cons fmt hfmt]
    simp only [reduceCtorEq, ↓reduceIte, List.cons_append, List.append_assoc, hbreak]
    rw [hmember]
    simp [hgap, hstart, hrest]

/-- The text of a value is not empty, so that reading it has a step to take. -/
lemma exists_fuel {fmt : Layout} {level fuel : Nat} (room : Nat) {v : Json} (h : ReadsBack room v)
    (hfuel : (v.render fmt level).length ≤ fuel) : ∃ n, fuel = n + 1 := by
  obtain ⟨c, cs, heq, -⟩ := render_head fmt level h
  rw [heq, List.length_cons] at hfuel
  exact ⟨fuel - 1, by omega⟩

/-- The text of a whole number is not taken for a string, a list or an object. -/
lemma readValue_int {n : Int} (hlen : (Nat.toDigits 10 n.natAbs).length ≤ Text.digitLimit)
    (fuel room : Nat) {rest : List Char} (hr : EndsNumber rest) :
    readValue (fuel + 1) room ((toString n).toList ++ rest) = .ok (.int n, rest) := by
  rw [← readScalar_int hlen hr]
  cases n with
  | ofNat m =>
    obtain ⟨c, cs, heq, hc⟩ := toDigits_eq_cons m
    rw [toList_toString_ofNat, heq, List.cons_append, readValue]
    all_goals
      intro rest' hcons
      rw [(List.cons.inj hcons).1] at hc
      simp at hc
  | negSucc m =>
    rw [toList_toString_negSucc, List.cons_append, readValue]
    all_goals simp

/-- A value that reads back is read from its text. -/
theorem readsFromText_of_readsBack {fmt : Layout} (hfmt : fmt.ascii = false) {room : Nat}
    {v : Json} (h : ReadsBack room v) : ReadsFromText fmt room v := by
  induction h with
  | null =>
    intro level fuel rest _ hfuel
    obtain ⟨fuel, rfl⟩ := exists_fuel 0 .null hfuel
    simp [render, readValue, readScalar, words, dropWord]
  | bool b =>
    intro level fuel rest _ hfuel
    obtain ⟨fuel, rfl⟩ := exists_fuel 0 (.bool b) hfuel
    cases b <;> simp [render, readValue, readScalar, words, dropWord]
  | int hlen =>
    intro level fuel rest hr hfuel
    obtain ⟨fuel, rfl⟩ := exists_fuel 0 (.int hlen) hfuel
    rw [render]
    exact readValue_int hlen fuel _ hr
  | str s =>
    intro level fuel rest _ hfuel
    obtain ⟨fuel, rfl⟩ := exists_fuel 0 (.str s) hfuel
    have htext := readText_renderText s rest
    simp [render, renderText, hfmt, readValue, htext]
  | @arr room items h ih =>
    intro level fuel rest _ hfuel
    obtain ⟨fuel, rfl⟩ := exists_fuel _ (.arr h) hfuel
    match items, h, ih with
    | [], _, _ => simp [render, readValue, skipGap_cons, isGap]
    | v :: items, h, ih =>
      rw [render] at hfuel ⊢
      simp only [List.length_cons, List.length_append, List.length_nil] at hfuel
      have hitems := readItems_render (level + 1) level (v :: items)
        fuel rest (by simp) (fun u hu => ⟨h u hu, ih u hu⟩) (by omega)
      obtain ⟨c, cs, hhead, hc, hclose⟩ := renderItems_head fmt (level + 1) items (h v (by simp))
      have hstart : ∀ s, skipGap (renderItems fmt (level + 1) (v :: items) ++ s) =
          renderItems fmt (level + 1) (v :: items) ++ s := by
        intro s
        rw [hhead, List.cons_append, skipGap_cons hc]
      simp only [List.cons_append, List.append_assoc, List.nil_append, readValue,
        skipGap_lineBreak, hstart]
      rw [hhead, List.cons_append] at hitems ⊢
      split
      · simp_all
      · rename_i heq
        exact absurd (List.cons.inj heq).1 hclose
      · simp_all
  | @obj room members hkeys h ih =>
    intro level fuel rest _ hfuel
    obtain ⟨fuel, rfl⟩ := exists_fuel _ (.obj hkeys h) hfuel
    match members, hkeys, h, ih with
    | [], _, _, _ => simp [render, readValue, skipGap_cons, isGap]
    | (key, v) :: members, hkeys, h, ih =>
      rw [render] at hfuel ⊢
      simp only [List.length_cons, List.length_append, List.length_nil] at hfuel
      have hmembers := readMembers_render hfmt (level + 1) level ((key, v) :: members)
        fuel rest (by simp) (fun m hm => ⟨h m hm, ih m hm⟩) (by omega)
      have hstart : ∀ s, skipGap (renderMembers fmt (level + 1) ((key, v) :: members) ++ s) =
          renderMembers fmt (level + 1) ((key, v) :: members) ++ s := by
        intro s
        rw [renderMembers_cons fmt hfmt, List.cons_append, skipGap_cons (by decide)]
      simp only [List.cons_append, List.append_assoc, List.nil_append, readValue,
        skipGap_lineBreak, hstart]
      rw [renderMembers_cons fmt hfmt, List.cons_append] at hmembers ⊢
      change (readMembers fuel room _ >>= fun read => _) = _
      rw [hmembers, ok_bind, Ordered.ofList_of_nodup hkeys]
      rfl

/-- A value that reads back is what the text of an index file holds. -/
theorem readWithin_print {room : Nat} {v : Json} (h : ReadsBack room v) :
    readWithin room (v.print .file ++ "\n").toList = .ok v := by
  have htext : (v.print .file ++ "\n").toList = v.render .file 0 ++ ['\n'] := by
    simp [print]
  obtain ⟨c, cs, hhead, hc, -⟩ := render_head .file 0 h
  have hstart : skipGap (v.render .file 0 ++ ['\n']) = v.render .file 0 ++ ['\n'] := by
    rw [hhead, List.cons_append, skipGap_cons hc]
  have hfmt : Layout.file.ascii = false := rfl
  have hread := readsFromText_of_readsBack hfmt h 0 ((v.render .file 0 ++ ['\n']).length + 1)
    ['\n'] (endsNumber_cons (by decide) []) (by simp; omega)
  rw [htext, readWithin, hstart, hread]
  rfl

/-! ### Line ends -/

lemma cr_not_mem_escapeChar_control : ∀ n < 32, '\r' ∉ escapeChar false (Char.ofNat n) := by
  decide

lemma cr_not_mem_escapeChar (c : Char) : '\r' ∉ escapeChar false c := by
  by_cases hlow : c.toNat < 0x20
  · have hcontrol := cr_not_mem_escapeChar_control c.toNat hlow
    rwa [Char.ofNat_toNat] at hcontrol
  by_cases hq : c = '"'
  · subst hq
    decide
  by_cases hb : c = '\\'
  · subst hb
    decide
  · rw [escapeChar_of_plain hq hb hlow, List.mem_singleton]
    rintro rfl
    exact hlow (by decide)

lemma cr_not_mem_renderText (s : String) : '\r' ∉ renderText false s := by
  simp [renderText, cr_not_mem_escapeChar]

lemma cr_not_mem_lineBreak (fmt : Layout) (level : Nat) : '\r' ∉ lineBreak fmt level := by
  unfold lineBreak
  split
  · simp
  · simp

lemma cr_not_mem_itemBreak (fmt : Layout) (level : Nat) : '\r' ∉ itemBreak fmt level := by
  unfold itemBreak
  split
  · simp [cr_not_mem_lineBreak]
  · simp

lemma cr_not_mem_toString (n : Int) : '\r' ∉ (toString n).toList := by
  have hdigits : ∀ m, '\r' ∉ Nat.toDigits 10 m := by
    intro m hm
    have := Text.isDigit_of_mem_toDigits hm
    simp at this
  cases n with
  | ofNat m =>
    rw [toList_toString_ofNat]
    exact hdigits m
  | negSucc m =>
    rw [toList_toString_negSucc]
    simp [hdigits]

lemma cr_not_mem_renderItems {fmt : Layout} {level : Nat} :
    ∀ items : List Json, (∀ v ∈ items, '\r' ∉ v.render fmt level) →
      '\r' ∉ renderItems fmt level items
  | [], _ => by simp [renderItems]
  | [v], h => by simpa [renderItems] using h v
  | v :: w :: items, h => by
    have hrest := cr_not_mem_renderItems (w :: items) fun u hu => h u (List.mem_cons_of_mem _ hu)
    simp [renderItems, h v, cr_not_mem_itemBreak, hrest]

lemma cr_not_mem_renderMembers {fmt : Layout} (hfmt : fmt.ascii = false) {level : Nat} :
    ∀ members : List (String × Json), (∀ m ∈ members, '\r' ∉ m.2.render fmt level) →
      '\r' ∉ renderMembers fmt level members
  | [], _ => by simp [renderMembers]
  | [(key, v)], h => by
    simpa [renderMembers, hfmt, cr_not_mem_renderText] using h (key, v)
  | (key, v) :: m :: members, h => by
    have hv : '\r' ∉ v.render fmt level := h (key, v) (by simp)
    have hrest := cr_not_mem_renderMembers hfmt (m :: members)
      fun u hu => h u (List.mem_cons_of_mem _ hu)
    simp [renderMembers, hfmt, cr_not_mem_renderText, hv, cr_not_mem_itemBreak, hrest]

/-- The text of a value holds no carriage return, since strings write it as an escape. -/
lemma cr_not_mem_render {fmt : Layout} (hfmt : fmt.ascii = false) {room : Nat} {v : Json}
    (h : ReadsBack room v) : ∀ level, '\r' ∉ v.render fmt level := by
  induction h with
  | null => intro level; simp [render]
  | bool b => intro level; cases b <;> simp [render]
  | int hlen => intro level; simpa [render] using cr_not_mem_toString _
  | str s => intro level; simpa [render, hfmt] using cr_not_mem_renderText s
  | @arr room items h ih =>
    intro level
    have hitems := cr_not_mem_renderItems items fun v hv => ih v hv (level + 1)
    cases items with
    | nil => simp [render]
    | cons v items => simp [render, cr_not_mem_lineBreak, hitems]
  | @obj room members hkeys h ih =>
    intro level
    have hmembers := cr_not_mem_renderMembers hfmt members fun m hm => ih m hm (level + 1)
    cases members with
    | nil => simp [render]
    | cons m members => simp [render, cr_not_mem_lineBreak, hmembers]

/-- The bytes of an index file are decoded to the text that was written. -/
theorem decodeStrict?_print {room : Nat} {v : Json} (h : ReadsBack room v) :
    Text.decodeStrict? (v.print .file ++ "\n").toUTF8 = some (v.print .file ++ "\n").toList := by
  have hfmt : Layout.file.ascii = false := rfl
  apply Text.decodeStrict?_toUTF8
  simpa [print] using cr_not_mem_render hfmt h 0

end Json

end JavaAtlas

import JavaAtlas.Proofs.Java.Blocks
import JavaAtlas.Proofs.Java.Masking
import JavaAtlas.Proofs.Java.Methods
import JavaAtlas.Proofs.Pattern.Reads
import JavaAtlas.Proofs.Text.Lines

/-!
# The lines of methods

Whatever a source file holds, every method that is recorded stands in it as a signature, and is
recorded on the lines from the first modifier on: up to the end of the signature, or up to the brace
that closes the body. Only where no brace does is the last line made up.
-/

namespace JavaAtlas

namespace Java

open Pattern

/-! ### Signatures -/

/-- What may stand between the modifiers and the type of a method. -/
def methodGenericsShape : Pattern MemberPart :=
  maybe (inOrder [char '<', .lazy fun c => !"()\x7b\x7d;=".toList.contains c, char '>', blanks])

/-- What may stand between the parameters of a method and the mark that ends its signature. -/
def throwsShape : Pattern MemberPart :=
  inOrder [blanks, maybe (inOrder [Pattern.text "throws", blanks1,
    lazy1 fun c => isTypeChar c || c == ',' || isBlank c]), blanks]

/-- The pieces of the text of a signature. -/
structure Signature where
  modifiers : List Char
  generics : List Char
  type : List Char
  typeGap : List Char
  name : List Char
  nameGap : List Char
  parameters : List Char
  throws : List Char
  mark : Char
  modifiers_covered : Covers (keywords methodModifiers : Pattern MemberPart) modifiers
  generics_covered : Covers methodGenericsShape generics
  type_covered : Covers (typeShape : Pattern MemberPart) type
  typeGap_covered : Covers (blanks1 : Pattern MemberPart) typeGap
  name_covered : Covers (word : Pattern MemberPart) name
  nameGap_covered : Covers (blanks : Pattern MemberPart) nameGap
  parameters_covered : Covers (.greedy (· != ')') : Pattern MemberPart) parameters
  throws_covered : Covers throwsShape throws
  mark_eq : mark = '\x7b' ∨ mark = ';'

namespace Signature

def text (g : Signature) : List Char :=
  g.modifiers ++ (g.generics ++ (g.type ++ (g.typeGap ++ (g.name ++ (g.nameGap ++ ('(' ::
    (g.parameters ++ (')' :: (g.throws ++ [g.mark])))))))))

lemma text_ne_nil (g : Signature) : g.text ≠ [] := by simp [text]

/-- The pieces of a signature that are recorded are marked; `front` stands before the signature. -/
structure Marked (g : Signature) (front : List Char) (ms : List (Mark MemberPart)) : Prop where
  modifiers : ms.find? (·.label == .modifiers) = some ⟨.modifiers, front, g.modifiers⟩
  type : Mark.text? ms .type = some g.type
  name : Mark.text? ms .name = some g.name
  parameters : Mark.text? ms .parameters = some g.parameters
  stop : Mark.text? ms .stop = some [g.mark]

/-- What a signature says of a method. -/
structure Describes (g : Signature) (x : Method String) : Prop where
  name : x.name = String.ofList g.name
  returnType : x.returnType = String.ofList (bareTypeName g.type)
  parameters : x.parameters = parametersOf g.parameters
  modifiers : x.modifiers = modifiersIn g.modifiers

/-- The whole text of a method: its signature, and its body if it has one that is closed. -/
inductive Whole (g : Signature) : List Char → Prop
  | declared (h : g.mark = ';') : Whole g g.text
  | defined {body : List Char} (h : g.mark = '\x7b') (hbody : IsBalanced body) :
      Whole g (g.text ++ (body ++ ['\x7d']))

/-- A body begins behind a signature, and no brace closes it. -/
def IsOpen (g : Signature) (after : List Char) : Prop :=
  g.mark = '\x7b' ∧ ∀ body rest, after = body ++ '\x7d' :: rest → ¬ IsBalanced body

/-- A method ends on the last line of its whole text; where it is left open, ten lines behind its
first one. -/
def EndsOn (g : Signature) (content before after : List Char) (x : Method String) : Prop :=
  (∃ whole rest, g.Whole whole ∧ g.text ++ after = whole ++ rest ∧
    x.lineEnd = Text.lineOf content (before.length + (whole.length - 1))) ∨
  g.IsOpen after ∧ x.lineEnd = x.lineStart + 10

lemma Marked.after {g : Signature} {ms : List (Mark MemberPart)} (h : g.Marked [] ms)
    (front : List Char) : g.Marked front (ms.map (Mark.after front)) where
  modifiers := by
    have hlabel : (fun m : Mark MemberPart => m.label == .modifiers) ∘ Mark.after front =
        fun m => m.label == .modifiers := rfl
    rw [List.find?_map, hlabel, h.modifiers]
    simp [Mark.after]
  type := (Mark.text?_after ..).trans h.type
  name := (Mark.text?_after ..).trans h.name
  parameters := (Mark.text?_after ..).trans h.parameters
  stop := (Mark.text?_after ..).trans h.stop

end Signature

variable {cur next : Cursor MemberPart}

lemma leads_throwsShape {p : Pattern MemberPart}
    (h : Leads (.seq blanks (.seq (maybe (inOrder [Pattern.text "throws", blanks1,
      lazy1 fun c => isTypeChar c || c == ',' || isBlank c])) (.seq blanks p))) cur next) :
    Leads (.seq throwsShape p) cur next := by
  cases h with
  | seq hgap h =>
    cases h with
    | seq hthrows h =>
      cases h with
      | seq hgap' h => exact .seq (.seq hgap (.seq hthrows hgap')) h

/-- The shape of a method behind its annotations reads a signature. -/
lemma exists_signature (h : Leads methodBodyShape cur next) :
    ∃ (g : Signature) (ms : List (Mark MemberPart)), cur.Reads next g.text ms ∧ g.Marked [] ms := by
  obtain ⟨modifiers, _, hmodifiers, r₁, h⟩ := h.seq_reads_part rfl
  obtain ⟨generics, _, hgenerics, r₂, h⟩ := h.seq_reads rfl
  obtain ⟨type, _, htype, r₃, h⟩ := h.seq_reads_part rfl
  obtain ⟨typeGap, _, htypeGap, r₄, h⟩ := h.seq_reads rfl
  obtain ⟨name, _, hname, r₅, h⟩ := h.seq_reads_part rfl
  obtain ⟨nameGap, _, hnameGap, r₆, h⟩ := h.seq_reads rfl
  obtain ⟨opening, _, hopening, r₇, h⟩ := h.seq_reads rfl
  obtain ⟨parameters, _, hparameters, r₈, h⟩ := h.seq_reads_part rfl
  obtain ⟨closing, _, hclosing, r₉, h⟩ := h.seq_reads rfl
  obtain ⟨throws, _, hthrows, r₁₀, h⟩ := (leads_throwsShape h).seq_reads rfl
  obtain ⟨stop, hstop, r₁₁⟩ := h.reads_part rfl
  obtain rfl := hopening.char
  obtain rfl := hclosing.char
  obtain ⟨mark, rfl, hmark⟩ : ∃ mark, stop = [mark] ∧ (mark = '\x7b' ∨ mark = ';') := by
    obtain ⟨_, _, hleads, hrest, -⟩ := hstop
    cases hleads with
    | @one _ _ mark rest hcur hmark =>
      refine ⟨mark, ?_, by simpa using hmark⟩
      rw [hcur] at hrest
      exact (List.append_cancel_right (show [mark] ++ rest = stop ++ rest from hrest)).symm
  have hreads := r₁.trans (r₂.trans (r₃.trans (r₄.trans (r₅.trans (r₆.trans (r₇.trans (r₈.trans
    (r₉.trans (r₁₀.trans r₁₁)))))))))
  refine ⟨⟨modifiers, generics, type, typeGap, name, nameGap, parameters, throws, mark, hmodifiers,
    hgenerics, htype, htypeGap, hname, hnameGap, hparameters, hthrows, hmark⟩, _, hreads, ?_⟩
  constructor <;> simp [Mark.after]

/-- Every match of the shape of a method is a signature with annotations in front of it. -/
lemma exists_signature_of_found {content : List Char} {m : Match MemberPart}
    {stop : Cursor MemberPart} (h : Found methodShape content m stop) :
    ∃ done front g after ms, content = done ++ (front ++ Signature.text g ++ after) ∧
      m = .of done (front ++ g.text) after ms ∧ (∀ x ∈ ms, x.lead ++ x.text <+: front ++ g.text) ∧
      g.Marked front ms := by
  obtain ⟨done, place, hleads, hof⟩ := h.exists_leads
  rw [methodShape_eq] at hleads
  obtain ⟨front, _, -, hfront, hbody⟩ := hleads.seq_reads rfl
  obtain ⟨g, ms, hreads, hmarked⟩ := exists_signature hbody
  have hall := hfront.trans hreads
  rw [List.append_nil] at hall
  obtain ⟨hcontent, hm⟩ := hof _ _ hall
  exact ⟨done, front, g, _, _, hcontent, hm, hall.inside, hmarked.after front⟩

/-! ### Lines -/

/-- The line of an offset behind the beginning of a match is that of the text. -/
lemma lineAt_lineOf {content done : List Char} {m : Match MemberPart} {offset : Nat}
    (hcontent : content = done ++ m.here) (hstart : m.start = done.length)
    (hoffset : m.start ≤ offset) :
    m.lineAt (Text.lineOf content m.start) offset = Text.lineOf content offset := by
  have hdone : done.take offset = done := List.take_of_length_le (hstart ▸ hoffset)
  rw [Match.lineAt, Text.lineAfter_eq, Text.lineOf_eq, Text.lineOf_eq, hcontent, hstart,
    List.take_left, List.take_append, hdone, List.count_append, Nat.add_assoc]

variable {content done front after : List Char} {g : Signature} {m : Match MemberPart}
  {ms : List (Mark MemberPart)} {x : Method String}

/-- A method ends where its signature does, or where the braces balance. -/
lemma endsOn_of_methodEnd (hcontent : content = done ++ (front ++ g.text ++ after))
    (hinside : ∀ x ∈ ms, x.lead ++ x.text <+: front ++ g.text) (hms : g.Marked front ms)
    {start : Nat} (hstart : x.lineStart = start)
    (hend : x.lineEnd = methodEnd (.of done (front ++ g.text) after ms)
      (Text.lineOf content done.length) start) :
    g.EndsOn content (done ++ front) after x := by
  have hline : ∀ offset, done.length ≤ offset →
      (Match.of done (front ++ g.text) after ms).lineAt (Text.lineOf content done.length) offset =
        Text.lineOf content offset := fun offset hoffset =>
    lineAt_lineOf hcontent rfl hoffset
  have hstop : (Match.of done (front ++ g.text) after ms).text .stop = [g.mark] := by
    rw [Match.text_of hinside, hms.stop]
    rfl
  have hpos : 0 < g.text.length := List.length_pos_iff.mpr g.text_ne_nil
  rw [methodEnd, hstop] at hend
  rcases g.mark_eq with hmark | hmark
  · have hbody : bodyEnd? (.of done (front ++ g.text) after ms) =
        closingBrace? 0 (done.length + (front ++ g.text).length) after := by
      simp [bodyEnd?, Match.of]
    simp only [hmark, beq_self_eq_true, if_true, hbody] at hend
    rcases hclose : closingBrace? 0 (done.length + (front ++ g.text).length) after with _ | p
    · rw [hclose, Option.map_none, Option.getD_none] at hend
      refine Or.inr ⟨⟨hmark, closingBrace?_eq_none_iff.mp hclose⟩, ?_⟩
      rw [hend, hstart]
      rfl
    · obtain ⟨body, rest, rfl, hbalanced, rfl⟩ := closingBrace?_eq_some_iff.mp hclose
      rw [hclose, Option.map_some, Option.getD_some, hline _ (by omega)] at hend
      refine Or.inl ⟨_, rest, .defined hmark hbalanced, by simp, ?_⟩
      rw [hend]
      congr 2
      simp only [List.length_append, List.length_singleton]
      omega
  · have hother : (([g.mark] == ['\x7b']) = true) = False := by
      rw [hmark]
      decide
    simp only [hother, if_false] at hend
    refine Or.inl ⟨_, after, .declared hmark, rfl, ?_⟩
    rw [hend, hline _ (by simp only [Match.of, List.length_append]; omega)]
    congr 2
    simp only [Match.of, List.length_append]
    omega

/-- A method that is recorded is described by its signature, and neither its name nor the text of
its type is a word that no method has there. -/
lemma Signature.Marked.describes (hms : g.Marked front ms)
    (hinside : ∀ x ∈ ms, x.lead ++ x.text <+: front ++ g.text)
    (hx : methodOf? content (.of done (front ++ g.text) after ms) = some x) :
    g.Describes x ∧ x.name ∉ reservedForMethods ∧
      String.ofList g.type ∉ reservedForMethods ++ modifierVocabulary := by
  have htext : ∀ label, (Match.of done (front ++ g.text) after ms).text label =
      (Mark.text? ms label).getD [] := Match.text_of hinside
  have hmodifiers : Mark.text? ms .modifiers = some g.modifiers := by
    rw [Mark.text?, hms.modifiers]
    rfl
  simp only [methodOf?, htext, hms.name, hms.type, hms.parameters, hmodifiers,
    Option.getD_some] at hx
  split at hx
  · cases hx
  · next hnot =>
    simp only [Bool.or_eq_true, List.contains_iff_mem, not_or] at hnot
    cases hx
    exact ⟨⟨rfl, rfl, rfl, rfl⟩, hnot.1.2,
      fun hmem => (List.mem_append.mp hmem).elim hnot.1.1 hnot.2⟩

/-- A method is described by the signature it is found with. -/
lemma exists_signature_of_methodOf? {stop : Cursor MemberPart}
    (hm : Found methodShape content m stop) (hx : methodOf? content m = some x) :
    ∃ before g after, content = before ++ (Signature.text g ++ after) ∧ g.Describes x ∧
      x.lineStart = Text.lineOf content before.length ∧ m.start ≤ before.length ∧
      before.length ≤ m.stop ∧ g.EndsOn content before after x := by
  obtain ⟨done, front, g, after, ms, hcontent, rfl, hinside, hms⟩ := exists_signature_of_found hm
  have hpart : (((Match.of done (front ++ g.text) after ms).part? .modifiers).map (·.start)).getD
      (Match.of done (front ++ g.text) after ms).start = (done ++ front).length := by
    rw [Match.part?_of, hms.modifiers, List.length_append]
    rfl
  have hplace : (Match.of done (front ++ g.text) after ms).start ≤ (done ++ front).length := by
    simp [Match.of]
  have hfirst := lineAt_lineOf hcontent rfl hplace
  have hdescribes := (hms.describes hinside hx).1
  rw [methodOf?] at hx
  split at hx
  · cases hx
  · simp only [hpart, hfirst] at hx
    cases hx
    exact ⟨done ++ front, g, after, by simp [hcontent], hdescribes, rfl, by simp [Match.of],
      by simp [Match.of], endsOn_of_methodEnd hcontent hinside hms rfl rfl⟩

/-! ### The methods of a file -/

/-- The text that is scanned for declarations. -/
def scanned (masked : Bool) (content : List Char) : List Char :=
  if masked then mask content else content

/-- Masking moves no line. -/
lemma length_lines_scanned (masked : Bool) (content : List Char) :
    (Text.lines (scanned masked content)).length = (Text.lines content).length := by
  rw [Text.length_lines, Text.length_lines, scanned]
  split
  · rw [count_mask]
  · rfl

variable {masked : Bool} {path : String} {unit : SourceUnit}

lemma members_of_parseSource (h : parseSource masked path content = some unit) :
    unit.decl.fields = fieldsOf (scanned masked content) ∧
      unit.decl.methods = methodsOf (scanned masked content) := by
  simp only [parseSource, describe, Option.bind_eq_bind, Option.bind_eq_some_iff, Option.pure_def,
    Option.some.injEq] at h
  obtain ⟨header, -, kind, -, rfl⟩ := h
  exact ⟨rfl, rfl⟩

lemma methods_of_parseSource (h : parseSource masked path content = some unit) :
    unit.decl.methods = methodsOf (scanned masked content) :=
  (members_of_parseSource h).2

/-- Methods are recorded in the order of their lines. -/
lemma pairwise_methodsOf (content : List Char) :
    (methodsOf content).Pairwise fun a b => a.lineStart ≤ b.lineStart := by
  obtain ⟨hfound, hpairs⟩ := found_of_findAll (p := methodShape) (s := content)
  refine List.pairwise_filterMap.mpr (hpairs.imp_of_mem fun {m n} hm hn hmn x hx y hy => ?_)
  obtain ⟨_, hm⟩ := hfound m hm
  obtain ⟨_, hn⟩ := hfound n hn
  obtain ⟨front, -, -, -, -, hx, -, hstop, -⟩ := exists_signature_of_methodOf? hm hx
  obtain ⟨behind, -, -, -, -, hy, hstart, -⟩ := exists_signature_of_methodOf? hn hy
  rw [hx, hy]
  exact Int.ofNat_le.mpr (Text.lineOf_mono (hstop.trans (hmn.trans hstart)))

/-- A method is recorded on a line of the text, and does not end before it. -/
lemma lines_of_mem_methodsOf (hx : x ∈ methodsOf content) :
    1 ≤ x.lineStart ∧ x.lineStart ≤ (Text.lines content).length ∧ x.lineStart ≤ x.lineEnd := by
  obtain ⟨m, hm, hx⟩ := List.mem_filterMap.mp hx
  obtain ⟨_, hfound⟩ := found_of_findAll.1 m hm
  obtain ⟨before, g, after, -, -, hstart, -, -, hends⟩ := exists_signature_of_methodOf? hfound hx
  rw [hstart]
  refine ⟨Int.ofNat_le.mpr (Text.one_le_lineOf ..),
    Int.ofNat_le.mpr (Text.lineOf_le_length_lines ..), ?_⟩
  rcases hends with ⟨whole, rest, -, -, hend⟩ | ⟨-, hend⟩
  · rw [hend]
    exact Int.ofNat_le.mpr (Text.lineOf_mono (Nat.le_add_right ..))
  · omega

lemma lines_of_parseSource (h : parseSource masked path content = some unit)
    (hx : x ∈ unit.decl.methods) :
    1 ≤ x.lineStart ∧ x.lineStart ≤ (Text.lines content).length ∧ x.lineStart ≤ x.lineEnd := by
  rw [methods_of_parseSource h] at hx
  rw [← length_lines_scanned masked]
  exact lines_of_mem_methodsOf hx

/-- The methods recorded of a file come in the order of their lines. Each stands in the file as a
signature and is recorded on lines of the file, from that of its first modifier on; they hold its
whole text up to the end of the signature or to the brace that closes its body, or no brace does and
the last line is the tenth behind the first one. -/
theorem methods_on_their_lines (h : parseSource masked path content = some unit) :
    (unit.decl.methods.Pairwise fun a b => a.lineStart ≤ b.lineStart) ∧
    ∀ x ∈ unit.decl.methods,
      1 ≤ x.lineStart ∧ x.lineStart ≤ (Text.lines content).length ∧ x.lineStart ≤ x.lineEnd ∧
      ∃ before g after, scanned masked content = before ++ (Signature.text g ++ after) ∧
        g.Describes x ∧ x.lineStart = Text.lineOf (scanned masked content) before.length ∧
        ((∃ whole rest, g.Whole whole ∧ g.text ++ after = whole ++ rest ∧
            x.lineEnd ≤ (Text.lines content).length ∧
            x.lineEnd = Text.lineOf (scanned masked content) (before.length + (whole.length - 1)) ∧
            ∀ i < whole.length,
              x.lineStart ≤ Text.lineOf (scanned masked content) (before.length + i) ∧
              Text.lineOf (scanned masked content) (before.length + i) ≤ x.lineEnd) ∨
          g.IsOpen after ∧ x.lineEnd = x.lineStart + 10) := by
  refine ⟨methods_of_parseSource h ▸ pairwise_methodsOf _, fun x hx => ?_⟩
  obtain ⟨hone, hinside, hle⟩ := lines_of_parseSource h hx
  rw [methods_of_parseSource h] at hx
  rw [← length_lines_scanned masked] at hinside ⊢
  generalize scanned masked content = seen at hx hinside ⊢
  obtain ⟨m, hm, hx⟩ := List.mem_filterMap.mp hx
  obtain ⟨_, hfound⟩ := found_of_findAll.1 m hm
  obtain ⟨before, g, after, hseen, hdescribes, hstart, -, -, hends⟩ :=
    exists_signature_of_methodOf? hfound hx
  refine ⟨hone, hinside, hle, before, g, after, hseen, hdescribes, hstart, hends.imp ?_ id⟩
  rintro ⟨whole, rest, hwhole, hrest, hend⟩
  refine ⟨whole, rest, hwhole, hrest, ?_, hend, fun i hi => ⟨?_, ?_⟩⟩
  · rw [hend]
    exact Int.ofNat_le.mpr (Text.lineOf_le_length_lines ..)
  · rw [hstart]
    exact Int.ofNat_le.mpr (Text.lineOf_mono (Nat.le_add_right ..))
  · rw [hend]
    exact Int.ofNat_le.mpr (Text.lineOf_mono (by omega))

/-- A file with a method that has a body, one that has none and one that is left open. -/
def threeMethods : List Char :=
  "class A\x7b\n  // \x7d\n  void f()\n  \x7b // \x7b\n  \x7d\n  int g();\n  void h()\x7b\n".toList

set_option maxRecDepth 100000 in
theorem methods_on_their_lines_three : ∃ unit,
    parseSource true "A.java" threeMethods = some unit ∧
    (unit.decl.methods.map fun x => (x.lineStart, x.lineEnd)) = [(3, 5), (6, 6), (7, 17)] ∧
    (unit.decl.methods.Pairwise fun a b => a.lineStart ≤ b.lineStart) ∧
    ∀ x ∈ unit.decl.methods, x.lineStart ≤ 8 := by
  have hlines : ((parseSource true "A.java" threeMethods).map fun unit =>
      unit.decl.methods.map fun x => (x.lineStart, x.lineEnd)) =
        some [(3, 5), (6, 6), (7, 17)] := by decide +kernel
  obtain ⟨unit, hunit, hlines⟩ := Option.map_eq_some_iff.mp hlines
  obtain ⟨hpairs, hall⟩ := methods_on_their_lines hunit
  have hcount : (Text.lines threeMethods).length = 8 := by decide +kernel
  refine ⟨unit, hunit, hlines, hpairs, fun x hx => ?_⟩
  have hinside := (hall x hx).2.1
  rwa [hcount] at hinside

end Java

end JavaAtlas

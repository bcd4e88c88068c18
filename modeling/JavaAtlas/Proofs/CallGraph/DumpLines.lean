import Mathlib.Data.List.TakeWhile
import JavaAtlas.Proofs.CallGraph.Batches
import JavaAtlas.Proofs.CallGraph.References
import JavaAtlas.Proofs.Json.RoundTrip

/-!
# Lines of a dump read back

A line is read as a call if it is neither blank nor a comment and has five fields, the third and
fourth of which refer to methods. Nothing of a reference is lost, so that a call written as a line
is read again.
-/

namespace JavaAtlas

namespace CallGraph

open Pattern

variable {line : List Char}

/-! ### Lines with the shape of a call -/

/-- The third, fourth and fifth field of a line that is neither blank nor a comment. -/
structure HasFields (line callerField calleeField numberField : List Char) : Prop where
  notBlank : Text.allBlank (dropLineEnd line) = false
  notComment : (dropLineEnd line).head? ≠ some '#'
  split : ∃ first second more, (dropLineEnd line).splitOn '\t' =
    first :: second :: callerField :: calleeField :: numberField :: more

/-- A line with the shape of a call and the field of its number. -/
def IsCallLine (line numberField : List Char) : Prop :=
  ∃ callerField calleeField, HasFields line callerField calleeField numberField ∧
    IsReference callerField ∧ IsCalleeReference calleeField

/-- The number that a field gives: the one in front of it, or none. -/
def numberOf (field : List Char) : Option Int :=
  if (numberToken field).2 = [] then none else some (tokenValue (numberToken field))

lemma fieldsOf?_eq_some_iff {fields : List (List Char)} :
    fieldsOf? line = some fields ↔
      Text.allBlank (dropLineEnd line) = false ∧ (dropLineEnd line).head? ≠ some '#' ∧
        (dropLineEnd line).splitOn '\t' = fields ∧ 5 ≤ fields.length := by
  simp only [fieldsOf?, minFields]
  grind

lemma shapeOf?_eq_some_iff {caller callee : MethodId} {numberField : List Char} :
    shapeOf? line = some (caller, callee, numberField) ↔
      ∃ callerField calleeField, HasFields line callerField calleeField numberField ∧
        methodOf? methodRef callerField = some caller ∧
        methodOf? calleeRef calleeField = some callee := by
  constructor
  · intro h
    rw [shapeOf?] at h
    split at h
    · next first second callerField calleeField lineField more hfields =>
      obtain ⟨hblank, hcomment, hsplit, -⟩ := fieldsOf?_eq_some_iff.mp hfields
      obtain ⟨caller', hcaller, h⟩ := Option.bind_eq_some_iff.mp h
      obtain ⟨callee', hcallee, h⟩ := Option.bind_eq_some_iff.mp h
      cases h
      exact ⟨callerField, calleeField, ⟨hblank, hcomment, _, _, _, hsplit⟩, hcaller, hcallee⟩
    · cases h
  · rintro ⟨callerField, calleeField, ⟨hblank, hcomment, first, second, more, hsplit⟩, hcaller,
      hcallee⟩
    have hfields := fieldsOf?_eq_some_iff.mpr ⟨hblank, hcomment, hsplit, by simp⟩
    simp [shapeOf?, hfields, hcaller, hcallee]

lemma parseLine_eq_some_iff {call : Call} :
    parseLine line = .ok (some call) ↔
      ∃ field, shapeOf? line = some (call.caller, call.callee, field) ∧
        (numberToken field).2.length ≤ 4300 ∧ call.line = numberOf field := by
  rw [parseLine_eq]
  match hshape : shapeOf? line with
  | none => simp
  | some (caller, callee, field) =>
    obtain ⟨caller', callee', number⟩ := call
    simp only [numberOf, Text.digitLimit]
    grind

lemma parseLine_eq_error_iff {failure : Failure} :
    parseLine line = .error failure ↔
      ∃ caller callee field, shapeOf? line = some (caller, callee, field) ∧
        4300 < (numberToken field).2.length ∧
        failure = .tooManyDigits (numberToken field).2.length := by
  rw [parseLine_eq]
  match hshape : shapeOf? line with
  | none => simp
  | some (caller, callee, field) =>
    simp only [Text.digitLimit]
    grind

/-- A character of a line is one of its fields' or a tab. -/
lemma HasFields.not_mem {c : Char} {callerField calleeField numberField : List Char}
    (h : HasFields line callerField calleeField numberField) (hc : c ∉ dropLineEnd line) :
    c ∉ callerField ∧ c ∉ calleeField := by
  obtain ⟨first, second, more, hsplit⟩ := h.split
  have hjoin : ['\t'].intercalate ((dropLineEnd line).splitOn '\t') = dropLineEnd line :=
    List.intercalate_splitOn '\t'
  have hfield : ∀ field ∈ (dropLineEnd line).splitOn '\t', c ∉ field := fun field hfield hmem => by
    rw [← hjoin] at hc
    exact hc (Text.mem_intercalate_of_mem hfield hmem)
  rw [hsplit] at hfield
  exact ⟨hfield _ (by simp), hfield _ (by simp)⟩

/-- The lines with the shape of a call are those whose methods are read. -/
lemma isCallLine_iff {numberField : List Char} (hline : '\n' ∉ dropLineEnd line) :
    IsCallLine line numberField ↔
      ∃ caller callee, shapeOf? line = some (caller, callee, numberField) := by
  constructor
  · rintro ⟨callerField, calleeField, hfields, hcaller, kind, ref, hkind, rfl, hcallee⟩
    obtain ⟨hcallerLine, hcalleeLine⟩ := hfields.not_mem hline
    obtain ⟨caller, hcaller⟩ := hcaller.exists_legible
    obtain ⟨callee, hlegible, rfl⟩ := hcallee.exists_legible
    exact ⟨caller, callee, shapeOf?_eq_some_iff.mpr ⟨_, _, hfields,
      (methodOf?_methodRef_iff hcallerLine).mpr hcaller,
      (methodOf?_calleeRef_iff hcalleeLine).mpr ⟨hlegible, kind, hkind, rfl⟩⟩⟩
  · rintro ⟨caller, callee, hshape⟩
    obtain ⟨callerField, calleeField, hfields, hcaller, hcallee⟩ := shapeOf?_eq_some_iff.mp hshape
    obtain ⟨next, hleads, hend⟩ := leads_of_methodOf? hcaller
    obtain ⟨next', hleads', hend'⟩ := leads_of_methodOf? hcallee
    exact ⟨callerField, calleeField, hfields, isReference_of_leads hleads hend,
      kind_of_leads hleads' hend'⟩

/-! ### Calls written as lines -/

/-- A character that neither divides fields nor ends lines. -/
def IsFieldChar (c : Char) : Prop := c ≠ '\t' ∧ c ≠ '\r' ∧ c ≠ '\n'

instance : DecidablePred IsFieldChar := fun _ => inferInstanceAs (Decidable (_ ∧ _ ∧ _))

/-- What a line has besides a call: fields in front and behind, the kind of the call and the end
of the line. -/
structure LineFrame where
  first : List Char
  second : List Char
  kind : List Char
  more : List (List Char)
  ending : List Char

def numberText : Option Int → List Char
  | none => []
  | some n => (toString n).toList

namespace LineFrame

def fields (frame : LineFrame) (call : Call) : List (List Char) :=
  frame.first :: frame.second :: call.caller.reference ::
    kindReference frame.kind call.callee.reference :: numberText call.line :: frame.more

def lineOf (frame : LineFrame) (call : Call) : List Char :=
  ['\t'].intercalate (frame.fields call) ++ frame.ending

/-- The fields hold no tabs and line ends, and the line does not become a comment. -/
structure IsSound (frame : LineFrame) : Prop where
  kind : IsKind frame.kind
  notComment : frame.first.head? ≠ some '#'
  first : ∀ c ∈ frame.first, IsFieldChar c
  second : ∀ c ∈ frame.second, IsFieldChar c
  more : ∀ field ∈ frame.more, ∀ c ∈ field, IsFieldChar c
  ending : ∀ c ∈ frame.ending, c = '\r' ∨ c = '\n'

end LineFrame

/-- A call that can be read from its line. -/
structure IsLegibleCall (call : Call) : Prop where
  caller : call.caller.IsLegible
  callee : call.callee.IsLegible
  callerChars : ∀ c ∈ call.caller.reference, IsFieldChar c
  calleeChars : ∀ c ∈ call.callee.reference, IsFieldChar c
  number : ∀ n ∈ call.line, (Nat.toDigits 10 n.natAbs).length ≤ 4300

lemma not_isBlank_of_isDigit {c : Char} (h : c.isDigit = true) : isBlank c = false := by
  simp only [Char.isDigit, Bool.and_eq_true, decide_eq_true_eq, ge_iff_le] at h
  have hlow : 48 ≤ c.toNat := h.1
  have hhigh : c.toNat ≤ 57 := h.2
  simp only [isBlank]
  simp
  omega

lemma isDecimal_of_isDigit {c : Char} (h : c.isDigit = true) : isDecimal c = true := by
  rw [isDecimal, Text.digitValue?_of_isDigit h]
  rfl

lemma takeWhile_toDigits (n : Nat) :
    (Nat.toDigits 10 n).takeWhile isDecimal = Nat.toDigits 10 n :=
  List.takeWhile_eq_self_iff.mpr fun _ hc => isDecimal_of_isDigit (Text.isDigit_of_mem_toDigits hc)

lemma numberToken_toString (n : Int) :
    numberToken (toString n).toList = (decide (n < 0), Nat.toDigits 10 n.natAbs) := by
  cases n with
  | ofNat m =>
    obtain ⟨c, cs, heq, hc⟩ := Json.toDigits_eq_cons m
    have hdigits := takeWhile_toDigits m
    have hstrip : Text.stripLeft (c :: cs) = c :: cs := by
      rw [Text.stripLeft, List.dropWhile_cons_of_neg (by simp [not_isBlank_of_isDigit hc])]
    rw [Json.toList_toString_ofNat, numberToken, heq, hstrip]
    split
    · next rest hcons =>
      rw [(List.cons.inj hcons).1] at hc
      simp at hc
    · rw [← heq, hdigits]
      simp
  | negSucc m =>
    have hstrip : Text.stripLeft ('-' :: Nat.toDigits 10 (m + 1)) =
        '-' :: Nat.toDigits 10 (m + 1) := rfl
    rw [Json.toList_toString_negSucc, numberToken, hstrip]
    simp [takeWhile_toDigits]

/-- The number of a line is read from what is written for it. -/
lemma numberOf_numberText (number : Option Int) : numberOf (numberText number) = number := by
  match number with
  | none => rfl
  | some n =>
    obtain ⟨c, cs, heq, -⟩ := Json.toDigits_eq_cons n.natAbs
    rw [numberOf, numberText, numberToken_toString, if_neg (by simp [heq]), tokenValue,
      Text.digitsValue_toDigits, Option.some.injEq]
    simp only [decide_eq_true_eq]
    split <;> omega

lemma isFieldChar_numberText (number : Option Int) : ∀ c ∈ numberText number, IsFieldChar c := by
  have hdigit : ∀ m c, c ∈ Nat.toDigits 10 m → IsFieldChar c := fun m c hc => by
    have hc' := Text.isDigit_of_mem_toDigits hc
    refine ⟨?_, ?_, ?_⟩
    all_goals
      rintro rfl
      simp at hc'
  match number with
  | none => simp [numberText]
  | some (.ofNat m) =>
    rw [numberText, Json.toList_toString_ofNat]
    exact hdigit m
  | some (.negSucc m) =>
    rw [numberText, Json.toList_toString_negSucc]
    intro c hc
    rcases List.mem_cons.mp hc with rfl | hc
    · simp [IsFieldChar]
    · exact hdigit _ c hc

lemma isFieldChar_of_capital {c : Char} (h : 'A' ≤ c) : IsFieldChar c := by
  refine ⟨?_, ?_, ?_⟩
  all_goals
    rintro rfl
    revert h
    decide

lemma dropLineEnd_append {body ending : List Char} (hbody : ∀ c ∈ body, c ≠ '\r' ∧ c ≠ '\n')
    (hending : ∀ c ∈ ending, c = '\r' ∨ c = '\n') : dropLineEnd (body ++ ending) = body := by
  have hdrop : (body.reverse.dropWhile fun c => c == '\r' || c == '\n') = body.reverse := by
    refine List.dropWhile_eq_self_iff.mpr fun hpos => ?_
    have hfirst := hbody _ (List.mem_reverse.mp (List.getElem_mem hpos))
    simpa using hfirst
  rw [dropLineEnd, List.reverse_append, List.dropWhile_append_of_pos, hdrop, List.reverse_reverse]
  intro c hc
  simpa using hending c (List.mem_reverse.mp hc)

namespace LineFrame

variable {frame : LineFrame} {call : Call}

lemma isFieldChar_fields (hframe : frame.IsSound) (hcall : IsLegibleCall call) :
    ∀ field ∈ frame.fields call, ∀ c ∈ field, IsFieldChar c := by
  have hkind : ∀ c ∈ kindReference frame.kind call.callee.reference, IsFieldChar c := by
    intro c hc
    simp only [kindReference, List.mem_cons, List.mem_append] at hc
    rcases hc with rfl | hc | rfl | hc
    · simp [IsFieldChar]
    · exact isFieldChar_of_capital (hframe.kind.capital c hc).1
    · simp [IsFieldChar]
    · exact hcall.calleeChars c hc
  intro field hfield
  simp only [fields, List.mem_cons] at hfield
  rcases hfield with rfl | rfl | rfl | rfl | rfl | hmore
  · exact hframe.first
  · exact hframe.second
  · exact hcall.callerChars
  · exact hkind
  · exact isFieldChar_numberText call.line
  · exact hframe.more field hmore

lemma hasFields_lineOf (hframe : frame.IsSound) (hcall : IsLegibleCall call) :
    HasFields (frame.lineOf call) call.caller.reference
      (kindReference frame.kind call.callee.reference) (numberText call.line) := by
  have hchars := isFieldChar_fields hframe hcall
  have hdrop : dropLineEnd (frame.lineOf call) = ['\t'].intercalate (frame.fields call) := by
    refine dropLineEnd_append ?_ hframe.ending
    refine Text.forall_mem_intercalate (by simp) fun field hfield c hc => ?_
    exact (hchars field hfield c hc).2
  constructor
  · rw [hdrop, Text.allBlank, List.all_eq_false]
    refine ⟨':', Text.mem_intercalate_of_mem (t := call.caller.reference) ?_ ?_, by decide⟩
    · simp [fields]
    · simp [MethodId.reference]
  · rw [hdrop, fields, List.intercalate_cons_cons]
    cases hfirst : frame.first with
    | nil => simp
    | cons c cs =>
      have hc := hframe.notComment
      rw [hfirst] at hc
      simpa using hc
  · refine ⟨frame.first, frame.second, frame.more, ?_⟩
    rw [hdrop, List.splitOn_intercalate '\t' _ (by simp [fields])]
    · rfl
    · exact fun field hfield hmem => (hchars field hfield _ hmem).1 rfl

/-- A call written as a line is read again. -/
lemma parseLine_lineOf (hframe : frame.IsSound) (hcall : IsLegibleCall call) :
    parseLine (frame.lineOf call) = .ok (some call) := by
  refine parseLine_eq_some_iff.mpr ⟨numberText call.line, ?_, ?_, ?_⟩
  · refine shapeOf?_eq_some_iff.mpr ⟨_, _, hasFields_lineOf hframe hcall, ?_, ?_⟩
    · refine (methodOf?_methodRef_iff fun hmem => ?_).mpr ⟨hcall.caller, rfl⟩
      exact (hcall.callerChars _ hmem).2.2 rfl
    · refine (methodOf?_calleeRef_iff fun hmem => ?_).mpr ⟨hcall.callee, _, hframe.kind, rfl⟩
      exact (isFieldChar_fields hframe hcall _ (by simp [fields]) _ hmem).2.2 rfl
  · match hnumber : call.line with
    | none => decide
    | some n =>
      rw [numberText, numberToken_toString]
      exact hcall.number n hnumber
  · exact (numberOf_numberText _).symm

end LineFrame

/-! ### The lines of a dump -/

/-- The calls read are those of the lines with the shape of a call, unless the number of a line is
too long. Each reference is divided at its last separating colon and its last opening parenthesis,
and its parts put together are the reference again. A call written as a line is read back. -/
theorem parseLine_reads_call_lines :
    (∀ line, '\n' ∉ dropLineEnd line →
      ((∃ call, parseLine line = .ok (some call)) ↔
        ∃ numberField, IsCallLine line numberField ∧
          (numberToken numberField).2.length ≤ 4300) ∧
      (∀ failure, parseLine line = .error failure ↔
        ∃ numberField, IsCallLine line numberField ∧ 4300 < (numberToken numberField).2.length ∧
          failure = .tooManyDigits (numberToken numberField).2.length) ∧
      ∀ call, parseLine line = .ok (some call) →
        ∃ callerField kind ref numberField,
          HasFields line callerField (kindReference kind ref) numberField ∧ IsKind kind ∧
          (∃ j k, Divides callerField j k ∧ call.caller = methodAt callerField j k) ∧
          call.caller.reference = callerField ∧
          (∃ j k, Divides ref j k ∧ call.callee = methodAt ref j k) ∧
          call.callee.reference = ref ∧ call.line = numberOf numberField) ∧
    ∀ (frame : LineFrame) (call : Call), frame.IsSound → IsLegibleCall call →
      parseLine (frame.lineOf call) = .ok (some call) := by
  refine ⟨fun line hline => ⟨?accepts, fun failure => ?fails, fun call hcall => ?parts⟩,
    fun frame call hframe hcall => LineFrame.parseLine_lineOf hframe hcall⟩
  case accepts =>
    constructor
    · rintro ⟨call, hcall⟩
      obtain ⟨field, hshape, hdigits, -⟩ := parseLine_eq_some_iff.mp hcall
      exact ⟨field, (isCallLine_iff hline).mpr ⟨_, _, hshape⟩, hdigits⟩
    · rintro ⟨field, hline', hdigits⟩
      obtain ⟨caller, callee, hshape⟩ := (isCallLine_iff hline).mp hline'
      exact ⟨⟨caller, callee, numberOf field⟩,
        parseLine_eq_some_iff.mpr ⟨field, hshape, hdigits, rfl⟩⟩
  case fails =>
    rw [parseLine_eq_error_iff]
    constructor
    · rintro ⟨caller, callee, field, hshape, hdigits, hfailure⟩
      exact ⟨field, (isCallLine_iff hline).mpr ⟨_, _, hshape⟩, hdigits, hfailure⟩
    · rintro ⟨field, hline', hdigits, hfailure⟩
      obtain ⟨caller, callee, hshape⟩ := (isCallLine_iff hline).mp hline'
      exact ⟨caller, callee, field, hshape, hdigits, hfailure⟩
  case parts =>
    obtain ⟨field, hshape, -, hnumber⟩ := parseLine_eq_some_iff.mp hcall
    obtain ⟨callerField, calleeField, hfields, hcaller, hcallee⟩ := shapeOf?_eq_some_iff.mp hshape
    obtain ⟨hcallerLine, hcalleeLine⟩ := hfields.not_mem hline
    obtain ⟨hcallerLegible, hcallerField⟩ := (methodOf?_methodRef_iff hcallerLine).mp hcaller
    obtain ⟨hcalleeLegible, kind, hkind, rfl⟩ := (methodOf?_calleeRef_iff hcalleeLine).mp hcallee
    exact ⟨callerField, kind, call.callee.reference, field, hfields, hkind,
      exists_divides_iff.mpr ⟨hcallerLegible, hcallerField⟩, hcallerField.symm,
      exists_divides_iff.mpr ⟨hcalleeLegible, rfl⟩, rfl, hnumber⟩

/-- A line with two fields in front and a line feed at its end. -/
def colonFrame : LineFrame := ⟨['1'], ['2'], ['V', 'I', 'R'], [], ['\n']⟩

/-- A call whose references hold more colons and parentheses than divide them. -/
def colonCall : Call where
  caller := ⟨"a:b(c)", "<init>", "(int:long)"⟩
  callee := ⟨"d)(:", "run", "()"⟩
  line := some 42

lemma isSound_colonFrame : colonFrame.IsSound where
  kind := ⟨by decide, by simp [colonFrame, Char.le_def]⟩
  notComment := by decide
  first := by simp [colonFrame, IsFieldChar]
  second := by simp [colonFrame, IsFieldChar]
  more := by simp [colonFrame]
  ending := by simp [colonFrame]

lemma isLegible_colonCall : IsLegibleCall colonCall where
  caller := ⟨by decide, by decide, by decide, "int:long".toList, by decide⟩
  callee := ⟨by decide, by decide, by decide, [], by decide⟩
  callerChars := by simp [colonCall, MethodId.reference, IsFieldChar]
  calleeChars := by simp [colonCall, MethodId.reference, IsFieldChar]
  number := by decide

theorem parseLine_reads_colonCall :
    '\n' ∉ dropLineEnd (colonFrame.lineOf colonCall) ∧
      (∃ numberField, IsCallLine (colonFrame.lineOf colonCall) numberField) ∧
      colonFrame.IsSound ∧ IsLegibleCall colonCall ∧
      parseLine (colonFrame.lineOf colonCall) = .ok (some colonCall) := by
  have hline : '\n' ∉ dropLineEnd (colonFrame.lineOf colonCall) := by decide
  have hread := parseLine_reads_call_lines.2 _ _ isSound_colonFrame isLegible_colonCall
  obtain ⟨numberField, hshape, -⟩ :=
    (parseLine_reads_call_lines.1 _ hline).1.mp ⟨colonCall, hread⟩
  exact ⟨hline, ⟨numberField, hshape⟩, isSound_colonFrame, isLegible_colonCall, hread⟩

end CallGraph

end JavaAtlas

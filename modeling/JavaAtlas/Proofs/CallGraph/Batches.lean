import Mathlib.Algebra.Ring.Int.Defs
import JavaAtlas.CallGraph.Ingest
import JavaAtlas.Proofs.Workspace

/-!
# Entering lines in batches

Whatever the size of a batch, the lines of a dump are entered all or not at all: they are entered
if every line can be entered by itself, and what is then entered are the calls on the lines, in
their order. A line cannot be entered if it has the shape of a call and a number in front of its
last field that is too long or too large.
-/

namespace JavaAtlas

namespace CallGraph

open Workspace (exec_ofExcept_bind exec_ite_report)

/-! ### Numbers of lines -/

/-- The sign and the digits in front of a field, blanks ignored. -/
def numberToken (field : List Char) : Bool × List Char :=
  match Text.stripLeft field with
  | '-' :: rest => (true, rest.takeWhile isDecimal)
  | rest => (false, rest.takeWhile isDecimal)

def tokenValue (token : Bool × List Char) : Int :=
  if token.1 then -(Text.digitsValue token.2 : Int) else Text.digitsValue token.2

lemma lineNumber_eq (field : List Char) :
    lineNumber field =
      if (numberToken field).2 = [] then .ok none
      else if (numberToken field).2.length ≤ Text.digitLimit then
        .ok (some (tokenValue (numberToken field)))
      else .error (.tooManyDigits (numberToken field).2.length) := by
  rw [lineNumber, numberToken]
  generalize Text.stripLeft field = rest
  split
  · next negative body heq =>
    -- behind a sign or not, both read the same digits
    split at heq
    all_goals
      cases heq
      simp only
      generalize List.takeWhile isDecimal _ = digits
      cases digits with
      | nil => rfl
      | cons c others =>
        simp only [Text.readDigits, reduceCtorEq, if_false]
        by_cases hlong : (c :: others).length ≤ Text.digitLimit
        · simp only [hlong, if_true]
          rfl
        · simp only [hlong, if_false]
          rfl

/-! ### Shapes of lines -/

/-- The caller, the callee and the last field of a line that has the shape of a call. -/
def shapeOf? (line : List Char) : Option (MethodId × MethodId × List Char) :=
  match fieldsOf? line with
  | some (_ :: _ :: callerField :: calleeField :: lineField :: _) => do
    let caller ← methodOf? methodRef callerField
    let callee ← methodOf? calleeRef calleeField
    return (caller, callee, lineField)
  | _ => none

/-- The call on a line, where one is read. -/
def callOn? (line : List Char) : Option Call := (parseLine line).toOption.join

/-- Whether a line can be entered: it is read, and a call on it can be stored. -/
def canEnter (line : List Char) : Bool :=
  match parseLine line with
  | .ok found => found.all Storable
  | .error _ => false

/-- A line of the shape of a call whose number has more digits than are read or lies outside of
the numbers of 64 bits with a sign. -/
def Overflows (line : List Char) : Prop :=
  ∃ caller callee field, shapeOf? line = some (caller, callee, field) ∧
    (4300 < (numberToken field).2.length ∨ tokenValue (numberToken field) < -2 ^ 63 ∨
      2 ^ 63 - 1 < tokenValue (numberToken field))

lemma parseLine_eq (line : List Char) :
    parseLine line = match shapeOf? line with
      | none => .ok none
      | some (caller, callee, field) =>
        if (numberToken field).2 = [] then .ok (some ⟨caller, callee, none⟩)
        else if (numberToken field).2.length ≤ Text.digitLimit then
          .ok (some ⟨caller, callee, some (tokenValue (numberToken field))⟩)
        else .error (.tooManyDigits (numberToken field).2.length) := by
  rw [parseLine, shapeOf?]
  match fieldsOf? line with
  | none | some [] | some [_] | some [_, _] | some [_, _, _] | some [_, _, _, _] => rfl
  | some (_ :: _ :: callerField :: calleeField :: lineField :: _) =>
    simp only [lineNumber_eq]
    match methodOf? methodRef callerField, methodOf? calleeRef calleeField with
    | none, _ => rfl
    | some caller, none => rfl
    | some caller, some callee =>
      simp only [Option.bind_eq_bind, Option.bind_some, Option.pure_def]
      by_cases hnone : (numberToken lineField).2 = []
      · simp only [hnone, if_true]
      · by_cases hlong : (numberToken lineField).2.length ≤ Text.digitLimit
        · simp only [hnone, hlong, if_true, if_false]
        · simp only [hnone, hlong, if_false]

lemma tokenValue_of_nil {token : Bool × List Char} (h : token.2 = []) : tokenValue token = 0 := by
  rw [tokenValue, h]
  cases token.1 <;> rfl

lemma fits_eq_false_iff (n : Int) : fits n = false ↔ n < -2 ^ 63 ∨ 2 ^ 63 - 1 < n := by
  rw [fits, Bool.and_eq_false_iff, decide_eq_false_iff_not, decide_eq_false_iff_not]
  simp only [leastNumber, greatestNumber]
  omega

/-- What keeps a line from being entered is its number. -/
lemma canEnter_eq_false_iff (line : List Char) : canEnter line = false ↔ Overflows line := by
  rw [canEnter, parseLine_eq, Overflows]
  match shapeOf? line with
  | none => simp
  | some (caller, callee, field) =>
    have hover : (∃ caller' callee' field',
        some (caller, callee, field) = some (caller', callee', field') ∧
        (4300 < (numberToken field').2.length ∨ tokenValue (numberToken field') < -2 ^ 63 ∨
          2 ^ 63 - 1 < tokenValue (numberToken field'))) ↔
        4300 < (numberToken field).2.length ∨ tokenValue (numberToken field) < -2 ^ 63 ∨
          2 ^ 63 - 1 < tokenValue (numberToken field) := by
      constructor
      · rintro ⟨_, _, _, ⟨⟩, h⟩
        exact h
      · exact fun h => ⟨caller, callee, field, rfl, h⟩
    rw [hover]
    have hlimit : Text.digitLimit = 4300 := rfl
    by_cases hnone : (numberToken field).2 = []
    · simp [hnone, tokenValue_of_nil hnone, Storable]
    · by_cases hlong : (numberToken field).2.length ≤ Text.digitLimit
      · simp only [hnone, hlong, if_true, if_false, Option.all_some, Storable,
          fits_eq_false_iff]
        omega
      · simp only [hnone, hlong, if_false, true_iff]
        exact Or.inl (by omega)

/-! ### Batches -/

lemma enterBatch_eq (batch : List Call) :
    enterBatch [] batch =
      if batch.all Storable = true then .ok batch else .error .databaseRange := rfl

/-- The outcome of entering the lines that are left while a batch waits: `done` is entered
already. -/
def entered? (done waiting : List Call) (lines : List (List Char)) : Option (List Call) :=
  if waiting.all Storable && lines.all canEnter then
    some (done ++ waiting ++ lines.filterMap callOn?)
  else none

lemma entered?_skip {done waiting : List Call} {line : List Char} {rest : List (List Char)}
    (h : parseLine line = .ok none) :
    entered? done waiting (line :: rest) = entered? done waiting rest := by
  simp [entered?, canEnter, callOn?, h, Except.toOption]

lemma entered?_wait {done waiting : List Call} {line : List Char} {rest : List (List Char)}
    {call : Call} (h : parseLine line = .ok (some call)) :
    entered? done waiting (line :: rest) = entered? done (waiting ++ [call]) rest := by
  simp [entered?, canEnter, callOn?, h, Except.toOption, and_assoc]

lemma entered?_flush {done waiting : List Call} (lines : List (List Char))
    (h : waiting.all Storable = true) :
    entered? done waiting lines = entered? (done ++ waiting) [] lines := by
  simp [entered?, h]

lemma entered?_of_overflow {done waiting : List Call} (lines : List (List Char))
    (h : ¬ waiting.all Storable = true) : entered? done waiting lines = none := by
  simp [entered?, h]

/-- Entering lines leaves the disk as it is. -/
lemma exec_enterLines_disk (size : Int) (entered : List (List Call)) (count : Nat)
    (batch : List Call) (lines : List (List Char)) (w : Workspace) :
    ((enterLines size entered count batch lines).exec w).2.disk = w.disk := by
  induction lines generalizing entered count batch w with
  | nil =>
    rw [enterLines]
    exact exec_ofExcept_bind (fun _ d => d = w.disk) (fun _ => rfl) fun _ _ => rfl
  | cons line rest ih =>
    rw [enterLines]
    refine exec_ofExcept_bind (fun _ d => d = w.disk) (fun _ => rfl) fun found _ => ?_
    match found with
    | none => exact ih _ _ _ _
    | some call =>
      simp only
      split
      · exact ih _ _ _ _
      · refine exec_ofExcept_bind (fun _ d => d = w.disk) (fun _ => rfl) fun done _ => ?_
        split
        · rfl
        · refine exec_ite_report (fun _ d => d = w.disk) fun w' hw' => ?_
          rw [ih]
          exact hw'

/-- For batches of any size, entering lines comes to the same. -/
lemma exec_enterLines {size : Int} (hsize : 1 ≤ size) (entered : List (List Call)) (count : Nat)
    (batch : List Call) (lines : List (List Char)) (w : Workspace)
    (hbatch : (batch.length : Int) < size) :
    ((enterLines size entered count batch lines).exec w).1.toOption =
      entered? entered.reverse.flatten batch.reverse lines := by
  induction lines generalizing entered count batch w with
  | nil =>
    rw [enterLines, enterBatch_eq]
    by_cases hall : batch.reverse.all Storable = true
    · rw [if_pos hall, entered?_flush _ hall, Action.exec_bind_of_ok (Action.exec_ofExcept ..)]
      simp [entered?, Except.toOption]
    · rw [if_neg hall, entered?_of_overflow _ hall,
        Action.exec_bind_of_error (Action.exec_ofExcept ..)]
      rfl
  | cons line rest ih =>
    rw [enterLines]
    match hparse : parseLine line with
    | .error e =>
      rw [Action.exec_bind_of_error (Action.exec_ofExcept ..)]
      simp [entered?, canEnter, hparse, Except.toOption]
    | .ok none =>
      rw [Action.exec_bind_of_ok (Action.exec_ofExcept ..), entered?_skip hparse]
      exact ih entered count batch w hbatch
    | .ok (some call) =>
      rw [Action.exec_bind_of_ok (Action.exec_ofExcept ..), entered?_wait hparse,
        ← List.reverse_cons]
      simp only
      split
      · next hsmall => exact ih entered count (call :: batch) w hsmall
      · -- the batch is full: it is entered, and the next one begins empty
        rw [enterBatch_eq]
        by_cases hall : (call :: batch).reverse.all Storable = true
        · rw [if_pos hall, Action.exec_bind_of_ok (Action.exec_ofExcept ..),
            entered?_flush rest hall]
          have hzero : ¬ (size == 0) = true := by
            rw [beq_iff_eq]
            omega
          simp only [hzero, Bool.false_eq_true, if_false]
          refine exec_ite_report
            (fun r _ => r.toOption = entered? (entered.reverse.flatten ++ _) [] rest)
            fun w' _ => ?_
          have hrest := ih ((call :: batch).reverse :: entered) (count + (batch.length + 1)) [] w'
            (Int.lt_of_lt_of_le Int.zero_lt_one hsize)
          simpa using hrest
        · rw [if_neg hall, entered?_of_overflow rest hall,
            Action.exec_bind_of_error (Action.exec_ofExcept ..)]
          rfl

end CallGraph

end JavaAtlas

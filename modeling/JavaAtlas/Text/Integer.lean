import JavaAtlas.Text.Blank
import JavaAtlas.Text.Digit

/-!
# Integers in text

An integer is an optional sign and decimal digits of any script, with single underscores between
digits and blanks around the whole. The separators U+001C to U+001F are not blanks here. A number
of more than 4300 digits is refused.
-/

namespace JavaAtlas

/-- Why a text is not read as an integer. -/
inductive IntegerFault
  | malformed
  | tooManyDigits (count : Nat)
  deriving DecidableEq, Repr

namespace Text

def digitLimit : Nat := 4300

/-- The number that a list of digits writes; characters that are not digits count as zero. -/
def digitsValue (digits : List Char) : Nat :=
  digits.foldl (fun n c => 10 * n + (digitValue? c).getD 0) 0

/-- The number that digits write, refused when there are too many of them. -/
def readDigits (digits : List Char) : Except IntegerFault Nat :=
  if digits.length ≤ digitLimit then .ok (digitsValue digits)
  else .error (.tooManyDigits digits.length)

/-- Whether underscores stand only between digits. -/
def singleUnderscores : List Char → Bool
  | [] => true
  | ['_'] => false
  | '_' :: '_' :: _ => false
  | _ :: rest => singleUnderscores rest

/-- Read digits and underscores up to the end of the text. -/
def readMagnitude (s : List Char) : Except IntegerFault Nat :=
  let body := s.takeWhile fun c => isDecimal c || c == '_'
  if body.isEmpty || body.head? == some '_' || !singleUnderscores body then .error .malformed
  else do
    let n ← readDigits (body.filter (· != '_'))
    if body.length == s.length then .ok n else .error .malformed

/-- Whether a character may stand around an integer. -/
def isMargin (c : Char) : Bool := isBlank c && !(28 ≤ c.toNat && c.toNat ≤ 31)

/-- Drop what may stand around an integer. -/
def dropMargins (s : List Char) : List Char :=
  ((s.dropWhile isMargin).reverse.dropWhile isMargin).reverse

/-- Read an integer, blanks around it ignored. -/
def readInteger (s : List Char) : Except IntegerFault Int :=
  match dropMargins s with
  | '-' :: rest => (readMagnitude rest).map fun n => -(n : Int)
  | '+' :: rest => (readMagnitude rest).map Int.ofNat
  | rest => (readMagnitude rest).map Int.ofNat

end Text

end JavaAtlas

import JavaAtlas.Failure
import JavaAtlas.Number.Rounded

/-!
# Values in queries

A query of a database is given values of any kind. A value that is looked up is compared as a
text; a limit must be a whole number, which a text or a number with a fraction part of zero can
also be.
-/

namespace JavaAtlas

namespace CallGraph

def leastNumber : Int := -9223372036854775808

def greatestNumber : Int := 9223372036854775807

/-- Whether a database can hold a number: it must fit in 64 bits with a sign. -/
def fits (n : Int) : Bool := leastNumber ≤ n && n ≤ greatestNumber

/-- Numbers in a database stand in positional notation up to fifteen digits before the point, and
always with a fraction. -/
def numberFormat : NumberFormat := ⟨15, true⟩

/-- The digits of a number that a database compares. -/
def comparedDigits : Nat := 15

/-- The text of a number in a database. A NaN is held as null, and the sign of zero is lost. -/
def numberText? : Binary64 → Option String
  | .nan => none
  | .infinite negative => some (if negative then "-Inf" else "Inf")
  | .finite negative m e =>
    let sign := if negative && m != 0 then "-" else ""
    some (sign ++ Binary64.roundedText numberFormat comparedDigits m e)

/-- The text that a value is looked up as; null is found nowhere. -/
def lookupText (position : Nat) (v : Json) : Except Failure (Option String) :=
  match v with
  | .str s => .ok (some s)
  | .null => .ok none
  | .bool b => .ok (some (if b then "1" else "0"))
  | .int n => if fits n then .ok (some (toString n)) else .error .databaseRange
  | .float x => .ok (numberText? x)
  | _ => .error (.unboundValue position v.kindName)

/-- The whole number that a number is; the ends of the range do not count. -/
def wholeOf? (x : Binary64) : Option Int :=
  x.truncate?.filter fun n => x.sameInt n && leastNumber < n && n < greatestNumber

def isSpacing (c : Char) : Bool := c == ' ' || (9 ≤ c.toNat && c.toNat ≤ 13)

/-- A text without blanks at its ends. -/
def dropSpacing (s : List Char) : List Char :=
  ((s.dropWhile isSpacing).reverse.dropWhile isSpacing).reverse

/-- A sign in front of a text, and the rest. -/
def splitSign (s : List Char) : Bool × List Char :=
  match s with
  | '-' :: rest => (true, rest)
  | '+' :: rest => (false, rest)
  | rest => (false, rest)

/-- The whole number that a list of decimal digits writes. -/
def valueOfDigits (digits : List Char) : Nat :=
  digits.foldl (fun n c => 10 * n + (c.toNat - 48)) 0

/-- The exponent that ends a number; nothing is the exponent zero. -/
def exponentOf? (s : List Char) : Option Int :=
  match s with
  | [] => some 0
  | mark :: rest =>
    let (negative, digits) := splitSign rest
    if (mark == 'e' || mark == 'E') && !digits.isEmpty && digits.all Char.isDigit then
      let n : Int := valueOfDigits digits
      some (if negative then -n else n)
    else none

/-- The whole number that a text writes, with or without a point and an exponent. -/
def wholeOfText? (text : String) : Option Int :=
  let (negative, s) := splitSign (dropSpacing text.toList)
  let whole := s.takeWhile Char.isDigit
  let s := s.drop whole.length
  if s.isEmpty then
    let n : Int := valueOfDigits whole
    let n := if negative then -n else n
    if whole.isEmpty || !fits n then none else some n
  else
    let fraction := if s.head? == some '.' then (s.drop 1).takeWhile Char.isDigit else []
    let s := if s.head? == some '.' then s.drop (1 + fraction.length) else s
    if whole.isEmpty && fraction.isEmpty then none
    else (exponentOf? s).bind fun e =>
      wholeOf? (.ofDecimal negative (valueOfDigits (whole ++ fraction)) (e - fraction.length))

/-- A limit that must be there. -/
def limitOr (found : Option Int) : Except Failure Int :=
  match found with
  | some n => .ok n
  | none => .error .databaseMismatch

def limitOf (position : Nat) (v : Json) : Except Failure Int :=
  match v with
  | .int n => if fits n then .ok n else .error .databaseRange
  | .bool b => .ok (if b then 1 else 0)
  | .float x => limitOr (wholeOf? x)
  | .str s => limitOr (wholeOfText? s)
  | .null => .error .databaseMismatch
  | _ => .error (.unboundValue position v.kindName)

end CallGraph

end JavaAtlas

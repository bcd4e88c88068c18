import JavaAtlas.Number.Binary64

/-!
# Shortest decimals

A number is printed with the fewest digits that read back as the same number, the nearest such
decimal being taken. From one ten-thousandth up to a size that the format names it stands in
positional notation, elsewhere with an exponent.
-/

namespace JavaAtlas

/-- A decimal `digits * 10 ^ exponent`. -/
structure Decimal where
  digits : Nat
  exponent : Int
  deriving DecidableEq, Repr

/-- How decimals are laid out: the most digits before the point in positional notation, and whether
a digit that stands alone before an exponent is given a fraction. -/
structure NumberFormat where
  maxWhole : Int
  alwaysPoint : Bool
  deriving DecidableEq, Repr

namespace Binary64

/-- The greatest `k` with `10 ^ k` at most the positive quotient, searched downwards from `k`. -/
def floorLog10From (num den : Nat) : Nat → Int → Int
  | 0, k => k
  | fuel + 1, k =>
    let (up, down) := powRatio 10 k
    if den * up ≤ num * down then k else floorLog10From num den fuel (k - 1)

/-- The decimal with unit `10 ^ k` that reads back as the number, the nearer one of two. -/
def onGrid? (m : Nat) (e : Int) (k : Int) : Option Decimal :=
  let (num, den) := magnitude m e
  let (up, down) := powRatio 10 k
  let a := num * down
  let b := den * up
  let low := a / b
  let reads (d : Nat) := ofDecimal false d k == .finite false m e
  let lowIsNear := 2 * (a % b) < b || (2 * (a % b) == b && low % 2 == 0)
  let near := if lowIsNear then low else low + 1
  let far := if lowIsNear then low + 1 else low
  if reads near then some ⟨near, k⟩ else if reads far then some ⟨far, k⟩ else none

/-- The first grid, from `count` digits on, that holds a decimal reading back as the number. -/
def shortestFrom (m : Nat) (e top : Int) : Nat → Int → Decimal
  | 0, k => ⟨(magnitude m e).1, k⟩
  | fuel + 1, k =>
    match onGrid? m e (top - k + 1) with
    | some d => d
    | none => shortestFrom m e top fuel (k + 1)

/-- The power of ten of the first digit of a positive finite number. -/
def leadingPower (m : Nat) (e : Int) : Int :=
  let (num, den) := magnitude m e
  let start : Int := (Nat.toDigits 10 num).length - (Nat.toDigits 10 den).length + 1
  floorLog10From num den 4 start

/-- The shortest decimal of a positive finite number. -/
def shortest (m : Nat) (e : Int) : Decimal := shortestFrom m e (leadingPower m e) 17 1

def dropZeros : List Char → List Char := fun s => (s.reverse.dropWhile (· == '0')).reverse

/-- The two-digit form of an exponent. -/
def exponentText (e : Int) : String :=
  let digits := toString e.natAbs
  (if e < 0 then "-" else "+") ++ (if e.natAbs < 10 then "0" ++ digits else digits)

/-- Digits with the decimal point after the first `point` of them. -/
def layout (f : NumberFormat) (digits : List Char) (point : Int) : String :=
  let count : Int := digits.length
  if point ≤ -4 || f.maxWhole < point then
    let tail := digits.drop 1
    let fraction := if tail.isEmpty then (if f.alwaysPoint then ['.', '0'] else []) else '.' :: tail
    String.ofList (digits.take 1 ++ fraction) ++ "e" ++ exponentText (point - 1)
  else if point ≤ 0 then
    "0." ++ String.ofList (List.replicate (-point).toNat '0' ++ digits)
  else if count ≤ point then
    String.ofList (digits ++ List.replicate (point - count).toNat '0') ++ ".0"
  else String.ofList (digits.take point.toNat ++ '.' :: digits.drop point.toNat)

def decimalText (f : NumberFormat) (d : Decimal) : String :=
  let all := Nat.toDigits 10 d.digits
  layout f (dropZeros all) (all.length + d.exponent)

/-- The shortest text of a finite number without its sign. -/
def magnitudeText (f : NumberFormat) (m : Nat) (e : Int) : String :=
  if m = 0 then "0.0" else decimalText f (shortest m e)

end Binary64

end JavaAtlas

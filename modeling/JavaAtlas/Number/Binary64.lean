/-!
# Binary floating-point numbers

A binary64 number is kept as a sign, a whole mantissa and a power of two, so that every operation
on it is exact arithmetic followed by one rounding to the nearest number, a tie going to the even
mantissa.
-/

namespace JavaAtlas

/-- A binary64 number; a finite one is `mantissa * 2 ^ exponent` with its sign. -/
inductive Binary64
  | nan
  | infinite (negative : Bool)
  | finite (negative : Bool) (mantissa : Nat) (exponent : Int)
  deriving DecidableEq, Repr, Inhabited

namespace Binary64

def minExponent : Int := -1074

def maxExponent : Int := 971

/-- A power of a base as a numerator and a denominator. -/
def powRatio (base : Nat) (e : Int) : Nat × Nat :=
  if 0 ≤ e then (base.pow e.toNat, 1) else (1, base.pow (-e).toNat)

/-- The whole number nearest to a quotient, a tie going to the even one. -/
def roundHalfEven (num den : Nat) : Nat :=
  let q := num / den
  let twice := 2 * (num % den)
  if twice < den then q
  else if den < twice then q + 1
  else if q % 2 = 0 then q else q + 1

/-- The exponent of the leading bit of a positive quotient. -/
def floorLog2 (num den : Nat) : Int :=
  let k : Int := (num.log2 : Int) - (den.log2 : Int)
  let (up, down) := powRatio 2 k
  if den * up ≤ num * down then k else k - 1

/-- The least mantissa of a number with full precision, which has 53 bits. -/
def leastFull : Nat := 4503599627370496

def ofRatio (negative : Bool) (num den : Nat) : Binary64 :=
  if num = 0 then .finite negative 0 minExponent
  else
    let e := max (floorLog2 num den - 52) minExponent
    let (up, down) := powRatio 2 e
    let m := roundHalfEven (num * down) (den * up)
    let (m, e) := if m = 2 * leastFull then (leastFull, e + 1) else (m, e)
    if maxExponent < e then .infinite negative else .finite negative m e

/-- The number nearest to `digits * 10 ^ exponent`. Exponents far outside the range are settled
by the count of digits, so that no huge power is formed. -/
def ofDecimal (negative : Bool) (digits : Nat) (exponent : Int) : Binary64 :=
  if digits = 0 then .finite negative 0 minExponent
  else
    let scale : Int := (Nat.toDigits 10 digits).length + exponent
    if 400 < scale then .infinite negative
    else if scale < -400 then .finite negative 0 minExponent
    else
      let (up, down) := powRatio 10 exponent
      ofRatio negative (digits * up) down

/-- The size of a finite number as a numerator and a denominator. -/
def magnitude (mantissa : Nat) (exponent : Int) : Nat × Nat :=
  let (up, down) := powRatio 2 exponent
  (mantissa * up, down)

/-- The whole number towards zero, when there is one. -/
def truncate? : Binary64 → Option Int
  | .finite negative m e =>
    let (num, den) := magnitude m e
    let n : Int := (num / den : Nat)
    some (if negative then -n else n)
  | _ => none

def isZero : Binary64 → Bool
  | .finite _ m _ => m == 0
  | _ => false

/-- Whether two numbers have the same value; a NaN equals nothing, and the two zeros are equal. -/
def same : Binary64 → Binary64 → Bool
  | .infinite s, .infinite t => s == t
  | .finite s m e, .finite t n f =>
    if m == 0 && n == 0 then true
    else
      let (a, b) := magnitude m e
      let (c, d) := magnitude n f
      s == t && a * d == c * b
  | _, _ => false

def sameInt (x : Binary64) (n : Int) : Bool :=
  match x with
  | .finite s m e =>
    let (a, b) := magnitude m e
    (if s then -(a : Int) else a) == n * (b : Int)
  | _ => false

end Binary64

end JavaAtlas

import JavaAtlas.Number.Shortest

/-!
# Rounded decimals

A number can also be written with a fixed count of significant digits, whether they read back as
the same number or not. A number half-way between two such decimals is written as the greater one.
-/

namespace JavaAtlas

namespace Binary64

/-- The decimal of so many significant digits nearest to a positive finite number, a tie going
up. -/
def rounded (count : Nat) (m : Nat) (e : Int) : Decimal :=
  let k := leadingPower m e - count + 1
  let (num, den) := magnitude m e
  let (up, down) := powRatio 10 k
  let a := num * down
  let b := den * up
  ⟨(2 * a + b) / (2 * b), k⟩

/-- The text of a finite number without its sign, with so many significant digits. -/
def roundedText (f : NumberFormat) (count : Nat) (m : Nat) (e : Int) : String :=
  if m = 0 then "0.0" else decimalText f (rounded count m e)

end Binary64

end JavaAtlas

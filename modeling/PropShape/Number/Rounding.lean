import PropShape.Number.Basic

/-!
# `PropShape.Number.Rounding`: the number nearest to an exact quantity

Everything that is not a number already becomes one here, by rounding an
exact quotient of natural numbers once, to the nearest number, a tie going
to the even code. A quantity is given in units, so the quotient is rounded
on the grid of the binade in which it lies: the significand of a binade has
53 bits, and rounding it up to `2 ^ 53` carries into the next code by
itself (`codeOfUnits`).
-/

set_option autoImplicit false

namespace PropShape.Number

/-- The natural number nearest to `num / den`, a half going to the even one. -/
def roundQuotient (num den : Nat) : Nat :=
  let quotient := num / den
  let twice := 2 * (num % den)
  if den < twice || (twice == den && quotient % 2 == 1) then quotient + 1 else quotient

/-- The code nearest to `num / den` units, at most that of infinity. -/
def codeOfUnits (num den : Nat) : Nat :=
  let doublings := Nat.log2 (num / den) - 52
  min infinityCode (doublings * Nat.pow 2 52 + roundQuotient num (den * Nat.pow 2 doublings))

/-- The number nearest to `num / den` with a sign. -/
def ofQuotient (negative : Bool) (num den : Nat) : Number :=
  ofCode negative (codeOfUnits (num * unitsPerOne) den)

/-- The number nearest to a natural number. -/
def ofNat (n : Nat) : Number := ofQuotient false n 1

/-- The number nearest to an integer; zero is positive. -/
def ofInt (i : Int) : Number := ofQuotient (decide (i < 0)) i.natAbs 1

/-- The number nearest to the product of two absolute values. -/
def product (a b : Number) : Number :=
  ofCode false (codeOfUnits (a.units * b.units) unitsPerOne)

/-- The number nearest to the quotient of two absolute values. -/
def quotient (a b : Number) : Number :=
  ofCode false (codeOfUnits (a.units * unitsPerOne) b.units)

/-- The number nearest to `digits * 10 ^ exponent`. Exponents that decide the
answer by their size alone are answered without writing the power out: every
positive integer times `10 ^ 310` is too large, and a decimal below
`10 ^ -330` is nearest to zero. -/
def ofDecimal (negative : Bool) (digits : Nat) (exponent : Int) : Number :=
  if digits == 0 then
    ofCode negative 0
  else if 0 ≤ exponent then
    if 310 ≤ exponent then infinity negative
    else ofQuotient negative (digits * Nat.pow 10 exponent.toNat) 1
  else if Nat.log2 digits / 3 + 331 < (-exponent).toNat then
    ofCode negative 0
  else
    ofQuotient negative digits (Nat.pow 10 (-exponent).toNat)

end PropShape.Number

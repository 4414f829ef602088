import PropShape.Number.Rounding

/-!
# `PropShape.Number.Shortest`: the fewest digits that read back

A finite number is the nearest number to every real of an interval around
it, whose ends belong to it exactly when its code is even. `shortest`
answers a decimal of that interval with as few digits as any, and of those
the nearest to the number.

The search looks at the grids `10 ^ e` from coarse to fine. On a grid only
the two points around the number can be the nearest ones, so a grid has a
point in the interval exactly when one of these two lies in it. Two points
can be equally near; `Tie` says which is taken.
-/

set_option autoImplicit false

namespace PropShape

/-- The non-negative decimal `digits * 10 ^ exponent`. -/
structure Decimal where
  digits : Nat
  exponent : Int
  deriving DecidableEq, Inhabited

/-- Which of two equally near decimals stands for a number. -/
inductive Tie
  | up
  | toEven
  deriving DecidableEq

/-- How many decimal digits a natural number has; zero has one. -/
def digitCount (n : Nat) : Nat := (Nat.toDigits 10 n).length

namespace Decimal

/-- Drops zeros at the end of the digits, at most `fuel` of them. -/
def trimZeros : Nat → Decimal → Decimal
  | 0, d => d
  | fuel + 1, d =>
    if d.digits != 0 && d.digits % 10 == 0 then trimZeros fuel ⟨d.digits / 10, d.exponent + 1⟩
    else d

/-- The same decimal without zeros at the end of its digits. -/
def trimmed (d : Decimal) : Decimal := trimZeros (digitCount d.digits) d

end Decimal

namespace Number

/-- The grid point that stands for a code on the grid `10 ^ exponent`, if one
of the two points around the number reads back as it. -/
def onGrid (tie : Tie) (code : Nat) (exponent : Int) : Option Nat :=
  let scale := Nat.pow 10 (-exponent).toNat
  let step := 2 * Nat.pow 10 exponent.toNat * unitsPerOne
  -- All quantities are in half units, times `scale`.
  let value := 2 * unitsOfCode code * scale
  let lower := (unitsOfCode (code - 1) + unitsOfCode code) * scale
  let upper := (unitsOfCode code + unitsOfCode (code + 1)) * scale
  let closed := code % 2 == 0
  let reads (point : Nat) : Bool :=
    decide (lower < point * step ∧ point * step < upper) ||
      (closed && (point * step == lower || point * step == upper))
  let below := value / step
  let above := below + 1
  let down := value - below * step
  let up := above * step - value
  let prefersAbove := up < down || (up == down && (tie = .up || below % 2 == 1))
  match reads below && below != 0, reads above with
  | true, true => some (if prefersAbove then above else below)
  | true, false => some below
  | false, true => some above
  | false, false => none

/-- Tries `fuel` grids, from `10 ^ exponent` down. -/
def firstGrid (tie : Tie) (code : Nat) : Nat → Int → Option Decimal
  | 0, _ => none
  | fuel + 1, exponent =>
    match onGrid tie code exponent with
    | some digits => some ⟨digits, exponent⟩
    | none => firstGrid tie code fuel (exponent - 1)

/-- The exponent of the first digit of a positive finite number: it lies
between `10 ^ e` and `10 ^ (e + 1)`. Every positive number has a non-zero
integer part after a shift by 350 places. -/
def leadingExponent (code : Nat) : Int :=
  digitCount (unitsOfCode code * Nat.pow 10 350 / unitsPerOne) - 351

/-- The shortest decimal that reads back as a positive finite code. Seventeen
digits tell all numbers apart, so seventeen grids are enough. -/
def shortest (tie : Tie) (code : Nat) : Decimal :=
  match firstGrid tie code 17 (leadingExponent code) with
  | some decimal => decimal.trimmed
  | none => ⟨0, 0⟩

end Number

end PropShape

/-!
# `PropShape.Number.Basic`: the numbers of the value model

A number is a binary64 word: a sign bit and a 63-bit code. The codes of
finite numbers are ordered like the absolute values they stand for, and the
spacing of two neighbours is a whole multiple of `2 ^ -1074`. So the absolute
value of a finite number is a natural number of these *units*
(`Number.units`), and all arithmetic of this library is done on units, in
exact integers.

Equality (`Number.equals`) is that of numbers, not of words: the two zeros
are equal, and NaN is equal to nothing.
-/

set_option autoImplicit false

namespace PropShape

/-- A binary64 number, held as its word. -/
structure Number where
  /-- The word: one sign bit, eleven exponent bits, 52 fraction bits. -/
  bits : UInt64
  deriving DecidableEq, Inhabited

namespace Number

/-- Units per one: the unit is the least positive number, `2 ^ -1074`. -/
def unitsPerOne : Nat := Nat.pow 2 1074

/-- The code of infinity; every larger code is a NaN. -/
def infinityCode : Nat := 2047 * Nat.pow 2 52

/-- The word without its sign. -/
def code (n : Number) : Nat := n.bits.toNat % Nat.pow 2 63

/-- Whether the sign bit is set, which it is for `-0` too. -/
def isNegative (n : Number) : Bool := decide (Nat.pow 2 63 ≤ n.bits.toNat)

/-- The number with a sign and a code. -/
def ofCode (negative : Bool) (code : Nat) : Number :=
  ⟨UInt64.ofNat (if negative then Nat.pow 2 63 + code else code)⟩

/-- Positive zero. -/
def zero : Number := ofCode false 0

/-- The quiet NaN without sign. -/
def nan : Number := ofCode false (infinityCode + Nat.pow 2 51)

/-- Infinity with a sign. -/
def infinity (negative : Bool) : Number := ofCode negative infinityCode

/-- The codes above that of infinity are not numbers. -/
def isNaN (n : Number) : Bool := decide (infinityCode < n.code)

/-- The codes below that of infinity are finite numbers. -/
def isFinite (n : Number) : Bool := decide (n.code < infinityCode)

/-- Both zeros have the code zero; they differ in their sign only. -/
def isZero (n : Number) : Bool := decide (n.code = 0)

/-- The units that a finite code stands for. Below `2 ^ 52` the code is the
number of units; from there on the leading bit of the significand is implied
and the exponent field counts doublings. -/
def unitsOfCode (code : Nat) : Nat :=
  if code < Nat.pow 2 52 then code
  else (Nat.pow 2 52 + code % Nat.pow 2 52) * Nat.pow 2 (code / Nat.pow 2 52 - 1)

/-- The absolute value of a finite number in units. -/
def units (n : Number) : Nat := unitsOfCode n.code

/-- The integer that a number is, unless it has a fraction or is not finite. -/
def toInt? (n : Number) : Option Int :=
  if n.isFinite && n.units % unitsPerOne == 0 then
    let magnitude : Int := ↑(n.units / unitsPerOne)
    some (if n.isNegative then -magnitude else magnitude)
  else
    none

/-- Equality of numbers: the zeros are equal, NaN differs from everything. -/
def equals (a b : Number) : Bool :=
  !a.isNaN && !b.isNaN && (a.bits == b.bits || (a.isZero && b.isZero))

end Number

end PropShape

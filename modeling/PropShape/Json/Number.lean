import PropShape.Number.Rounding

/-!
# `PropShape.Json.Number`: numbers in JSON text

A number is read in two steps. Its digits are gathered into a significand of
at most 64 bits: digits after the first one that does not fit are dropped, and
only count as places when they stand before the point. The significand is then
rounded to a number and scaled by one power of ten, which is itself rounded;
so up to 64 bits of integer digits are read exactly, and longer fractions may
differ in the last place from the nearest number. A quantity too large for a
finite number is refused, one too small is zero.
-/

set_option autoImplicit false

namespace PropShape.Json

/-- The largest significand. -/
def maxSignificand : Nat := Nat.pow 2 64 - 1

/-- The value of a decimal digit. -/
def digitValue (c : Char) : Nat := c.toNat - '0'.toNat

/-- Appends digits to a significand up to the first that does not fit; answers
how many were appended. -/
def appendDigits (significand taken : Nat) : List Char → Nat × Nat
  | [] => (significand, taken)
  | c :: rest =>
    let next := significand * 10 + digitValue c
    if next ≤ maxSignificand then appendDigits next (taken + 1) rest else (significand, taken)

/-- The number nearest to a power of ten, for powers that are finite. -/
def powerOfTen (exponent : Nat) : Number := .ofDecimal false 1 exponent

/-- Scales an absolute value by a power of ten, in steps of at most 308 places. -/
def scaled (n : Number) (exponent : Int) : Option Number :=
  if exponent < -308 then
    if n.isZero then some n
    else scaled (n.quotient (powerOfTen 308)) (exponent + 308)
  else if exponent < 0 then
    some (n.quotient (powerOfTen (-exponent).toNat))
  else if exponent ≤ 308 then
    let product := n.product (powerOfTen exponent.toNat)
    if product.isFinite then some product else none
  else if n.isZero then some n
  else none
termination_by exponent.natAbs

/-- The parts of a number as they are written. -/
structure NumberParts where
  negative : Bool
  /-- The digits before the point. -/
  whole : List Char
  /-- The digits after the point. -/
  fraction : List Char
  /-- The exponent, if there is one. -/
  exponent : Option Int

/-- The number that the parts stand for. -/
def NumberParts.number? (p : NumberParts) : Option Number :=
  let (whole, taken) := appendDigits 0 0 p.whole
  let dropped := p.whole.length - taken
  let (significand, places) := appendDigits whole 0 p.fraction
  let exponent : Int := dropped - places + p.exponent.getD 0
  (scaled (.ofNat significand) exponent).map fun n => .ofCode p.negative n.code

/-- The quantity that decimal digits stand for. -/
def decimal (digits : List Char) : Nat := digits.foldl (fun n c => n * 10 + digitValue c) 0

/-- Splits a minus sign off the front of a text. -/
def scanSign : List Char → Bool × List Char
  | '-' :: rest => (true, rest)
  | cs => (false, cs)

/-- Splits decimal digits off the front of a text, one at least. -/
def scanDigits? (cs : List Char) : Option (List Char × List Char) :=
  let digits := cs.takeWhile Char.isDigit
  if digits.isEmpty then none else some (digits, cs.dropWhile Char.isDigit)

/-- Splits the digits before the point off the front of a text; zero stands alone. -/
def scanWhole? (cs : List Char) : Option (List Char × List Char) :=
  match scanDigits? cs with
  | some ('0' :: _ :: _, _) => none
  | scanned => scanned

/-- Splits a point and the digits after it off the front of a text, if it starts with a point. -/
def scanFraction? : List Char → Option (List Char × List Char)
  | '.' :: rest => scanDigits? rest
  | cs => some ([], cs)

/-- Splits an exponent off the front of a text, if it starts with one. -/
def scanExponent? (cs : List Char) : Option (Option Int × List Char) :=
  let size (negative : Bool) (cs : List Char) :=
    (scanDigits? cs).map fun (digits, cs) =>
      (some (if negative then -(decimal digits : Int) else decimal digits), cs)
  match cs with
  | 'e' :: '+' :: rest | 'E' :: '+' :: rest => size false rest
  | 'e' :: '-' :: rest | 'E' :: '-' :: rest => size true rest
  | 'e' :: rest | 'E' :: rest => size false rest
  | cs => some (none, cs)

/-- Splits a number off the front of a text. -/
def scanNumber? (cs : List Char) : Option (NumberParts × List Char) := do
  let (negative, cs) := scanSign cs
  let (whole, cs) ← scanWhole? cs
  let (fraction, cs) ← scanFraction? cs
  let (exponent, cs) ← scanExponent? cs
  return (⟨negative, whole, fraction, exponent⟩, cs)

end PropShape.Json

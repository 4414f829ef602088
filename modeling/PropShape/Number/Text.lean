import PropShape.Number.Shortest

/-!
# `PropShape.Number.Text`: numbers as text

Integers below `10 ^ 21` are written out in full; every other finite number
is written with its shortest digits. What remains is a matter of style: the
words for NaN and the infinities, which of two equally near decimals is
taken, and for which exponents a number is written without one.

`plainStyle` is the style of messages and string coercion, `jsonStyle` that
of rendered JSON.
-/

set_option autoImplicit false

namespace PropShape

namespace Decimal

/-- The digits written positionally, with a point where one is needed. -/
def positional (d : Decimal) : String :=
  let digits := Nat.toDigits 10 d.digits
  if 0 ≤ d.exponent then
    String.ofList (digits ++ List.replicate d.exponent.toNat '0')
  else
    let places := (-d.exponent).toNat
    if places < digits.length then
      let whole := digits.length - places
      String.ofList (digits.take whole ++ '.' :: digits.drop whole)
    else
      String.ofList ('0' :: '.' :: List.replicate (places - digits.length) '0' ++ digits)

/-- The exponent of the first digit. -/
def leading (d : Decimal) : Int := d.exponent + digitCount d.digits - 1

/-- One digit before the point, then the exponent of that digit with its sign. -/
def scientific (d : Decimal) : String :=
  let exponent := d.leading
  let power := (if exponent < 0 then "e-" else "e+") ++ Nat.repr exponent.natAbs
  match Nat.toDigits 10 d.digits with
  | first :: second :: rest => String.ofList (first :: '.' :: second :: rest) ++ power
  | digits => String.ofList digits ++ power

end Decimal

/-- The free choices in writing a number. -/
structure NumberStyle where
  nan : String
  infinity : String
  negativeInfinity : String
  /-- Which of two equally near decimals is written. -/
  tie : Tie
  /-- Whether a number whose first digit has this exponent is written without one. -/
  isPositional : Int → Bool

/-- String coercion: no exponents, and a tie goes up. -/
def plainStyle : NumberStyle := ⟨"NaN", "Infinity", "-Infinity", .up, fun _ => true⟩

/-- JSON has no NaN and no infinities. Exponents are written below `10 ^ -5`
and from `10 ^ 16` on, and a tie goes to the even digit. -/
def jsonStyle : NumberStyle :=
  ⟨"null", "null", "null", .toEven, fun e => decide (-5 ≤ e ∧ e ≤ 15)⟩

/-- The canonical decimal digits of an integer. -/
def integerText (i : Int) : String :=
  if i < 0 then "-" ++ Nat.repr i.natAbs else Nat.repr i.natAbs

namespace Number

/-- The shortest digits of a finite number, laid out by a style. -/
def shortestText (style : NumberStyle) (n : Number) : String :=
  let decimal := shortest style.tie n.code
  let digits :=
    if style.isPositional decimal.leading then decimal.positional else decimal.scientific
  if n.isNegative then "-" ++ digits else digits

/-- A number as text. -/
def text (style : NumberStyle) (n : Number) : String :=
  if n.isNaN then style.nan
  else if !n.isFinite then (if n.isNegative then style.negativeInfinity else style.infinity)
  else match n.toInt? with
    | some i => if i.natAbs < Nat.pow 10 21 then integerText i else n.shortestText style
    | none => n.shortestText style

end Number

end PropShape

import PropShape.Proofs.Json.Spelling
import PropShape.Proofs.Number.Quantity
import PropShape.Value.Text
import Mathlib.Algebra.Field.Rat
import Mathlib.Algebra.Order.Ring.Rat
import Mathlib.Tactic.Ring

/-!
# `PropShape.Proofs.Number.Integer`: integers as they are printed

`Number.value` is the quantity that a word denotes by its three fields: the
sign, the exponent and the fraction. It is stated without units, so that
`toInt?_eq_some_iff` says which words denote integers: those that the printers
take for integers.

An integer has one canonical notation (`WritesInteger`): a minus sign exactly
below zero, and decimal digits without a needless zero in front. The notation
determines the integer (`WritesInteger.unique`).

The main statement is `integers_are_written_in_full`: below `10 ^ 21` both
printers write an integer in its canonical notation, and two numbers are printed
alike only if they are the same or both zero.
-/

set_option autoImplicit false

namespace PropShape

namespace Number

variable {m n : Number} {i j : Int}

/-! ## What the fields of a word denote -/

/-- The first bit of the word. -/
def signField (n : Number) : Nat := n.bits.toNat / 2 ^ 63

/-- The eleven bits behind the sign. -/
def exponentField (n : Number) : Nat := n.bits.toNat / 2 ^ 52 % 2 ^ 11

/-- The last 52 bits. -/
def fractionField (n : Number) : Nat := n.bits.toNat % 2 ^ 52

/-- The quantity that the fields of a finite number denote. The leading bit of the significand
is implied, unless the exponent field is zero. -/
def value (n : Number) : ℚ :=
  (-1) ^ n.signField *
    if n.exponentField = 0 then (n.fractionField : ℚ) * 2 ^ (-1074 : Int)
    else (2 ^ 52 + n.fractionField) * 2 ^ ((n.exponentField : Int) - 1075)

/-- The first bit is set exactly in the negative numbers. -/
theorem signField_eq (n : Number) : n.signField = if n.isNegative then 1 else 0 := by
  have bound := n.bits.toNat_lt
  simp only [signField, isNegative, Nat.pow_eq, decide_eq_true_eq]
  split <;> omega

/-- The exponent field is the upper part of the code. -/
theorem exponentField_eq (n : Number) : n.exponentField = n.code / 2 ^ 52 := by
  simp only [exponentField, code, Nat.pow_eq]
  omega

/-- The fraction field is the lower part of the code. -/
theorem fractionField_eq (n : Number) : n.fractionField = n.code % 2 ^ 52 := by
  simp only [fractionField, code, Nat.pow_eq]
  omega

/-- One has some units, so they can be divided by. -/
theorem unitsPerOne_pos : 0 < unitsPerOne := by decide +kernel

/-- One has `2 ^ 1074` units. The power is not computed. -/
theorem cast_unitsPerOne : (unitsPerOne : ℚ) = 2 ^ 1074 := by
  unfold unitsPerOne
  generalize 1074 = exponent
  rw [Nat.pow_eq, Nat.cast_pow, Nat.cast_ofNat]

/-- Without its sign, the quantity is as many units as the code stands for. -/
theorem magnitude_eq (n : Number) :
    (if n.exponentField = 0 then (n.fractionField : ℚ) * 2 ^ (-1074 : Int)
      else (2 ^ 52 + n.fractionField) * 2 ^ ((n.exponentField : Int) - 1075)) =
      n.units / unitsPerOne := by
  rw [exponentField_eq, fractionField_eq, units, unitsOfCode, cast_unitsPerOne]
  simp only [Nat.pow_eq]
  by_cases small : n.code < 2 ^ 52
  -- A fraction without an implied bit counts units; otherwise the exponent field doubles them.
  · have low : n.code / 2 ^ 52 = 0 := Nat.div_eq_of_lt small
    rw [if_pos low, if_pos small, Nat.mod_eq_of_lt small, zpow_neg, div_eq_mul_inv]
    rfl
  · have high : n.code / 2 ^ 52 ≠ 0 := by omega
    obtain ⟨doublings, exponent⟩ := Nat.exists_eq_add_one_of_ne_zero high
    have shift : ((doublings + 1 : Nat) : Int) - 1075 = (doublings : Int) - (1074 : Nat) := by
      omega
    rw [if_neg high, if_neg small, exponent, shift, Nat.add_sub_cancel, zpow_sub₀ two_ne_zero,
      zpow_natCast, zpow_natCast, Nat.cast_mul, Nat.cast_add, Nat.cast_pow, Nat.cast_pow,
      Nat.cast_ofNat, mul_div_assoc]

/-- The signed units of a finite number. -/
def signedUnits (n : Number) : Int := if n.isNegative then -↑n.units else ↑n.units

/-- The value of a number is its signed units, measured in ones. -/
theorem value_eq (n : Number) : n.value = n.signedUnits / unitsPerOne := by
  rw [value, magnitude_eq, signField_eq, signedUnits]
  split
  · rw [pow_one, neg_one_mul, Int.cast_neg, Int.cast_natCast, neg_div]
  · rw [pow_zero, one_mul, Int.cast_natCast]

/-- The integer part of a finite number. -/
def truncated (n : Number) : Int :=
  let whole : Int := ↑(n.units / unitsPerOne)
  if n.isNegative then -whole else whole

/-- The units make up whole ones exactly if the integer part is everything. -/
theorem signedUnits_eq_iff :
    n.signedUnits = i * unitsPerOne ↔ n.units % unitsPerOne = 0 ∧ n.truncated = i := by
  have positive := unitsPerOne_pos
  unfold signedUnits truncated
  generalize unitsPerOne = one at positive
  constructor
  · intro h
    -- The absolute values agree, so the units are whole ones.
    have whole : n.units = i.natAbs * one := by
      have absolute := congrArg Int.natAbs h
      rw [Int.natAbs_mul, Int.natAbs_natCast] at absolute
      split at absolute <;> simpa using absolute
    -- Dividing by the units of one leaves the integer with its sign.
    have sign : (if n.isNegative then -(i.natAbs : Int) else i.natAbs) = i := by
      refine Int.eq_of_mul_eq_mul_right (Int.natCast_ne_zero.mpr positive.ne') ?_
      rw [← h, whole]
      split <;> push_cast <;> ring
    rw [whole, Nat.mul_mod_left, Nat.mul_div_cancel _ positive]
    exact ⟨rfl, sign⟩
  · rintro ⟨divides, rfl⟩
    have whole : (n.units : Int) = ↑(n.units / one) * one := by
      rw [← Nat.cast_mul, Nat.div_mul_cancel (Nat.dvd_of_mod_eq_zero divides)]
    split
    · exact (congrArg Neg.neg whole).trans (neg_mul _ _).symm
    · exact whole

/-- The finite numbers that denote an integer are those that the printers take for it. -/
theorem toInt?_eq_some_iff : n.toInt? = some i ↔ n.isFinite = true ∧ n.value = i := by
  have one : (unitsPerOne : ℚ) ≠ 0 := Nat.cast_ne_zero.mpr unitsPerOne_pos.ne'
  rw [value_eq, div_eq_iff one, ← Int.cast_natCast unitsPerOne, ← Int.cast_mul, Int.cast_inj,
    signedUnits_eq_iff, toInt?, truncated]
  simp only [Option.ite_none_right_eq_some, Bool.and_eq_true, beq_iff_eq, Option.some.injEq,
    and_assoc]

/-! ## The printers -/

/-- The conversion to an integer of 128 bits. It drops the fraction and stops at the ends of
the range; NaN becomes zero. -/
def toInt128 (n : Number) : Int :=
  if n.isNaN then 0
  else if !n.isFinite then (if n.isNegative then -2 ^ 127 else 2 ^ 127 - 1)
  else max (-2 ^ 127) (min (2 ^ 127 - 1) n.truncated)

/-- A number that is an integer has itself as its integer part. -/
theorem truncated_of_toInt? (h : n.toInt? = some i) : n.truncated = i := by
  unfold toInt? at h
  split at h
  · exact Option.some.inj h
  · cases h

/-- Below `10 ^ 21` the conversion does not stop at an end of the range. -/
theorem toInt128_of_toInt? (h : n.toInt? = some i) (small : i.natAbs < 10 ^ 21) :
    n.toInt128 = i := by
  have finite := isFinite_of_toInt? h
  rw [toInt128, isNaN_of_isFinite finite, finite, truncated_of_toInt? h]
  simp only [Bool.false_eq_true, if_false, Bool.not_true]
  omega

/-- Every style writes small integers alike. -/
theorem text_of_toInt? (style : NumberStyle) (h : n.toInt? = some i)
    (small : i.natAbs < 10 ^ 21) : n.text style = integerText i := by
  have finite := isFinite_of_toInt? h
  have short : i.natAbs < Nat.pow 10 21 := small
  rw [text, isNaN_of_isFinite finite, finite, h]
  simp only [Bool.false_eq_true, if_false, Bool.not_true, if_pos short]

/-- Numbers that are the same integer are the same, or both zero. -/
theorem eq_or_isZero_of_toInt? (h : m.toInt? = some i) (h' : n.toInt? = some i) :
    m = n ∨ m.isZero = true ∧ n.isZero = true := by
  by_cases zero : i = 0
  · exact .inr ⟨(isZero_iff_of_toInt? h).mpr zero, (isZero_iff_of_toInt? h').mpr zero⟩
  -- The sign and the units make up the word.
  · have sign : m.isNegative = n.isNegative := by
      rw [isNegative_of_toInt? h zero, isNegative_of_toInt? h' zero]
    have units : m.units = n.units := by rw [units_of_toInt? h, units_of_toInt? h']
    have code : m.code = n.code :=
      unitsOfCode_inj (of_decide_eq_true (isFinite_of_toInt? h))
        (of_decide_eq_true (isFinite_of_toInt? h')) units
    exact .inl (eq_of_code sign code)

/-! ## Canonical notation -/

/-- Characters are the canonical decimal notation of an integer: a minus sign exactly below
zero, then digits that stand for its absolute value. A zero in front stands alone. -/
inductive WritesInteger (i : Int) : List Char → Prop
  | intro {digits : List Char} (h : Json.Digits digits)
    (leading : ∀ rest, digits = '0' :: rest → rest = [])
    (magnitude : Nat.ofDigitChars 10 digits 0 = i.natAbs) :
    WritesInteger i ((if i < 0 then ['-'] else []) ++ digits)

/-- The text of an integer is its canonical notation. -/
theorem writesInteger_integerText (i : Int) : WritesInteger i (integerText i).toList := by
  rw [Json.toList_integerText]
  exact .intro (Json.digits_toDigits _) (fun _ => Json.eq_nil_of_toDigits)
    Nat.ofDigitChars_ten_toDigits

/-- Different integers have different notations. -/
theorem WritesInteger.unique {cs : List Char} (h : WritesInteger i cs) (h' : WritesInteger j cs) :
    i = j := by
  obtain ⟨here, -, magnitude⟩ := h
  generalize text : (if i < 0 then ['-'] else []) ++ _ = cs at h'
  obtain ⟨there, -, magnitude'⟩ := h'
  have noSign : ∀ {digits rest : List Char}, Json.Digits digits → digits ≠ '-' :: rest := by
    rintro _ rest ⟨-, all⟩ rfl
    exact absurd (all '-' List.mem_cons_self) (by decide)
  -- The sign is read off the first character, and the digits are what is left.
  split at text <;> split at text
  · cases text
    omega
  · exact absurd text.symm (noSign there)
  · exact absurd text (noSign here)
  · cases text
    omega

/-- Small integers are printed exactly, and alike by both printers.

Take a finite number whose word denotes an integer of an absolute value below `10 ^ 21`. Its text
and its rendering are the same: the canonical notation of the integer. The conversion to 128 bits
gives the integer itself and stops at neither end of the range. So two such numbers have the same
text, or the same rendering, exactly if they are the same number or both zero. -/
theorem integers_are_written_in_full {n : Number} {i : Int} (finite : n.isFinite = true)
    (integer : n.value = i) (small : |i| < 10 ^ 21) :
    (Value.number n).text = integerText n.toInt128 ∧
    (Value.number n).render? = some (integerText n.toInt128) ∧
    WritesInteger i (integerText n.toInt128).toList ∧
    (n.toInt128 = i ∧ -2 ^ 127 < i ∧ i < 2 ^ 127 - 1) ∧
    ∀ (m : Number) (j : Int), m.isFinite = true → m.value = j → |j| < 10 ^ 21 →
      ((Value.number m).text = (Value.number n).text ↔
        m = n ∨ m.isZero = true ∧ n.isZero = true) ∧
      ((Value.number m).render? = (Value.number n).render? ↔
        m = n ∨ m.isZero = true ∧ n.isZero = true) := by
  -- Both printers write the integer that the word denotes.
  have printed : ∀ {m : Number} {j : Int}, m.isFinite = true → m.value = j → |j| < 10 ^ 21 →
      m.toInt? = some j ∧ m.toInt128 = j ∧ (Value.number m).text = integerText j ∧
        (Value.number m).render? = some (integerText j) := by
    intro m j finite integer small
    have same := toInt?_eq_some_iff.mpr ⟨finite, integer⟩
    have short : j.natAbs < 10 ^ 21 := by
      rw [abs_lt] at small
      omega
    refine ⟨same, toInt128_of_toInt? same short, ?_, ?_⟩
    · rw [Value.text, text_of_toInt? plainStyle same short]
    · show some ((Value.number m).json 0) = _
      rw [Value.json, text_of_toInt? jsonStyle same short]
  obtain ⟨same, converted, plain, rendered⟩ := printed finite integer small
  obtain ⟨above, below⟩ := abs_lt.mp small
  rw [converted]
  refine ⟨plain, rendered, writesInteger_integerText i, ⟨rfl, by omega, by omega⟩, ?_⟩
  intro m j finite' integer' small'
  obtain ⟨same', -, plain', rendered'⟩ := printed finite' integer' small'
  -- The same text means the same integer, since a notation belongs to one integer only.
  have alike : integerText j = integerText i ↔ m = n ∨ m.isZero = true ∧ n.isZero = true := by
    constructor
    · intro text
      have canonical := writesInteger_integerText j
      rw [text] at canonical
      cases canonical.unique (writesInteger_integerText i)
      exact eq_or_isZero_of_toInt? same' same
    · rintro (rfl | ⟨zero', zero⟩)
      · rw [Option.some.inj (same'.symm.trans same)]
      · rw [(isZero_iff_of_toInt? same').mp zero', (isZero_iff_of_toInt? same).mp zero]
  rw [plain, plain', rendered, rendered', Option.some.injEq]
  exact ⟨alike, alike⟩

/-- The least number above `-10 ^ 21` is written with all its digits, and its neighbour towards
zero differently. -/
theorem integers_are_written_in_full_least :
    (mk 0xC44B1AE4D6E2EF4F).isFinite = true ∧
    (mk 0xC44B1AE4D6E2EF4F).value = (-999999999999999868928 : Int) ∧
    |(-999999999999999868928 : Int)| < 10 ^ 21 ∧
    (Value.number ⟨0xC44B1AE4D6E2EF4F⟩).text = "-999999999999999868928" ∧
    (Value.number ⟨0xC44B1AE4D6E2EF4F⟩).render? = some "-999999999999999868928" ∧
    (Value.number ⟨0xC44B1AE4D6E2EF4E⟩).text ≠ (Value.number ⟨0xC44B1AE4D6E2EF4F⟩).text := by
  -- The two words follow each other, and the integers that they denote are 131072 apart.
  have least : (mk 0xC44B1AE4D6E2EF4F).toInt? = some (-999999999999999868928) := by
    decide +kernel
  have next : (mk 0xC44B1AE4D6E2EF4E).toInt? = some (-999999999999999737856) := by
    decide +kernel
  obtain ⟨finite, integer⟩ := toInt?_eq_some_iff.mp least
  obtain ⟨finite', integer'⟩ := toInt?_eq_some_iff.mp next
  have small : |(-999999999999999868928 : Int)| < 10 ^ 21 := by decide
  obtain ⟨plain, rendered, -, ⟨converted, -, -⟩, others⟩ :=
    integers_are_written_in_full finite integer small
  have digits : integerText (-999999999999999868928) = "-999999999999999868928" := by
    decide +kernel
  rw [converted, digits] at plain rendered
  refine ⟨finite, integer, small, plain, rendered, fun same => ?_⟩
  rcases (others _ _ finite' integer' (by decide)).1.mp same with same | ⟨zero, -⟩
  · exact absurd same (by decide)
  · exact absurd zero (by decide +kernel)

end Number

end PropShape

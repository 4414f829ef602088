import PropShape.Number.Rounding
import Mathlib.Algebra.Group.Nat.Defs

/-!
# `PropShape.Proofs.Number.Exact`: what is a number already is not rounded

Rounding leaves the quantity of a finite number as it is, over every common
denominator (`codeOfUnits_unitsOfCode`). So a number that is an integer is the
number nearest to that integer, whatever its size (`ofNat_of_toInt?`), and to
multiply by one changes nothing (`product_one`).
-/

set_option autoImplicit false

namespace PropShape.Number

variable {n : Number} {code den : Nat}

/-! ## Words -/

/-- A code has at most 63 bits; the sign has the remaining one. -/
theorem code_lt (n : Number) : n.code < 2 ^ 63 := Nat.mod_lt _ (by decide)

/-- A number is its sign and its code. -/
theorem ofCode_code (n : Number) : ofCode n.isNegative n.code = n := by
  obtain ⟨bits⟩ := n
  have bound := bits.toNat_lt
  have same : (if 2 ^ 63 ≤ bits.toNat then 2 ^ 63 + bits.toNat % 2 ^ 63
      else bits.toNat % 2 ^ 63) = bits.toNat := by
    split <;> omega
  simp only [ofCode, isNegative, Number.code, Nat.pow_eq, decide_eq_true_eq, same,
    UInt64.ofNat_toNat]

/-- The code of a number that was made of a code and a sign is that code. -/
theorem code_ofCode (h : code < 2 ^ 63) (negative : Bool) : (ofCode negative code).code = code := by
  cases negative <;> simp [ofCode, Number.code] <;> omega

/-- A finite number is no NaN. -/
theorem isNaN_of_isFinite (finite : n.isFinite = true) : n.isNaN = false := by
  have bound : n.code < infinityCode := of_decide_eq_true finite
  exact decide_eq_false (by omega)

/-! ## Exact quantities -/

/-- A quotient that comes out even is not rounded. -/
theorem roundQuotient_mul (pos : 0 < den) (m : Nat) : roundQuotient (m * den) den = m := by
  simp [roundQuotient, Nat.mul_div_cancel m pos]
  omega

/-- The logarithm of a number is given by the two powers that it lies between. -/
theorem log2_eq_of_bounds {m k : Nat} (lower : 2 ^ k ≤ m) (upper : m < 2 ^ (k + 1)) :
    m.log2 = k :=
  (Nat.log2_eq_iff (by have := Nat.two_pow_pos k; omega)).mpr ⟨lower, upper⟩

/-- The quantity of a finite code rounds to the code. -/
theorem codeOfUnits_unitsOfCode (finite : code < infinityCode) (pos : 0 < den) :
    codeOfUnits (unitsOfCode code * den) den = code := by
  unfold codeOfUnits
  rw [Nat.mul_div_cancel _ pos]
  unfold unitsOfCode
  simp only [infinityCode, Nat.pow_eq] at *
  split
  · next small =>
    -- Below the least binade with an implied bit, the spacing is the unit.
    have doublings : code.log2 - 52 = 0 := by
      by_cases zero : code = 0
      · rw [zero, Nat.log2_zero]
      · have := (Nat.log2_lt zero).mpr small
        omega
    rw [doublings, Nat.pow_zero, Nat.mul_one, roundQuotient_mul pos]
    omega
  · next large =>
    have bounds : 2 ^ 52 ≤ 2 ^ 52 + code % 2 ^ 52 ∧ 2 ^ 52 + code % 2 ^ 52 < 2 ^ 53 := by omega
    generalize hsignificand : 2 ^ 52 + code % 2 ^ 52 = significand at bounds
    generalize hexponent : code / 2 ^ 52 - 1 = exponent
    have doublings : (significand * 2 ^ exponent).log2 - 52 = exponent := by
      have top : (significand * 2 ^ exponent).log2 = 52 + exponent := by
        refine log2_eq_of_bounds ?_ ?_
        · rw [Nat.pow_add]
          exact Nat.mul_le_mul_right _ bounds.1
        · rw [show 52 + exponent + 1 = 53 + exponent by omega, Nat.pow_add]
          exact Nat.mul_lt_mul_of_pos_right bounds.2 (Nat.two_pow_pos exponent)
      omega
    rw [doublings, Nat.mul_assoc, Nat.mul_comm (2 ^ exponent) den,
      roundQuotient_mul (Nat.mul_pos pos (Nat.two_pow_pos exponent))]
    omega

/-! ## Integers -/

/-- A number that is an integer is finite. -/
theorem isFinite_of_toInt? {i : Int} (h : n.toInt? = some i) : n.isFinite = true := by
  unfold toInt? at h
  split at h
  · next integer => exact (Bool.and_eq_true_iff.mp integer).1
  · cases h

/-- An integer has as many units as its absolute value says. -/
theorem units_of_toInt? {i : Int} (h : n.toInt? = some i) : n.units = i.natAbs * unitsPerOne := by
  unfold toInt? at h
  split at h
  · next integer =>
    have divides : n.units % unitsPerOne = 0 := eq_of_beq (Bool.and_eq_true_iff.mp integer).2
    have magnitude : i.natAbs = n.units / unitsPerOne := by
      cases h
      split <;> simp only [Int.natAbs_neg, Int.natAbs_natCast]
    rw [magnitude, Nat.div_mul_cancel (Nat.dvd_of_mod_eq_zero divides)]
  · cases h

/-- Only the code zero stands for no units at all. -/
theorem eq_zero_of_unitsOfCode (h : unitsOfCode code = 0) : code = 0 := by
  unfold unitsOfCode at h
  split at h
  · exact h
  · rcases Nat.mul_eq_zero.mp h with significand | doublings
    · simp at significand
    · exact absurd doublings (Nat.ne_of_gt (Nat.two_pow_pos _))

/-- Among the numbers that are integers, only the zeros are zero. -/
theorem isZero_iff_of_toInt? {i : Int} (h : n.toInt? = some i) : n.isZero = true ↔ i = 0 := by
  have units := units_of_toInt? h
  rw [isZero, decide_eq_true_eq, ← Int.natAbs_eq_zero]
  constructor
  · intro zero
    rw [Number.units, zero] at units
    exact (Nat.mul_eq_zero.mp units.symm).resolve_right (by decide +kernel)
  · intro zero
    rw [zero, Nat.zero_mul] at units
    exact eq_zero_of_unitsOfCode units

/-- The sign of an integer is that of the number, unless it is zero. -/
theorem isNegative_of_toInt? {i : Int} (h : n.toInt? = some i) (nonzero : i ≠ 0) :
    n.isNegative = decide (i < 0) := by
  unfold toInt? at h
  split at h
  · have magnitude : (0 : Int) ≤ ↑(n.units / unitsPerOne) := Int.natCast_nonneg _
    cases sign : n.isNegative with
    | true =>
      simp only [sign, if_true, Option.some.injEq] at h
      exact (decide_eq_true (by omega)).symm
    | false =>
      simp only [sign, Bool.false_eq_true, if_false, Option.some.injEq] at h
      exact (decide_eq_false (by omega)).symm
  · cases h

/-- A number that is an integer is the number nearest to it, up to the sign. -/
theorem ofNat_of_toInt? {i : Int} (h : n.toInt? = some i) :
    ofNat i.natAbs = ofCode false n.code := by
  have finite : n.code < infinityCode := of_decide_eq_true (isFinite_of_toInt? h)
  rw [ofNat, ofQuotient, ← units_of_toInt? h, ← Nat.mul_one n.units, units,
    codeOfUnits_unitsOfCode finite Nat.one_pos]

/-- The number one has the units of one. -/
theorem units_one : (ofDecimal false 1 0).units = unitsPerOne := by
  decide +kernel

/-- A finite number times one is its absolute value. -/
theorem product_one (finite : n.isFinite = true) :
    n.product (ofDecimal false 1 0) = ofCode false n.code := by
  have pos : 0 < unitsPerOne := by decide +kernel
  rw [product, units_one, units, codeOfUnits_unitsOfCode (of_decide_eq_true finite) pos]

end PropShape.Number

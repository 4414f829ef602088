import PropShape.Proofs.Number.Exact

/-!
# `PropShape.Proofs.Number.Quantity`: what numbers stand for

A number stands for an exact quantity, which is a whole number of units, or for
one of the two infinities; NaN stands for nothing. `equals_iff_quantity?` says
that two numbers are equal exactly if they stand for the same thing. So the two
zeros are equal, although their words differ, and NaN is not equal to itself.

All other numbers can be told apart by what they stand for: different codes
have different quantities (`unitsOfCode_inj`), and only zero has no sign.
-/

set_option autoImplicit false

namespace PropShape

/-- What a number can stand for. -/
inductive Quantity
  /-- So many units, below zero or above. -/
  | finite (units : Int)
  | infinite (negative : Bool)
  deriving DecidableEq

namespace Number

variable {a b n : Number} {code code' : Nat}

/-- What a number stands for, unless it is NaN. -/
def quantity? (n : Number) : Option Quantity :=
  if n.isNaN then none
  else if n.isFinite then some (.finite (if n.isNegative then -↑n.units else ↑n.units))
  else some (.infinite n.isNegative)

/-- Different codes have different quantities: rounding brings the code back. -/
theorem unitsOfCode_inj (finite : code < infinityCode) (finite' : code' < infinityCode)
    (h : unitsOfCode code = unitsOfCode code') : code = code' := by
  rw [← codeOfUnits_unitsOfCode finite Nat.one_pos, h,
    codeOfUnits_unitsOfCode finite' Nat.one_pos]

/-- A number is known by its sign and its code. -/
theorem eq_of_code (sign : a.isNegative = b.isNegative) (code : a.code = b.code) : a = b := by
  rw [← ofCode_code a, ← ofCode_code b, sign, code]

/-- A number stands for so many units if it is finite and has them with its sign. -/
theorem quantity?_eq_finite_iff {units : Int} :
    n.quantity? = some (.finite units) ↔
      n.isFinite = true ∧ (if n.isNegative then -↑n.units else ↑n.units) = units := by
  unfold quantity?
  cases finite : n.isFinite with
  | true => simp [isNaN_of_isFinite finite]
  | false => cases n.isNaN <;> simp

/-- A number stands for an infinity if it has the code and the sign of it. -/
theorem quantity?_eq_infinite_iff {negative : Bool} :
    n.quantity? = some (.infinite negative) ↔
      n.code = infinityCode ∧ n.isNegative = negative := by
  have limit : n.code = infinityCode ↔ n.isNaN = false ∧ n.isFinite = false := by
    simp only [isNaN, isFinite, decide_eq_false_iff_not]
    omega
  rw [limit]
  unfold quantity?
  cases n.isNaN <;> cases n.isFinite <;> simp

/-- Every number but NaN stands for a quantity. -/
theorem exists_quantity? (h : n.isNaN = false) : ∃ quantity, n.quantity? = some quantity := by
  unfold quantity?
  rw [h]
  split
  · contradiction
  · split
    · exact ⟨_, rfl⟩
    · exact ⟨_, rfl⟩

/-- Both zeros stand for no units at all. -/
theorem quantity?_of_isZero (h : n.isZero = true) : n.quantity? = some (.finite 0) := by
  have code : n.code = 0 := of_decide_eq_true h
  have units : n.units = 0 := by rw [Number.units, code]; decide
  refine quantity?_eq_finite_iff.mpr ⟨decide_eq_true ?_, by simp [units]⟩
  rw [code]
  decide

/-- Numbers are equal exactly if they stand for the same thing. -/
theorem equals_iff_quantity? :
    a.equals b = true ↔ ∃ quantity, a.quantity? = some quantity ∧ b.quantity? = some quantity := by
  constructor
  · intro h
    simp only [equals, Bool.and_eq_true, Bool.or_eq_true, beq_iff_eq, Bool.not_eq_true'] at h
    obtain ⟨⟨number, -⟩, word | ⟨zero, zero'⟩⟩ := h
    · obtain ⟨quantity, stands⟩ := exists_quantity? number
      have same : a = b := by cases a; cases b; simpa using word
      exact ⟨quantity, stands, same ▸ stands⟩
    · exact ⟨.finite 0, quantity?_of_isZero zero, quantity?_of_isZero zero'⟩
  · rintro ⟨quantity, here, there⟩
    cases quantity with
    | finite units =>
      obtain ⟨finite, signed⟩ := quantity?_eq_finite_iff.mp here
      obtain ⟨finite', signed'⟩ := quantity?_eq_finite_iff.mp there
      have magnitude : a.units = b.units := by
        split at signed <;> split at signed' <;> omega
      have code : a.code = b.code :=
        unitsOfCode_inj (of_decide_eq_true finite) (of_decide_eq_true finite') magnitude
      simp only [equals, isNaN_of_isFinite finite, isNaN_of_isFinite finite', Bool.not_false,
        Bool.true_and, Bool.or_eq_true, Bool.and_eq_true, beq_iff_eq]
      -- The signs are the same, except that there may be two different zeros.
      by_cases sign : a.isNegative = b.isNegative
      · exact .inl (congrArg bits (eq_of_code sign code))
      · have none : a.units = 0 := by
          split at signed <;> split at signed' <;> simp_all <;> omega
        have zero : a.code = 0 := eq_zero_of_unitsOfCode none
        exact .inr ⟨decide_eq_true zero, decide_eq_true (code ▸ zero)⟩
    | infinite negative =>
      obtain ⟨code, sign⟩ := quantity?_eq_infinite_iff.mp here
      obtain ⟨code', sign'⟩ := quantity?_eq_infinite_iff.mp there
      have same : a = b := eq_of_code (sign.trans sign'.symm) (code.trans code'.symm)
      have number : a.isNaN = false := decide_eq_false (by omega)
      rw [← same]
      simp [equals, number]

end Number

end PropShape

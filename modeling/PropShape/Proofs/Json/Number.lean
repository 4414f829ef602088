import PropShape.Json.Number
import PropShape.Proofs.Number.Rounding

/-!
# `PropShape.Proofs.Json.Number`: numbers as they are written

`NumberParts.Spells` is the grammar of numbers. A number is split off in front
of everything that cannot go on with it (`scanNumber?_of_spells`). A number that
is an integer is written with its sign and its decimal digits
(`NumberParts.ofInteger`), and is read back exactly if its digits fit into a
significand (`number?_ofInteger`). Whatever is written, the number that is read
is finite (`isFinite_of_number?`).
-/

set_option autoImplicit false

namespace PropShape.Json

/-! ## The grammar -/

/-- One decimal digit or more. -/
def Digits (cs : List Char) : Prop := cs ≠ [] ∧ ∀ c ∈ cs, c.isDigit = true

/-- How an exponent is written, if there is one. -/
inductive SpellsExponent : Option Int → List Char → Prop
  | none : SpellsExponent none []
  | plain {mark : Char} {digits : List Char} (marked : mark = 'e' ∨ mark = 'E')
    (h : Digits digits) : SpellsExponent (some (decimal digits)) (mark :: digits)
  | plus {mark : Char} {digits : List Char} (marked : mark = 'e' ∨ mark = 'E')
    (h : Digits digits) : SpellsExponent (some (decimal digits)) (mark :: '+' :: digits)
  | minus {mark : Char} {digits : List Char} (marked : mark = 'e' ∨ mark = 'E')
    (h : Digits digits) : SpellsExponent (some (-(decimal digits : Int))) (mark :: '-' :: digits)

/-- How the digits after the point are written: with the point, if there are any. -/
def fractionText : List Char → List Char
  | [] => []
  | digits => '.' :: digits

/-- How a number is written. Zero before the point stands alone. -/
inductive NumberParts.Spells : NumberParts → List Char → Prop
  | intro {p : NumberParts} {exponent : List Char} (whole : Digits p.whole)
    (leading : ∀ rest, p.whole = '0' :: rest → rest = [])
    (fraction : ∀ c ∈ p.fraction, c.isDigit = true) (h : SpellsExponent p.exponent exponent) :
    Spells p ((if p.negative then ['-'] else []) ++
      (p.whole ++ (fractionText p.fraction ++ exponent)))

/-- What may follow a number without going on with it. -/
def EndsNumber (rest : List Char) : Prop :=
  ∀ c, rest.head? = some c → c.isDigit = false ∧ c ≠ '.' ∧ c ≠ 'e' ∧ c ≠ 'E'

/-! ## Scanning -/

variable {p : NumberParts} {digits cs rest : List Char}

/-- Digits are scanned up to the first character that is no digit. -/
theorem scanDigits?_of_digits (h : Digits digits)
    (ends : ∀ c, rest.head? = some c → c.isDigit = false) :
    scanDigits? (digits ++ rest) = some (digits, rest) := by
  have stops : rest.takeWhile Char.isDigit = [] ∧ rest.dropWhile Char.isDigit = rest := by
    cases rest with
    | nil => exact ⟨rfl, rfl⟩
    | cons c rest => simp [ends c rfl]
  unfold scanDigits?
  rw [List.takeWhile_append_of_pos h.2, List.dropWhile_append_of_pos h.2, stops.1, stops.2,
    List.append_nil]
  simp [h.1]

/-- A sign is scanned off in front of the digits, and digits have none. -/
theorem scanSign_of_digits (h : Digits digits) (negative : Bool) :
    scanSign ((if negative then ['-'] else []) ++ (digits ++ rest)) =
      (negative, digits ++ rest) := by
  cases negative with
  | true => rfl
  | false =>
    obtain ⟨nonempty, all⟩ := h
    obtain ⟨c, cs, rfl⟩ := List.exists_cons_of_ne_nil nonempty
    have digit := all c List.mem_cons_self
    show scanSign (c :: (cs ++ rest)) = _
    unfold scanSign
    -- A sign there would have to be the first digit.
    split
    · next heq =>
      cases heq
      exact absurd digit (by decide)
    · rfl

/-- The whole part is scanned if it has no leading zero. -/
theorem scanWhole?_of_digits (h : Digits digits)
    (leading : ∀ rest, digits = '0' :: rest → rest = [])
    (ends : ∀ c, rest.head? = some c → c.isDigit = false) :
    scanWhole? (digits ++ rest) = some (digits, rest) := by
  unfold scanWhole?
  rw [scanDigits?_of_digits h ends]
  split
  · next heq =>
    cases heq
    cases leading _ rfl
  · rfl

/-- The fraction is scanned with its point, or as empty if there is none. -/
theorem scanFraction?_of_digits (all : ∀ c ∈ digits, c.isDigit = true)
    (ends : ∀ c, rest.head? = some c → c.isDigit = false ∧ c ≠ '.') :
    scanFraction? (fractionText digits ++ rest) = some (digits, rest) := by
  cases digits with
  -- Without digits there is no point either, so what follows must not be one.
  | nil =>
    show scanFraction? rest = _
    unfold scanFraction?
    split
    · exact absurd rfl (ends '.' rfl).2
    · rfl
  | cons c digits =>
    exact scanDigits?_of_digits ⟨List.cons_ne_nil _ _, all⟩ fun c head => (ends c head).1

/-- What starts with an exponent, or with what follows a number, can be mistaken neither for a
digit nor for the point of a fraction. -/
theorem SpellsExponent.head? {exponent : Option Int} (h : SpellsExponent exponent cs)
    (ends : EndsNumber rest) {c : Char} (head : (cs ++ rest).head? = some c) :
    c.isDigit = false ∧ c ≠ '.' := by
  cases h with
  | none => exact ⟨(ends c head).1, (ends c head).2.1⟩
  | plain marked _ | plus marked _ | minus marked _ =>
    cases head
    rcases marked with rfl | rfl <;> decide

/-- The exponent is scanned in each of its spellings, or as missing if there is none. -/
theorem scanExponent?_of_spells {exponent : Option Int} (h : SpellsExponent exponent cs)
    (ends : EndsNumber rest) : scanExponent? (cs ++ rest) = some (exponent, rest) := by
  have scanned : ∀ {digits : List Char}, Digits digits →
      scanDigits? (digits ++ rest) = some (digits, rest) :=
    fun h => scanDigits?_of_digits h fun c head => (ends c head).1
  cases h with
  -- What ends a number is no letter of an exponent, and only those letters are looked for.
  | none =>
    show scanExponent? rest = _
    unfold scanExponent?
    split
    case h_7 => rfl
    all_goals first
      | exact absurd rfl (ends _ rfl).2.2.1
      | exact absurd rfl (ends _ rfl).2.2.2
  | @plain mark digits marked h =>
    have size := scanned h
    obtain ⟨nonempty, all⟩ := h
    obtain ⟨c, cs, rfl⟩ := List.exists_cons_of_ne_nil nonempty
    have digit := all c List.mem_cons_self
    -- The first digit is not taken for a sign.
    have noSign : c ≠ '+' ∧ c ≠ '-' := by
      constructor <;> rintro rfl <;> exact absurd digit (by decide)
    rw [List.cons_append] at size
    rcases marked with rfl | rfl <;> simp [scanExponent?, size, noSign]
  | plus marked h | minus marked h =>
    rcases marked with rfl | rfl <;> simp [scanExponent?, scanned h]

/-- A number is split off in front of what does not go on with it. -/
theorem scanNumber?_of_spells (h : p.Spells cs) (ends : EndsNumber rest) :
    scanNumber? (cs ++ rest) = some (p, rest) := by
  cases h with
  | @intro exponent whole leading fraction h =>
    -- Behind the whole part comes a point, an exponent or the end of the number, and no digit.
    have behind : ∀ c, (fractionText p.fraction ++ (exponent ++ rest)).head? = some c →
        c.isDigit = false := by
      intro c head
      cases digits : p.fraction with
      | nil =>
        rw [digits] at head
        exact (h.head? ends head).1
      | cons first digits =>
        rw [digits] at head
        cases head
        decide
    unfold scanNumber?
    simp only [List.append_assoc]
    rw [scanSign_of_digits whole]
    simp only [scanWhole?_of_digits whole leading behind, Option.bind_eq_bind, Option.bind_some,
      scanFraction?_of_digits fraction fun c head => h.head? ends head,
      scanExponent?_of_spells h ends, Option.pure_def]

/-! ## Integers -/

/-- Digits that fit into a significand are all appended. -/
theorem appendDigits_of_le (significand taken : Nat) (digits : List Char)
    (fits : Nat.ofDigitChars 10 digits significand ≤ maxSignificand) :
    appendDigits significand taken digits =
      (Nat.ofDigitChars 10 digits significand, taken + digits.length) := by
  induction digits generalizing significand taken with
  | nil => rfl
  | cons c digits ih =>
    have next : significand * 10 + digitValue c = 10 * significand + (c.toNat - '0'.toNat) := by
      rw [Nat.mul_comm, digitValue]
    rw [Nat.ofDigitChars_cons, ← next] at fits ⊢
    -- Digits only make a quantity larger, so there is room for the first one.
    have room : significand * 10 + digitValue c ≤ maxSignificand := by
      refine Nat.le_trans ?_ fits
      rw [Nat.ofDigitChars_eq_ofDigitChars_zero]
      exact Nat.le_add_right_of_le (Nat.le_mul_of_pos_left _ (Nat.pow_pos (by decide)))
    rw [appendDigits, if_pos room, ih _ _ fits, List.length_cons, Nat.add_right_comm, Nat.add_assoc]

/-- The digits of a positive number do not start with a zero. -/
theorem head?_toDigits_ne_zero {k : Nat} (pos : 0 < k) : (Nat.toDigits 10 k).head? ≠ some '0' := by
  -- The first digit of a number is that of the number without its last digit.
  induction k using Nat.strongRecOn with
  | ind k ih =>
    rw [Nat.toDigits_eq_if (by decide)]
    split
    · next small =>
      intro head
      have := congrArg Char.toNat (Option.some.inj head)
      rw [Nat.toNat_digitChar_of_lt_ten small] at this
      exact absurd this (by simp; omega)
    · rw [List.head?_append, Option.or_of_isSome (by simp [Nat.toDigits_ne_nil])]
      exact ih (k / 10) (by omega) (by omega)

/-- A number that is an integer, as it is written: a sign and decimal digits. -/
def NumberParts.ofInteger (n : Number) (magnitude : Nat) : NumberParts :=
  ⟨n.isNegative, Nat.toDigits 10 magnitude, [], none⟩

/-- The decimal digits of a number are digits, and there is at least one. -/
theorem digits_toDigits (k : Nat) : Digits (Nat.toDigits 10 k) :=
  ⟨Nat.toDigits_ne_nil, fun _ => Nat.isDigit_of_mem_toDigits (by decide) (by decide)⟩

/-- If the digits of a number start with a zero, the number is zero and the digit is the only
one. -/
theorem eq_nil_of_toDigits {k : Nat} (h : Nat.toDigits 10 k = '0' :: rest) : rest = [] := by
  cases k with
  | zero =>
    rw [Nat.toDigits_zero] at h
    cases h
    rfl
  | succ k => exact absurd (congrArg List.head? h) (head?_toDigits_ne_zero k.succ_pos)

/-- The parts of an integer are spelled by its sign and its digits. -/
theorem spells_ofInteger (n : Number) (magnitude : Nat) :
    (NumberParts.ofInteger n magnitude).Spells
      ((if n.isNegative then ['-'] else []) ++ Nat.toDigits 10 magnitude) := by
  -- There is no fraction and no exponent behind the digits.
  rw [← List.append_nil (Nat.toDigits 10 magnitude)]
  exact .intro (digits_toDigits magnitude) (fun _ => eq_nil_of_toDigits) (fun _ h => nomatch h)
    .none

/-- The power for the exponent zero is one. -/
theorem powerOfTen_zero : powerOfTen 0 = .ofDecimal false 1 0 := rfl

/-- Integers of up to 64 bits are read exactly. -/
theorem number?_ofInteger {n : Number} {i : Int} (integer : n.toInt? = some i)
    (fits : i.natAbs ≤ maxSignificand) :
    (NumberParts.ofInteger n i.natAbs).number? = some n := by
  -- All digits fit into the significand, so none is dropped.
  have significand : appendDigits 0 0 (Nat.toDigits 10 i.natAbs) =
      (i.natAbs, (Nat.toDigits 10 i.natAbs).length) := by
    rw [appendDigits_of_le, Nat.ofDigitChars_ten_toDigits, Nat.zero_add]
    rwa [Nat.ofDigitChars_ten_toDigits]
  have finite := Number.isFinite_of_toInt? integer
  -- What is left to do is a product with one, which changes no finite number.
  have scaled : scaled (.ofNat i.natAbs) 0 = some (.ofCode false n.code) := by
    have finite' : (Number.ofCode false n.code).isFinite = true := by
      rw [Number.isFinite, Number.code_ofCode (Number.code_lt n)]
      exact finite
    rw [Number.ofNat_of_toInt? integer, Json.scaled, if_neg (by decide), if_neg (by decide),
      if_pos (by decide)]
    have product := Number.product_one finite'
    rw [Number.code_ofCode (Number.code_lt n), ← powerOfTen_zero] at product
    simp only [Int.toNat_zero, product, finite', if_true]
  simp only [NumberParts.number?, NumberParts.ofInteger, significand, appendDigits]
  simp [scaled, Number.code_ofCode (Number.code_lt n), Number.ofCode_code]

/-! ## Numbers that are read are finite -/

/-- The code of the number nearest to a power of ten. -/
def powerCode (exponent : Nat) : Nat :=
  Number.codeOfUnits (Nat.pow 10 exponent * Number.unitsPerOne) 1

/-- Within the range of the exponents, a power of ten is taken from the table of codes. -/
theorem powerOfTen_eq {exponent : Nat} (small : exponent ≤ 308) :
    powerOfTen exponent = .ofCode false (powerCode exponent) := by
  -- Such an exponent is not cut off as an overflow.
  have short : ¬ (310 : Int) ≤ exponent := by omega
  have digit : ((1 : Nat) == 0) = false := rfl
  rw [powerOfTen, Number.ofDecimal, digit, if_neg Bool.false_ne_true,
    if_pos (Int.natCast_nonneg exponent), if_neg short, Int.toNat_natCast, Nat.one_mul,
    Number.ofQuotient, powerCode]

/-- A greater exponent has no smaller code. -/
theorem powerCode_mono {exponent greater : Nat} (h : exponent ≤ greater) :
    powerCode exponent ≤ powerCode greater :=
  Number.codeOfUnits_mono (Nat.mul_le_mul_right _ (Nat.pow_le_pow_right (by decide) h))

/-- The powers of ten that are finite are one or more. -/
theorem unitsPerOne_le_powerOfTen {exponent : Nat} (small : exponent ≤ 308) :
    Number.unitsPerOne ≤ (powerOfTen exponent).units := by
  -- Only the smallest and the greatest power are computed; monotony covers those between.
  have least : Number.unitsOfCode (powerCode 0) = Number.unitsPerOne := by decide +kernel
  have greatest : powerCode 308 < Number.infinityCode := by decide +kernel
  have finite := Nat.lt_of_le_of_lt (powerCode_mono small) greatest
  have bound : Number.infinityCode < 2 ^ 63 := by decide
  rw [powerOfTen_eq small, Number.units, Number.code_ofCode (Nat.lt_trans finite bound), ← least]
  exact Number.unitsOfCode_mono finite (powerCode_mono (Nat.zero_le exponent))

/-- Scaling a finite number answers a finite one. -/
theorem isFinite_of_scaled {n m : Number} {exponent : Int} (finite : n.isFinite = true)
    (h : scaled n exponent = some m) : m.isFinite = true := by
  fun_induction scaled n exponent with
  | case1 n exponent low zero => exact Option.some.inj h ▸ finite
  | case2 n exponent low positive ih =>
    exact ih (Number.isFinite_quotient finite (unitsPerOne_le_powerOfTen (by decide))) h
  | case3 n exponent near negative =>
    have large := unitsPerOne_le_powerOfTen (show (-exponent).toNat ≤ 308 by omega)
    exact Option.some.inj h ▸ Number.isFinite_quotient finite large
  | case4 n exponent near nonnegative small product fits => exact Option.some.inj h ▸ fits
  | case5 => cases h
  | case6 => exact Option.some.inj h ▸ finite
  | case7 => cases h

/-- Digits are taken only as long as the significand fits. -/
theorem appendDigits_le {significand : Nat} (fits : significand ≤ maxSignificand) (taken : Nat)
    (digits : List Char) : (appendDigits significand taken digits).1 ≤ maxSignificand := by
  -- A digit is taken only if there is room for it, and the first that does not fit ends the
  -- scan.
  induction digits generalizing significand taken with
  | nil => exact fits
  | cons c digits ih =>
    rw [appendDigits]
    split
    · next room => exact ih room _
    · exact fits

/-- A significand is a finite number. -/
theorem isFinite_ofNat {significand : Nat} (fits : significand ≤ maxSignificand) :
    (Number.ofNat significand).isFinite = true := by
  -- The greatest significand is far below infinity, and the smaller ones have smaller codes.
  have top : Number.codeOfUnits (maxSignificand * Number.unitsPerOne) 1 <
      Number.infinityCode := by decide +kernel
  exact Number.isFinite_ofCode (Nat.lt_of_le_of_lt
    (Number.codeOfUnits_mono (Nat.mul_le_mul_right _ fits)) top) false

/-- Every number that is read is finite. -/
theorem isFinite_of_number? {parts : NumberParts} {n : Number} (h : parts.number? = some n) :
    n.isFinite = true := by
  obtain ⟨m, hscaled, rfl⟩ := Option.map_eq_some_iff.mp h
  -- The fraction goes on with the significand of the whole part.
  have whole := appendDigits_le (Nat.zero_le maxSignificand) 0 parts.whole
  have significand := isFinite_ofNat (appendDigits_le whole 0 parts.fraction)
  exact Number.isFinite_ofCode (of_decide_eq_true (isFinite_of_scaled significand hscaled)) _

/-! ## What numbers are taken for -/

/-- What the numbers in a text are taken for. -/
abbrev NumberMeaning := NumberParts → Number → Prop

/-- Numbers are taken for what the reader takes them for. -/
def NumberMeaning.Faithful (Means : NumberMeaning) : Prop :=
  ∀ parts n, Means parts n → parts.number? = some n

/-- All numbers are integers of at most 53 bits, in decimal digits. -/
def Integers : NumberMeaning := fun parts n =>
  ∃ i, n.toInt? = some i ∧ i.natAbs ≤ Nat.pow 2 53 ∧ parts = .ofInteger n i.natAbs

/-- Any numbers, as the reader takes them. -/
def AnyNumbers : NumberMeaning := fun parts n => parts.number? = some n

/-- Taking integers for what they are is a faithful meaning of numbers. -/
theorem faithful_integers : Integers.Faithful := by
  rintro parts n ⟨i, integer, small, rfl⟩
  exact number?_ofInteger integer (Nat.le_trans small (by decide))

/-- So is the meaning that the reader itself gives to a number. -/
theorem faithful_anyNumbers : AnyNumbers.Faithful := fun _ _ => id

end PropShape.Json

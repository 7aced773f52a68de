import RowFilter.Binary64.Shortest

/-! # Amounts

A double that is a number stands for a whole number of units of `2 ^ -1074`; an infinite one stands for more
than anything finite.  Doubles agree exactly when both are numbers and stand for one amount (`agrees_iff`), and
only the two zeros do so with different bits (`eq_or_isZero_of_agrees`). -/

set_option autoImplicit false

namespace RowFilter.Binary64

def weight (x : Binary64) : Nat := x.significand <<< (x.exponentField - 1)

/-- What a number amounts to, in units of `2 ^ -1074`. -/
def amount (x : Binary64) : Int := if x.isNegative then -(x.weight : Int) else x.weight

variable {x y : Binary64}

/-! ## Fields -/

theorem isNegative_iff : x.isNegative = true ↔ 0x8000000000000000 ≤ x.bits.toNat := by
  have size := x.bits.toNat_lt
  rw [isNegative, decide_eq_true_iff, ← UInt64.toNat_inj, UInt64.toNat_shiftRight,
    Nat.shiftRight_eq_div_pow]
  change x.bits.toNat / 0x8000000000000000 = 1 ↔ _
  omega

theorem exponentField_eq : x.exponentField = x.bits.toNat / 0x10000000000000 % 0x800 := by
  rw [exponentField, UInt64.toNat_and, UInt64.toNat_shiftRight, Nat.shiftRight_eq_div_pow]
  exact Nat.and_two_pow_sub_one_eq_mod _ 11

theorem fractionField_eq : x.fractionField = x.bits.toNat % 0x10000000000000 := by
  rw [fractionField, UInt64.toNat_and]
  exact Nat.and_two_pow_sub_one_eq_mod _ 52

/-- Exponent and fraction as one number: the bits without the sign. -/
def place (x : Binary64) : Nat := x.exponentField * 0x10000000000000 + x.fractionField

theorem place_eq : x.place = x.bits.toNat % 0x8000000000000000 := by
  rw [place, exponentField_eq, fractionField_eq]
  omega

theorem fractionField_lt : x.fractionField < 0x10000000000000 := by
  rw [fractionField_eq]
  omega

theorem isZero_iff : x.isZero = true ↔ x.place = 0 := by
  simp only [isZero, place, Bool.and_eq_true, decide_eq_true_eq]
  omega

theorem eq_of_place (sign : x.isNegative = y.isNegative) (same : x.place = y.place) : x = y := by
  have sizeX := x.bits.toNat_lt
  have sizeY := y.bits.toNat_lt
  have signs : x.isNegative = true ↔ y.isNegative = true := by rw [sign]
  rw [isNegative_iff, isNegative_iff] at signs
  rw [place_eq, place_eq] at same
  have bits : x.bits.toNat = y.bits.toNat := by omega
  exact congrArg mk (UInt64.toNat_inj.mp bits)

theorem eq_zero_of_isZero (zero : x.isZero = true) : x = ⟨0⟩ ∨ x = ⟨0x8000000000000000⟩ := by
  rw [isZero_iff] at zero
  cases sign : x.isNegative with
  | false => exact .inl (eq_of_place sign zero)
  | true => exact .inr (eq_of_place sign zero)

/-! ## Weights -/

theorem weight_lt_shift : x.weight < 0x10000000000000 <<< x.exponentField := by
  have small := fractionField_lt (x := x)
  rw [weight, significand]
  cases x.exponentField with
  | zero => exact small
  | succ less =>
    rw [if_neg (Nat.succ_ne_zero less), Nat.add_sub_cancel, Nat.shiftLeft_eq, Nat.shiftLeft_eq,
      Nat.pow_succ', ← Nat.mul_assoc]
    exact Nat.mul_lt_mul_of_pos_right (by omega) (Nat.two_pow_pos _)

theorem shift_le_weight (normal : x.exponentField ≠ 0) :
    0x10000000000000 <<< (x.exponentField - 1) ≤ x.weight := by
  rw [weight, significand, if_neg normal, Nat.shiftLeft_eq, Nat.shiftLeft_eq]
  exact Nat.mul_le_mul_right _ (Nat.le_add_right ..)

/-- A larger exponent outweighs any fraction. -/
theorem weight_lt_of_place_lt (less : x.place < y.place) : x.weight < y.weight := by
  have smallX := fractionField_lt (x := x)
  have smallY := fractionField_lt (x := y)
  rw [place, place] at less
  by_cases same : x.exponentField = y.exponentField
  · have fractions : x.fractionField < y.fractionField := by omega
    have significands : x.significand < y.significand := by
      rw [significand, significand, same]
      split <;> omega
    rw [weight, weight, same, Nat.shiftLeft_eq, Nat.shiftLeft_eq]
    exact Nat.mul_lt_mul_of_pos_right significands (Nat.two_pow_pos _)
  · have exponents : x.exponentField ≤ y.exponentField - 1 := by omega
    have normal : y.exponentField ≠ 0 := by omega
    calc x.weight < 0x10000000000000 <<< x.exponentField := weight_lt_shift
      _ ≤ 0x10000000000000 <<< (y.exponentField - 1) := by
        rw [Nat.shiftLeft_eq, Nat.shiftLeft_eq]
        exact Nat.mul_le_mul_left _ (Nat.pow_le_pow_right (by decide) exponents)
      _ ≤ y.weight := shift_le_weight normal

theorem place_eq_of_weight_eq (same : x.weight = y.weight) : x.place = y.place := by
  rcases Nat.lt_trichotomy x.place y.place with less | equal | less
  · exact absurd same (Nat.ne_of_lt (weight_lt_of_place_lt less))
  · exact equal
  · exact absurd same.symm (Nat.ne_of_lt (weight_lt_of_place_lt less))

theorem weight_eq_zero_iff : x.weight = 0 ↔ x.isZero = true := by
  constructor
  · intro nothing
    have zero : weight ⟨0⟩ = 0 := by decide
    exact isZero_iff.mpr (place_eq_of_weight_eq (nothing.trans zero.symm))
  · intro zero
    rcases eq_zero_of_isZero zero with rfl | rfl
    · decide
    · decide

/-! ## Agreement -/

/-- One amount has one representation, unless it is zero. -/
theorem amount_eq_iff : x.amount = y.amount ↔ x.bits = y.bits ∨ x.isZero = true ∧ y.isZero = true := by
  rw [← weight_eq_zero_iff, ← weight_eq_zero_iff]
  constructor
  · intro amounts
    have bits (signs : x.isNegative = y.isNegative) (weights : x.weight = y.weight) : x.bits = y.bits := by
      rw [eq_of_place signs (place_eq_of_weight_eq weights)]
    -- With opposite signs one weight is the other with a minus, so both are zero.
    cases signX : x.isNegative <;> cases signY : y.isNegative <;>
      simp only [amount, signX, signY, if_true, if_false, Bool.false_eq_true] at amounts
    · exact .inl (bits (signX.trans signY.symm) (by omega))
    · exact .inr (by omega)
    · exact .inr (by omega)
    · exact .inl (bits (signX.trans signY.symm) (by omega))
  · rintro (bits | ⟨zeroX, zeroY⟩)
    · have same : x = y := congrArg mk bits
      rw [same]
    · rw [amount, amount, zeroX, zeroY]
      split <;> split <;> rfl

/-- Doubles agree when they are numbers and amount to the same. -/
theorem agrees_iff :
    x.agrees y = true ↔ x.isNaN = false ∧ y.isNaN = false ∧ x.amount = y.amount := by
  rw [amount_eq_iff, agrees]
  simp [and_assoc]

theorem eq_or_isZero_of_agrees (same : x.agrees y = true) :
    x = y ∨ x.isZero = true ∧ y.isZero = true := by
  obtain ⟨_, _, amounts⟩ := agrees_iff.mp same
  exact (amount_eq_iff.mp amounts).imp_left (congrArg mk)

end RowFilter.Binary64

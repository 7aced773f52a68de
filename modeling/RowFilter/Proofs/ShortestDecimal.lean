import Mathlib.Algebra.Group.Nat.Defs
import RowFilter.Binary64.Shortest
import RowFilter.Proofs.Amounts

/-! # Shortest decimals

The decimal of a double lies in its band, so it reads back as the double; it does not end in a zero; and no decimal
in the band has fewer digits (`Binary64.shortest_spec`).  A band is wider than the step of the seventeen-digit grid
in which the search ends (`Band.Wide`), so the search finds a point. -/

set_option autoImplicit false

namespace RowFilter

/-! ## Lengths of numerals -/

namespace Text.Decimal

theorem length_numeral_pos (n : Nat) : 0 < (numeral n).length := Nat.length_toDigits_pos

theorem length_numeral_le_iff {n width : Nat} (some : 0 < width) : (numeral n).length ≤ width ↔ n < 10 ^ width :=
  Nat.length_toDigits_le_iff (by decide) some

theorem lt_pow_length (n : Nat) : n < 10 ^ (numeral n).length :=
  (length_numeral_le_iff (length_numeral_pos n)).mp (Nat.le_refl _)

theorem pow_length_le {n : Nat} (positive : 0 < n) : 10 ^ ((numeral n).length - 1) ≤ n := by
  by_cases single : (numeral n).length = 1
  · rw [single]
    exact positive
  · have several : 0 < (numeral n).length - 1 := by
      have some := length_numeral_pos n
      omega
    apply Nat.le_of_not_lt
    intro small
    have shorter := (length_numeral_le_iff several).mpr small
    omega

theorem length_numeral_le_of_ends {n digits : Nat} (ends : n % 10 ≠ 0) (most : n ≤ 10 ^ (digits + 1)) :
    (numeral n).length ≤ digits + 1 := by
  rw [length_numeral_le_iff (Nat.succ_pos digits)]
  have notPower : n ≠ 10 ^ (digits + 1) := by
    rintro rfl
    rw [Nat.pow_succ] at ends
    omega
  omega

end Text.Decimal

namespace Binary64

/-! ## Trailing zeros -/

/-- As much fuel as there are digits strips all zeros, and the value stays. -/
theorem Decimal.strip_spec {fuel : Nat} (decimal : Decimal) (positive : 0 < decimal.coefficient)
    (enough : (Text.Decimal.numeral decimal.coefficient).length ≤ fuel) :
    ∃ zeros : Nat, decimal.coefficient = (decimal.strip fuel).coefficient * 10 ^ zeros ∧
      (decimal.strip fuel).power = decimal.power + zeros ∧ (decimal.strip fuel).coefficient % 10 ≠ 0 := by
  induction fuel generalizing decimal with
  | zero =>
    have some := Text.Decimal.length_numeral_pos decimal.coefficient
    omega
  | succ fuel ih =>
    rw [strip]
    split
    · rename_i zero
      have small := (Text.Decimal.length_numeral_le_iff (Nat.succ_pos fuel)).mp enough
      have rest : 0 < decimal.coefficient / 10 := by omega
      have fewer : (Text.Decimal.numeral (decimal.coefficient / 10)).length ≤ fuel := by
        cases fuel with
        | zero => omega
        | succ fuel =>
          rw [Text.Decimal.length_numeral_le_iff (Nat.succ_pos fuel), Nat.div_lt_iff_lt_mul (by decide)]
          exact small
      obtain ⟨zeros, value, power, last⟩ := ih ⟨decimal.coefficient / 10, decimal.power + 1⟩ rest fewer
      refine ⟨zeros + 1, ?_, ?_, last⟩
      · rw [Nat.pow_succ, ← Nat.mul_assoc, ← value]
        simp only
        omega
      · rw [power]
        push_cast
        omega
    · rename_i last
      exact ⟨0, by rw [Nat.pow_zero, Nat.mul_one], by simp, last⟩

namespace Band

/-! ## Wide bands -/

/-- A band around its centre that stays away from zero and is wider than the last of seventeen digits. -/
structure Wide (band : Band) : Prop where
  positive : 0 < band.low
  lower : band.low < band.centre
  upper : band.centre < band.high
  wide : band.centre < (band.high - band.low) * 10 ^ 16

variable {band : Band}

theorem low_le_of_holds {point : Nat} (inside : band.Holds point) : band.low ≤ point := by
  rw [Holds] at inside
  split at inside <;> omega

theorem holds_of_lt {point : Nat} (lower : band.low < point) (upper : point < band.high) : band.Holds point := by
  rw [Holds]
  split <;> omega

def size (band : Band) : Nat := (Text.Decimal.numeral band.centre).length

theorem lt_pow_size (band : Band) : band.centre < 10 ^ band.size := Text.Decimal.lt_pow_length _

theorem Wide.pow_size_le (wide : band.Wide) : 10 ^ (band.size - 1) ≤ band.centre :=
  Text.Decimal.pow_length_le (Nat.zero_lt_of_lt wide.lower)

/-- The grid in which the last of seventeen digits counts has a point in the band. -/
theorem Wide.exists_point (wide : band.Wide) : ∃ count, band.Holds (count * 10 ^ (band.size - 17)) := by
  have centre := wide.pow_size_le
  obtain ⟨_, lower, upper, wide⟩ := wide
  generalize grid : 10 ^ (band.size - 17) = step
  have narrow : step < band.high - band.low := by
    by_cases long : 17 ≤ band.size
    · have first : step * 10 ^ 16 ≤ band.centre := by
        have places : band.size - 17 + 16 = band.size - 1 := by omega
        rw [← grid, ← Nat.pow_add, places]
        exact centre
      exact Nat.lt_of_mul_lt_mul_right (Nat.lt_of_le_of_lt first wide)
    · have none : band.size - 17 = 0 := by omega
      rw [← grid, none, Nat.pow_zero]
      omega
  have positive : 0 < step := by
    rw [← grid]
    exact Nat.pow_pos (by decide)
  -- The first point above the lower end is not farther from it than a step.
  refine ⟨band.low / step + 1, holds_of_lt ?_ ?_⟩
  · rw [Nat.mul_comm]
    exact Nat.lt_mul_div_succ _ positive
  · have below : band.low / step * step ≤ band.low := Nat.div_mul_le_self _ _
    rw [Nat.add_mul, Nat.one_mul]
    omega

end Band

theorem exists_unit (x : Binary64) : ∃ unit, 0 < unit ∧ ∀ quarters, x.units quarters = quarters * unit := by
  simp only [units]
  generalize 1076 = power
  refine ⟨2 ^ (x.exponentField - 1) * Nat.pow 5 power, ?_, ?_⟩
  · exact Nat.mul_pos (Nat.two_pow_pos _) (Nat.pow_pos (by decide))
  · intro quarters
    rw [Nat.shiftLeft_eq, Nat.mul_assoc]

theorem significand_pos {x : Binary64} (nonzero : x.isZero = false) : 0 < x.significand := by
  have place := mt isZero_iff.mpr (by rw [nonzero]; exact Bool.false_ne_true)
  rw [Binary64.place] at place
  rw [significand]
  split <;> omega

theorem significand_lt (x : Binary64) : x.significand < 0x20000000000000 := by
  have small := fractionField_lt (x := x)
  rw [significand]
  split <;> omega

/-- A significand has 53 bits, and a power of two, whose band is narrower, has the smallest of them. -/
theorem wide_band {x : Binary64} (nonzero : x.isZero = false) : x.band.Wide := by
  obtain ⟨unit, positive, units⟩ := x.exists_unit
  have some := significand_pos nonzero
  have most := x.significand_lt
  have enough : 4 * x.significand <
      (2 + if x.fractionField = 0 ∧ 1 < x.exponentField then 1 else 2) * 10 ^ 16 := by
    split
    · rename_i power
      have least : x.significand = 0x10000000000000 := by
        rw [significand, if_neg (by omega), power.1]
      omega
    · omega
  generalize quarters : (if x.fractionField = 0 ∧ 1 < x.exponentField then 1 else 2) = below at enough
  have few : below = 1 ∨ below = 2 := by
    rw [← quarters]
    split
    · exact .inl rfl
    · exact .inr rfl
  have width : 4 * x.significand + 2 - (4 * x.significand - below) = 2 + below := by omega
  simp only [band, quarters, units]
  constructor
  · exact Nat.mul_pos (by omega) positive
  · exact Nat.mul_lt_mul_of_pos_right (by omega) positive
  · exact Nat.mul_lt_mul_of_pos_right (by omega) positive
  · simp only [← Nat.sub_mul, width]
    rw [Nat.mul_right_comm (2 + below)]
    exact Nat.mul_lt_mul_of_pos_right enough positive

/-! ## The search -/

/-- The first number for which a function has a value, if there is one below a bound. -/
theorem exists_findSome?_range {α : Type} {value? : Nat → Option α} {bound place : Nat} (below : place < bound)
    (found : (value? place).isSome = true) :
    ∃ first value, first < bound ∧ value? first = some value ∧ (∀ earlier < first, value? earlier = none) ∧
      (List.range bound).findSome? value? = some value := by
  induction bound generalizing place with
  | zero => omega
  | succ bound ih =>
    rw [List.range_succ, List.findSome?_append]
    by_cases early : ∃ place < bound, (value? place).isSome = true
    · obtain ⟨place, below, found⟩ := early
      obtain ⟨first, value, less, here, before, call⟩ := ih below found
      exact ⟨first, value, by omega, here, before, by rw [call, Option.some_or]⟩
    · have before : ∀ earlier < bound, value? earlier = none := fun earlier less =>
        Option.not_isSome_iff_eq_none.mp fun found => early ⟨earlier, less, found⟩
      have last : place = bound := by
        apply Nat.le_antisymm (Nat.le_of_lt_succ below)
        exact Nat.le_of_not_lt fun less => early ⟨place, less, found⟩
      obtain ⟨value, here⟩ := Option.isSome_iff_exists.mp found
      rw [last] at here
      have nothing : (List.range bound).findSome? value? = none :=
        List.findSome?_eq_none_iff.mpr fun earlier member => before earlier (List.mem_range.mp member)
      exact ⟨bound, value, Nat.lt_succ_self _, here, before, by simp [nothing, here]⟩

/-- A decimal that reads back as what the band stands for and could not be shorter. -/
structure Decimal.Shortest (band : Band) (decimal : Decimal) : Prop where
  reads : ∃ places : Nat, decimal.power = places - 1076 ∧ band.Holds (decimal.coefficient * 10 ^ places)
  ends : decimal.coefficient % 10 ≠ 0
  seventeen : (Text.Decimal.numeral decimal.coefficient).length ≤ 17
  least : ∀ count places, band.Holds (count * 10 ^ places) →
    (Text.Decimal.numeral decimal.coefficient).length ≤ (Text.Decimal.numeral count).length

namespace Band

variable {band : Band}

theorem pointOn?_le {step point : Nat} (found : band.pointOn? step = some point) : point ≤ band.centre / step + 1 := by
  simp only [pointOn?] at found
  split at found
  · split at found
    · cases found
      exact Nat.le_refl _
    · cases found
      exact Nat.le_succ _
  · split at found
    · cases found
      exact Nat.le_refl _
    · cases found

theorem Wide.not_holds (wide : band.Wide) {step : Nat} (positive : 0 < step) (none : band.pointOn? step = none)
    (count : Nat) : ¬ band.Holds (count * step) := by
  intro inside
  have found := isSome_pointOn? positive wide.lower wide.upper inside
  rw [none] at found
  cases found

/-- Where a grid has no point in the band, nothing in the band has as few digits as the points of the grid. -/
theorem Wide.lt_length (wide : band.Wide) {digits : Nat} (some : 0 < digits)
    (none : band.pointOn? (10 ^ (band.size - digits)) = none) {count places : Nat}
    (inside : band.Holds (count * 10 ^ places)) : digits < (Text.Decimal.numeral count).length := by
  have outside := wide.not_holds (Nat.pow_pos (by decide)) none
  apply Nat.lt_of_not_le
  intro few
  have small := (Text.Decimal.length_numeral_le_iff some).mp few
  by_cases coarse : band.size - digits ≤ places
  · have multiple : count * 10 ^ places =
        count * 10 ^ (places - (band.size - digits)) * 10 ^ (band.size - digits) := by
      rw [Nat.mul_assoc, ← Nat.pow_add, Nat.sub_add_cancel coarse]
    exact outside _ (multiple ▸ inside)
  · -- The point is smaller than the power of ten below the centre, and that power is on the grid.
    have power : 10 ^ (digits - 1) * 10 ^ (band.size - digits) = 10 ^ (band.size - 1) := by
      rw [← Nat.pow_add]
      congr 1
      omega
    have below : count * 10 ^ places ≤ 10 ^ (band.size - 1) := by
      calc count * 10 ^ places ≤ 10 ^ digits * 10 ^ (band.size - digits - 1) :=
            Nat.mul_le_mul (Nat.le_of_lt small) (Nat.pow_le_pow_right (by decide) (by omega))
        _ = 10 ^ (band.size - 1) := by
            rw [← Nat.pow_add]
            congr 1
            omega
    apply outside (10 ^ (digits - 1))
    rw [power]
    exact holds_between wide.lower wide.upper inside (.inl ⟨below, wide.pow_size_le⟩)

/-- The point of a grid has at most one digit more than the grid leaves to the centre, and then it is a power of
ten. -/
theorem pointOn?_le_pow {shift point : Nat} (digits : Nat) (enough : band.size ≤ shift + digits)
    (found : band.pointOn? (10 ^ shift) = some point) : point ≤ 10 ^ digits := by
  have near := pointOn?_le found
  have steps : band.centre / 10 ^ shift < 10 ^ digits := by
    rw [Nat.div_lt_iff_lt_mul (Nat.pow_pos (by decide)), ← Nat.pow_add, Nat.add_comm]
    exact Nat.lt_of_lt_of_le band.lt_pow_size (Nat.pow_le_pow_right (by decide) enough)
  omega

/-- The first grid with a point in the band gives the shortest decimal. -/
theorem Wide.shortest_strip (wide : band.Wide) {spare point : Nat} (few : spare < 17)
    (found : band.pointOn? (10 ^ (band.size - (spare + 1))) = some point)
    (before : ∀ earlier < spare, band.pointOn? (10 ^ (band.size - (earlier + 1))) = none) :
    ((Decimal.mk point ((band.size - (spare + 1) : Nat) - 1076)).strip (Text.Decimal.numeral point).length).Shortest
      band := by
  have inside := holds_of_pointOn? found
  have positive : 0 < point := by
    apply Nat.pos_of_ne_zero
    rintro rfl
    have low := low_le_of_holds inside
    have above := wide.positive
    omega
  obtain ⟨zeros, value, power, last⟩ :=
    Decimal.strip_spec ⟨point, (band.size - (spare + 1) : Nat) - 1076⟩ positive (Nat.le_refl _)
  simp only at value power last
  generalize Decimal.strip _ _ = stripped at value power last ⊢
  have part : stripped.coefficient ≤ point := by
    rw [value]
    exact Nat.le_mul_of_pos_right _ (Nat.pow_pos (by decide))
  have digits : (Text.Decimal.numeral stripped.coefficient).length ≤ spare + 1 :=
    Text.Decimal.length_numeral_le_of_ends last (Nat.le_trans part (pointOn?_le_pow (spare + 1) (by omega) found))
  constructor
  · refine ⟨band.size - (spare + 1) + zeros, ?_, ?_⟩
    · rw [power]
      omega
    · rw [Nat.pow_add, ← Nat.mul_assoc, Nat.mul_right_comm, ← value]
      exact inside
  · exact last
  · omega
  · intro count places among
    apply Nat.le_trans digits
    cases spare with
    | zero => exact Text.Decimal.length_numeral_pos count
    | succ fewer => exact wide.lt_length (Nat.succ_pos fewer) (before fewer (Nat.lt_succ_self _)) among

end Band

/-- The decimal of a double reads back as the double, has no zero at its end and at most seventeen digits, and no
decimal that reads back as the double has fewer. -/
theorem shortest_spec {x : Binary64} (nonzero : x.isZero = false) : x.shortest.Shortest x.band := by
  have wide := wide_band nonzero
  obtain ⟨count, inside⟩ := wide.exists_point
  have reached := Band.isSome_pointOn? (Nat.pow_pos (by decide)) wide.lower wide.upper inside
  let value? (spare : Nat) : Option Decimal :=
    (x.band.pointOn? (10 ^ (x.band.size - (spare + 1)))).map fun point =>
      ⟨point, ((x.band.size - (spare + 1) : Nat) : Int) - 1076⟩
  have some : (value? 16).isSome = true := by simpa [value?] using reached
  obtain ⟨spare, decimal, few, here, before, call⟩ := exists_findSome?_range (show 16 < 17 by decide) some
  obtain ⟨point, found, rfl⟩ := Option.map_eq_some_iff.mp here
  have shown : x.shortest = Decimal.strip (Text.Decimal.numeral point).length
      ⟨point, ((x.band.size - (spare + 1) : Nat) : Int) - 1076⟩ := by
    unfold shortest
    change Decimal.strip (Text.Decimal.numeral (((List.range 17).findSome? value?).getD _).coefficient).length
      (((List.range 17).findSome? value?).getD _) = _
    rw [call]
    rfl
  rw [shown]
  exact wide.shortest_strip few found fun earlier less => Option.map_eq_none_iff.mp (before earlier less)

end Binary64

end RowFilter

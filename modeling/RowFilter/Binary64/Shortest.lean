import RowFilter.Binary64.Basic
import RowFilter.Text.Numeral

/-! # Shortest decimals

Every finite double, and every midpoint between two neighbours, is a whole number of units of
`10 ^ -1076`.  In these units a double has a band of whole numbers that read back as it, and `shortest`
looks for the coarsest decimal grid with a point in the band.  Of two points of that grid the nearer is
taken; of two equally near the upper. -/

set_option autoImplicit false

namespace RowFilter.Binary64

/-- The numbers that read back as one double, in units of `10 ^ -1076`.  The ends belong to the band
when `closed` says so. -/
structure Band where
  low : Nat
  centre : Nat
  high : Nat
  closed : Bool

namespace Band

def Holds (band : Band) (point : Nat) : Prop :=
  if band.closed then band.low ≤ point ∧ point ≤ band.high else band.low < point ∧ point < band.high

instance (band : Band) (point : Nat) : Decidable (band.Holds point) :=
  inferInstanceAs (Decidable (if band.closed then _ else _))

/-- The point of the grid with this step that stands for the band, counted in steps. -/
def pointOn? (band : Band) (step : Nat) : Option Nat :=
  let below := band.centre / step
  let above := below + 1
  if band.Holds (below * step) then
    if band.Holds (above * step) ∧ above * step - band.centre ≤ band.centre - below * step then some above
    else some below
  else if band.Holds (above * step) then some above
  else none

theorem holds_of_pointOn? {band : Band} {step point : Nat} (found : band.pointOn? step = some point) :
    band.Holds (point * step) := by
  simp only [pointOn?] at found
  split at found
  · split at found
    · rename_i both
      cases found
      exact both.1
    · rename_i lower _
      cases found
      exact lower
  · split at found
    · rename_i upper
      cases found
      exact upper
    · cases found

theorem holds_between {band : Band} {point other : Nat} (lower : band.low < band.centre)
    (upper : band.centre < band.high) (inside : band.Holds point)
    (between : point ≤ other ∧ other ≤ band.centre ∨ band.centre ≤ other ∧ other ≤ point) :
    band.Holds other := by
  cases closed : band.closed
  · simp only [Holds, closed, Bool.false_eq_true, if_false] at inside ⊢
    omega
  · simp only [Holds, closed, if_true] at inside ⊢
    omega

theorem isSome_pointOn? {band : Band} {step count : Nat} (positive : 0 < step)
    (lower : band.low < band.centre) (upper : band.centre < band.high)
    (inside : band.Holds (count * step)) : (band.pointOn? step).isSome = true := by
  have floor : band.centre / step * step ≤ band.centre := Nat.div_mul_le_self _ _
  by_cases before : count * step ≤ band.centre
  · have first : count ≤ band.centre / step := (Nat.le_div_iff_mul_le positive).mpr before
    have closer : count * step ≤ band.centre / step * step := Nat.mul_le_mul_right step first
    have below := holds_between lower upper inside (.inl ⟨closer, floor⟩)
    simp only [pointOn?, if_pos below]
    split <;> rfl
  · have after : band.centre / step < count := (Nat.div_lt_iff_lt_mul positive).mpr (by omega)
    have closer : (band.centre / step + 1) * step ≤ count * step := Nat.mul_le_mul_right step after
    have ceiling : band.centre < (band.centre / step + 1) * step := by
      rw [Nat.mul_comm]
      exact Nat.lt_mul_div_succ _ positive
    have above := holds_between lower upper inside (.inr ⟨Nat.le_of_lt ceiling, closer⟩)
    simp only [pointOn?, if_pos above]
    split
    · split <;> rfl
    · rfl

end Band

/-- The number of units of `10 ^ -1076` in `quarters / 4` times the double's last place. -/
def units (x : Binary64) (quarters : Nat) : Nat :=
  (quarters <<< (x.exponentField - 1)) * Nat.pow 5 1076

def significand (x : Binary64) : Nat :=
  if x.exponentField = 0 then x.fractionField else 0x10000000000000 + x.fractionField

/-- Half a last place on either side, but only a quarter below a power of two, where the neighbour
below is nearer.  Ties read back as the even significand. -/
def band (x : Binary64) : Band :=
  let below := if x.fractionField = 0 ∧ 1 < x.exponentField then 1 else 2
  { low := x.units (4 * x.significand - below)
    centre := x.units (4 * x.significand)
    high := x.units (4 * x.significand + 2)
    closed := x.significand % 2 = 0 }

structure Decimal where
  coefficient : Nat
  power : Int
  deriving DecidableEq

/-- Moves trailing zeros from the coefficient into the power; each step costs one unit of fuel. -/
def Decimal.strip : Nat → Decimal → Decimal
  | 0, decimal => decimal
  | fuel + 1, decimal =>
    if decimal.coefficient % 10 = 0 then strip fuel ⟨decimal.coefficient / 10, decimal.power + 1⟩
    else decimal

/-- The shortest decimal of a finite, nonzero double.  Seventeen digits always reach the band; the
exact value stands behind them. -/
def shortest (x : Binary64) : Decimal :=
  let band := x.band
  let size := (Text.Decimal.numeral band.centre).length
  let found := (List.range 17).findSome? fun spare =>
    let shift := size - (spare + 1)
    (band.pointOn? (Nat.pow 10 shift)).map fun point => (⟨point, (shift : Int) - 1076⟩ : Decimal)
  let decimal := found.getD ⟨band.centre, -1076⟩
  decimal.strip (Text.Decimal.numeral decimal.coefficient).length

/-! ## Texts

The shortest decimal, written without an exponent: zeros fill the places up to the point on either side, and a
whole number has no point.  Zero keeps its sign, a NaN has none. -/

def Decimal.written (decimal : Decimal) : List Char :=
  match decimal.power with
  | .ofNat zeros => Text.Decimal.numeral decimal.coefficient ++ List.replicate zeros '0'
  | .negSucc less =>
    let unit := Nat.pow 10 (less + 1)
    Text.Decimal.numeral (decimal.coefficient / unit) ++
      '.' :: Text.Decimal.padded (less + 1) (decimal.coefficient % unit)

def magnitude (x : Binary64) : List Char :=
  if x.isInfinite then "inf".toList
  else if x.isZero then ['0']
  else x.shortest.written

def written (x : Binary64) : List Char :=
  if x.isNaN then "NaN".toList
  else if x.isNegative then '-' :: x.magnitude
  else x.magnitude

end RowFilter.Binary64

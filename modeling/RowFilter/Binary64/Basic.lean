/-! # Double precision numbers

A number is its 64 bits: sign, eleven bits of exponent, 52 bits of fraction.  `agrees` is the IEEE
comparison: a NaN agrees with nothing, and the two zeros agree with each other. -/

set_option autoImplicit false

namespace RowFilter

structure Binary64 where
  bits : UInt64
  deriving DecidableEq

namespace Binary64

def isNegative (x : Binary64) : Bool := x.bits >>> 63 = 1

def exponentField (x : Binary64) : Nat := (x.bits >>> 52 &&& 0x7ff).toNat

def fractionField (x : Binary64) : Nat := (x.bits &&& 0xfffffffffffff).toNat

def isNaN (x : Binary64) : Bool := x.exponentField = 2047 && x.fractionField ≠ 0

def isInfinite (x : Binary64) : Bool := x.exponentField = 2047 && x.fractionField = 0

def isZero (x : Binary64) : Bool := x.exponentField = 0 && x.fractionField = 0

def agrees (x y : Binary64) : Bool :=
  !x.isNaN && !y.isNaN && (x.bits = y.bits || (x.isZero && y.isZero))

def ofFields (sign exponent fraction : UInt64) : Binary64 :=
  ⟨sign <<< 63 ||| exponent <<< 52 ||| fraction⟩

/-- Widens a single precision number, given as its 32 bits, without rounding.  A single precision
number below the normal range is normal here, so its leading bit moves out of the fraction. -/
def ofBinary32 (bits : UInt32) : Binary64 :=
  let wide := bits.toUInt64
  let sign := wide >>> 31
  let exponent := wide >>> 23 &&& 0xff
  let fraction := wide &&& 0x7fffff
  if exponent = 255 then ofFields sign 2047 (fraction <<< 29)
  else if exponent = 0 then
    if fraction = 0 then ofFields sign 0 0
    else
      let top := fraction.log2
      ofFields sign (top + 874) ((fraction <<< (52 - top)) &&& 0xfffffffffffff)
  else ofFields sign (exponent + 896) (fraction <<< 29)

theorem agrees_self (x : Binary64) : x.agrees x = !x.isNaN := by
  cases nan : x.isNaN <;> simp [agrees, nan]

theorem agrees_comm (x y : Binary64) : x.agrees y = y.agrees x := by
  have bits : decide (x.bits = y.bits) = decide (y.bits = x.bits) := by
    simp only [eq_comm]
  simp only [agrees, bits, Bool.and_comm]

theorem agrees_trans {x y z : Binary64} (first : x.agrees y = true) (second : y.agrees z = true) :
    x.agrees z = true := by
  simp only [agrees, Bool.and_eq_true, Bool.or_eq_true, decide_eq_true_eq, Bool.not_eq_eq_eq_not,
    Bool.not_true] at first second ⊢
  obtain ⟨⟨xNumber, _⟩, xy⟩ := first
  obtain ⟨⟨_, zNumber⟩, yz⟩ := second
  refine ⟨⟨xNumber, zNumber⟩, ?_⟩
  cases x with
  | mk xBits =>
    cases y with
    | mk yBits =>
      cases z with
      | mk zBits =>
        dsimp only at xy yz ⊢
        rcases xy with rfl | ⟨xZero, yZero⟩
        · exact yz
        · rcases yz with rfl | ⟨_, zZero⟩
          · exact Or.inr ⟨xZero, yZero⟩
          · exact Or.inr ⟨xZero, zZero⟩

example : (ofBinary32 0x3dcccccd).bits = 0x3fb99999a0000000 := by decide
example : (ofBinary32 0x80000001).bits = 0xb6a0000000000000 := by decide

end Binary64

end RowFilter

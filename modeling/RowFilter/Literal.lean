import RowFilter.Binary64.Shortest
import RowFilter.Calendar

/-! # Literals

The constants a column can be compared with.  `written` is the text for people: texts, dates, times and
identifiers stand between single quotes, and nothing inside them is escaped.  `agrees` tells literals of
different kinds apart, compares floats by the IEEE rules and everything else by identity; so a NaN is
the only literal that does not agree with itself. -/

set_option autoImplicit false

namespace RowFilter

open Text

/-! ## Universally unique identifiers

An identifier is 128 bits.  It is read from 32 hexadecimal digits in either case, bare or in five groups
of 8, 4, 4, 4 and 12 with hyphens between them, and written in groups and in lower case. -/

structure Uuid where
  bits : BitVec 128
  deriving DecidableEq

namespace Uuid

def grouped (digits : List Char) : List Char :=
  digits.take 8 ++ '-' :: (digits.drop 8).take 4 ++ '-' :: (digits.drop 12).take 4 ++
    '-' :: (digits.drop 16).take 4 ++ '-' :: digits.drop 20

def written (id : Uuid) : List Char := grouped (Hex.written 32 id.bits.toNat)

def ofDigits? (digits : List Char) : Option Uuid :=
  if digits.length = 32 then (Hex.value? digits).map fun value => ⟨BitVec.ofNat 128 value⟩ else none

/-- Reads either spelling; hyphens anywhere else are refused. -/
def read? (text : List Char) : Option Uuid :=
  let digits := text.filter (· ≠ '-')
  if text = digits ∨ text = grouped digits then ofDigits? digits else none

theorem filter_grouped {digits : List Char} (noHyphens : ∀ c ∈ digits, c ≠ '-') :
    (grouped digits).filter (· ≠ '-') = digits := by
  have whole {part : List Char} (inside : ∀ c ∈ part, c ∈ digits) : part.filter (· ≠ '-') = part :=
    List.filter_eq_self.mpr fun c member => decide_eq_true (noHyphens c (inside c member))
  have hyphen (rest : List Char) : ('-' :: rest).filter (· ≠ '-') = rest.filter (· ≠ '-') := rfl
  have group (skipped : Nat) : ((digits.drop skipped).take 4).filter (· ≠ '-') = (digits.drop skipped).take 4 :=
    whole fun c member => List.mem_of_mem_drop (List.mem_of_mem_take member)
  have joined (skipped : Nat) :
      (digits.drop skipped).take 4 ++ digits.drop (skipped + 4) = digits.drop skipped := by
    rw [← List.drop_drop, List.take_append_drop]
  simp only [grouped, List.filter_append, hyphen, group, whole fun c => List.mem_of_mem_take,
    whole fun c => List.mem_of_mem_drop, List.append_assoc, joined, List.take_append_drop]

theorem read?_written (id : Uuid) : read? id.written = some id := by
  have noHyphens : ∀ c ∈ Hex.written 32 id.bits.toNat, c ≠ '-' := by
    rintro c member rfl
    exact absurd (Hex.isSome_digit?_of_mem_written member) (by decide)
  have small : id.bits.toNat % Nat.pow 16 32 = id.bits.toNat := Nat.mod_eq_of_lt id.bits.isLt
  have digits : ofDigits? (Hex.written 32 id.bits.toNat) = some id := by
    rw [ofDigits?, if_pos (Hex.length_written _ _), Hex.value?_written, small]
    simp
  simp only [read?, written, filter_grouped noHyphens, or_true, if_true, digits]

example : (read? "67E5504410B1426F9247BB680E5FE0C8".toList).map (String.ofList ·.written) =
    some "67e55044-10b1-426f-9247-bb680e5fe0c8" := by decide +kernel

end Uuid

/-! ## All literals -/

inductive Literal where
  | bool (value : Bool)
  | int (value : Int64)
  | float (value : Binary64)
  | text (value : String)
  | date (value : Date)
  | time (value : TimeOfDay)
  | dateTime (day : Date) (clock : TimeOfDay)
  | uuid (value : Uuid)
  deriving DecidableEq

namespace Literal

/-- The literal of an integer that 64 bits with a sign can hold. -/
def ofInt? (value : Int) : Option Literal :=
  if Int64.minValue.toInt ≤ value ∧ value ≤ Int64.maxValue.toInt then some (.int (Int64.ofInt value)) else none

def quoted (text : List Char) : List Char := '\x27' :: text ++ ['\x27']

def writtenInt (value : Int) : List Char :=
  if value < 0 then '-' :: Decimal.numeral value.natAbs else Decimal.numeral value.natAbs

def written : Literal → List Char
  | .bool value => if value then "true".toList else "false".toList
  | .int value => writtenInt value.toInt
  | .float value => value.written
  | .text value => quoted value.toList
  | .date value => quoted value.written
  | .time value => quoted value.written
  | .dateTime day clock => quoted (day.written ++ ' ' :: clock.written)
  | .uuid value => quoted value.written

def describe (literal : Literal) : String := String.ofList literal.written

def isNaN : Literal → Bool
  | .float value => value.isNaN
  | _ => false

def agrees : Literal → Literal → Bool
  | .float x, .float y => x.agrees y
  | x, y => x = y

theorem agrees_self (literal : Literal) : literal.agrees literal = !literal.isNaN := by
  cases literal with
  | float value => exact value.agrees_self
  | _ => simp [agrees, isNaN]

theorem agrees_comm (x y : Literal) : x.agrees y = y.agrees x := by
  cases x <;> cases y <;> simp only [agrees, Binary64.agrees_comm, eq_comm, reduceCtorEq]

theorem agrees_trans {x y z : Literal} (first : x.agrees y = true) (second : y.agrees z = true) :
    x.agrees z = true := by
  cases x <;> cases y <;> cases z <;> simp_all [agrees]
  exact Binary64.agrees_trans first second

end Literal

end RowFilter

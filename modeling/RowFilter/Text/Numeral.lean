/-! # Numerals

`Decimal.numeral n` has no leading zeros; `Decimal.padded width n` has at least `width` digits.
Hexadecimal digits are read in either case and written in lower case.  `Hex.written width n` has exactly
`width` digits: it is padded on the left, and higher digits are dropped. -/

set_option autoImplicit false

namespace RowFilter.Text

namespace Decimal

def numeral (n : Nat) : List Char := Nat.toDigits 10 n

def padded (width n : Nat) : List Char := (numeral n).leftpad width '0'

def value (digits : List Char) : Nat := Nat.ofDigitChars 10 digits 0

theorem value_numeral (n : Nat) : value (numeral n) = n :=
  Nat.ofDigitChars_toDigits (by decide) (by decide)

theorem isDigit_of_mem_numeral {n : Nat} {c : Char} (member : c ∈ numeral n) : c.isDigit = true :=
  Nat.isDigit_of_mem_toDigits (by decide) (by decide) member

theorem isDigit_of_mem_padded {width n : Nat} {c : Char} (member : c ∈ padded width n) :
    c.isDigit = true := by
  simp only [padded, List.leftpad, List.mem_append, List.mem_replicate] at member
  rcases member with ⟨_, rfl⟩ | member
  · rfl
  · exact isDigit_of_mem_numeral member

end Decimal

namespace Hex

def digit? (c : Char) : Option Nat :=
  if '0' ≤ c ∧ c ≤ '9' then some (c.toNat - '0'.toNat)
  else if 'a' ≤ c ∧ c ≤ 'f' then some (c.toNat - 'a'.toNat + 10)
  else if 'A' ≤ c ∧ c ≤ 'F' then some (c.toNat - 'A'.toNat + 10)
  else none

def digit (n : Nat) : Char :=
  if n < 10 then Char.ofNat ('0'.toNat + n) else Char.ofNat ('a'.toNat + (n - 10))

/-- The value of a run of digits, most significant first; `none` when one is no digit. -/
def value? (digits : List Char) : Option Nat :=
  digits.foldlM (fun value c => (digit? c).map fun d => 16 * value + d) 0

def written : Nat → Nat → List Char
  | 0, _ => []
  | width + 1, n => written width (n / 16) ++ [digit (n % 16)]

theorem length_written (width n : Nat) : (written width n).length = width := by
  induction width generalizing n with
  | zero => rfl
  | succ width ih => simp [written, ih]

theorem digit?_digit (n : Nat) (small : n < 16) : digit? (digit n) = some n := by
  have all : ∀ k : Fin 16, digit? (digit k) = some k.val := by decide
  exact all ⟨n, small⟩

theorem digit?_digitChar (n : Nat) (small : n < 16) : digit? n.digitChar = some n := by
  have all : ∀ k : Fin 16, digit? (k : Nat).digitChar = some k.val := by decide
  exact all ⟨n, small⟩

theorem value?_concat {digits : List Char} {c : Char} {value last : Nat} (front : value? digits = some value)
    (digit : digit? c = some last) : value? (digits ++ [c]) = some (16 * value + last) := by
  rw [value?] at front
  rw [value?, List.foldlM_append, front]
  simp [digit]

/-- Reading back what was written gives the number, as far as the width reaches. -/
theorem value?_written (width n : Nat) : value? (written width n) = some (n % Nat.pow 16 width) := by
  induction width generalizing n with
  | zero => simp [written, value?, Nat.mod_one]
  | succ width ih =>
    have split : 16 * (n / 16 % Nat.pow 16 width) + n % 16 = n % Nat.pow 16 (width + 1) := by
      have more : Nat.pow 16 (width + 1) = 16 * Nat.pow 16 width := Nat.mul_comm _ _
      rw [more, Nat.mod_mul, Nat.add_comm]
    rw [written, value?_concat (ih (n / 16)) (digit?_digit _ (Nat.mod_lt _ (by decide))), split]

theorem value?_toDigits (n : Nat) : value? (Nat.toDigits 16 n) = some n := by
  induction n using Nat.strongRecOn with
  | ind n ih =>
    rw [Nat.toDigits_eq_if (by decide)]
    split
    · rename_i small
      simp [value?, digit?_digitChar n small]
    · have last := digit?_digitChar (n % 16) (Nat.mod_lt _ (by decide))
      rw [value?_concat (ih (n / 16) (by omega)) last]
      congr 1
      omega

/-! Everything that is written is a digit. -/

theorem isSome_digit?_of_mem_written {width n : Nat} {c : Char} (member : c ∈ written width n) :
    (digit? c).isSome = true := by
  induction width generalizing n with
  | zero => simp [written] at member
  | succ width ih =>
    rcases List.mem_append.mp member with front | last
    · exact ih front
    · rw [List.mem_singleton.mp last, digit?_digit _ (Nat.mod_lt _ (by decide))]
      rfl

theorem isSome_digit?_of_mem_toDigits {n : Nat} {c : Char} (member : c ∈ Nat.toDigits 16 n) :
    (digit? c).isSome = true := by
  induction n using Nat.strongRecOn with
  | ind n ih =>
    rw [Nat.toDigits_eq_if (by decide)] at member
    split at member
    · rename_i small
      rw [List.mem_singleton.mp member, digit?_digitChar n small]
      rfl
    · rcases List.mem_append.mp member with front | last
      · exact ih (n / 16) (by omega) front
      · rw [List.mem_singleton.mp last, digit?_digitChar _ (Nat.mod_lt _ (by decide))]
        rfl

end Hex

end RowFilter.Text

import RowFilter.Text.Numeral
import RowFilter.Text.StringLiteral

/-! # Number literals

A number starts with a digit.  A point belongs to it if neither a second point nor a name follows, and an
exponent if it has a digit; letters at the end are a suffix.  An underscore between digits means nothing. -/

set_option autoImplicit false

namespace RowFilter.Text.NumberLiteral

def isFigure (c : Char) : Bool := c.isDigit || c = '_'

def splitFigures (text : List Char) : List Char × List Char :=
  (text.takeWhile isFigure, text.dropWhile isFigure)

def exponent? : List Char → Option (List Char × List Char)
  | mark :: rest =>
    if mark = 'e' ∨ mark = 'E' then
      let (figures, after) := splitFigures rest
      if figures.any Char.isDigit then some (mark :: figures, after)
      else
        match after with
        | sign :: more =>
          let (digits, after) := splitFigures more
          if (sign = '+' ∨ sign = '-') ∧ digits.any Char.isDigit then
            some (mark :: figures ++ sign :: digits, after)
          else none
        | [] => none
    else none
  | [] => none

/-- A number with a point or an exponent, without its suffix. -/
def fractional? (text : List Char) : Option (List Char × List Char) :=
  let (whole, after) := splitFigures text
  match after with
  | '.' :: rest =>
    if rest.head?.any fun c => c = '.' || isNameStart c then none
    else
      let (fraction, after) := splitFigures rest
      let number := whole ++ '.' :: fraction
      match exponent? after with
      | some (exponent, after) => some (number ++ exponent, after)
      | none => some (number, after)
  | _ => (exponent? after).map fun found => (whole ++ found.1, found.2)

/-- The number at the front of a text that starts with a digit, and what follows it. -/
def split (text : List Char) : List Char × List Char :=
  let (number, after) := (fractional? text).getD ([], text)
  (number ++ after.takeWhile isNamePart, after.dropWhile isNamePart)

/-- The value of a run of digits below the base; letters are digits of either case. -/
def valueIn? (base : Nat) (digits : List Char) : Option Nat :=
  digits.foldlM (fun value c => do
    let digit ← Hex.digit? c
    if digit < base then some (base * value + digit) else none) 0

def value? (text : List Char) : Option Nat :=
  match text.filter (· ≠ '_') with
  | '0' :: 'x' :: digits => valueIn? 16 digits
  | '0' :: 'o' :: digits => valueIn? 8 digits
  | '0' :: 'b' :: digits => valueIn? 2 digits
  | digits => valueIn? 10 digits

example : split "1.5e-3_f64.x".toList = ("1.5e-3_f64".toList, ".x".toList) := by decide +kernel
example : split "0..9".toList = ("0".toList, "..9".toList) := by decide +kernel
example : value? "0x1_F".toList = some 31 := by decide +kernel

end RowFilter.Text.NumberLiteral

import RowFilter.Text.Comment
import RowFilter.Text.Numeral

/-! # String literals in attributes

A string literal stands between double quotes.  A backslash starts an escape; a backslash at the end of a
line skips the blanks up to the next word.  In a raw literal, `r` and some number of hash signs before the
quote, nothing is escaped, and it ends at the first quote with as many hash signs behind it.  An
identifier right after a literal belongs to it and does not count. -/

set_option autoImplicit false

namespace RowFilter.Text

/-- What an identifier can start with; beyond ASCII, whatever is no gap. -/
def isNameStart (c : Char) : Bool := c.isAlpha || c = '_' || (128 ≤ c.toNat && !isGap c)

def isNamePart (c : Char) : Bool := isNameStart c || c.isDigit

namespace StringLiteral

/-! ## Reading -/

def character? (code : Nat) : Option Char := if code.isValidChar then some (Char.ofNat code) else none

def simpleEscape? : Char → Option Char
  | 'n' => some '\n'
  | 'r' => some '\r'
  | 't' => some '\t'
  | '\\' => some '\\'
  | '0' => some '\x00'
  | '\x27' => some '\x27'
  | '\x22' => some '\x22'
  | _ => none

/-- The blanks that a skipped line end takes with it. -/
def isLineBlank (c : Char) : Bool := c = ' ' || c = '\t' || c = '\n' || c = '\r'

/-- Reads what follows a backslash.  Nothing is read for a skipped line end. -/
def readEscape : List Char → Option (List Char × List Char)
  | 'x' :: high :: low :: rest => do
    let code ← Hex.value? [high, low]
    if code < 128 then some ([Char.ofNat code], rest) else none
  | 'u' :: '\x7b' :: rest =>
    match rest.dropWhile (· ≠ '\x7d') with
    | [] => none
    | _ :: after => do
      let digits := (rest.takeWhile (· ≠ '\x7d')).filter (· ≠ '_')
      if digits = [] ∨ 6 < digits.length then none
      else
        let c ← (Hex.value? digits).bind character?
        some ([c], after)
  | '\n' :: rest => some ([], rest.dropWhile isLineBlank)
  | '\r' :: '\n' :: rest => some ([], rest.dropWhile isLineBlank)
  | c :: rest => (simpleEscape? c).map fun escaped => ([escaped], rest)
  | [] => none

/-- Reads up to the closing quote; every step costs one unit of fuel. -/
def readBody : Nat → List Char → Option (List Char)
  | 0, _ => none
  | _, [] => none
  | _, '\x22' :: _ => some []
  | fuel + 1, '\\' :: rest => do
    let (first, rest) ← readEscape rest
    let value ← readBody fuel rest
    some (first ++ value)
  | fuel + 1, '\r' :: '\n' :: rest => (readBody fuel rest).map fun value => '\n' :: value
  | fuel + 1, c :: rest => (readBody fuel rest).map fun value => c :: value

/-- Splits a raw literal at the quote with the right number of hash signs behind it. -/
def splitRaw (hashes : Nat) : List Char → Option (List Char × List Char)
  | [] => none
  | c :: rest =>
    if c = '\x22' ∧ rest.take hashes = List.replicate hashes '#' then some ([], rest.drop hashes)
    else (splitRaw hashes rest).map fun found => (c :: found.1, found.2)

/-- Counts the hash signs of a raw literal whose `r` was read, and returns them with the inside. -/
def rawStart? (text : List Char) : Option (Nat × List Char) :=
  let hashes := (text.takeWhile (· = '#')).length
  match text.drop hashes with
  | '\x22' :: inside => some (hashes, inside)
  | _ => none

def value? : List Char → Option (List Char)
  | '\x22' :: rest => readBody (rest.length + 1) rest
  | 'r' :: rest => do
    let (hashes, inside) ← rawStart? rest
    let (value, _) ← splitRaw hashes inside
    some value
  | _ => none

/-! ## The extent of a literal -/

/-- What follows the closing quote; a character after a backslash closes nothing. -/
def afterQuote : List Char → Option (List Char)
  | [] => none
  | '\\' :: _ :: rest => afterQuote rest
  | c :: rest => if c = '\x22' then some rest else afterQuote rest

def dropSuffix : List Char → List Char
  | [] => []
  | c :: rest => if isNameStart c then rest.dropWhile isNamePart else c :: rest

def rest? : List Char → Option (List Char)
  | '\x22' :: rest => (afterQuote rest).map dropSuffix
  | 'r' :: rest => do
    let (hashes, inside) ← rawStart? rest
    let (_, after) ← splitRaw hashes inside
    some (dropSuffix after)
  | _ => none

/-! ## Writing -/

def escaped (c : Char) : List Char :=
  if c = '\x00' then "\\0".toList
  else if c = '\t' then "\\t".toList
  else if c = '\r' then "\\r".toList
  else if c = '\n' then "\\n".toList
  else if c = '\\' then "\\\\".toList
  else if c = '\x22' then ['\\', '\x22']
  else if isPrintable c then [c]
  else '\\' :: 'u' :: '\x7b' :: Nat.toDigits 16 c.toNat ++ ['\x7d']

def written (value : List Char) : List Char := '\x22' :: value.flatMap escaped ++ ['\x22']

def isOctal (c : Char) : Bool := '0' ≤ c && c ≤ '7'

/-- The inside of a literal made from a note: a NUL before an octal digit is written in two hexadecimal
digits, so that nobody takes the digit for a part of it. -/
def noteBody : List Char → List Char
  | [] => []
  | c :: rest =>
    (if c = '\x00' ∧ rest.head?.any isOctal then "\\x00".toList else escaped c) ++ noteBody rest

def writtenNote (text : List Char) : List Char := '\x22' :: noteBody text ++ ['\x22']

example : (rest? "\"a\\tb\"kind end".toList) = some " end".toList := by decide +kernel

end StringLiteral

end RowFilter.Text

import RowFilter.Text.NumberLiteral

/-! # Tokens of a declaration

A declaration is read as a list of tokens.  Gaps and ordinary comments between tokens leave no trace; a
note becomes the tokens of a documentation attribute.  The spelling of a token is kept as it was written,
so only what stands between tokens is lost. -/

set_option autoImplicit false

namespace RowFilter.Entity

open RowFilter.Text

inductive Token where
  /-- An identifier or a keyword. -/
  | word (text : String)
  /-- A name after an apostrophe. -/
  | lifetime (name : String)
  /-- A string or character literal. -/
  | literal (text : String)
  | number (text : String)
  /-- One character of punctuation; `joint` says that more punctuation follows at once. -/
  | sign (c : Char) (joint : Bool)
  | opening (c : Char)
  | closing (c : Char)
  deriving DecidableEq

namespace Token

def spelling : Token → List Char
  | word text => text.toList
  | lifetime name => '\x27' :: name.toList
  | literal text => text.toList
  | number text => text.toList
  | sign c _ => [c]
  | opening c => [c]
  | closing c => [c]

def spellAll (tokens : List Token) : String := compact (String.ofList (tokens.flatMap spelling))

def stringValue? : Token → Option String
  | literal text => (StringLiteral.value? text.toList).map String.ofList
  | _ => none

def signsOf : List Char → List Token
  | [] => []
  | [c] => [sign c false]
  | c :: rest => sign c true :: signsOf rest

def signs (mark : String) : List Token := signsOf mark.toList

def ofNote (enclosing : Bool) (text : List Char) : List Token :=
  sign '#' false :: (if enclosing then [sign '!' false] else []) ++
    [opening '[', word "doc", sign '=' false, literal (String.ofList (StringLiteral.writtenNote text)),
      closing ']']

/-! ## Reading -/

def bracket? : Char → Option Token
  | ')' => some (closing ')')
  | ']' => some (closing ']')
  | '\x7d' => some (closing '\x7d')
  | '(' => some (opening '(')
  | '[' => some (opening '[')
  | '\x7b' => some (opening '\x7b')
  | _ => none

def consumed (text rest : List Char) : String := String.ofList (text.take (text.length - rest.length))

/-- A string literal, with a letter in front for bytes or for a null at the end. -/
def afterString? : List Char → Option (List Char)
  | 'b' :: inner => StringLiteral.rest? inner
  | 'c' :: inner => StringLiteral.rest? inner
  | text => StringLiteral.rest? text

/-- A character literal without the name that may follow it. -/
def afterApostrophes? : List Char → Option (List Char)
  | '\x27' :: '\\' :: _ :: rest => some ((rest.dropWhile (· ≠ '\x27')).drop 1)
  | '\x27' :: _ :: '\x27' :: rest => some rest
  | _ => none

/-- A character literal, with a letter in front for a byte. -/
def afterCharacter? (text : List Char) : Option (List Char) :=
  let inner := match text with
    | 'b' :: rest => rest
    | _ => text
  (afterApostrophes? inner).map StringLiteral.dropSuffix

/-- The literal that stands for what could not be written. -/
def unwritten : List Char := "(/*ERROR*/)".toList

def afterUnwritten? (text : List Char) : Option (List Char) :=
  if unwritten.isPrefixOf text then some (text.drop unwritten.length) else none

/-- A name, which may be marked as no keyword, and what follows it. -/
def splitName : List Char → List Char × List Char
  | 'r' :: '#' :: c :: rest =>
    if isNameStart c then ('r' :: '#' :: c :: rest.takeWhile isNamePart, rest.dropWhile isNamePart)
    else (['r'], '#' :: c :: rest)
  | text => (text.takeWhile isNamePart, text.dropWhile isNamePart)

/-- Whether a text goes on with punctuation; the start of a comment is none. -/
def startsWithSign : List Char → Bool
  | '/' :: c :: _ => c ≠ '/' && c ≠ '*'
  | c :: _ => "~!@#$%^&*-=+|;:,<.>/?'".toList.contains c
  | [] => false

/-- Reads the token at the front of a text that starts with no gap and no comment. -/
def read (text : List Char) : Token × List Char :=
  match (afterString? text <|> afterCharacter? text <|> afterUnwritten? text), text with
  | some rest, _ => (literal (consumed text rest), rest)
  | none, '\x27' :: rest =>
    let (name, after) := splitName rest
    (lifetime (String.ofList name), after)
  | none, c :: rest =>
    if c.isDigit then
      let (figures, after) := NumberLiteral.split text
      (number (String.ofList figures), after)
    else if isNamePart c then
      let (name, after) := splitName text
      (word (String.ofList name), after)
    else
      match bracket? c with
      | some token => (token, rest)
      | none => (sign c (startsWithSign rest), rest)
  | none, [] => (sign ' ' false, [])

def readAll : Nat → List Char → List Token
  | 0, _ => []
  | _, [] => []
  | fuel + 1, c :: rest =>
    if isGap c then readAll fuel rest
    else
      match Comment.read? (c :: rest) with
      | some (.ordinary, after) => readAll fuel after
      | some (.note enclosing text, after) => ofNote enclosing text ++ readAll fuel after
      | none =>
        let (token, after) := read (c :: rest)
        token :: readAll fuel after

/-- The tokens of a text; a token takes at least one character, so the fuel is enough. -/
def ofText (text : String) : List Token := readAll text.toList.length text.toList

/-! ## Groups -/

/-- Splits behind the bracket that closes the group whose inside starts here. -/
def splitGroup : Nat → List Token → Option (List Token × List Token)
  | _, [] => none
  | 0, closing _ :: rest => some ([], rest)
  | depth + 1, closing c :: rest =>
    (splitGroup depth rest).map fun found => (closing c :: found.1, found.2)
  | depth, opening c :: rest =>
    (splitGroup (depth + 1) rest).map fun found => (opening c :: found.1, found.2)
  | depth, token :: rest => (splitGroup depth rest).map fun found => (token :: found.1, found.2)

example : (ofText "/* c */ \"x\" 'a'").map stringValue? = [some "x", none] := by decide +kernel
example : ofText "a..=1.5" = word "a" :: signs "..=" ++ [number "1.5"] := by decide +kernel

end Token

end RowFilter.Entity

import RowFilter.Text.Character

/-! # Comments and gaps

Two slashes start a comment up to the end of the line; a slash with a star starts one up to the matching
star with a slash, and such comments nest.  A third slash or a second star makes a comment a note that
belongs to what follows it, and an exclamation mark makes it a note on what encloses it.  A fourth slash
or a third star makes it an ordinary comment again. -/

set_option autoImplicit false

namespace RowFilter.Text

/-- Blank between tokens: white space and the two marks of direction. -/
def isGap (c : Char) : Bool := isBlank c || c = '\u200e' || c = '\u200f'

inductive Comment where
  | ordinary
  | note (enclosing : Bool) (text : List Char)
  deriving DecidableEq

namespace Comment

def splitLine : List Char → List Char × List Char
  | [] => ([], [])
  | '\n' :: rest => ([], '\n' :: rest)
  | '\r' :: '\n' :: rest => ([], '\n' :: rest)
  | c :: rest =>
    let (line, after) := splitLine rest
    (c :: line, after)

/-- The inside of a block comment and what follows it; `depth` counts the inner comments still open. -/
def splitBlock : Nat → List Char → Option (List Char × List Char)
  | depth, '/' :: '*' :: rest =>
    (splitBlock (depth + 1) rest).map fun found => ('/' :: '*' :: found.1, found.2)
  | 0, '*' :: '/' :: rest => some ([], rest)
  | depth + 1, '*' :: '/' :: rest =>
    (splitBlock depth rest).map fun found => ('*' :: '/' :: found.1, found.2)
  | depth, c :: rest => (splitBlock depth rest).map fun found => (c :: found.1, found.2)
  | _, [] => none

def ofLine : List Char → Comment
  | '!' :: text => note true text
  | '/' :: '/' :: _ => ordinary
  | '/' :: text => note false text
  | _ => ordinary

/-- A block comment; a star that is already part of its end starts no note. -/
def ofBlock (start inside : List Char) : Comment :=
  match start, inside with
  | _, '!' :: text => note true text
  | '*' :: '*' :: _, _ => ordinary
  | _, '*' :: text => note false text
  | _, _ => ordinary

def read? : List Char → Option (Comment × List Char)
  | '/' :: '/' :: rest =>
    let (line, after) := splitLine rest
    some (ofLine line, after)
  | '/' :: '*' :: rest => (splitBlock 0 rest).map fun found => (ofBlock rest found.1, found.2)
  | _ => none

example : read? "/* a /* b */ c */ d".toList = some (ordinary, " d".toList) := by decide +kernel
example : read? "/// a\nb".toList = some (note false " a".toList, "\nb".toList) := by decide +kernel

end Comment

end RowFilter.Text

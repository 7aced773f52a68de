import RowFilter.Entity.Attribute
import RowFilter.Entity.Rule.Type

/-! # Patterns

Patterns are written back as they were read, up to the paths, numbered fields and three-dot ranges in
them.  A range with one end, a pattern behind a type in angle brackets, a constant block and fields whose
rest has attributes stay as they are. -/

set_option autoImplicit false

namespace RowFilter.Entity.Rule

open Reading

/-! ## Ranges and fields -/

/-- The mark of a range; three dots mean that the end belongs to it. -/
def rangeMark : Reading (List Token) :=
  firstOf [
    (Ahead.sign "..=", sign "..="),
    (Ahead.sign "...", do
      let _ ← sign "..."
      return Token.signs "..="),
    (Ahead.sign "..", sign "..")]

def fieldNumber? (text : List Char) : Option Token :=
  (Text.NumberLiteral.value? text).map fun value => .number (String.ofList (Text.Decimal.numeral value))

def field : Reading (List Token) := do
  match ← get with
  | .number text :: rest =>
    match fieldNumber? text.toList with
    | some written =>
      set rest
      return [written]
    | none => failure
  | _ => name

variable (again : Reader)

def alternatives : Reading Written := do
  let leading ← optionalSign "|"
  let first ← again .pattern
  let bar := Ahead.all [Ahead.sign "|", Ahead.no (Ahead.sign "||"), Ahead.no (Ahead.sign "|=")]
  let more ← many bar (inOrder [sign "|", (again .pattern).tokens])
  if leading = [] ∧ more = [] then return first
  return ⟨leading ++ first.tokens ++ more, .plain⟩

def patterns : Reading (List Token) := listed "," Ahead.finished (alternatives again)

/-! ## Ends of ranges -/

def constantBlock : Reading (List Token) := inOrder [word "const", wholeGroup]

def endsPattern : Ahead.Test :=
  Ahead.any [Ahead.finished, Ahead.sign "|", Ahead.sign "=", Ahead.colon, Ahead.sign ",", Ahead.sign ";",
    Ahead.word "if"]

/-- A literal, a path or a constant block, maybe negated; a constant block alone is kept. -/
def rangeEnd : Reading Written := do
  let minus ← optionalSign "-"
  let found ← firstOf [
    (Ahead.literal, plain one),
    (Ahead.word "const", kept constantBlock),
    (Ahead.always, return ⟨(← path again .expression).tokens, .plain⟩)]
  return ⟨minus ++ found.tokens, if minus = [] then found.kind else .plain⟩

/-- What follows the first end of a range that started with these tokens. -/
def rangeFrom (before : List Token) (first : List Token) : Reading Written := do
  let mark ← rangeMark
  if endsPattern (← get) then return ⟨before.take (before.length - (← get).length), .kept⟩
  let last ← rangeEnd again
  return ⟨first ++ mark ++ last.tokens, .plain⟩

def literalPattern : Reading Written := do
  let before ← get
  let first ← rangeEnd again
  if Ahead.sign ".." (← get) then rangeFrom again before first.tokens else return first

/-! ## Paths with patterns behind them -/

def fieldPattern : Reading (List Token) := do
  let first ← inOrder [attributes, optionalWord "box", optionalWord "ref", optionalWord "mut"]
  let found ← field
  if Ahead.colon (← get) then
    return first ++ found ++ (← inOrder [sign ":", (alternatives again).tokens])
  else return first ++ found

/-- Fields in braces; the kind tells whether their rest has attributes. -/
def fieldPatternsUpTo : Nat → Reading Written
  | 0 => return ⟨[], .plain⟩
  | fuel + 1 => do
    if Ahead.finished (← get) then return ⟨[], .plain⟩
    let ahead ← get
    let rest := Ahead.sign ".." (afterAttributes ahead)
    let next ← if rest then inOrder [attributes, sign ".."] else fieldPattern again
    let comma ← optionalSign ","
    if comma = [] ∨ rest then
      return ⟨next ++ comma, if rest ∧ Ahead.sign "#" ahead then .kept else .plain⟩
    let more ← fieldPatternsUpTo fuel
    return { more with tokens := next ++ comma ++ more.tokens }

def inBraces : Reading Written := do
  let first ← expect Ahead.braces
  let found ← fieldPatternsUpTo again (← get).length
  let last ← expect Ahead.finished
  return { found with tokens := first ++ found.tokens ++ last }

def pathPattern : Reading Written := do
  let before ← get
  let found ← path again .expression
  let ahead ← get
  if !found.qualified && found.simple && opensMacro ahead then
    return ⟨found.tokens ++ (← inOrder [sign "!", wholeGroup]), .plain⟩
  if Ahead.sign ".." ahead then rangeFrom again before found.tokens
  else
    let more ← firstOf [
      (Ahead.braces, inBraces again),
      (Ahead.parentheses, plain (parentheses (patterns again))),
      (Ahead.always, plain nothing)]
    if more.kind = .kept ∨ (found.qualified ∧ more.tokens ≠ []) then
      return ⟨before.take (before.length - (← get).length), .kept⟩
    return ⟨found.tokens ++ more.tokens, .plain⟩

/-! ## All patterns -/

def opensPath : Ahead.Test :=
  Ahead.any [
    Ahead.all [Ahead.name, Ahead.after 1 (Ahead.any [Ahead.sign "::", Ahead.sign "!", Ahead.braces,
      Ahead.parentheses, Ahead.sign ".."])],
    Ahead.all [Ahead.word "self", Ahead.after 1 (Ahead.sign "::")],
    Ahead.sign "::", Ahead.sign "<", Ahead.word "Self", Ahead.word "super", Ahead.word "crate"]

def namePattern : Reading (List Token) :=
  inOrder [optionalWord "ref", optionalWord "mut", expect Ahead.anyWord,
    whenAhead (Ahead.sign "@") (inOrder [sign "@", (again .pattern).tokens])]

/-- Two dots alone, or a range without a first end. -/
def openRange : Reading Written := do
  let before ← get
  let mark ← rangeMark
  if endsPattern (← get) then return ⟨mark, .plain⟩
  let _ ← rangeEnd again
  return ⟨before.take (before.length - (← get).length), .kept⟩

def pattern : Reading Written :=
  firstOf [
    (opensPath, pathPattern again),
    (Ahead.word "_", plain one),
    (Ahead.word "box", plain (inOrder [one, (again .pattern).tokens])),
    (Ahead.any [Ahead.sign "-", Ahead.literal, Ahead.word "const"], literalPattern again),
    (Ahead.any [Ahead.word "ref", Ahead.word "mut", Ahead.word "self", Ahead.name],
      plain (namePattern again)),
    (Ahead.sign "&", plain (inOrder [sign "&", optionalWord "mut", (again .pattern).tokens])),
    (Ahead.parentheses, plain (parentheses (patterns again))),
    (Ahead.brackets, plain (brackets (patterns again))),
    (Ahead.sign "..", openRange again)]

end RowFilter.Entity.Rule

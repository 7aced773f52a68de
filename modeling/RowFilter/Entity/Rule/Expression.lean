import RowFilter.Entity.Rule.Pattern

/-! # Expressions

An expression is a chain of operands with operators between them.  It is written back as it was read, up
to the types, patterns, numbered fields and three-dot ranges in it.  A raw reference, a function with
lifetimes of its own, a constant block, fields behind a type in angle brackets and a lone underscore stay
as they are; attributes in front of an expression that is kept are lost where it starts a statement. -/

set_option autoImplicit false

namespace RowFilter.Entity.Rule

open Reading

variable (again : Reader)

def expressions : Reading (List Token) := listed "," Ahead.finished again.expression

def labelled (step : Reading (List Token)) : Reading (List Token) := inOrder [lifetime, sign ":", step]

/-! ## Behind an operand -/

/-- The numbers of fields that look like one number with a point. -/
def nestedFields (parts : List String) : Option (List Token) :=
  match parts with
  | [] => some []
  | [part] => (fieldNumber? part.toList).map fun number => [number]
  | part :: rest => do
    let number ← fieldNumber? part.toList
    let more ← nestedFields rest
    some (number :: .sign '.' false :: more)

/-- One or two numbered fields in a number with a point, and whether a point at the end asks for more. -/
def pointedFields : Reading (List Token × Bool) := do
  match ← get with
  | .number text :: rest =>
    let parts := (text.splitOn ".").filter (· ≠ "")
    match nestedFields parts with
    | some found =>
      set rest
      let unfinished := text.endsWith "."
      return (if unfinished then found ++ Token.signs "." else found, unfinished)
    | none => failure
  | _ => return ([], true)

def isPointed : Ahead.Test
  | .number text :: _ => text.toList.contains '.'
  | _ => false

def methodArgument : Reading Written :=
  firstOf [(isConstant, plain (constant again)), (Ahead.always, again.type)]

def member : Reading (List Token) := do
  let (first, unfinished) ← if isPointed (← get) then pointedFields else pure ([], true)
  if !unfinished then return first
  if Ahead.word "await" (← get) then return first ++ (← one)
  let found ← field
  let supplied ← whenAhead (Ahead.sign "::") (inOrder [sign "::", sign "<",
    listed "," (Ahead.sign ">") (methodArgument again), sign ">"])
  return first ++ found ++ supplied

def opensMember : Ahead.Test := Ahead.all [Ahead.sign ".", Ahead.no (Ahead.sign "..")]

def startsTrailer : Ahead.Test :=
  Ahead.any [Ahead.parentheses, opensMember, Ahead.brackets, Ahead.sign "?"]

def trailers : Reading (List Token) :=
  many startsTrailer (firstOf [
    (Ahead.parentheses, parentheses (expressions again)),
    (Ahead.brackets, brackets again.expression.tokens),
    (Ahead.sign "?", sign "?"),
    (Ahead.always, inOrder [sign ".", member again])])

def withTrailers (found : Written) : Reading Written := do
  let more ← trailers again
  return if more = [] then found else ⟨found.tokens ++ more, .plain⟩

/-! ## Operators -/

def assignments : List String := ["+=", "-=", "*=", "/=", "%=", "^=", "&=", "|=", "<<=", ">>="]

def logical : List String := ["&&", "||"]

def others : List String :=
  ["<<", ">>", "==", "<=", "!=", ">=", "+", "-", "*", "/", "%", "^", "&", "|", "<", ">", "="]

def operator? (tokens : List Token) : Option String :=
  if Ahead.sign "=>" tokens then none
  else (assignments ++ logical ++ others).find? fun mark => Ahead.sign mark tokens

def isAssignment (mark : String) : Bool := mark = "=" || assignments.contains mark

def endsExpression : Ahead.Test := Ahead.any [Ahead.finished, Ahead.sign ",", Ahead.sign ";"]

def endsRange (braced : Bool) : Ahead.Test :=
  Ahead.any [endsExpression, opensMember, fun tokens => !braced && Ahead.braces tokens]

/-- The first operand is alone so far, or operators with or without an assignment were read. -/
inductive Stage where
  | alone
  | chained
  | assigned
  deriving DecidableEq

/-- Reads on from a chain of operands; each operator costs one unit of fuel.  `tight` chains end in front
of logical operators, ranges and assignments.  The chain is kept as long as what it starts with is the
left side of operators and assignments only. -/
def chainFrom (braced tight : Bool) : Nat → Stage → Written → Reading Written
  | 0, _, left => return left
  | fuel + 1, stage, left => do
    let ahead ← get
    match operator? ahead with
    | some mark =>
      if tight && (isAssignment mark || logical.contains mark) then return left
      let found ← sign mark
      let right ← again (.operand braced)
      let stage := if stage = .assigned ∨ isAssignment mark then .assigned else .chained
      chainFrom braced tight fuel stage ⟨left.tokens ++ found ++ right.tokens, left.kind⟩
    | none =>
      if !tight && Ahead.sign ".." ahead then
        let found ← rangeMark
        let right ← if endsRange braced (← get) then nothing else (again (.operand braced)).tokens
        chainFrom braced tight fuel (if stage = .assigned then .assigned else .chained)
          ⟨left.tokens ++ found ++ right, if stage = .assigned then left.kind else .plain⟩
      else if Ahead.word "as" ahead || Ahead.colon ahead then
        let found ← one
        let type ← again.tightType
        chainFrom braced tight fuel (if stage = .alone then .chained else stage)
          ⟨left.tokens ++ found ++ type.tokens, if stage = .alone then .plain else left.kind⟩
      else return left

def chain (braced tight : Bool) (first : Written) : Reading Written := do
  chainFrom again braced tight (← get).length .alone first

def expression (braced : Bool) : Reading Written := do
  chain again braced false (← again (.operand braced))

/-! ## Blocks -/

def block : Reading (List Token) := again.block

def head : Reading (List Token) := (again (.expression false)).tokens

def conditional : Reading (List Token) :=
  inOrder [word "if", head again, block again,
    whenAhead (Ahead.word "else") (inOrder [one,
      firstOf [(Ahead.word "if", (again .conditional).tokens), (Ahead.always, block again)]])]

def whileLoop : Reading (List Token) := inOrder [word "while", head again, block again]

def forLoop : Reading (List Token) :=
  inOrder [word "for", (alternatives again).tokens, word "in", head again, block again]

def endlessLoop : Reading (List Token) := inOrder [word "loop", block again]

def labelledBlock : Reading (List Token) :=
  labelled (firstOf [
    (Ahead.word "while", whileLoop again),
    (Ahead.word "for", forLoop again),
    (Ahead.word "loop", endlessLoop again),
    (Ahead.always, block again)])

/-! ## Functions in place -/

def opensBinder : Ahead.Test :=
  Ahead.all [Ahead.word "for", Ahead.after 1 (Ahead.sign "<"),
    Ahead.after 2 (Ahead.any [Ahead.lifetime, Ahead.sign ">"])]

/-- An input, which loses its attributes if its pattern is kept and has no type. -/
def closureInput : Reading Written := do
  let first ← attributes
  let found ← again .pattern
  if Ahead.sign ":" (← get) then
    plain (return first ++ found.tokens ++ (← inOrder [sign ":", again.type.tokens]))
  else return ⟨if found.kind = .kept then found.tokens else first ++ found.tokens, .plain⟩

def closure (braced : Bool) : Reading (List Token) :=
  inOrder [optionalWord "static", optionalWord "async", optionalWord "move", sign "|",
    listed "," (Ahead.sign "|") (closureInput again), sign "|",
    firstOf [
      (Ahead.sign "->", inOrder [(output again true).tokens, block again]),
      (Ahead.always, (again (.expression braced)).tokens)]]

/-! ## Names with fields -/

def fieldValue : Reading (List Token) := do
  let first ← inOrder [attributes, field]
  return first ++ (← whenAhead (Ahead.sign ":") (inOrder [sign ":", again.expression.tokens]))

def fieldValuesUpTo : Nat → Reading (List Token)
  | 0 => nothing
  | fuel + 1 => do
    if Ahead.finished (← get) then nothing
    else if Ahead.sign ".." (← get) then
      let rest ← sign ".."
      return rest ++ (← whenAhead (Ahead.no Ahead.finished) again.expression.tokens)
    else
      let next ← fieldValue again
      let comma ← optionalSign ","
      if comma = [] then return next
      return next ++ comma ++ (← fieldValuesUpTo fuel)

def fieldValues : Reading (List Token) := do
  fieldValuesUpTo again (← get).length

def namedValue (braced : Bool) : Reading Written := do
  let before ← get
  let found ← path again .expression
  let ahead ← get
  if !found.qualified && found.simple && opensMacro ahead then
    return ⟨found.tokens ++ (← inOrder [sign "!", wholeGroup]), .plain⟩
  if braced && Ahead.braces ahead then
    let fields ← braces (fieldValues again)
    if found.qualified then return ⟨before.take (before.length - (← get).length), .kept⟩
    return ⟨found.tokens ++ fields, .plain⟩
  return ⟨found.tokens, .plain⟩

/-! ## Choices by pattern -/

def arm : Reading (List Token) :=
  inOrder [attributes, (alternatives again).tokens,
    whenAhead (Ahead.word "if") (inOrder [one, again.expression.tokens]),
    sign "=>", (again .leading).tokens, optionalSign ","]

def choice : Reading (List Token) :=
  inOrder [word "match", head again,
    braces (inOrder [innerAttributes, many (Ahead.no Ahead.finished) (arm again)])]

/-! ## Operands -/

def matching : Reading (List Token) := do
  let first ← inOrder [word "let", (alternatives again).tokens, sign "="]
  let found ← chain again false true (← again (.operand false))
  return first ++ found.tokens

def inSquareBrackets : Reading (List Token) :=
  brackets (inOrder [expressions again,
    whenAhead (Ahead.sign ";") (inOrder [sign ";", again.expression.tokens])])

def opensClosure : Ahead.Test :=
  Ahead.any [Ahead.sign "|", Ahead.word "move", Ahead.word "static",
    Ahead.all [Ahead.word "async",
      Ahead.after 1 (Ahead.any [Ahead.sign "|", Ahead.all [Ahead.word "move", Ahead.after 1 (Ahead.sign "|")]])]]

def opensName : Ahead.Test :=
  Ahead.any [Ahead.name, Ahead.sign "::", Ahead.sign "<", Ahead.pathWord,
    Ahead.all [Ahead.word "try", Ahead.after 1 (Ahead.any [Ahead.sign "!", Ahead.sign "::"])]]

/-- An operand without signs in front and without anything behind. -/
def atom (braced : Bool) : Reading Written :=
  let endsBreak := Ahead.any [endsExpression, fun tokens => !braced && Ahead.braces tokens]
  firstOf [
    (Ahead.literal, plain one),
    (Ahead.all [Ahead.word "async", Ahead.no opensClosure],
      plain (inOrder [one, optionalWord "move", block again])),
    (Ahead.all [Ahead.word "try", Ahead.after 1 Ahead.braces], plain (inOrder [one, block again])),
    (opensClosure, plain (closure again braced)),
    (opensBinder, kept (inOrder [binder, closure again braced])),
    (opensName, namedValue again braced),
    (Ahead.parentheses, plain (parentheses (expressions again))),
    (Ahead.word "break", plain (inOrder [one, whenAhead Ahead.lifetime one,
      whenAhead (Ahead.no endsBreak) (again (.expression braced)).tokens])),
    (Ahead.word "continue", plain (inOrder [one, whenAhead Ahead.lifetime one])),
    (Ahead.word "return", plain (inOrder [one,
      whenAhead (Ahead.no endsExpression) (again (.expression braced)).tokens])),
    (Ahead.brackets, plain (inSquareBrackets again)),
    (Ahead.word "let", plain (matching again)),
    (Ahead.word "if", plain (conditional again)),
    (Ahead.word "while", plain (whileLoop again)),
    (Ahead.word "for", plain (forLoop again)),
    (Ahead.word "loop", plain (endlessLoop again)),
    (Ahead.word "match", plain (choice again)),
    (Ahead.word "yield", plain (inOrder [one,
      whenAhead (Ahead.no endsExpression) again.expression.tokens])),
    (Ahead.word "unsafe", plain (inOrder [one, block again])),
    (Ahead.word "const", kept constantBlock),
    (Ahead.braces, plain (block again)),
    (Ahead.sign "..", plain (inOrder [rangeMark,
      whenAhead (Ahead.no (endsRange braced)) (again (.expression braced)).tokens])),
    (Ahead.word "_", kept one),
    (Ahead.lifetime, plain (labelledBlock again))]

def operand (braced : Bool) : Reading Written := do
  let before ← get
  let first ← attributes
  let ahead ← get
  let next := again (.operand braced)
  if Ahead.sign "&" ahead then
    let raw := Ahead.all [Ahead.word "raw", Ahead.after 1 (Ahead.any [Ahead.word "mut", Ahead.word "const"])]
    let mark ← sign "&"
    if raw (← get) then
      let _ ← take 2
      let _ ← next
      return ⟨before.take (before.length - (← get).length), .kept⟩
    let mutable ← optionalWord "mut"
    return ⟨first ++ mark ++ mutable ++ (← next).tokens, .plain⟩
  else if Ahead.any [Ahead.word "box", Ahead.sign "*", Ahead.sign "!", Ahead.sign "-"] ahead then
    let mark ← one
    return ⟨first ++ mark ++ (← next).tokens, .plain⟩
  else
    let found ← withTrailers again (← atom again braced)
    return { found with tokens := first ++ found.tokens }

/-! ## Expressions that come first -/

def startsBlock : Ahead.Test :=
  Ahead.any [Ahead.word "if", Ahead.word "while",
    Ahead.all [Ahead.word "for", Ahead.no opensBinder], Ahead.word "loop", Ahead.word "match",
    Ahead.all [Ahead.word "try", Ahead.after 1 Ahead.braces], Ahead.word "unsafe",
    Ahead.all [Ahead.word "const", Ahead.after 1 Ahead.braces], Ahead.braces]

/-- What comes first in a statement or behind an arrow.  A block ends it, unless a member or a question
mark follows; attributes in front of something kept are lost. -/
def leading : Reading Written := do
  let before ← attributes
  let attached (found : Written) : Written :=
    if found.kind = .kept then found else { found with tokens := before ++ found.tokens }
  if startsBlock (← get) then
    let found ← atom again true
    if Ahead.any [opensMember, Ahead.sign "?"] (← get) then
      chain again true false (attached (← withTrailers again found))
    else return attached found
  else chain again true false (attached (← again (.operand true)))

end RowFilter.Entity.Rule

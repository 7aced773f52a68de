import RowFilter.Entity.Rule.Item

/-! # The text of a type

Statements are the last forms that can stand inside a type.  With their rules, the rules of all forms are tied
together; they read a type and say how it is written.  A text that is no type is left as it is, without white
space. -/

set_option autoImplicit false

namespace RowFilter.Entity.Rule

/-! ## Statements

A block holds statements.  A binding with another way out stays as it is; attributes in front of an item or an
expression that is kept are lost. -/

open Reading

variable (again : Reader)

/-- A macro call that is a statement of its own: its braces end it, or a name stands in front of them. -/
def opensCall : Ahead.Test :=
  behind (inOrder [modulePath, sign "!"]) (Ahead.any [
    Ahead.all [Ahead.braces,
      Ahead.no (Ahead.behindGroup (Ahead.any [Ahead.sign ".", Ahead.sign "?"]))],
    Ahead.name])

def binding (before : List Token) : Reading (List Token) := do
  let first ← inOrder [attributes, word "let", (alternatives again).tokens,
    whenAhead (Ahead.sign ":") (typed again)]
  let value ← whenAhead (Ahead.sign "=") (valued again)
  if Ahead.word "else" (← get) then
    let _ ← inOrder [one, wholeGroup]
    let whole := before.take (before.length - (← get).length)
    return whole ++ (← sign ";")
  return first ++ value ++ (← sign ";")

def opensItem : Ahead.Test :=
  Ahead.any [Ahead.word "pub", Ahead.all [Ahead.word "crate", Ahead.no (Ahead.after 1 (Ahead.sign "::"))],
    Ahead.word "extern", Ahead.word "use",
    Ahead.all [Ahead.word "static", Ahead.after 1 (Ahead.any [Ahead.word "mut", Ahead.name])],
    Ahead.all [Ahead.word "const", Ahead.no (Ahead.after 1 Ahead.braces)],
    Ahead.all [Ahead.word "unsafe", Ahead.no (Ahead.after 1 Ahead.braces)],
    Ahead.all [Ahead.word "async",
      Ahead.after 1 (Ahead.any [Ahead.word "unsafe", Ahead.word "extern", Ahead.word "fn"])],
    Ahead.word "fn", Ahead.word "mod", Ahead.word "type",
    Ahead.all [Ahead.word "existential", Ahead.after 1 (Ahead.word "type")],
    Ahead.word "struct", Ahead.word "enum", Ahead.all [Ahead.word "union", Ahead.after 1 Ahead.name],
    opensTrait,
    Ahead.all [Ahead.word "default", Ahead.after 1 (Ahead.any [Ahead.word "unsafe", Ahead.word "impl"])],
    Ahead.word "impl", Ahead.word "macro"]

def statement : Reading (List Token) := do
  let before ← get
  if Ahead.sign ";" before then return ← sign ";"
  let behindAttributes := afterAttributes before
  if Ahead.word "let" behindAttributes then return ← binding again before
  let first ← attributes
  let attached (found : Written) : List Token :=
    if found.kind = .kept then found.tokens else first ++ found.tokens
  firstOf [
    (opensCall, return first ++ (← macroCall)),
    (opensItem, return attached (← again .item)),
    (Ahead.always, return attached (← again .leading) ++ (← optionalSign ";"))]

def body : Reading (List Token) :=
  inOrder [innerAttributes, many (Ahead.no Ahead.finished) (statement again)]

end RowFilter.Entity.Rule

namespace RowFilter.Entity.TypeText

/-! ## All forms together -/

/-- Reads a form; each form inside another costs one unit of fuel. -/
def read : Nat → Reader
  | 0, _ => failure
  | fuel + 1, form =>
    let again := read fuel
    match form with
    | .type plus => Rule.type again plus
    | .expression braced => Rule.expression again braced
    | .operand braced => Rule.operand again braced
    | .leading => Rule.leading again
    | .conditional => Reading.plain (Rule.conditional again)
    | .bound => Rule.bound again
    | .pattern => Rule.pattern again
    | .body => Reading.plain (Rule.body again)
    | .item => Rule.item again

/-- A text that is nested more than four times as deeply as it has tokens is left as it is. -/
def normal (tokens : List Token) : List Token :=
  match (read (4 * tokens.length + 4) (.type true)).run tokens with
  | some (found, []) => found.tokens
  | _ => tokens

def normalized (text : String) : String := Token.spellAll (normal (Token.ofText text))

example : normalized "Foo<Bar<T, 'a>, 'b>" = "Foo<'b,Bar<'a,T,>,>" := by decide +kernel

example : normalized "Foo<> :: (u8)" = "Foo(u8)" := by decide +kernel
example : normalized "dyn* Foo<T, 'a>" = "dyn*Foo<T,'a>" := by decide +kernel
example : normalized "[u8; a.0_1]" = "[u8;a.1]" := by decide +kernel

end RowFilter.Entity.TypeText

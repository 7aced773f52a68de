import RowFilter.Entity.Rule.Path

/-! # Types

A type is written back as it was read, up to the paths in it.  A sum of bounds may be marked by a word, or
start with a lifetime or with a path.  A sum marked by a word and a star, and a function with a changeable
receiver, stay as they are. -/

set_option autoImplicit false

namespace RowFilter.Entity.Rule

open Reading

variable (again : Reader)

/-! ## Sums of bounds -/

def startsBound : Ahead.Test :=
  Ahead.any [Ahead.anyWord, Ahead.sign "::", Ahead.sign "?", Ahead.lifetime, Ahead.parentheses]

/-- Bounds with a plus behind each but maybe the last; each costs one unit of fuel. -/
def boundsUpTo (start : Ahead.Test) : Nat → Reading (List Token)
  | 0 => nothing
  | fuel + 1 => do
    let plus ← optionalSign "+"
    if plus = [] then nothing
    else if start (← get) then
      let next ← again.bound.tokens
      return plus ++ next ++ (← boundsUpTo start fuel)
    else return plus

def furtherBounds (start : Ahead.Test) : Reading (List Token) := do
  boundsUpTo again start (← get).length

def bounds (plus : Bool) : Reading (List Token) := do
  let first ← again.bound.tokens
  if plus then
    return first ++ (← furtherBounds again (Ahead.any [startsBound, Ahead.sign "~"]))
  else return first

/-! ## Types in brackets -/

/-- What stands in parentheses where a type is expected. -/
inductive Enclosed where
  | tuple
  | single
  | relaxedBound

def enclosed : Reading (List Token × Enclosed) := do
  let first ← expect Ahead.parentheses
  let ahead ← get
  let (inside, kind) ←
    if Ahead.finished ahead then pure ([], .tuple)
    else if Ahead.lifetime ahead then pure (← bounds again true, .single)
    else if Ahead.sign "?" ahead then pure (← traitBound again, .relaxedBound)
    else
      let type ← again.type.tokens
      let comma ← optionalSign ","
      if comma = [] then pure (type, Enclosed.single)
      else pure (type ++ comma ++ (← listed "," Ahead.finished again.type), .tuple)
  let last ← expect Ahead.finished
  return (first ++ inside ++ last, kind)

def inBrackets (plus : Bool) : Reading Written := do
  let (first, kind) ← enclosed again
  match kind with
  | .tuple => return ⟨first, .plain⟩
  | .single =>
    let more ← if plus then furtherBounds again Ahead.always else nothing
    return ⟨first ++ more, if more = [] then .parenthesized else .plain⟩
  | .relaxedBound => return ⟨first ++ (← furtherBounds again Ahead.always), .plain⟩

def sequence : Reading (List Token) :=
  brackets (inOrder [
    again.type.tokens,
    whenAhead (Ahead.sign ";") (inOrder [sign ";", again.expression.tokens])])

/-! ## Functions -/

def convention : Reading (List Token) :=
  whenAhead (Ahead.word "extern") (inOrder [one, whenAhead Ahead.quoted one])

def opensReceiver : Ahead.Test :=
  Ahead.all [Ahead.word "mut", Ahead.after 1 (Ahead.word "self"), Ahead.after 2 Ahead.colon]

def opensNamedInput : Ahead.Test :=
  Ahead.all [Ahead.any [Ahead.name, Ahead.word "_", Ahead.word "self"], Ahead.after 1 Ahead.colon]

def dotsOrType : Reading (List Token) :=
  firstOf [(Ahead.sign "...", sign "..."), (Ahead.always, again.type.tokens)]

/-- An input of a function type; its kind tells a changeable receiver from the others. -/
def input : Reading Written := do
  let before ← attributes
  let ahead ← get
  let name ←
    if opensReceiver ahead then take 3
    else if opensNamedInput ahead then take 2
    else nothing
  let type ← dotsOrType again
  return ⟨before ++ name ++ type, if opensReceiver ahead then .kept else .plain⟩

def function : Reading Written := do
  let before ← get
  let first ← inOrder [optionalBinder, optionalWord "unsafe", convention, word "fn"]
  let opening ← expect Ahead.parentheses
  let inputs ← elements "," Ahead.finished (input again)
  let closing ← expect Ahead.finished
  let result ← output again false
  if inputs.any fun input => decide (input.written.kind = .kept) then
    return ⟨before.take (before.length - (← get).length), .kept⟩
  return ⟨first ++ opening ++ inputs.flatMap Element.tokens ++ closing ++ result.tokens, .plain⟩

/-! ## Paths, macros and sums -/

def opensMacro : Ahead.Test := Ahead.all [Ahead.sign "!", Ahead.no (Ahead.sign "!=")]

/-- A type that starts with a path; the lifetimes that a macro call brings along are lost. -/
def named (plus : Bool) : Reading Written := do
  let binder ← optionalBinder
  let path ← typePath again
  if path.qualified then return ⟨path.tokens, .plain⟩
  let ahead ← get
  if path.simple && opensMacro ahead then
    return ⟨path.tokens ++ (← inOrder [sign "!", wholeGroup]), .plain⟩
  let more ← if plus then furtherBounds again startsBound else nothing
  let kind := if binder = [] ∧ more = [] then path.kind else .plain
  return ⟨binder ++ path.tokens ++ more, kind⟩

/-- A sum of bounds marked by a word; with a star behind the word it is kept. -/
def marked (plus : Bool) : Reading Written := do
  if Ahead.after 1 (Ahead.sign "*") (← get) then
    kept (do
      let _ ← take 2
      bounds again plus)
  else plain (inOrder [one, bounds again plus])

/-! ## All types -/

def opensFunction : Ahead.Test :=
  Ahead.any [Ahead.word "fn", Ahead.word "unsafe", Ahead.word "extern"]

def opensBoundFunction (tokens : List Token) : Bool :=
  match (binder.run tokens) with
  | some (_, rest) => opensFunction rest
  | none => false

def type (plus : Bool) : Reading Written :=
  firstOf [
    (Ahead.all [Ahead.word "for", opensBoundFunction], function again),
    (Ahead.word "for", named again plus),
    (Ahead.parentheses, inBrackets again plus),
    (opensFunction, function again),
    (Ahead.word "dyn", marked again plus),
    (Ahead.any [Ahead.name, Ahead.pathWord, Ahead.sign "::", Ahead.sign "<"], named again plus),
    (Ahead.brackets, plain (sequence again)),
    (Ahead.sign "*", plain (inOrder [sign "*",
      expect (Ahead.any [Ahead.word "const", Ahead.word "mut"]), again.tightType.tokens])),
    (Ahead.sign "&", plain (inOrder [sign "&", whenAhead Ahead.lifetime one, optionalWord "mut",
      again.tightType.tokens])),
    (Ahead.sign "!", plain (sign "!")),
    (Ahead.word "impl", plain (inOrder [one, bounds again plus])),
    (Ahead.word "_", plain one),
    (Ahead.lifetime, plain (bounds again true))]

end RowFilter.Entity.Rule

import RowFilter.Entity.Rule.Type

/-! # Generic parameters

Parameters in angle brackets, with the lifetimes first, and the conditions on them.  Empty brackets, an
empty list of conditions and the colon of a parameter without bounds are left out. -/

set_option autoImplicit false

namespace RowFilter.Entity.Rule

open Reading

variable (again : Reader)

/-- A bound of a parameter that may hold in constants only sometimes; such bounds are kept. -/
def opensConditional : Ahead.Test := Ahead.all [Ahead.sign "~", Ahead.after 1 (Ahead.word "const")]

def parameterBoundsUpTo : Nat → Reading (List Token × Bool)
  | 0 => return ([], false)
  | fuel + 1 => do
    let ahead ← get
    if Ahead.any [Ahead.sign ",", Ahead.sign ">", Ahead.sign "="] ahead then return ([], false)
    let next ← again.bound.tokens
    let plus ← optionalSign "+"
    if plus = [] then return (next, opensConditional ahead)
    let (more, conditional) ← parameterBoundsUpTo fuel
    return (next ++ plus ++ more, conditional || opensConditional ahead)

def typeParameter : Reading (List Token) := do
  let first ← name
  let colon ← optionalSign ":"
  let before ← get
  let (found, conditional) ← if colon = [] then pure ([], false)
    else parameterBoundsUpTo again before.length
  let default ← whenAhead (Ahead.sign "=") (inOrder [sign "=", again.type.tokens])
  if conditional then
    return first ++ colon ++ before.take (before.length - (← get).length)
  return first ++ (if found = [] then [] else colon ++ found) ++ default

def constantParameter : Reading (List Token) :=
  inOrder [word "const", name, sign ":", again.type.tokens,
    whenAhead (Ahead.sign "=") (inOrder [sign "=", constant again])]

def parameter : Reading Written := do
  let before ← attributes
  let found ← firstOf [
    (Ahead.lifetime, return ⟨← lifetimeParameter, Kind.lifetime⟩),
    (Ahead.word "const", plain (constantParameter again)),
    (Ahead.word "_", plain one),
    (Ahead.always, plain (typeParameter again))]
  return { found with tokens := before ++ found.tokens }

def parameters : Reading (List Token) := do
  if Ahead.sign "<" (← get) then
    let first ← sign "<"
    let found ← elements "," (Ahead.sign ">") (parameter again)
    let last ← sign ">"
    return if found.isEmpty then [] else first ++ lifetimesFirst found ++ last
  else nothing

/-! ## Conditions -/

def endsConditions : Ahead.Test :=
  Ahead.any [Ahead.finished, Ahead.braces, Ahead.sign ",", Ahead.sign ";", Ahead.colon, Ahead.sign "="]

def condition : Reading Written := do
  let ahead ← get
  if Ahead.all [Ahead.lifetime, Ahead.after 1 (Ahead.sign ":")] ahead then
    plain (inOrder [lifetime, sign ":", listed "+" endsConditions (plain lifetime)])
  else
    plain (inOrder [optionalBinder, again.type.tokens, sign ":",
      listed "+" endsConditions again.bound])

def conditions : Reading (List Token) := do
  if Ahead.word "where" (← get) then
    let first ← one
    let found ← listed "," endsConditions (condition again)
    return if found = [] then [] else first ++ found
  else nothing

end RowFilter.Entity.Rule

import RowFilter.Entity.Reading

/-! # Paths

A path is a list of names with double colons between them, each with generic arguments or not.  Where a
type is expected an angle bracket opens arguments by itself; in an expression it needs a double colon in
front.  Lifetimes are written before the other arguments, each with the comma it had, and a comma is added
where one argument would follow another without.  Empty arguments give way to arguments in parentheses. -/

set_option autoImplicit false

namespace RowFilter.Entity

open Reading

/-- Whether an angle bracket opens arguments by itself. -/
inductive Place where
  | type
  | expression
  deriving DecidableEq

inductive Supplied where
  | nothing
  | angles (isEmpty : Bool)
  | parentheses
  deriving DecidableEq

/-- A path that was read, up to its last name and behind it. -/
structure Path where
  names : List Token
  supplied : Supplied := .nothing
  arguments : List Token := []
  /-- No name has arguments. -/
  simple : Bool := true
  /-- There is one name and nothing in front of it. -/
  single : Bool := true
  /-- A type in angle brackets stands in front. -/
  qualified : Bool := false

namespace Path

def tokens (path : Path) : List Token := path.names ++ path.arguments

def isOpen (path : Path) : Bool := path.supplied = .nothing || path.supplied = .angles true

def kind (path : Path) : Kind :=
  if path.qualified then .plain
  else
    match path.single, path.supplied with
    | true, .angles _ => .generic
    | _, _ => .path

def extend (path : Path) (colons : List Token) (next : Path) : Path :=
  { next with
    names := path.tokens ++ colons ++ next.names
    simple := path.simple && next.simple
    single := false
    qualified := path.qualified }

end Path

namespace Rule

/-! ## Order of arguments -/

/-- Writes elements one after the other; `apart` says that no comma is missing before the next. -/
def separated : Bool → List Element → List Token
  | _, [] => []
  | apart, element :: rest =>
    (if apart then [] else Token.signs ",") ++ element.tokens ++ separated (element.mark ≠ []) rest

def lifetimesFirst (elements : List Element) : List Token :=
  let isLifetime (element : Element) := decide (element.written.kind = .lifetime)
  let lifetimes := elements.filter isLifetime
  let others := elements.filter fun element => !isLifetime element
  lifetimes.flatMap Element.tokens ++
    separated (lifetimes.getLast?.all fun last => decide (last.mark ≠ [])) others

variable (again : Reader)

/-! ## Lifetimes -/

/-- A lifetime with its own bounds; the colon is left out if there are none. -/
def lifetimeParameter : Reading (List Token) := do
  let first ← inOrder [attributes, lifetime]
  let colon ← optionalSign ":"
  if colon = [] then return first
  let stop := Ahead.any [Ahead.sign ",", Ahead.sign ">"]
  let bounds ← listed "+" stop (plain lifetime)
  return if bounds = [] then first else first ++ colon ++ bounds

def binder : Reading (List Token) :=
  inOrder [word "for", sign "<", listed "," (Ahead.sign ">") (plain lifetimeParameter), sign ">"]

def optionalBinder : Reading (List Token) := whenAhead (Ahead.word "for") binder

/-! ## Arguments in parentheses -/

def output (plus : Bool) : Reading Written := do
  if Ahead.sign "->" (← get) then
    let arrow ← sign "->"
    let type ← again (.type plus)
    return { type with tokens := arrow ++ type.tokens }
  else return ⟨[], .parenthesized⟩

def inParentheses : Reading Written := do
  let inputs ← parentheses (listed "," Ahead.finished again.type)
  let result ← output again false
  return ⟨inputs ++ result.tokens, result.kind⟩

def opensParentheses : Ahead.Test :=
  Ahead.any [Ahead.parentheses, Ahead.all [Ahead.sign "::", Ahead.after 2 Ahead.parentheses]]

/-! ## Angle brackets -/

def constant : Reading (List Token) :=
  firstOf [
    (Ahead.all [Ahead.literal, Ahead.sign "-"], take 2),
    (Ahead.literal, one),
    (Ahead.braces, again.block)]

def isConstant : Ahead.Test := Ahead.any [Ahead.literal, Ahead.braces]

def endsBounds : Ahead.Test := Ahead.any [Ahead.sign ",", Ahead.sign ">"]

/-- A generic argument.  A constant bound to a name, and anything bound to a name with arguments of its
own, stay as they are. -/
def argument : Reading Written := do
  let bounds := listed "+" endsBounds again.bound
  firstOf [
    (Ahead.all [Ahead.lifetime, Ahead.no (Ahead.after 1 (Ahead.sign "+"))],
      return ⟨← lifetime, .lifetime⟩),
    (Ahead.all [Ahead.name, Ahead.after 1 (Ahead.sign "=")],
      plain (inOrder [name, sign "=",
        firstOf [(isConstant, asWritten (constant again)), (Ahead.always, again.type.tokens)]])),
    (Ahead.all [Ahead.name, Ahead.after 1 Ahead.colon], plain (inOrder [name, sign ":", bounds])),
    (isConstant, plain (constant again)),
    (Ahead.always, do
      let before ← get
      let type ← again.type
      let more ← if type.kind ≠ .generic then nothing
        else firstOf [
          (Ahead.sign "=", inOrder [sign "=", again.type.tokens]),
          (Ahead.sign ":", inOrder [sign ":", bounds]),
          (Ahead.always, nothing)]
      if more = [] then return ⟨type.tokens, .plain⟩
      return ⟨before.take (before.length - (← get).length), .kept⟩)]

def inAngles : Reading Path := do
  let first ← inOrder [optionalSign "::", sign "<"]
  let found ← elements "," (Ahead.sign ">") (argument again)
  let last ← sign ">"
  return {
    names := []
    supplied := .angles found.isEmpty
    arguments := first ++ lifetimesFirst found ++ last
    simple := false }

/-! ## Names one after the other -/

def opensAngles : Place → Ahead.Test
  | .type => Ahead.any [
      Ahead.all [Ahead.sign "<", Ahead.no (Ahead.sign "<=")],
      Ahead.all [Ahead.sign "::", Ahead.after 2 (Ahead.sign "<")]]
  | .expression => Ahead.all [Ahead.sign "::", Ahead.after 2 (Ahead.sign "<")]

/-- A name with its generic arguments; words that lead out of a module have none. -/
def segment (place : Place) : Reading Path := do
  let ahead ← get
  if Ahead.any [Ahead.word "super", Ahead.word "self", Ahead.word "crate", Ahead.word "try"] ahead then
    return { names := ← one }
  let found ← if Ahead.word "Self" ahead then one else name
  if opensAngles place (← get) then
    let supplied ← inAngles again
    return { supplied with names := found }
  else return { names := found }

/-- Reads on while a double colon is followed by a name; each name costs one unit of fuel. -/
def furtherNames (place : Place) : Nat → Path → Reading Path
  | 0, found => return found
  | fuel + 1, found => do
    let ahead ← get
    if Ahead.sign "::" ahead && !Ahead.after 2 Ahead.parentheses ahead then
      let colons ← sign "::"
      let next ← segment again place
      furtherNames place fuel (found.extend colons next)
    else return found

def unqualified (place : Place) : Reading Path := do
  let leading ← optionalSign "::"
  let first ← segment again place
  let start := { first with names := leading ++ first.names, single := first.single && leading = [] }
  furtherNames again place (← get).length start

def qualified (place : Place) : Reading Path := do
  let first ← sign "<"
  let type ← again.type.tokens
  let trait ← whenAhead (Ahead.word "as")
    (inOrder [one, return (← unqualified again .type).tokens])
  let last ← inOrder [sign ">", sign "::"]
  let next ← segment again place
  let start := { next with
    names := first ++ type ++ trait ++ last ++ next.names, single := false, qualified := true }
  furtherNames again place (← get).length start

def path (place : Place) : Reading Path := do
  if Ahead.sign "<" (← get) then qualified again place else unqualified again place

/-! ## Arguments in parentheses -/

/-- The path with arguments in parentheses in the place of those it has, and what kind of thing their
output is. -/
def suppliedInParentheses (found : Path) : Reading (Path × Kind) := do
  let _ ← optionalSign "::"
  let inputs ← inParentheses again
  return ({ found with supplied := .parentheses, arguments := inputs.tokens, simple := false }, inputs.kind)

/-- Arguments in parentheses, after which the path may go on if their output is in parentheses itself. -/
def typePathFrom : Nat → Path → Reading Path
  | 0, found => return found
  | fuel + 1, found => do
    if found.isOpen && opensParentheses (← get) then
      let (next, kind) ← suppliedInParentheses again found
      if kind = .parenthesized then
        typePathFrom fuel (← furtherNames again .type (← get).length next)
      else return next
    else return found

def typePath : Reading Path := do
  typePathFrom again (← get).length (← path again .type)

/-! ## Bounds -/

def traitBound : Reading (List Token) := do
  let first ← inOrder [
    whenAhead (Ahead.all [Ahead.sign "~", Ahead.after 1 (Ahead.word "const")])
      (inOrder [sign "~", word "const"]),
    optionalSign "?", optionalBinder]
  let found ← unqualified again .type
  if found.isOpen && opensParentheses (← get) then
    let (next, _) ← suppliedInParentheses again found
    return first ++ next.tokens
  else return first ++ found.tokens

def bound : Reading Written :=
  plain (firstOf [
    (Ahead.lifetime, lifetime),
    (Ahead.parentheses, parentheses (traitBound again)),
    (Ahead.always, traitBound again)])

end Rule

end RowFilter.Entity

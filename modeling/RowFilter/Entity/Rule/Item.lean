import RowFilter.Entity.Rule.Expression
import RowFilter.Entity.Rule.Generics

/-! # Items

Functions, types, traits and the like inside a block.  They are written back as they were read, up to the
types, parameters, conditions and expressions in them; the visibility of a variant is lost, and the
conditions of an associated type come behind its value.  What the language has no use for, such as a
constant without a value or an implementation with a visibility, stays as it is. -/

set_option autoImplicit false

namespace RowFilter.Entity.Rule

open Reading

variable (again : Reader)

/-! ## Visibility and signatures -/

def isRestriction : Ahead.Test := fun tokens =>
  Ahead.parentheses tokens &&
    (Ahead.after 1 (Ahead.word "in") tokens ||
      Ahead.after 1 (Ahead.any [Ahead.word "crate", Ahead.word "self", Ahead.word "super"]) tokens &&
        Ahead.after 2 Ahead.finished tokens)

def visibility : Reading (List Token) :=
  firstOf [
    (Ahead.word "pub", inOrder [one, whenAhead isRestriction wholeGroup]),
    (Ahead.all [Ahead.word "crate", Ahead.no (Ahead.after 1 (Ahead.sign "::"))], one),
    (Ahead.always, nothing)]

def behind (step : Reading (List Token)) (test : Ahead.Test) : Ahead.Test := fun tokens =>
  match step.run tokens with
  | some (_, rest) => test rest
  | none => false

def functionWords : Reading (List Token) :=
  inOrder [optionalWord "const", optionalWord "async", optionalWord "unsafe", convention]

def opensSignature : Ahead.Test := behind functionWords (Ahead.word "fn")

def receiver : Reading (List Token) :=
  inOrder [whenAhead (Ahead.sign "&") (inOrder [sign "&", whenAhead Ahead.lifetime one]),
    optionalWord "mut", word "self"]

/-- An input with its type; a type alone, which starts with a name and arguments, is given a pattern. -/
def typedInput : Reading (List Token) := do
  if Ahead.all [Ahead.name, Ahead.after 1 (Ahead.sign "<")] (← get) then
    return Token.word "_" :: Token.signs ":" ++ (← again.type.tokens)
  else inOrder [(alternatives again).tokens, sign ":", dotsOrType again]

def signatureInput : Reading Written :=
  plain (inOrder [attributes, firstOf [
    (Ahead.sign "...", sign "..."),
    (behind receiver (Ahead.no (Ahead.sign ":")), receiver),
    (Ahead.always, typedInput again)]])

def signature : Reading (List Token) :=
  inOrder [functionWords, word "fn", name, parameters again,
    parentheses (listed "," Ahead.finished (signatureInput again)),
    (output again true).tokens, conditions again]

/-! ## Members -/

def bracedFields : Reading (List Token) :=
  braces (listed "," Ahead.finished (plain (inOrder [attributes, visibility,
    expect (Ahead.any [Ahead.name, Ahead.word "_"]), sign ":",
    firstOf [
      (Ahead.any [Ahead.word "struct", Ahead.all [Ahead.word "union", Ahead.after 1 Ahead.braces]],
        inOrder [one, wholeGroup]),
      (Ahead.always, again.type.tokens)]])))

def listedFields : Reading (List Token) :=
  parentheses (listed "," Ahead.finished
    (plain (inOrder [attributes, visibility, again.type.tokens])))

def variant : Reading (List Token) := do
  let first ← attributes
  let _ ← visibility
  return first ++ (← inOrder [name,
    firstOf [
      (Ahead.braces, bracedFields again),
      (Ahead.parentheses, listedFields again),
      (Ahead.always, nothing)],
    whenAhead (Ahead.sign "=") (inOrder [sign "=", again.expression.tokens])])

def modulePath : Reading (List Token) :=
  let next := expect (Ahead.any [Ahead.name, Ahead.pathWord])
  inOrder [optionalSign "::", next, many (Ahead.sign "::") (inOrder [sign "::", next])]

/-- A macro call; only a call in braces may do without a semicolon. -/
def macroCall : Reading (List Token) :=
  inOrder [modulePath, sign "!", whenAhead Ahead.anyWord one, wholeGroup, optionalSign ";"]

def macroOpening : Ahead.Test := Ahead.any [Ahead.name, Ahead.pathWord, Ahead.sign "::"]

/-! ## Associated types -/

structure Associated where
  words : List Token
  parameters : List Token
  colon : List Token
  bounds : List Token
  conditions : List Token
  value : List Token
  /-- Parameters or conditions were there, if only empty ones. -/
  isGeneric : Bool

/-- `late` says that conditions may follow the value. -/
def associated (late : Bool) : Reading Associated := do
  let words ← inOrder [visibility, optionalWord "default", word "type", name]
  let generic := Ahead.sign "<" (← get)
  let found ← parameters again
  let colon ← whenAhead Ahead.colon (sign ":")
  let stop := Ahead.any [Ahead.word "where", Ahead.sign "=", Ahead.sign ";"]
  let bounds ← if colon = [] then nothing else listed "+" stop again.bound
  let early := Ahead.word "where" (← get)
  let before ← conditions again
  let value ← whenAhead (Ahead.sign "=") (inOrder [sign "=", again.type.tokens])
  let belated := Ahead.word "where" (← get)
  let behind ← if late && !early then conditions again else nothing
  let _ ← sign ";"
  return ⟨words, found, colon, bounds, before ++ behind, value, generic || early || belated⟩

def keptIf {α : Type} (step : Reading α) (test : α → Bool) (written : α → List Token) :
    Reading Written := do
  let before ← get
  let found ← step
  if test found then return ⟨before.take (before.length - (← get).length), .kept⟩
  return ⟨written found, .plain⟩

def Associated.boundWritten (found : Associated) : List Token :=
  if found.bounds = [] then [] else found.colon ++ found.bounds

/-- A type with a name of its own; it has a value and no bounds. -/
def namedType : Reading Written :=
  keptIf (associated again false) (fun found => found.colon ≠ [] || found.value = [])
    fun found => found.words ++ found.parameters ++ found.conditions ++ found.value ++ Token.signs ";"

def traitType : Reading (List Token) := do
  let found ← associated again true
  return found.words ++ found.parameters ++ found.boundWritten ++ found.value ++ found.conditions ++
    Token.signs ";"

def implementedType : Reading Written :=
  keptIf (associated again true) (fun found => found.colon ≠ [] || found.value = [])
    fun found => found.words ++ found.parameters ++ found.value ++ found.conditions ++ Token.signs ";"

def foreignType : Reading Written :=
  keptIf (associated again true)
    (fun found => found.isGeneric || found.colon ≠ [] || found.value ≠ [])
    fun found => found.words ++ Token.signs ";"

/-! ## Constants -/

def typed : Reading (List Token) := inOrder [sign ":", again.type.tokens]

def valued : Reading (List Token) := inOrder [sign "=", again.expression.tokens]

/-- A constant or a static variable; it is kept if its type or its value is missing. -/
def constantItem : Reading Written := do
  let before ← get
  let first ← inOrder [visibility, expect (Ahead.any [Ahead.word "const", Ahead.word "static"]),
    optionalWord "mut", expect Ahead.anyWord]
  let type ← whenAhead Ahead.colon (typed again)
  let value ← whenAhead (Ahead.sign "=") (valued again)
  let last ← sign ";"
  if type = [] ∨ value = [] then return ⟨before.take (before.length - (← get).length), .kept⟩
  return ⟨first ++ type ++ value ++ last, .plain⟩

/-! ## Functions -/

/-- A function with a body; it is kept if the body is missing. -/
def functionItem : Reading Written := do
  let before ← get
  let first ← inOrder [visibility, signature again]
  if Ahead.sign ";" (← get) then
    let _ ← sign ";"
    return ⟨before.take (before.length - (← get).length), .kept⟩
  return ⟨first ++ (← block again), .plain⟩

def method : Reading (List Token) :=
  inOrder [signature again, firstOf [(Ahead.sign ";", sign ";"), (Ahead.always, block again)]]

/-! ## Foreign items -/

def foreignVariable : Reading Written := do
  let before ← get
  let first ← inOrder [visibility, word "static", optionalWord "mut", name, typed again]
  if Ahead.sign "=" (← get) then
    let _ ← inOrder [valued again, sign ";"]
    return ⟨before.take (before.length - (← get).length), .kept⟩
  return ⟨first ++ (← sign ";"), .plain⟩

def foreignFunction : Reading Written := do
  let before ← get
  let first ← inOrder [visibility, signature again]
  if Ahead.braces (← get) then
    let _ ← wholeGroup
    return ⟨before.take (before.length - (← get).length), .kept⟩
  return ⟨first ++ (← sign ";"), .plain⟩

def foreignItem : Reading (List Token) :=
  inOrder [attributes, (firstOf [
    (behind visibility opensSignature, foreignFunction again),
    (behind visibility (Ahead.word "static"), foreignVariable again),
    (behind visibility (Ahead.word "type"), foreignType again),
    (Ahead.always, plain macroCall)]).tokens]

def itemsOf (step : Reading (List Token)) : Reading (List Token) :=
  braces (inOrder [innerAttributes, many (Ahead.no Ahead.finished) step])

def foreignItems : Reading (List Token) := inOrder [convention, itemsOf (foreignItem again)]

/-! ## Traits -/

def traitConstant : Reading (List Token) :=
  inOrder [word "const", expect (Ahead.any [Ahead.name, Ahead.word "_"]), typed again,
    whenAhead (Ahead.sign "=") (valued again), sign ";"]

def opensConstant : Ahead.Test :=
  Ahead.all [Ahead.word "const", Ahead.after 1 (Ahead.any [Ahead.name, Ahead.word "_"])]

/-- A member of a trait; it is kept if it has a visibility or is marked as a default. -/
def traitMember : Reading (List Token) := do
  let before ← get
  let first ← attributes
  let marks ← inOrder [visibility, optionalWord "default"]
  let found ← firstOf [
    (opensConstant, traitConstant again),
    (opensSignature, method again),
    (Ahead.word "type", traitType again),
    (Ahead.always, macroCall)]
  if marks = [] then return first ++ found
  return before.take (before.length - (← get).length)

def traitItem : Reading (List Token) := do
  let first ← inOrder [visibility, optionalWord "unsafe", optionalWord "auto", word "trait", name,
    parameters again]
  if Ahead.sign "=" (← get) then
    let stop := Ahead.any [Ahead.word "where", Ahead.sign ";"]
    return first ++ (← inOrder [sign "=", listed "+" stop again.bound, conditions again, sign ";"])
  let colon ← optionalSign ":"
  let stop := Ahead.any [Ahead.word "where", Ahead.braces]
  let bounds ← if colon = [] then nothing else listed "+" stop again.bound
  let found := if bounds = [] then first else first ++ colon ++ bounds
  return found ++ (← inOrder [conditions again, itemsOf (traitMember again)])

/-! ## Implementations -/

def implementedConstant : Reading Written := do
  let before ← get
  let first ← inOrder [visibility, optionalWord "default", word "const", expect Ahead.anyWord,
    typed again]
  if Ahead.sign "=" (← get) then return ⟨first ++ (← inOrder [valued again, sign ";"]), .plain⟩
  let _ ← sign ";"
  return ⟨before.take (before.length - (← get).length), .kept⟩

def implementedMember : Reading (List Token) :=
  let marks := inOrder [visibility,
    whenAhead (Ahead.all [Ahead.word "default", Ahead.no (Ahead.after 1 (Ahead.sign "!"))]) one]
  inOrder [attributes, (firstOf [
    (behind marks opensSignature, plain (inOrder [marks, method again])),
    (behind marks (Ahead.word "const"), implementedConstant again),
    (behind marks (Ahead.word "type"), implementedType again),
    (Ahead.always, plain macroCall)]).tokens]

def opensParameters : Ahead.Test :=
  Ahead.all [Ahead.sign "<", Ahead.after 1 (Ahead.any [
    Ahead.sign ">", Ahead.sign "#", Ahead.word "const",
    Ahead.all [Ahead.any [Ahead.name, Ahead.lifetime],
      Ahead.after 1 (Ahead.any [Ahead.sign ":", Ahead.sign ",", Ahead.sign ">", Ahead.sign "="])]])]

def opensConstantly : Ahead.Test :=
  Ahead.any [Ahead.word "const", Ahead.all [Ahead.sign "?", Ahead.after 1 (Ahead.word "const")]]

/-- What is implemented and for what, and whether it can be taken apart. -/
def implementedFor : Reading Written := do
  let before ← get
  let refused ← whenAhead (Ahead.all [Ahead.sign "!", Ahead.no (Ahead.after 1 Ahead.braces)]) (sign "!")
  let first ← again.type
  if Ahead.word "for" (← get) then
    let rest ← inOrder [one, again.type.tokens]
    let kind := if first.kind = .path ∨ first.kind = .generic then Kind.plain else .kept
    return ⟨refused ++ first.tokens ++ rest, kind⟩
  if refused = [] then return ⟨first.tokens, .plain⟩
  return ⟨before.take (before.length - (← get).length), .plain⟩

def implementation : Reading Written := do
  let before ← get
  let visible ← visibility
  let words ← inOrder [optionalWord "default", optionalWord "unsafe", word "impl"]
  let found ← whenAhead opensParameters (parameters again)
  let constantly ← whenAhead opensConstantly (inOrder [optionalSign "?", word "const"])
  let subject ← implementedFor again
  let rest ← inOrder [conditions again, itemsOf (implementedMember again)]
  if visible ≠ [] ∨ constantly ≠ [] ∨ subject.kind = .kept then
    return ⟨before.take (before.length - (← get).length), .kept⟩
  return ⟨words ++ found ++ subject.tokens ++ rest, .plain⟩

/-! ## Types -/

def structItem : Reading (List Token) :=
  inOrder [visibility, word "struct", name, parameters again, firstOf [
    (Ahead.parentheses, inOrder [listedFields again, conditions again, sign ";"]),
    (Ahead.always, inOrder [conditions again,
      firstOf [(Ahead.sign ";", sign ";"), (Ahead.always, bracedFields again)]])]]

def enumItem : Reading (List Token) :=
  inOrder [visibility, word "enum", name, parameters again, conditions again,
    braces (listed "," Ahead.finished (plain (variant again)))]

def unionItem : Reading (List Token) :=
  inOrder [visibility, word "union", name, parameters again, conditions again, bracedFields again]

/-! ## All items -/

def moduleItem : Reading (List Token) :=
  inOrder [visibility, word "mod", name, firstOf [
    (Ahead.sign ";", sign ";"),
    (Ahead.always, itemsOf (again .item).tokens)]]

def upToSemicolon : Reading (List Token) :=
  inOrder [many (Ahead.no (Ahead.any [Ahead.sign ";", Ahead.finished])) (firstOf [
    (Ahead.any [Ahead.parentheses, Ahead.brackets, Ahead.braces], wholeGroup),
    (Ahead.always, one)]), sign ";"]

def opensForeign : Ahead.Test := behind convention Ahead.braces

def opensUnsafe (test : Ahead.Test) : Ahead.Test := Ahead.all [Ahead.word "unsafe", Ahead.after 1 test]

def opensTrait : Ahead.Test :=
  Ahead.any [Ahead.word "trait", Ahead.all [Ahead.word "auto", Ahead.after 1 (Ahead.word "trait")]]

def itemBody : Reading Written :=
  let seen (test : Ahead.Test) : Ahead.Test := behind visibility test
  firstOf [
    (seen opensSignature, functionItem again),
    (seen (Ahead.all [Ahead.word "extern", Ahead.after 1 (Ahead.word "crate")]), plain upToSemicolon),
    (seen (Ahead.all [Ahead.word "extern", opensForeign]), plain (foreignItems again)),
    (seen (Ahead.word "use"), plain upToSemicolon),
    (seen (Ahead.any [Ahead.word "static", opensConstant]), constantItem again),
    (seen (opensUnsafe opensTrait), plain (traitItem again)),
    (seen (opensUnsafe (Ahead.word "impl")), implementation again),
    (seen (opensUnsafe (Ahead.word "extern")), kept (inOrder [visibility, one, foreignItems again])),
    (seen (opensUnsafe (Ahead.word "mod")), kept (inOrder [visibility, one, moduleItem again])),
    (seen (Ahead.word "mod"), plain (moduleItem again)),
    (seen (Ahead.word "type"), namedType again),
    (seen (Ahead.all [Ahead.word "existential", Ahead.after 1 (Ahead.word "type")]), kept upToSemicolon),
    (seen (Ahead.word "struct"), plain (structItem again)),
    (seen (Ahead.word "enum"), plain (enumItem again)),
    (seen (Ahead.all [Ahead.word "union", Ahead.after 1 Ahead.name]), plain (unionItem again)),
    (seen opensTrait, plain (traitItem again)),
    (seen (Ahead.any [Ahead.word "impl",
      Ahead.all [Ahead.word "default", Ahead.no (Ahead.after 1 (Ahead.sign "!"))]]), implementation again),
    (seen (Ahead.word "macro"), plain (inOrder [visibility, one, name,
      whenAhead Ahead.parentheses wholeGroup, wholeGroup])),
    (macroOpening, plain macroCall)]

def item : Reading Written := do
  let first ← attributes
  let found ← itemBody again
  return { found with tokens := first ++ found.tokens }

end RowFilter.Entity.Rule

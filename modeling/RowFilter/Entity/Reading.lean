import RowFilter.Entity.Token

/-! # Reading forms

A reading step takes tokens off the front of a list and says how they are written, or fails.  `Ahead`
holds the tests of what comes next by which the rules choose; the steps here are put together from them. -/

set_option autoImplicit false

namespace RowFilter.Entity

namespace Ahead

abbrev Test := List Token → Bool

def any (tests : List Test) : Test := fun tokens => tests.any (· tokens)

def all (tests : List Test) : Test := fun tokens => tests.all (· tokens)

def no (test : Test) : Test := fun tokens => !test tokens

def after (count : Nat) (test : Test) : Test := fun tokens => test (tokens.drop count)

def always : Test := fun _ => true

def startsWith : List Char → List Token → Bool
  | [], _ => true
  | c :: rest, .sign d joint :: tokens => c = d && (rest.isEmpty || joint && startsWith rest tokens)
  | _ :: _, _ => false

/-- A mark, which may be the beginning of a longer one. -/
def sign (mark : String) : Test := startsWith mark.toList

def word (text : String) : Test
  | .word found :: _ => found = text
  | _ => false

def anyWord : Test
  | .word _ :: _ => true
  | _ => false

def keywords : List String :=
  ["_", "abstract", "as", "async", "await", "become", "box", "break", "const", "continue", "crate", "do",
    "dyn", "else", "enum", "extern", "false", "final", "fn", "for", "if", "impl", "in", "let", "loop",
    "macro", "match", "mod", "move", "mut", "override", "priv", "pub", "ref", "return", "Self", "self",
    "static", "struct", "super", "trait", "true", "try", "type", "typeof", "unsafe", "unsized", "use",
    "virtual", "where", "while", "yield"]

def name : Test
  | .word text :: _ => !keywords.contains text
  | _ => false

def lifetime : Test
  | .lifetime _ :: _ => true
  | _ => false

def group (c : Char) : Test
  | .opening d :: _ => c = d
  | _ => false

def parentheses : Test := group '('

def brackets : Test := group '['

def braces : Test := group '\x7b'

def number : Test
  | .number _ :: _ => true
  | _ => false

def quoted : Test
  | .literal _ :: _ => true
  | _ => false

/-- A literal, which may be a negative number. -/
def literal : Test
  | .literal _ :: _ => true
  | .number _ :: _ => true
  | .word text :: _ => text = "true" || text = "false"
  | .sign '-' _ :: .number _ :: _ => true
  | _ => false

def finished : Test
  | [] => true
  | .closing _ :: _ => true
  | _ => false

def behindGroup (test : Test) : Test
  | .opening _ :: rest => (Token.splitGroup 0 rest).any fun found => test found.2
  | _ => false

def colon : Test := all [sign ":", no (sign "::")]

def pathWord : Test := any [word "super", word "self", word "Self", word "crate"]

end Ahead

abbrev Reading (α : Type) := StateT (List Token) Option α

/-- What kind of thing was read, as far as its surroundings ask. -/
inductive Kind where
  | plain
  | lifetime
  /-- A type in parentheses. -/
  | parenthesized
  /-- A path without a type in front. -/
  | path
  /-- A single name with generic arguments. -/
  | generic
  /-- Something kept as it was written. -/
  | kept
  deriving DecidableEq

structure Written where
  tokens : List Token
  kind : Kind := .plain

namespace Reading

def plain (step : Reading (List Token)) : Reading Written := return ⟨← step, .plain⟩

def tokens (step : Reading Written) : Reading (List Token) := return (← step).tokens

def take (count : Nat) : Reading (List Token) := do
  let ahead ← get
  if ahead.length < count then failure
  set (ahead.drop count)
  return ahead.take count

def one : Reading (List Token) := take 1

def nothing : Reading (List Token) := return []

def expect (test : Ahead.Test) : Reading (List Token) := do
  if test (← get) then one else failure

def name : Reading (List Token) := expect Ahead.name

def lifetime : Reading (List Token) := expect Ahead.lifetime

def word (text : String) : Reading (List Token) := expect (Ahead.word text)

def sign (mark : String) : Reading (List Token) := do
  if Ahead.sign mark (← get) then take mark.length else failure

def whenAhead (test : Ahead.Test) (step : Reading (List Token)) : Reading (List Token) := do
  if test (← get) then step else nothing

def optionalWord (text : String) : Reading (List Token) := whenAhead (Ahead.word text) one

def optionalSign (mark : String) : Reading (List Token) := whenAhead (Ahead.sign mark) (sign mark)

def inOrder : List (Reading (List Token)) → Reading (List Token)
  | [] => nothing
  | step :: rest => do
    let first ← step
    return first ++ (← inOrder rest)

def firstOf {α : Type} : List (Ahead.Test × Reading α) → Reading α
  | [] => failure
  | (test, step) :: rest => do
    if test (← get) then step else firstOf rest

/-- A step taken again and again while a test passes; each time costs one unit of fuel. -/
def repeatWhile (test : Ahead.Test) (step : Reading (List Token)) : Nat → Reading (List Token)
  | 0 => nothing
  | fuel + 1 => do
    if test (← get) then
      let first ← step
      return first ++ (← repeatWhile test step fuel)
    else nothing

/-- As often as the test passes, if each step takes a token. -/
def many (test : Ahead.Test) (step : Reading (List Token)) : Reading (List Token) := do
  repeatWhile test step (← get).length

/-- An element of a list with the mark behind it, if there is one. -/
structure Element where
  written : Written
  mark : List Token

def Element.tokens (element : Element) : List Token := element.written.tokens ++ element.mark

def elementsUpTo (mark : String) (stop : Ahead.Test) (step : Reading Written) :
    Nat → Reading (List Element)
  | 0 => return []
  | fuel + 1 => do
    if stop (← get) then return []
    let written ← step
    let found ← optionalSign mark
    let element : Element := ⟨written, found⟩
    if found = [] then return [element]
    return element :: (← elementsUpTo mark stop step fuel)

/-- A list of elements with marks between them, and maybe behind the last. -/
def elements (mark : String) (stop : Ahead.Test) (step : Reading Written) : Reading (List Element) := do
  elementsUpTo mark stop step (← get).length

def listed (mark : String) (stop : Ahead.Test) (step : Reading Written) : Reading (List Token) :=
  return (← elements mark stop step).flatMap Element.tokens

def group (c : Char) (inside : Reading (List Token)) : Reading (List Token) := do
  let first ← expect (Ahead.group c)
  let found ← inside
  match ← get with
  | .closing d :: rest =>
    set rest
    return first ++ found ++ [.closing d]
  | _ => failure

def parentheses : Reading (List Token) → Reading (List Token) := group '('

def brackets : Reading (List Token) → Reading (List Token) := group '['

def braces : Reading (List Token) → Reading (List Token) := group '\x7b'

/-- What a step takes, as it was before. -/
def asWritten {α : Type} (step : Reading α) : Reading (List Token) := do
  let before ← get
  let _ ← step
  return before.take (before.length - (← get).length)

def kept {α : Type} (step : Reading α) : Reading Written := return ⟨← asWritten step, .kept⟩

def wholeGroup : Reading (List Token) := do
  match ← get with
  | .opening _ :: rest =>
    match Token.splitGroup 0 rest with
    | some (inside, _) => take (inside.length + 2)
    | none => failure
  | _ => failure

def attributes : Reading (List Token) := many (Ahead.sign "#") (inOrder [sign "#", wholeGroup])

def innerAttributes : Reading (List Token) :=
  many (Ahead.all [Ahead.sign "#", Ahead.after 1 (Ahead.sign "!")])
    (inOrder [sign "#", sign "!", wholeGroup])

end Reading

/-! ## Forms

The forms that may stand inside each other.  The rule of a form is given a reader for all of them; tying the
rules together is left to the module that reads a whole text. -/

inductive Form where
  /-- A type; `plus` says that it may be a sum of bounds. -/
  | type (plus : Bool)
  /-- An expression; `braced` says that a name may be followed by fields in braces. -/
  | expression (braced : Bool)
  /-- An expression without binary operators. -/
  | operand (braced : Bool)
  /-- An expression at the start of a statement or behind an arrow. -/
  | leading
  /-- An `if` with its branches. -/
  | conditional
  /-- A bound on a type. -/
  | bound
  | pattern
  /-- The inside of a block. -/
  | body
  | item
  deriving DecidableEq

abbrev Reader := Form → Reading Written

namespace Reader

variable (again : Reader)

def type : Reading Written := again (.type true)

/-- A type that ends in front of a plus. -/
def tightType : Reading Written := again (.type false)

def expression : Reading Written := again (.expression true)

def bound : Reading Written := again .bound

def body : Reading (List Token) := (again .body).tokens

def block : Reading (List Token) := Reading.braces (body again)

end Reader

end RowFilter.Entity

import RowFilter.Entity.Token

/-! # Attributes

An attribute is a path and whatever follows it.  A property attribute must go on with one string literal
in brackets.  A documentation attribute says a text when it goes on with an equals sign and one string
literal; otherwise its tokens are kept. -/

set_option autoImplicit false

namespace RowFilter.Entity

/-! ## Refusals -/

inductive DeclarationError where
  | inputs
  | output
  | body
  | unknownAttribute
  /-- A `property` attribute without arguments. -/
  | bareProperty
  /-- A `property` attribute with an equals sign. -/
  | assignedProperty
  /-- Anything else that is not one pair of brackets. -/
  | looseArguments
  /-- Nothing between the brackets. -/
  | emptyArguments
  /-- Something else in the place of the string literal. -/
  | noLiteral
  /-- More after the string literal. -/
  | afterLiteral
  deriving DecidableEq

def DeclarationError.message : DeclarationError → String
  | inputs => "Expected no arguments"
  | output => "Expected no return type"
  | body => "Expected no body"
  | unknownAttribute => "Unrecognized attribute"
  | bareProperty => "expected attribute arguments in parentheses: #[property(...)]"
  | assignedProperty => "expected parentheses: #[property(...)]"
  | looseArguments => "unexpected token in attribute arguments"
  | emptyArguments => "unexpected end of input, expected string literal"
  | noLiteral => "expected string literal"
  | afterLiteral => "unexpected token"

/-! ## Attributes -/

/-- What a documentation attribute says: its text, or else what follows its path, without white space. -/
inductive Doc where
  | text (value : String)
  | tokens (written : String)
  deriving DecidableEq

structure Attribute where
  path : List Token
  arguments : List Token := []
  deriving DecidableEq

namespace Attribute

/-- Splits a path off the front: words with double colons between them, and maybe one in front. -/
def splitPath : List Token → List Token × List Token
  | .sign ':' true :: .sign ':' joint :: .word text :: rest =>
    let (path, after) := splitPath rest
    (.sign ':' true :: .sign ':' joint :: .word text :: path, after)
  | tokens => ([], tokens)

def ofTokens : List Token → Attribute
  | .word text :: rest => ⟨.word text :: (splitPath rest).1, (splitPath rest).2⟩
  | tokens => ⟨(splitPath tokens).1, (splitPath tokens).2⟩

def ofText (path arguments : String) : Attribute := ofTokens (Token.ofText (path ++ arguments))

def onlyString : List Token → Except DeclarationError String
  | [] => .error .emptyArguments
  | token :: more =>
    match token.stringValue? with
    | none => .error .noLiteral
    | some value => if more = [] then .ok value else .error .afterLiteral

def propertyName (found : Attribute) : Except DeclarationError String :=
  match found.arguments with
  | [] => .error .bareProperty
  | .sign '=' _ :: _ => .error .assignedProperty
  | .opening _ :: rest =>
    match Token.splitGroup 0 rest with
    | some (inside, []) => onlyString inside
    | _ => .error .looseArguments
  | _ => .error .looseArguments

def doc (found : Attribute) : Doc :=
  match found.arguments with
  | [.sign '=' _, token] =>
    match token.stringValue? with
    | some value => .text value
    | none => .tokens (Token.spellAll found.arguments)
  | arguments => .tokens (Token.spellAll arguments)

/-- The attributes at the front of a list of tokens, and the tokens after them.  Each attribute costs one
unit of fuel. -/
def split : Nat → List Token → List Attribute × List Token
  | fuel + 1, .sign '#' joint :: .opening '[' :: rest =>
    match Token.splitGroup 0 rest with
    | some (inside, after) =>
      let found := split fuel after
      (ofTokens inside :: found.1, found.2)
    | none => ([], .sign '#' joint :: .opening '[' :: rest)
  | _, tokens => ([], tokens)

end Attribute

def leadingAttributes (tokens : List Token) : List Attribute := (Attribute.split tokens.length tokens).1

def afterAttributes (tokens : List Token) : List Token := (Attribute.split tokens.length tokens).2

example : (Attribute.ofText "doc /* c */" "= \"a b\"").doc = .text "a b" := by decide +kernel

end RowFilter.Entity

import RowFilter.Entity.Attribute
import RowFilter.Entity.TypeText

/-! # Property declarations

An entity declares its properties by method signatures: a method without inputs, output and body stands
for the property of its name.  A `property` attribute gives the property another name, the last of them
if there are several, and each of them must be well formed.  `doc` attributes are kept in order.  Every
method is judged by itself. -/

set_option autoImplicit false

namespace RowFilter.Entity

structure Signature where
  ident : String
  attributes : List Attribute := []
  /-- What stands before the method; attributes there follow the others. -/
  qualifiers : List Token := []
  inputs : List Token := []
  output : Option String := none
  hasBody : Bool := false

structure Property where
  ident : String
  name : String
  docs : List Doc
  deriving DecidableEq

/-- An identifier without the mark that lets it be a keyword. -/
def bareIdent (ident : String) : String :=
  match ident.toList with
  | 'r' :: '#' :: rest => String.ofList rest
  | _ => ident

structure Annotations where
  docs : List Doc := []
  name : Option String := none
  deriving DecidableEq

def Annotations.add (found : Annotations) (next : Attribute) : Except DeclarationError Annotations :=
  if next.path = [.word "doc"] then .ok { found with docs := found.docs ++ [next.doc] }
  else if next.path = [.word "property"] then do
    let name ← next.propertyName
    .ok { found with name := some name }
  else .error .unknownAttribute

def Annotations.ofAttributes (attributes : List Attribute) : Except DeclarationError Annotations :=
  attributes.foldlM Annotations.add {}

namespace Signature

/-- Three dots alone stand for inputs nobody knows of, and are none. -/
def hasInputs (signature : Signature) : Bool :=
  signature.inputs ≠ [] && afterAttributes signature.inputs ≠ Token.signs "..."

def allAttributes (signature : Signature) : List Attribute :=
  signature.attributes ++ leadingAttributes signature.qualifiers

def property (signature : Signature) : Except DeclarationError Property :=
  if signature.hasInputs then .error .inputs
  else if signature.output.isSome then .error .output
  else if signature.hasBody then .error .body
  else do
    let found ← Annotations.ofAttributes signature.allAttributes
    .ok ⟨signature.ident, found.name.getD (bareIdent signature.ident), found.docs⟩

end Signature

/-- What a declared entity has: its name, the type it stands for, and an outcome for each method. -/
structure Declared where
  name : String
  selfType : String
  methods : List (Except DeclarationError Property)

def declare (name selfType : String) (methods : List Signature) : Declared :=
  ⟨name, TypeText.normalized selfType, methods.map Signature.property⟩

end RowFilter.Entity

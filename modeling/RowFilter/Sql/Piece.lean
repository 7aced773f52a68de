import RowFilter.Sql.Dialect

/-! # Pieces of SQL

The text of a rendered filter can be cut into pieces.  Which pieces stand where does not depend on the
dialect; the dialect only spells them. -/

set_option autoImplicit false

namespace RowFilter.Sql

inductive Piece where
  | leftParen
  | rightParen
  | dot
  | comma
  | space
  | junction (connective : Connective)
  | comparator (kind : Comparator)
  | constant (value : Bool)
  | name (text : String)
  | opening (function : ScalarFunction)
  | closing (function : ScalarFunction)
  | placeholder (number : Nat)
  deriving DecidableEq

def Piece.spelled (dialect : Dialect) : Piece → List Char
  | leftParen => ['(']
  | rightParen => [')']
  | dot => ['.']
  | comma => [',', ' ']
  | space => [' ']
  | junction connective => ' ' :: connective.name.toList ++ [' ']
  | comparator kind => kind.spelling.toList
  | constant value => if value then "TRUE".toList else "FALSE".toList
  | name text => dialect.quoted text
  | opening function => (dialect.opening function).toList
  | closing function => (dialect.closing function).toList
  | placeholder number => dialect.placeholder number

def spell (dialect : Dialect) (pieces : List Piece) : List Char :=
  pieces.flatMap fun piece => piece.spelled dialect

theorem spell_append (dialect : Dialect) (first second : List Piece) :
    spell dialect (first ++ second) = spell dialect first ++ spell dialect second :=
  List.flatMap_append

@[simp] theorem spell_nil (dialect : Dialect) : spell dialect [] = [] := rfl

theorem spell_cons (dialect : Dialect) (piece : Piece) (rest : List Piece) :
    spell dialect (piece :: rest) = piece.spelled dialect ++ spell dialect rest := rfl

namespace Piece

@[simp] theorem spelled_leftParen (dialect : Dialect) : leftParen.spelled dialect = ['('] := rfl

@[simp] theorem spelled_rightParen (dialect : Dialect) : rightParen.spelled dialect = [')'] := rfl

@[simp] theorem spelled_dot (dialect : Dialect) : dot.spelled dialect = ['.'] := rfl

@[simp] theorem spelled_space (dialect : Dialect) : space.spelled dialect = [' '] := rfl

@[simp] theorem spelled_junction (dialect : Dialect) (connective : Connective) :
    (junction connective).spelled dialect = ' ' :: connective.name.toList ++ [' '] := rfl

@[simp] theorem spelled_comparator (dialect : Dialect) (kind : Comparator) :
    (comparator kind).spelled dialect = kind.spelling.toList := rfl

@[simp] theorem spelled_name (dialect : Dialect) (text : String) :
    (name text).spelled dialect = dialect.quoted text := rfl

@[simp] theorem spelled_opening (dialect : Dialect) (function : ScalarFunction) :
    (opening function).spelled dialect = (dialect.opening function).toList := rfl

@[simp] theorem spelled_closing (dialect : Dialect) (function : ScalarFunction) :
    (closing function).spelled dialect = (dialect.closing function).toList := rfl

@[simp] theorem spelled_placeholder (dialect : Dialect) (number : Nat) :
    (placeholder number).spelled dialect = dialect.placeholder number := rfl

end Piece

end RowFilter.Sql

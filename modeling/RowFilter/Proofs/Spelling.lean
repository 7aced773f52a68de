import Mathlib.Data.List.Chain
import RowFilter.Sql.Piece
import RowFilter.Sql.Scan

/-! # Spelled pieces

A piece is a name, a placeholder or plain.  Plain pieces come from a fixed vocabulary that has none of the
four characters with a meaning of their own: the two quotes, `$` and `?`.  The lexemes of a piece are what
a scan finds in its text; a scan finds the lexemes of all pieces, one after the other, whenever no two
names stand side by side. -/

set_option autoImplicit false

namespace RowFilter.Sql

open RowFilter.Text

/-! ## The vocabulary -/

def IsSpecial (c : Char) : Prop := c = '\x22' ∨ c = '\x60' ∨ c = '$' ∨ c = '?'

instance (c : Char) : Decidable (IsSpecial c) :=
  inferInstanceAs (Decidable (c = '\x22' ∨ c = '\x60' ∨ c = '$' ∨ c = '?'))

theorem Dialect.isSpecial_quote (dialect : Dialect) : IsSpecial dialect.quote := by
  cases dialect <;> decide

/-- Some text without special characters and without a digit in front. -/
def IsPlain (text : List Char) : Prop :=
  text ≠ [] ∧ (∀ c ∈ text, ¬ IsSpecial c) ∧ ∀ c ∈ text.head?, c.isDigit = false

-- The instances are named, so that the characters of the text are tested and not all there are.
instance (text : List Char) : Decidable (IsPlain text) :=
  @instDecidableAnd _ _ inferInstance
    (@instDecidableAnd _ _ (List.decidableBAll _ text) (Option.decidableForallMem text.head?))

theorem isPlain_connective (connective : Connective) :
    IsPlain (' ' :: connective.name.toList ++ [' ']) := by
  cases connective <;> decide

theorem isPlain_comparator (kind : Comparator) : IsPlain kind.spelling.toList := by
  have all : ∀ kind ∈ Comparator.all, IsPlain kind.spelling.toList := by decide
  exact all kind (Comparator.mem_all kind)

theorem isPlain_opening (dialect : Dialect) (function : ScalarFunction) :
    IsPlain (dialect.opening function).toList := by
  have all : ∀ function ∈ ScalarFunction.all, IsPlain (dialect.opening function).toList := by
    cases dialect <;> decide
  exact all function (ScalarFunction.mem_all function)

theorem isPlain_closing (dialect : Dialect) (function : ScalarFunction) :
    IsPlain (dialect.closing function).toList := by
  have all : ∀ function ∈ ScalarFunction.all, IsPlain (dialect.closing function).toList := by
    cases dialect <;> decide
  exact all function (ScalarFunction.mem_all function)

/-! ## Kinds of pieces -/

namespace Piece

def name? : Piece → Option String
  | name text => some text
  | _ => none

def number? : Piece → Option Nat
  | placeholder number => some number
  | _ => none

theorem isPlain_spelled (dialect : Dialect) {piece : Piece} (nameless : piece.name? = none)
    (unnumbered : piece.number? = none) : IsPlain (piece.spelled dialect) := by
  cases piece with
  | leftParen | rightParen | dot | comma | space => cases dialect <;> decide
  | junction connective => exact isPlain_connective connective
  | comparator kind => exact isPlain_comparator kind
  | constant value => cases dialect <;> cases value <;> decide
  | name text => cases nameless
  | opening function => exact isPlain_opening dialect function
  | closing function => exact isPlain_closing dialect function
  | placeholder number => cases unnumbered

theorem spelled_ne_nil (dialect : Dialect) {piece : Piece} (nameless : piece.name? = none) :
    piece.spelled dialect ≠ [] := by
  cases numbered : piece.number? with
  | none => exact (isPlain_spelled dialect nameless numbered).1
  | some number =>
    cases piece with
    | placeholder number => cases dialect <;> exact List.cons_ne_nil _ _
    | _ => cases numbered

theorem quote_notMem_spelled (dialect : Dialect) {piece : Piece} (nameless : piece.name? = none) :
    dialect.quote ∉ piece.spelled dialect := by
  intro member
  cases numbered : piece.number? with
  | none =>
    exact (isPlain_spelled dialect nameless numbered).2.1 _ member dialect.isSpecial_quote
  | some number =>
    cases piece with
    | placeholder number =>
      cases dialect with
      | postgres =>
        rcases List.mem_cons.mp member with dollar | digit
        · exact absurd dollar (by decide)
        · exact absurd (Decimal.isDigit_of_mem_numeral digit) (by decide)
      | mysql => exact absurd (List.mem_singleton.mp member) (by decide)
    | _ => cases numbered

/-! ## Lexemes -/

def lexemes (dialect : Dialect) (piece : Piece) : List Lexeme :=
  match piece.name? with
  | some text => [.name text.toList]
  | none => (piece.spelled dialect).map .symbol

theorem lexemes_name (dialect : Dialect) (text : String) :
    (name text).lexemes dialect = [.name text.toList] := rfl

theorem lexemes_nameless (dialect : Dialect) {piece : Piece} (nameless : piece.name? = none) :
    piece.lexemes dialect = (piece.spelled dialect).map .symbol := by
  rw [lexemes, nameless]

end Piece

def Lexeme.name? : Lexeme → Option (List Char)
  | name text => some text
  | symbol _ => none

def Lexeme.symbol? : Lexeme → Option Char
  | name _ => none
  | symbol c => some c

def unnamed (pieces : List Piece) : List Piece := pieces.filter fun piece => piece.name?.isNone

theorem unnamed_append (first rest : List Piece) :
    unnamed (first ++ rest) = unnamed first ++ unnamed rest := List.filter_append ..

theorem unnamed_cons (piece : Piece) (nameless : piece.name? = none) (rest : List Piece) :
    unnamed (piece :: rest) = piece :: unnamed rest := by
  rw [unnamed, List.filter_cons_of_pos (by rw [nameless]; rfl), unnamed]

theorem names_lexemes (dialect : Dialect) (pieces : List Piece) :
    (pieces.flatMap (Piece.lexemes dialect)).filterMap Lexeme.name? =
      (pieces.filterMap Piece.name?).map String.toList := by
  induction pieces with
  | nil => rfl
  | cons piece rest ih =>
    rw [List.flatMap_cons, List.filterMap_append, ih]
    cases named : piece.name? with
    | none =>
      rw [piece.lexemes_nameless dialect named, List.filterMap_cons_none named]
      simp [List.filterMap_map, Function.comp_def, Lexeme.name?]
    | some text =>
      cases piece with
      | name text => rfl
      | _ => cases named

theorem symbols_lexemes (dialect : Dialect) (pieces : List Piece) :
    (pieces.flatMap (Piece.lexemes dialect)).filterMap Lexeme.symbol? =
      spell dialect (unnamed pieces) := by
  induction pieces with
  | nil => rfl
  | cons piece rest ih =>
    rw [List.flatMap_cons, List.filterMap_append, ih]
    cases named : piece.name? with
    | none =>
      rw [piece.lexemes_nameless dialect named, unnamed_cons piece named, spell_cons]
      simp [List.filterMap_map, Function.comp_def, Lexeme.symbol?]
    | some text =>
      cases piece with
      | name text => rfl
      | _ => cases named

def NamesApart (pieces : List Piece) : Prop :=
  pieces.IsChain fun first second => first.name? = none ∨ second.name? = none

theorem scan_symbols {quote : Char} (text rest : List Char) (plain : quote ∉ text) :
    scan quote (text ++ rest) = (scan quote rest).map fun tail => text.map .symbol ++ tail := by
  induction text with
  | nil => simp
  | cons c text ih =>
    rw [List.mem_cons, not_or] at plain
    rw [List.cons_append, scan_symbol _ (Ne.symm plain.1), ih plain.2]
    simp [Function.comp_def]

theorem head?_spell_ne_quote (dialect : Dialect) (pieces : List Piece)
    (nameless : ∀ piece ∈ pieces.head?, piece.name? = none) :
    (spell dialect pieces).head? ≠ some dialect.quote := by
  cases pieces with
  | nil => simp [spell]
  | cons piece rest =>
    have named := nameless piece rfl
    rw [spell_cons, List.head?_append_of_ne_nil _ (piece.spelled_ne_nil dialect named)]
    intro quoted
    exact piece.quote_notMem_spelled dialect named (List.mem_of_head? quoted)

theorem scan_spell (dialect : Dialect) {pieces : List Piece} (apart : NamesApart pieces) :
    scan dialect.quote (spell dialect pieces) = some (pieces.flatMap (Piece.lexemes dialect)) := by
  induction pieces with
  | nil =>
    rw [spell_nil, scan]
    rfl
  | cons piece rest ih =>
    obtain ⟨next, tail⟩ := List.isChain_cons.mp apart
    rw [spell_cons, List.flatMap_cons]
    cases named : piece.name? with
    | none =>
      rw [scan_symbols _ _ (piece.quote_notMem_spelled dialect named), ih tail,
        piece.lexemes_nameless dialect named]
      rfl
    | some text =>
      cases piece with
      | name text =>
        -- A quote right behind the name would be read as a part of it.
        have behind : (spell dialect rest).head? ≠ some dialect.quote := by
          apply head?_spell_ne_quote
          intro piece first
          exact (next piece first).resolve_left (by simp [Piece.name?])
        rw [Piece.spelled_name, Dialect.quoted, scan_name _ _ behind, ih tail, Piece.lexemes_name]
        rfl
      | _ => cases named

end RowFilter.Sql

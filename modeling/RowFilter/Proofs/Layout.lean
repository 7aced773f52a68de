import RowFilter.Proofs.Parts
import RowFilter.Sql.Piece

/-! # Layout of a filter

The normal form of a filter has tables in the place of entities and constants in the place of conditions
on lists without items; everything else stays.  Its layout is the list of pieces that a statement shows
when nothing is refused, as a plain function. -/

set_option autoImplicit false

namespace RowFilter

open Sql

/-! ## Normal forms -/

inductive Normal where
  | constant (value : Bool)
  | leaf (condition : Condition)
  | join (connective : Connective) (left right : Normal)
  deriving DecidableEq

/-- Nothing is in a list without items, so `IN` is false of it and `NOT IN` is true. -/
def Condition.normal (aliases : Aliases) (condition : Condition) : Normal :=
  if condition.right = .list [] then .constant (condition.comparator = .isIn true)
  else .leaf (condition.map (Column.renamed aliases.tableOf) id)

def Filter.normal (aliases : Aliases) : Filter → Normal
  | leaf condition => condition.normal aliases
  | join connective left right => .join connective (left.normal aliases) (right.normal aliases)

def Normal.literals : Normal → List Literal
  | constant _ => []
  | leaf condition => condition.right.literals
  | join _ left right => left.literals ++ right.literals

theorem Condition.literals_normal (aliases : Aliases) (condition : Condition) :
    (condition.normal aliases).literals = condition.right.literals := by
  rw [normal]
  split
  · rename_i empty
    rw [empty]
    rfl
  · rw [Normal.literals, map, RightSide.literals_map, List.map_id]

theorem Filter.literals_normal (aliases : Aliases) (filter : Filter) :
    (filter.normal aliases).literals = filter.literals := by
  induction filter with
  | leaf condition => rw [normal, Condition.literals_normal, literals_leaf]
  | join connective left right ihLeft ihRight =>
    rw [normal, Normal.literals, ihLeft, ihRight, literals_join]

/-! ## Layouts -/

/-- Wraps an expression in functions, the first of the list innermost. -/
def Sql.wrapped (functions : List ScalarFunction) (expression : List Piece) : List Piece :=
  functions.foldl (fun inner function => .opening function :: inner ++ [.closing function]) expression

/-- Functions stand around an expression like nested parentheses. -/
theorem Sql.wrapped_eq (functions : List ScalarFunction) (expression : List Piece) :
    wrapped functions expression =
      functions.reverse.map .opening ++ expression ++ functions.map .closing := by
  induction functions generalizing expression with
  | nil => simp [wrapped]
  | cons function rest ih =>
    have step : wrapped (function :: rest) expression =
        wrapped rest (.opening function :: expression ++ [.closing function]) := rfl
    rw [step, ih]
    simp

theorem Sql.spell_wrapped (dialect : Dialect) (functions : List ScalarFunction) (expression : List Piece) :
    String.ofList (spell dialect (wrapped functions expression)) =
      functions.foldl (fun inner function => dialect.applied function inner)
        (String.ofList (spell dialect expression)) := by
  induction functions generalizing expression with
  | nil => rfl
  | cons function rest ih =>
    have once : String.ofList
        (spell dialect (.opening function :: expression ++ [.closing function])) =
        dialect.applied function (String.ofList (spell dialect expression)) := by
      apply String.toList_inj.mp
      simp [Dialect.applied, spell_cons, spell_append]
    rw [List.foldl_cons, ← once, ← ih]
    rfl

def Column.layout (column : Column) : List Piece :=
  wrapped column.functions [.name column.entity, .dot, .name column.property]

theorem Column.layout_eq (column : Column) :
    column.layout = column.functions.reverse.map .opening ++
      .name column.entity :: .dot :: .name column.property :: column.functions.map .closing := by
  rw [layout, wrapped_eq]
  simp

def Sql.slotLayout : Nat → Nat → List Piece
  | _, 0 => []
  | before, 1 => [.placeholder (before + 1)]
  | before, count + 2 => .placeholder (before + 1) :: .comma :: slotLayout (before + 1) (count + 1)

theorem Sql.slotLayout_succ (before count : Nat) :
    slotLayout before (count + 1) =
      .placeholder (before + 1) :: (if count = 0 then [] else .comma :: slotLayout (before + 1) count) := by
  cases count <;> rfl

def RightSide.layout (before : Nat) : RightSide → List Piece
  | absent => []
  | literal _ => [.space, .placeholder (before + 1)]
  | column value => .space :: value.layout
  | list values => .space :: .leftParen :: slotLayout before values.length ++ [.rightParen]

def Condition.layout (before : Nat) (condition : Condition) : List Piece :=
  condition.left.layout ++ .space :: .comparator condition.comparator :: condition.right.layout before

namespace Normal

def enclosed (wrapLeaves : Bool) (pieces : List Piece) : List Piece :=
  if wrapLeaves then .leftParen :: pieces ++ [.rightParen] else pieces

theorem filterMap_enclosed {α : Type} {read : Piece → Option α} (wrapLeaves : Bool)
    (pieces : List Piece) (left : read .leftParen = none) (right : read .rightParen = none) :
    (enclosed wrapLeaves pieces).filterMap read = pieces.filterMap read := by
  cases wrapLeaves with
  | false => rfl
  | true => simp [enclosed, left, right]

/-- The pieces of a filter whose placeholders count on from `before`. -/
def layout (wrapLeaves : Bool) (before : Nat) : Normal → List Piece
  | constant value => enclosed wrapLeaves [.constant value]
  | leaf condition => enclosed wrapLeaves (condition.layout before)
  | join connective left right =>
    .leftParen :: left.layout wrapLeaves before ++ .junction connective ::
      right.layout wrapLeaves (before + left.literals.length) ++ [.rightParen]

end Normal

/-! ## What belongs to the columns -/

/-- Pieces that are no part of a column. -/
def Sql.Piece.IsBetween : Piece → Prop
  | dot => False
  | name _ => False
  | opening _ => False
  | closing _ => False
  | _ => True

section Columns

variable {α : Type} {read : Piece → Option α}
  (between : ∀ piece : Piece, piece.IsBetween → read piece = none)

include between

theorem Sql.filterMap_slotLayout (before count : Nat) : (slotLayout before count).filterMap read = [] := by
  have placeholder (number : Nat) : read (.placeholder number) = none := between _ trivial
  have comma : read .comma = none := between _ trivial
  fun_induction slotLayout before count with
  | case1 => rfl
  | case2 before => rw [List.filterMap_cons_none (placeholder _), List.filterMap_nil]
  | case3 before count ih =>
    rw [List.filterMap_cons_none (placeholder _), List.filterMap_cons_none comma, ih]

variable (aliases : Aliases)

theorem RightSide.filterMap_layout (before : Nat) (right : RightSide) :
    ((right.map (Column.renamed aliases.tableOf) id).layout before).filterMap read =
      right.columns.flatMap fun column => (column.renamed aliases.tableOf).layout.filterMap read := by
  have space : read .space = none := between _ trivial
  cases right with
  | absent => rfl
  | literal value =>
    have placeholder : read (.placeholder (before + 1)) = none := between _ trivial
    rw [map, layout, List.filterMap_cons_none space, List.filterMap_cons_none placeholder]
    rfl
  | column value =>
    rw [map, layout, List.filterMap_cons_none space, columns, List.flatMap_singleton]
  | list values =>
    have left : read .leftParen = none := between _ trivial
    have right : read .rightParen = none := between _ trivial
    rw [map, layout, List.filterMap_append, List.filterMap_cons_none space,
      List.filterMap_cons_none left, filterMap_slotLayout between, List.filterMap_cons_none right]
    rfl

theorem Condition.filterMap_normal (wrapLeaves : Bool) (before : Nat) (condition : Condition) :
    ((condition.normal aliases).layout wrapLeaves before).filterMap read =
      condition.columns.flatMap fun column =>
        (column.renamed aliases.tableOf).layout.filterMap read := by
  have left : read .leftParen = none := between _ trivial
  have right : read .rightParen = none := between _ trivial
  rw [normal, columns]
  split
  · have constant : read (.constant (condition.comparator = .isIn true)) = none := between _ trivial
    rw [Normal.layout, Normal.filterMap_enclosed _ _ left right, List.filterMap_cons_none constant]
    rfl
  · have space : read .space = none := between _ trivial
    have comparator : read (.comparator condition.comparator) = none := between _ trivial
    rw [Normal.layout, Normal.filterMap_enclosed _ _ left right, layout, map, List.filterMap_append,
      List.filterMap_cons_none space, List.filterMap_cons_none comparator,
      RightSide.filterMap_layout between, List.flatMap_cons]

/-- What is read off names and functions comes column by column. -/
theorem Filter.filterMap_layout (wrapLeaves : Bool) (before : Nat) (filter : Filter) :
    ((filter.normal aliases).layout wrapLeaves before).filterMap read =
      filter.columns.flatMap fun column => (column.renamed aliases.tableOf).layout.filterMap read := by
  induction filter generalizing before with
  | leaf condition => rw [normal, Condition.filterMap_normal between, columns_leaf]
  | join connective left right ihLeft ihRight =>
    have opened : read .leftParen = none := between _ trivial
    have closed : read .rightParen = none := between _ trivial
    have junction : read (.junction connective) = none := between _ trivial
    rw [normal, Normal.layout, List.filterMap_append, List.filterMap_append,
      List.filterMap_cons_none opened, List.filterMap_cons_none junction,
      List.filterMap_cons_none closed, List.filterMap_nil, List.append_nil, ihLeft, ihRight,
      columns_join, List.flatMap_append]

end Columns

end RowFilter

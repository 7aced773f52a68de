import RowFilter.Sql.Rendered

/-! # Parts of a filter

What a filter holds, from left to right: its literals, and the columns that a statement shows.  A list
without items makes the whole condition a constant, so such a condition shows no column.  `Filter.map`
changes columns and literals and keeps the tree, the comparators and the lengths of the lists. -/

set_option autoImplicit false

namespace RowFilter

open Sql

/-! ## Literals and columns -/

/-- The literals of all conditions in order, lists item by item. -/
def Filter.literals (filter : Filter) : List Literal :=
  filter.conditions.flatMap fun condition => condition.right.literals

def RightSide.columns : RightSide → List Column
  | column value => [value]
  | _ => []

def Condition.columns (condition : Condition) : List Column :=
  if condition.right = .list [] then [] else condition.left :: condition.right.columns

def Filter.columns (filter : Filter) : List Column := filter.conditions.flatMap Condition.columns

theorem Filter.literals_leaf (condition : Condition) :
    (leaf condition).literals = condition.right.literals := by
  simp [literals, conditions]

theorem Filter.literals_join (connective : Connective) (left right : Filter) :
    (join connective left right).literals = left.literals ++ right.literals := by
  simp [literals, conditions]

theorem Filter.columns_leaf (condition : Condition) :
    (leaf condition).columns = condition.columns := by
  simp [columns, conditions]

theorem Filter.columns_join (connective : Connective) (left right : Filter) :
    (join connective left right).columns = left.columns ++ right.columns := by
  simp [columns, conditions]

/-! ## Tables -/

/-- The table an entity stands for: its last alias, or else the name of the entity. -/
def Sql.Aliases.tableOf (aliases : Aliases) (entity : String) : String :=
  (aliases.last? entity).getD entity

def Column.renamed (rename : String → String) (column : Column) : Column :=
  { column with entity := rename column.entity }

def Column.names (aliases : Aliases) (column : Column) : List String :=
  [aliases.tableOf column.entity, column.property]

def Filter.names (aliases : Aliases) (filter : Filter) : List String :=
  filter.columns.flatMap (Column.names aliases)

/-! ## Changing the parts -/

section Map

variable (onColumn : Column → Column) (onLiteral : Literal → Literal)

def RightSide.map : RightSide → RightSide
  | absent => absent
  | literal value => literal (onLiteral value)
  | column value => column (onColumn value)
  | list values => list (values.map onLiteral)

def Condition.map (condition : Condition) : Condition :=
  ⟨onColumn condition.left, condition.comparator, condition.right.map onColumn onLiteral⟩

def Filter.map : Filter → Filter
  | leaf condition => leaf (condition.map onColumn onLiteral)
  | join connective left right => join connective left.map right.map

theorem RightSide.map_eq_emptyList {right : RightSide} :
    right.map onColumn onLiteral = .list [] ↔ right = .list [] := by
  cases right <;> simp [map]

theorem RightSide.literals_map (right : RightSide) :
    (right.map onColumn onLiteral).literals = right.literals.map onLiteral := by
  cases right <;> simp [map, literals]

theorem Condition.map_right (condition : Condition) :
    (condition.map onColumn onLiteral).right = condition.right.map onColumn onLiteral := rfl

theorem Filter.literals_map (filter : Filter) :
    (filter.map onColumn onLiteral).literals = filter.literals.map onLiteral := by
  induction filter with
  | leaf condition =>
    rw [map, literals_leaf, literals_leaf, Condition.map_right, RightSide.literals_map]
  | join connective left right ihLeft ihRight =>
    rw [map, literals_join, literals_join, ihLeft, ihRight, List.map_append]

end Map

/-! ## Outlines -/

def Column.outline (column : Column) : Column := ⟨"", "", column.functions⟩

def RightSide.outline (right : RightSide) : RightSide := right.map Column.outline fun _ => .bool false

def Condition.outline (condition : Condition) : Condition :=
  condition.map Column.outline fun _ => .bool false

/-- A filter without its names and its literals.  Two filters have one outline when they have the same
tree and, condition by condition, the same functions, comparator and kind of right side, lists being of
the same length. -/
def Filter.outline (filter : Filter) : Filter := filter.map Column.outline fun _ => .bool false

theorem RightSide.outline_eq_emptyList {right : RightSide} :
    right.outline = .list [] ↔ right = .list [] := map_eq_emptyList _ _

theorem Filter.length_literals_of_outline {filter other : Filter}
    (same : other.outline = filter.outline) : other.literals.length = filter.literals.length := by
  have lengths := congrArg (fun found => found.literals.length) same
  simpa [outline, literals_map] using lengths

end RowFilter

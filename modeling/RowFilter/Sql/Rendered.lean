import RowFilter.Filter
import RowFilter.Sql.Draft

/-! # Rendered filters

The condition of an SQL statement as text, with the literals to bind to its placeholders in order.  Rendering
is a visit that writes a draft: a joint writes its sides with the connective between them, in parentheses, and
a condition its column, its comparator and its right side.  Where something is refused, the visit ends.  A list
without items has no SQL of its own: nothing is in it, so the condition is a constant, and its column is not
looked at. -/

set_option autoImplicit false

namespace RowFilter

namespace Sql

/-! ## Tables -/

/-- A list of entities with the table alias of each.  An entity may occur more than once; then its last alias
is the one that holds. -/
abbrev Aliases := List (String × String)

def Aliases.last? (aliases : Aliases) (entity : String) : Option String :=
  aliases.reverse.lookup entity

structure Settings where
  /-- The number of literals that the enclosing statement has bound. -/
  offset : Nat := 0
  /-- Put every condition in parentheses. -/
  wrapLeaves : Bool := false
  /-- Refuse entities without an alias; otherwise the table has the entity's name. -/
  requireAliases : Bool := false

def table (aliases : Aliases) (settings : Settings) (entity : String) : Except FilterError String :=
  match aliases.last? entity with
  | some found => .ok found
  | none => if settings.requireAliases then .error (.noAlias entity) else .ok entity

end Sql

open Sql

/-! ## Writing a filter -/

section Writing

variable (dialect : Dialect) (aliases : Aliases) (settings : Settings)

/-- The text of a column, with its functions around it from the first of the record to the last. -/
def Column.sql (column : Column) : Except FilterError String := do
  let table ← table aliases settings column.entity
  let bare := dialect.appendName (dialect.appendName "" table ++ ".") column.property
  .ok (column.functions.foldl (fun inner function => dialect.applied function inner) bare)

def Column.write (column : Column) : Writing Unit := do
  let text ← ofExcept (column.sql dialect aliases settings)
  Draft.push text

namespace RightSide

def writeItems : Bool → List Literal → Writing Unit
  | _, [] => pure ()
  | isFirst, value :: rest => do
    if !isFirst then Draft.push ", "
    Draft.pushParam dialect settings.offset value
    writeItems false rest

def write : RightSide → Writing Unit
  | absent => pure ()
  | literal value => do
    Draft.push " "
    Draft.pushParam dialect settings.offset value
  | column other => do
    Draft.push " "
    other.write dialect aliases settings
  | list values => do
    Draft.push " "
    Draft.push "("
    writeItems dialect settings true values
    Draft.push ")"

end RightSide

def Condition.write (condition : Condition) : Writing Unit :=
  if condition.right = .list [] then
    Draft.push (if condition.comparator = .isIn true then "TRUE" else "FALSE")
  else do
    condition.left.write dialect aliases settings
    Draft.push " "
    Draft.push condition.comparator.spelling
    condition.right.write dialect aliases settings

def Sql.writeJoint (keyword : String) (left right : Writing Unit) : Writing Unit := do
  Draft.push "("
  left
  Draft.push " "
  Draft.push keyword
  Draft.push " "
  right
  Draft.push ")"

def Visitor.renderer : Visitor (Writing Unit) where
  and left right := writeJoint "AND" left.accepted right.accepted
  or left right := writeJoint "OR" left.accepted right.accepted
  leaf condition :=
    if settings.wrapLeaves then do
      Draft.push "("
      condition.write dialect aliases settings
      Draft.push ")"
    else condition.write dialect aliases settings

end Writing

/-! ## Results -/

namespace Sql

structure Rendered where
  sql : String
  params : List Literal
  deriving DecidableEq

namespace Rendered

def ofWriting (writing : Writing Unit) : Except FilterError Rendered :=
  match writing.run {} with
  | .ok _ draft => .ok ⟨draft.text, draft.params⟩
  | .error refusal _ => .error refusal

def prepend (rendered : Rendered) (text : String) : Rendered :=
  { rendered with sql := text ++ rendered.sql }

/-- Texts put in front one after the other: the last of them ends up first. -/
def prependAll (rendered : Rendered) (texts : List String) : Rendered := texts.foldl prepend rendered

/-- The statement to run, its literals bound in order.  Only PostgreSQL has a connection for it. -/
def statement? (dialect : Dialect) (rendered : Rendered) : Option Rendered :=
  match dialect with
  | .postgres => some rendered
  | .mysql => none

theorem sql_prependAll (rendered : Rendered) (texts : List String) :
    (rendered.prependAll texts).sql.toList =
      texts.reverse.flatMap String.toList ++ rendered.sql.toList := by
  induction texts generalizing rendered with
  | nil => rfl
  | cons text rest ih =>
    have step : rendered.prependAll (text :: rest) = (rendered.prepend text).prependAll rest := rfl
    rw [step, ih]
    simp [prepend]

end Rendered

end Sql

def Filter.render (dialect : Dialect) (aliases : Aliases) (settings : Settings) (filter : Filter) :
    Except FilterError Rendered :=
  Rendered.ofWriting (filter.accept (Visitor.renderer dialect aliases settings))

end RowFilter

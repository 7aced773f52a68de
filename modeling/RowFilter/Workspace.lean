import RowFilter.Script

/-! # Workspaces

A workspace holds columns and filters under names.  Names of columns and names of filters are apart.  An
action makes a column or a filter from what some names stand for and binds the result to a name; what was
made earlier from a name keeps its value when the name is bound anew.  A refused action binds nothing,
and an action on a name that stands for nothing is none at all. -/

set_option autoImplicit false

namespace RowFilter

structure Workspace where
  columns : List (String × Column) := []
  filters : List (String × Filter) := []

namespace Workspace

inductive Side where
  | left
  | right
  deriving DecidableEq

inductive Action where
  | property (target : String) (made : Column)
  | transform (source : String) (function : ScalarFunction) (target : String)
  | test (left : String) (asked : Test) (target : String)
  | testAgainst (left : String) (relation : Relation) (other target : String)
  | condition (left : String) (comparator : Comparator) (right : RightSide) (target : String)
  | conditionAgainst (left : String) (comparator : Comparator) (other target : String)
  | join (connective : Connective) (left right target : String)
  | joinParts (connective : Connective) (left right : Option String) (target : String)
  | combine (connective : Connective) (parts : List String) (target : String)
  | side (side : Side) (source target : String)

inductive Reply where
  | column (made : Column)
  | filter (made : Filter)
  /-- A condition has no sides. -/
  | leaf
  | refused (refusal : FilterError)

def column? (workspace : Workspace) (name : String) : Option Column := workspace.columns.lookup name

def filter? (workspace : Workspace) (name : String) : Option Filter := workspace.filters.lookup name

/-- A part that may be missing: no name stands for no part. -/
def part? (workspace : Workspace) : Option String → Option (Option Filter)
  | none => some none
  | some name => (workspace.filter? name).map some

def bindColumn (workspace : Workspace) (target : String) (made : Column) : Workspace × Reply :=
  ({ workspace with columns := (target, made) :: workspace.columns }, .column made)

def bindFilter (workspace : Workspace) (target : String) (made : Filter) : Workspace × Reply :=
  ({ workspace with filters := (target, made) :: workspace.filters }, .filter made)

/-- Binds the outcome of a construction that may be refused. -/
def bindOutcome (workspace : Workspace) (target : String) :
    Except FilterError Filter → Workspace × Reply
  | .ok made => workspace.bindFilter target made
  | .error refusal => (workspace, .refused refusal)

def act (workspace : Workspace) : Action → Option (Workspace × Reply)
  | .property target made => some (workspace.bindColumn target made)
  | .transform source function target => do
    let column ← workspace.column? source
    some (workspace.bindColumn target (column.asking function))
  | .test left asked target => do
    let column ← workspace.column? left
    some (workspace.bindFilter target (column.asks asked))
  | .testAgainst left relation other target => do
    let column ← workspace.column? left
    let other ← workspace.column? other
    some (workspace.bindFilter target (column.asks (.compareColumn relation other)))
  | .condition left comparator right target => do
    let column ← workspace.column? left
    some (workspace.bindOutcome target ((Condition.ofParts? column comparator right).map .leaf))
  | .conditionAgainst left comparator other target => do
    let column ← workspace.column? left
    let other ← workspace.column? other
    some (workspace.bindOutcome target ((Condition.ofParts? column comparator (.column other)).map .leaf))
  | .join connective left right target => do
    let left ← workspace.filter? left
    let right ← workspace.filter? right
    some (workspace.bindFilter target (.join connective left right))
  | .joinParts connective left right target => do
    let left ← workspace.part? left
    let right ← workspace.part? right
    some (workspace.bindOutcome target (Filter.joinParts connective left right))
  | .combine connective parts target => do
    let parts ← parts.mapM workspace.filter?
    some (workspace.bindOutcome target (Filter.combine connective parts))
  | .side side source target => do
    let filter ← workspace.filter? source
    match filter with
    | .leaf _ => some (workspace, .leaf)
    | .join _ left right =>
      some (workspace.bindFilter target (match side with | .left => left | .right => right))

end Workspace

end RowFilter

import RowFilter.Literal
import RowFilter.Vocabulary

/-! # Conditions

A condition is a column, a comparator and a right side: nothing, a literal, a column or a list of literals.
It is legal when the right side fits the comparator.  There are two ways to a legal condition: `Column.test`
takes a comparator together with what it needs, and `Condition.ofParts?` takes any parts and checks them. -/

set_option autoImplicit false

namespace RowFilter

/-! ## Columns -/

/-- A property of an entity with the functions to apply to it.  The function asked for last stands first in
the list and is applied first, so it ends up innermost. -/
structure Column where
  entity : String
  property : String
  functions : List ScalarFunction := []
  deriving DecidableEq

namespace Column

def apply (column : Column) (function : ScalarFunction) : Column :=
  { column with functions := function :: column.functions }

def upperCase (column : Column) : Column := column.apply .upper

def lowerCase (column : Column) : Column := column.apply .lower

def isoDayOfWeek (column : Column) : Column := column.apply .isoDayOfWeek

def dayOfMonth (column : Column) : Column := column.apply .dayOfMonth

def dayOfYear (column : Column) : Column := column.apply .dayOfYear

def month (column : Column) : Column := column.apply .month

def year (column : Column) : Column := column.apply .year

def isoWeek (column : Column) : Column := column.apply .isoWeek

def hour (column : Column) : Column := column.apply .hour

def minute (column : Column) : Column := column.apply .minute

def second (column : Column) : Column := column.apply .second

def asking (column : Column) : ScalarFunction → Column
  | .upper => column.upperCase
  | .lower => column.lowerCase
  | .isoDayOfWeek => column.isoDayOfWeek
  | .dayOfMonth => column.dayOfMonth
  | .dayOfYear => column.dayOfYear
  | .month => column.month
  | .year => column.year
  | .isoWeek => column.isoWeek
  | .hour => column.hour
  | .minute => column.minute
  | .second => column.second

theorem asking_eq (column : Column) (function : ScalarFunction) :
    column.asking function = column.apply function := by
  cases function <;> rfl

def applyAll (column : Column) (functions : List ScalarFunction) : Column :=
  functions.foldl asking column

theorem applyAll_eq (column : Column) (functions : List ScalarFunction) :
    column.applyAll functions = { column with functions := functions.reverse ++ column.functions } := by
  induction functions generalizing column with
  | nil => rfl
  | cons function rest ih =>
    have step : column.applyAll (function :: rest) = (column.asking function).applyAll rest := rfl
    rw [step, ih, asking_eq]
    simp [apply]

/-- The text for people leaves the functions out. -/
def written (column : Column) : List Char := column.entity.toList ++ '.' :: column.property.toList

def describe (column : Column) : String := String.ofList column.written

end Column

/-! ## Right sides -/

inductive RightSide where
  | absent
  | literal (value : Literal)
  | column (value : Column)
  | list (values : List Literal)
  deriving DecidableEq

inductive Shape where
  | absent
  | literal
  | column
  | list
  deriving DecidableEq

def Shape.phrase : Shape → String
  | absent => "no value"
  | literal => "a single value"
  | column => "a property"
  | list => "a list"

namespace RightSide

def shape : RightSide → Shape
  | absent => .absent
  | literal _ => .literal
  | column _ => .column
  | list _ => .list

/-- A single thing fits the comparators that take neither nothing nor a list. -/
def Fits : RightSide → Comparator → Prop
  | absent, comparator => comparator.isUnary
  | list _, comparator => comparator.isCollection
  | _, comparator => !comparator.isUnary && !comparator.isCollection

instance : (right : RightSide) → (comparator : Comparator) → Decidable (right.Fits comparator)
  | absent, _ | literal _, _ | column _, _ | list _, _ => inferInstanceAs (Decidable (_ = true))

def literals : RightSide → List Literal
  | literal value => [value]
  | list values => values
  | _ => []

def writtenItems : List Literal → List Char
  | [] => []
  | [value] => value.written
  | value :: rest => value.written ++ ',' :: ' ' :: writtenItems rest

def written : RightSide → List Char
  | absent => "null".toList
  | literal value => value.written
  | column value => value.written
  | list values => '[' :: writtenItems values ++ [']']

def agreeAll : List Literal → List Literal → Bool
  | [], [] => true
  | x :: xs, y :: ys => x.agrees y && agreeAll xs ys
  | _, _ => false

def agrees : RightSide → RightSide → Bool
  | absent, absent => true
  | literal x, literal y => x.agrees y
  | column x, column y => x = y
  | list xs, list ys => agreeAll xs ys
  | _, _ => false

end RightSide

/-! ## Refusals -/

inductive FilterError where
  /-- A connective without one of its sides, or with nothing to join. -/
  | missingPart (connective : Connective)
  /-- A right side that its comparator does not take. -/
  | misfit (comparator : Comparator) (shape : Shape)
  /-- An entity that has no table alias where every entity needs one. -/
  | noAlias (entity : String)
  /-- A placeholder whose number is too large. -/
  | placeholderOverflow (offset : Nat)
  deriving DecidableEq

def FilterError.message : FilterError → String
  | missingPart connective => "Malformed " ++ connective.name ++ " composition: missing operand"
  | misfit comparator shape =>
    "Invalid value for operator " ++ comparator.name ++ ": got " ++ shape.phrase
  | noAlias entity => "Render error: no alias for entity " ++ entity
  | placeholderOverflow offset =>
    "Render error: placeholder number overflows with offset " ++
      String.ofList (Text.Decimal.numeral offset)

theorem FilterError.bind_eq_ok {α β : Type} {first : Except FilterError α} {next : α → Except FilterError β}
    {done : β} : (first >>= next) = .ok done ↔ ∃ found, first = .ok found ∧ next found = .ok done := by
  cases first with
  | error refusal => simp [Bind.bind, Except.bind]
  | ok found => simp [Bind.bind, Except.bind]

/-! ## Conditions -/

structure Condition where
  left : Column
  comparator : Comparator
  right : RightSide
  deriving DecidableEq

namespace Condition

def Legal (condition : Condition) : Prop := condition.right.Fits condition.comparator

instance (condition : Condition) : Decidable condition.Legal :=
  inferInstanceAs (Decidable (condition.right.Fits condition.comparator))

/-- A condition whose comparator is only known when it is made. -/
def ofParts? (left : Column) (comparator : Comparator) (right : RightSide) :
    Except FilterError Condition :=
  if right.Fits comparator then .ok ⟨left, comparator, right⟩
  else .error (.misfit comparator right.shape)

def written (condition : Condition) : List Char :=
  condition.left.written ++ ' ' :: condition.comparator.name.toList ++ ' ' :: condition.right.written

def describe (condition : Condition) : String := String.ofList condition.written

def agrees (x y : Condition) : Bool :=
  x.left = y.left && x.comparator = y.comparator && x.right.agrees y.right

theorem legal_of_ofParts? {left : Column} {comparator : Comparator} {right : RightSide}
    {condition : Condition} (built : ofParts? left comparator right = .ok condition) :
    condition.Legal := by
  simp only [ofParts?] at built
  split at built
  · rename_i fits
    cases built
    exact fits
  · cases built

end Condition

/-! ## Tests -/

/-- A comparator together with a right side of the kind it takes. -/
inductive Test where
  | compare (relation : Relation) (value : Literal)
  | compareColumn (relation : Relation) (value : Column)
  | isNull (negated : Bool)
  | isIn (negated : Bool) (values : List Literal)
  deriving DecidableEq

namespace Test

def comparator : Test → Comparator
  | compare relation _ => .relation relation
  | compareColumn relation _ => .relation relation
  | isNull negated => .isNull negated
  | isIn negated _ => .isIn negated

def right : Test → RightSide
  | compare _ value => .literal value
  | compareColumn _ value => .column value
  | isNull _ => .absent
  | isIn _ values => .list values

end Test

def Column.test (column : Column) (test : Test) : Condition := ⟨column, test.comparator, test.right⟩

theorem Condition.legal_test (column : Column) (test : Test) : (column.test test).Legal := by
  cases test <;> rfl

end RowFilter

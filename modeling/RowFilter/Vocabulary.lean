/-! # The vocabulary of filters

Connectives join filters, scalar functions are applied to columns, and comparators relate a column to what
stands on its right.  Each has a symbolic name.  Connectives and comparators are spelled alike in all
dialects of SQL; how a function is spelled is up to the dialect. -/

set_option autoImplicit false

namespace RowFilter

/-! ## Connectives -/

inductive Connective where
  | and
  | or
  deriving DecidableEq

def Connective.name : Connective → String
  | and => "AND"
  | or => "OR"

/-! ## Scalar functions -/

inductive ScalarFunction where
  | upper
  | lower
  | isoDayOfWeek
  | dayOfMonth
  | dayOfYear
  | month
  | year
  | isoWeek
  | hour
  | minute
  | second
  deriving DecidableEq

namespace ScalarFunction

def all : List ScalarFunction :=
  [upper, lower, isoDayOfWeek, dayOfMonth, dayOfYear, month, year, isoWeek, hour, minute, second]

def name : ScalarFunction → String
  | upper => "UPPER"
  | lower => "LOWER"
  | isoDayOfWeek => "ISO_DAY_OF_WEEK"
  | dayOfMonth => "DAY_OF_MONTH"
  | dayOfYear => "DAY_OF_YEAR"
  | month => "MONTH"
  | year => "YEAR"
  | isoWeek => "ISO_WEEK"
  | hour => "HOUR"
  | minute => "MINUTE"
  | second => "SECOND"

def ofName? (name : String) : Option ScalarFunction := all.find? fun function => function.name = name

theorem mem_all (function : ScalarFunction) : function ∈ all := by
  cases function <;> decide

end ScalarFunction

/-! ## Comparators -/

/-- The comparators with one thing on either side. -/
inductive Relation where
  | equals
  | notEquals
  | greaterThan
  | greaterThanOrEqual
  | lessThan
  | lessThanOrEqual
  | like
  | notLike
  deriving DecidableEq

inductive Comparator where
  | relation (kind : Relation)
  | isNull (negated : Bool)
  | isIn (negated : Bool)
  deriving DecidableEq

namespace Relation

def name : Relation → String
  | equals => "EQUALS"
  | notEquals => "NOT_EQUALS"
  | greaterThan => "GREATER_THAN"
  | greaterThanOrEqual => "GREATER_THAN_OR_EQUAL"
  | lessThan => "LESS_THAN"
  | lessThanOrEqual => "LESS_THAN_OR_EQUAL"
  | like => "LIKE"
  | notLike => "NOT_LIKE"

def spelling : Relation → String
  | equals => "="
  | notEquals => "<>"
  | greaterThan => ">"
  | greaterThanOrEqual => ">="
  | lessThan => "<"
  | lessThanOrEqual => "<="
  | like => "LIKE"
  | notLike => "NOT LIKE"

end Relation

namespace Comparator

def all : List Comparator :=
  [relation .equals, relation .notEquals, relation .greaterThan, relation .greaterThanOrEqual,
    relation .lessThan, relation .lessThanOrEqual, isNull false, isNull true, relation .like,
    relation .notLike, isIn false, isIn true]

def name : Comparator → String
  | relation kind => kind.name
  | isNull negated => if negated then "IS_NOT_NULL" else "IS_NULL"
  | isIn negated => if negated then "NOT_IN" else "IN"

def spelling : Comparator → String
  | relation kind => kind.spelling
  | isNull negated => if negated then "IS NOT NULL" else "IS NULL"
  | isIn negated => if negated then "NOT IN" else "IN"

def isUnary : Comparator → Bool
  | isNull _ => true
  | _ => false

def isCollection : Comparator → Bool
  | isIn _ => true
  | _ => false

def ofName? (name : String) : Option Comparator := all.find? fun comparator => comparator.name = name

theorem mem_all (comparator : Comparator) : comparator ∈ all := by
  cases comparator with
  | relation kind => cases kind <;> decide
  | isNull negated => cases negated <;> decide
  | isIn negated => cases negated <;> decide

theorem ofName?_name (comparator : Comparator) : ofName? comparator.name = some comparator := by
  cases comparator with
  | relation kind => cases kind <;> decide
  | isNull negated => cases negated <;> decide
  | isIn negated => cases negated <;> decide

end Comparator

end RowFilter

import RowFilter.Text.Numeral
import RowFilter.Text.Quoted
import RowFilter.Vocabulary

/-! # SQL dialects

What the dialects spell differently: the quote around names, placeholders and scalar functions. -/

set_option autoImplicit false

namespace RowFilter.Sql

open RowFilter.Text

inductive Dialect where
  | postgres
  | mysql
  deriving DecidableEq

namespace Dialect

def quote : Dialect → Char
  | postgres => '\x22'
  | mysql => '\x60'

def quoted (dialect : Dialect) (name : String) : List Char := Quoted.written dialect.quote name.toList

/-- Placeholders are numbered in one dialect and positional in the other. -/
def placeholder : Dialect → Nat → List Char
  | postgres, number => '$' :: Decimal.numeral number
  | mysql, _ => ['?']

def opening : Dialect → ScalarFunction → String
  | postgres, .upper => "UPPER("
  | postgres, .lower => "LOWER("
  | postgres, .isoDayOfWeek => "EXTRACT(ISODOW FROM "
  | postgres, .dayOfMonth => "EXTRACT(DAY FROM "
  | postgres, .dayOfYear => "EXTRACT(DOY FROM "
  | postgres, .month => "EXTRACT(MONTH FROM "
  | postgres, .year => "EXTRACT(YEAR FROM "
  | postgres, .isoWeek => "EXTRACT(WEEK FROM "
  | postgres, .hour => "EXTRACT(HOUR FROM "
  | postgres, .minute => "EXTRACT(MINUTE FROM "
  | postgres, .second => "FLOOR(EXTRACT(SECOND FROM "
  | mysql, .upper => "UPPER("
  | mysql, .lower => "LOWER("
  | mysql, .isoDayOfWeek => "(WEEKDAY("
  | mysql, .dayOfMonth => "DAYOFMONTH("
  | mysql, .dayOfYear => "DAYOFYEAR("
  | mysql, .month => "MONTH("
  | mysql, .year => "YEAR("
  | mysql, .isoWeek => "WEEK("
  | mysql, .hour => "HOUR("
  | mysql, .minute => "MINUTE("
  | mysql, .second => "SECOND("

/-- What a function puts behind its argument.  Weekdays count from zero in one dialect, and its third
week mode is the one of ISO. -/
def closing : Dialect → ScalarFunction → String
  | postgres, .second => "))"
  | mysql, .isoDayOfWeek => ") + 1)"
  | mysql, .isoWeek => ", 3)"
  | _, _ => ")"

def applied (dialect : Dialect) (function : ScalarFunction) (expression : String) : String :=
  dialect.opening function ++ expression ++ dialect.closing function

end Dialect

end RowFilter.Sql

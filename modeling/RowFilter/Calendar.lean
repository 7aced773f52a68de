import RowFilter.Text.Numeral

/-! # Dates and times

Dates of the Gregorian calendar, extended to all years from -262143 to 262142; there is a year zero.  A year
of four digits is written without a sign, every other year with one.  A time of day is hour, minute, second
and nanoseconds.  In the last second of a minute the nanoseconds may run past one second: that is a leap
second, written as second 60.  A leap second is no other time, so it differs from the midnight after it. -/

set_option autoImplicit false

namespace RowFilter

open Text

/-! ## Dates -/

/-- Every fourth year but the centuries, and every fourth century. -/
def IsLeap (year : Int) : Prop := year % 4 = 0 ∧ (year % 100 ≠ 0 ∨ year % 400 = 0)

instance (year : Int) : Decidable (IsLeap year) := inferInstanceAs (Decidable (_ ∧ _))

def daysIn (year : Int) (month : Nat) : Nat :=
  if month = 2 then if IsLeap year then 29 else 28
  else if month = 4 ∨ month = 6 ∨ month = 9 ∨ month = 11 then 30
  else if 1 ≤ month ∧ month ≤ 12 then 31
  else 0

def IsDate (year : Int) (month day : Nat) : Prop :=
  -262143 ≤ year ∧ year ≤ 262142 ∧ 1 ≤ day ∧ day ≤ daysIn year month

instance (year : Int) (month day : Nat) : Decidable (IsDate year month day) :=
  inferInstanceAs (Decidable (_ ∧ _))

structure Date where
  year : Int
  month : Nat
  day : Nat
  valid : IsDate year month day
  deriving DecidableEq

namespace Date

def ofParts? (year : Int) (month day : Nat) : Option Date :=
  if valid : IsDate year month day then some ⟨year, month, day, valid⟩ else none

def writtenYear (year : Int) : List Char :=
  let digits := Decimal.padded 4 year.natAbs
  if 0 ≤ year ∧ year ≤ 9999 then digits
  else (if year < 0 then '-' else '+') :: digits

def written (date : Date) : List Char :=
  writtenYear date.year ++ '-' :: Decimal.padded 2 date.month ++ '-' :: Decimal.padded 2 date.day

example : (ofParts? 2000 2 29).isSome = true ∧ ofParts? 1900 2 29 = none := by decide

end Date

/-! ## Times of day -/

def nanosPerSecond : Nat := 1000000000

def IsTimeOfDay (hour minute second nanos : Nat) : Prop :=
  hour < 24 ∧ minute < 60 ∧ second < 60 ∧ nanos < 2 * nanosPerSecond ∧
    (nanosPerSecond ≤ nanos → second = 59)

instance (hour minute second nanos : Nat) : Decidable (IsTimeOfDay hour minute second nanos) :=
  inferInstanceAs (Decidable (_ ∧ _))

structure TimeOfDay where
  hour : Nat
  minute : Nat
  second : Nat
  nanos : Nat
  valid : IsTimeOfDay hour minute second nanos
  deriving DecidableEq

namespace TimeOfDay

def ofParts? (hour minute second nanos : Nat) : Option TimeOfDay :=
  if valid : IsTimeOfDay hour minute second nanos then some ⟨hour, minute, second, nanos, valid⟩
  else none

def IsLeapSecond (time : TimeOfDay) : Prop := nanosPerSecond ≤ time.nanos

instance (time : TimeOfDay) : Decidable time.IsLeapSecond := inferInstanceAs (Decidable (_ ≤ _))

/-- The fraction of a second with its point, in three, six or nine digits; nothing when it is zero. -/
def writtenFraction (nanos : Nat) : List Char :=
  if nanos = 0 then []
  else if nanos % 1000000 = 0 then '.' :: Decimal.padded 3 (nanos / 1000000)
  else if nanos % 1000 = 0 then '.' :: Decimal.padded 6 (nanos / 1000)
  else '.' :: Decimal.padded 9 nanos

def written (time : TimeOfDay) : List Char :=
  let second := if time.IsLeapSecond then 60 else time.second
  Decimal.padded 2 time.hour ++ ':' :: Decimal.padded 2 time.minute ++ ':' :: Decimal.padded 2 second ++
    writtenFraction (time.nanos % nanosPerSecond)

end TimeOfDay

end RowFilter

/-!
# `DraftSchema.Calendar`: dates, times of day and offsets

Dates of the Gregorian calendar extended to all years, times of day with leap
seconds, and offsets from universal time. The years that dates may have are
bounded, and so is every date with a time and an offset once it is moved to
universal time.
-/

set_option autoImplicit false

namespace DraftSchema.Calendar

/-- The year has a 29th of February. -/
def isLeapYear (year : Int) : Bool :=
  year % 4 = 0 && (year % 100 ≠ 0 || year % 400 = 0)

/-- The number of days in a month of a year. -/
def daysInMonth (year : Int) (month : Nat) : Nat :=
  match month with
  | 2 => if isLeapYear year then 29 else 28
  | 4 | 6 | 9 | 11 => 30
  | _ => 31

/-- The first year. -/
def firstYear : Int := -262143

/-- The last year. -/
def lastYear : Int := 262142

/-- A year, a month and a day. -/
structure Date where
  year : Int
  month : Nat
  day : Nat
deriving DecidableEq, Repr

/-- The three numbers name a day of the calendar. -/
def Date.isValid (d : Date) : Bool :=
  firstYear ≤ d.year && d.year ≤ lastYear && 1 ≤ d.month && d.month ≤ 12
    && 1 ≤ d.day && d.day ≤ daysInMonth d.year d.month

/-- The first day of the calendar. -/
def Date.first : Date := ⟨firstYear, 1, 1⟩

/-- The last day of the calendar. -/
def Date.last : Date := ⟨lastYear, 12, 31⟩

/-- A time of day. -/
structure Time where
  hour : Nat
  minute : Nat
  second : Nat
deriving DecidableEq, Repr

/-- The three numbers name a time of day. A minute may have a leap second. -/
def Time.isValid (t : Time) : Bool := t.hour < 24 && t.minute < 60 && t.second ≤ 60

/-- The seconds in a day. -/
def secondsPerDay : Int := 86400

/-- The seconds since midnight; a leap second counts as the one before. -/
def Time.seconds (t : Time) : Int := t.hour * 3600 + t.minute * 60 + min t.second 59

/-- The moment that a date and a time name at an offset of so many seconds is
within the calendar in universal time. -/
def isWithinCalendar (d : Date) (t : Time) (offset : Int) : Bool :=
  let seconds := t.seconds - offset
  if seconds < 0 then d ≠ .first
  else if secondsPerDay ≤ seconds then d ≠ .last
  else true

end DraftSchema.Calendar

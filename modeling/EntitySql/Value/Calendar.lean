import EntitySql.Value.Basic

/-!
# The calendar

Timestamps count from the start of 1970. Other counts start elsewhere, and only so many years have
timestamps, so the starts of years are needed. The calendar is the Gregorian one, extended to all
years.
-/

namespace EntitySql.Calendar

/-- The days from the start of 1970 to the start of a year: 365 for each year, and one more for each
leap year, counted since the leap years before 1970. -/
def daysBeforeYear (year : Int) : Int :=
  365 * (year - 1970) + (year - 1969).fdiv 4 - (year - 1901).fdiv 100 + (year - 1601).fdiv 400

example : daysBeforeYear 2000 = 10957 := rfl

/-- The first timestamp of a year. -/
def startOfYear (year : Int) : Timestamp :=
  ⟨daysBeforeYear year * 86400 * 1000000000⟩

/-- Whether a timestamp lies within the years that there are timestamps for. -/
def inRange (t : Timestamp) : Bool :=
  (startOfYear (-262143)).nanoseconds ≤ t.nanoseconds
    && t.nanoseconds < (startOfYear 262143).nanoseconds

end EntitySql.Calendar

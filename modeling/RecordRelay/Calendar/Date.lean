/-!
# Days, months and years

A year that four divides is a leap year, unless a hundred divides it and four hundred does not.
-/

namespace RecordRelay.Calendar

/-- Whether a year has a twenty-ninth of February. -/
def isLeap (year : Int) : Bool := year % 4 == 0 && (year % 100 != 0 || year % 400 == 0)

/-- The number of days in a month, none if there is no such month. -/
def daysInMonth (year : Int) (month : Nat) : Nat :=
  if month = 2 then if isLeap year then 29 else 28
  else if month = 4 ∨ month = 6 ∨ month = 9 ∨ month = 11 then 30
  else if 1 ≤ month ∧ month ≤ 12 then 31
  else 0

/-- Whether the calendar has this day. -/
def isDay (year : Int) (month day : Nat) : Bool := 1 ≤ day && day ≤ daysInMonth year month

end RecordRelay.Calendar

/-!
# Calendar dates

Dates of the proleptic Gregorian calendar, with a year zero and negative years before it, within
fixed limits.
-/

namespace RaceSentry

/-- The first year that has dates. -/
def firstYear : Int := -262143

/-- The last year that has dates. -/
def lastYear : Int := 262142

/-- Every fourth year is a leap year, except centuries that 400 does not divide. -/
def isLeapYear (year : Int) : Bool := year % 4 == 0 && (year % 100 != 0 || year % 400 == 0)

/-- The number of days of a month. -/
def daysInMonth (year : Int) (month : Nat) : Nat :=
  if month = 2 then (if isLeapYear year then 29 else 28)
  else if month = 4 ∨ month = 6 ∨ month = 9 ∨ month = 11 then 30
  else 31

/-- A calendar date. -/
structure Date where
  /-- The year. -/
  year : Int
  /-- The month, from one. -/
  month : Nat
  /-- The day of the month, from one. -/
  day : Nat
  /-- The year is one that has dates. -/
  year_within : firstYear ≤ year ∧ year ≤ lastYear
  /-- The month exists. -/
  month_within : 1 ≤ month ∧ month ≤ 12
  /-- The month has that day. -/
  day_within : 1 ≤ day ∧ day ≤ daysInMonth year month
  deriving DecidableEq

namespace Date

/-- The date with the given parts, if there is one. -/
def ofParts? (year : Int) (month day : Nat) : Option Date :=
  if yearWithin : firstYear ≤ year ∧ year ≤ lastYear then
    if monthWithin : 1 ≤ month ∧ month ≤ 12 then
      if dayWithin : 1 ≤ day ∧ day ≤ daysInMonth year month then
        some ⟨year, month, day, yearWithin, monthWithin, dayWithin⟩
      else none
    else none
  else none

/-- The day after. -/
def next? (date : Date) : Option Date :=
  if date.day < daysInMonth date.year date.month then
    ofParts? date.year date.month (date.day + 1)
  else if date.month < 12 then ofParts? date.year (date.month + 1) 1
  else ofParts? (date.year + 1) 1 1

/-- The day before. -/
def previous? (date : Date) : Option Date :=
  if 1 < date.day then ofParts? date.year date.month (date.day - 1)
  else if 1 < date.month then
    ofParts? date.year (date.month - 1) (daysInMonth date.year (date.month - 1))
  else ofParts? (date.year - 1) 12 31

/-- A date is made from its own parts. -/
theorem ofParts?_parts (date : Date) : ofParts? date.year date.month date.day = some date := by
  simp only [ofParts?, date.year_within, date.month_within, date.day_within, and_self,
    ↓reduceDIte]

end Date

end RaceSentry

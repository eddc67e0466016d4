/-! Dates of the Gregorian calendar, extended without end in both directions, and their day counts. -/

namespace Intake

/-- A year, a month from 1 to 12, and a day of that month. -/
structure Date where
  year : Int
  month : Nat
  day : Nat
deriving DecidableEq, Repr

namespace Date

/-- Every fourth year is a leap year, save the centuries that four hundred does not divide. -/
def isLeapYear (year : Int) : Bool :=
  year % 4 = 0 && (year % 100 ≠ 0 || year % 400 = 0)

/-- The number of days in a month. -/
def daysInMonth (year : Int) (month : Nat) : Nat :=
  if month = 2 then (if isLeapYear year then 29 else 28)
  else if month = 4 ∨ month = 6 ∨ month = 9 ∨ month = 11 then 30
  else 31

/-- Whether the month exists and has such a day. -/
def isValid (d : Date) : Bool :=
  1 ≤ d.month && d.month ≤ 12 && 1 ≤ d.day && d.day ≤ daysInMonth d.year d.month

/-- The days before a month, counted from the first of March. -/
def daysBeforeMonth (fromMarch : Nat) : Nat := (153 * fromMarch + 2) / 5

/-- The days from the first of January 1970 to a date. -/
def toDays (d : Date) : Int :=
  -- Years start in March here, so that the day a leap year adds comes last.
  let fromMarch := if 2 < d.month then d.month - 3 else d.month + 9
  let year := if 2 < d.month then d.year else d.year - 1
  let cycle := year / 400
  let yearOfCycle := year % 400
  let dayOfYear : Int := daysBeforeMonth fromMarch + d.day - 1
  cycle * 146097 + (yearOfCycle * 365 + yearOfCycle / 4 - yearOfCycle / 100 + dayOfYear) - 719468

/-- The date so many days after the first of January 1970. -/
def ofDays (days : Int) : Date :=
  -- A cycle of four hundred years always has 146097 days.
  let shifted := days + 719468
  let cycle := shifted / 146097
  let dayOfCycle := (shifted % 146097).toNat
  let yearOfCycle :=
    (dayOfCycle - dayOfCycle / 1460 + dayOfCycle / 36524 - dayOfCycle / 146096) / 365
  let dayOfYear := dayOfCycle - (365 * yearOfCycle + yearOfCycle / 4 - yearOfCycle / 100)
  let fromMarch := (5 * dayOfYear + 2) / 153
  let year : Int := yearOfCycle + cycle * 400
  if fromMarch < 10 then ⟨year, fromMarch + 3, dayOfYear - daysBeforeMonth fromMarch + 1⟩
  else ⟨year + 1, fromMarch - 9, dayOfYear - daysBeforeMonth fromMarch + 1⟩

end Date

end Intake

import Latchkey.Bytes.Basic

set_option autoImplicit false

/-! # The calendar

A date is the number of days since 1 January 1970, which is all that arithmetic needs. Its year,
month and day are those of the Gregorian calendar, extended to all years. Within a year that is
taken to begin in March the leap day comes last, and days count on in a fixed pattern. -/

namespace Latchkey

/-- A calendar day, counted from 1 January 1970. -/
structure Date where
  day : Int
deriving DecidableEq, Repr

namespace Date

/-- Days of a 400-year cycle. -/
def cycleDays : Int := 146097

/-- Days from 1 March of year 0 to 1 January 1970. -/
def epochShift : Int := 719468

/-- Whether a year has a leap day. -/
def isLeapYear (year : Int) : Bool :=
  year % 4 = 0 && (year % 100 ≠ 0 || year % 400 = 0)

/-- The number of days of a month. -/
def monthLength (year : Int) (month : Nat) : Nat :=
  if month = 2 then (if isLeapYear year then 29 else 28)
  else if month = 4 || month = 6 || month = 9 || month = 11 then 30
  else 31

/-- The date of a year, month and day. -/
def ofCivil (year : Int) (month day : Nat) : Date :=
  let shifted := if month ≤ 2 then year - 1 else year
  let cycle := shifted / 400
  let yearOfCycle := shifted % 400
  let monthFromMarch := (month + 9) % 12
  let dayOfYear : Int := (153 * monthFromMarch + 2) / 5 + day - 1
  let dayOfCycle := 365 * yearOfCycle + yearOfCycle / 4 - yearOfCycle / 100 + dayOfYear
  ⟨cycleDays * cycle + dayOfCycle - epochShift⟩

/-- The date of a year, month and day, if there is such a day. -/
def ofCivil? (year : Int) (month day : Nat) : Option Date :=
  if 1 ≤ month && month ≤ 12 && 1 ≤ day && day ≤ monthLength year month then
    some (ofCivil year month day)
  else none

/-- The year, month and day of a date. -/
def civil (date : Date) : Int × Nat × Nat :=
  let shifted := date.day + epochShift
  let cycle := shifted / cycleDays
  let dayOfCycle := (shifted % cycleDays).toNat
  let yearOfCycle :=
    (dayOfCycle - dayOfCycle / 1460 + dayOfCycle / 36524 - dayOfCycle / 146096) / 365
  let dayOfYear := dayOfCycle - (365 * yearOfCycle + yearOfCycle / 4 - yearOfCycle / 100)
  let monthFromMarch := (5 * dayOfYear + 2) / 153
  let day := dayOfYear - (153 * monthFromMarch + 2) / 5 + 1
  let month := if monthFromMarch < 10 then monthFromMarch + 3 else monthFromMarch - 9
  let year := yearOfCycle + 400 * cycle + (if month ≤ 2 then 1 else 0)
  (year, month, day)

end Date

end Latchkey

/-!
The Gregorian calendar extended to all years. Days are counted from 1970-01-01, a Thursday.
-/
namespace Logline.Time

structure Date where
  year : Int
  month : Nat
  day : Nat
  deriving DecidableEq, Repr

def isLeap (year : Int) : Bool :=
  year % 4 == 0 && (year % 100 != 0 || year % 400 == 0)

def monthLength (year : Int) (month : Nat) : Nat :=
  if month = 2 then (if isLeap year then 29 else 28)
  else if month = 4 ∨ month = 6 ∨ month = 9 ∨ month = 11 then 30
  else 31

namespace Date

/-- Days of one cycle of 400 years. -/
def cycle : Int := 146097

/-- Days from 0000-03-01 to 1970-01-01. -/
def epochOffset : Int := 719468

/-- Day number. Years are counted from March, so the leap day is the last of its year. -/
def toDays (d : Date) : Int :=
  let year := if d.month ≤ 2 then d.year - 1 else d.year
  let month : Int := if d.month ≤ 2 then d.month + 9 else d.month - 3
  let yearOfCycle := year % 400
  let dayOfYear := (153 * month + 2) / 5 + d.day - 1
  year / 400 * cycle + yearOfCycle * 365 + yearOfCycle / 4 - yearOfCycle / 100 + dayOfYear
    - epochOffset

def ofDays (n : Int) : Date :=
  let n := n + epochOffset
  let dayOfCycle := n % cycle
  let yearOfCycle :=
    (dayOfCycle - dayOfCycle / 1460 + dayOfCycle / 36524 - dayOfCycle / 146096) / 365
  let dayOfYear := dayOfCycle - (365 * yearOfCycle + yearOfCycle / 4 - yearOfCycle / 100)
  let month := (5 * dayOfYear + 2) / 153
  let day := dayOfYear - (153 * month + 2) / 5 + 1
  let calendarMonth := if month < 10 then month + 3 else month - 9
  let year := n / cycle * 400 + yearOfCycle
  ⟨if calendarMonth ≤ 2 then year + 1 else year, calendarMonth.toNat, day.toNat⟩

/-- Day of the year, counted from one. -/
def ordinal (d : Date) : Nat :=
  (d.toDays - (Date.mk d.year 1 1).toDays + 1).toNat

/-- Days since the last Sunday. -/
def daysFromSunday (d : Date) : Nat :=
  ((d.toDays + 4) % 7).toNat

/-- Days since the last Monday. -/
def daysFromMonday (d : Date) : Nat :=
  ((d.toDays + 3) % 7).toNat

/-- Weeks of the year that began, the days before the first beginning left out. -/
def weekFrom (daysFromBeginning : Nat) (d : Date) : Nat :=
  (d.ordinal + 6 - daysFromBeginning) / 7

/-- Thursday of the week that begins on the last Monday; it decides the year of the week. -/
def thursday (d : Date) : Date :=
  ofDays (d.toDays - d.daysFromMonday + 3)

def isoYear (d : Date) : Int :=
  d.thursday.year

def isoWeek (d : Date) : Nat :=
  (d.thursday.ordinal + 6) / 7

def quarter (d : Date) : Nat :=
  (d.month + 2) / 3

/-- Whether the month exists and has the day. -/
def isValid (d : Date) : Bool :=
  1 ≤ d.month && d.month ≤ 12 && 1 ≤ d.day && d.day ≤ monthLength d.year d.month

end Date

def monthNames : List String :=
  ["January", "February", "March", "April", "May", "June", "July", "August", "September",
   "October", "November", "December"]

/-- Names of the days of a week that begins on Sunday. -/
def weekdayNames : List String :=
  ["Sunday", "Monday", "Tuesday", "Wednesday", "Thursday", "Friday", "Saturday"]

end Logline.Time

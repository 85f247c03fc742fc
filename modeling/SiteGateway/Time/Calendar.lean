import SiteGateway.Text.Basic

/-!
# Calendar

Days since 1 January 1970 and dates of the Gregorian calendar extended to all years. Years are
counted from March inside, so that a leap day is the last of its year.
-/

namespace SiteGateway

/-- A point of time: whole seconds since 1970, rounded down, and the nanoseconds after them. -/
structure Instant where
  seconds : Int
  nanos : Nat
deriving DecidableEq, Repr

/-- A date; `month` and `day` count from one. -/
structure CalendarDate where
  year : Int
  month : Nat
  day : Nat
deriving DecidableEq, Repr

namespace CalendarDate

/-- Days from 1 January 1970 to a date. -/
def toDays (d : CalendarDate) : Int :=
  let y : Int := if d.month ≤ 2 then d.year - 1 else d.year
  let era := Int.fdiv y 400
  let yearOfEra := y - 400 * era
  let monthFromMarch : Int := ((d.month + 9) % 12 : Nat)
  -- From March on, every five months have 153 days; February, whose length varies, comes last.
  let dayOfYear := (153 * monthFromMarch + 2) / 5 + (d.day - 1 : Int)
  era * 146097 + (365 * yearOfEra + yearOfEra / 4 - yearOfEra / 100 + dayOfYear) - 719468

/-- The date a number of days after 1 January 1970. -/
def ofDays (days : Int) : CalendarDate :=
  let z := days + 719468
  let era := Int.fdiv z 146097
  let dayOfEra := z - 146097 * era
  let yearOfEra := (dayOfEra - dayOfEra / 1460 + dayOfEra / 36524 - dayOfEra / 146096) / 365
  let dayOfYear := dayOfEra - (365 * yearOfEra + yearOfEra / 4 - yearOfEra / 100)
  let monthFromMarch := (5 * dayOfYear + 2) / 153
  let day := dayOfYear - (153 * monthFromMarch + 2) / 5 + 1
  let month := if monthFromMarch < 10 then monthFromMarch + 3 else monthFromMarch - 9
  { year := yearOfEra + 400 * era + (if month ≤ 2 then 1 else 0), month := month.toNat,
    day := day.toNat }

def isLeap (year : Int) : Bool :=
  year % 4 == 0 && (year % 100 != 0 || year % 400 == 0)

def daysIn (year : Int) (month : Nat) : Nat :=
  match month with
  | 2 => if isLeap year then 29 else 28
  | 4 | 6 | 9 | 11 => 30
  | _ => 31

def valid (d : CalendarDate) : Bool :=
  1 ≤ d.month && d.month ≤ 12 && 1 ≤ d.day && d.day ≤ daysIn d.year d.month

end CalendarDate

def weekday (days : Int) : Nat := ((days + 4) % 7).toNat

namespace Calendar

def weekdayNames : List String := ["Sun", "Mon", "Tue", "Wed", "Thu", "Fri", "Sat"]

def weekdayLongNames : List String :=
  ["Sunday", "Monday", "Tuesday", "Wednesday", "Thursday", "Friday", "Saturday"]

def monthNames : List String :=
  ["Jan", "Feb", "Mar", "Apr", "May", "Jun", "Jul", "Aug", "Sep", "Oct", "Nov", "Dec"]

end Calendar

/-- A date with the time of day in seconds. -/
structure CivilTime where
  date : CalendarDate
  second : Nat
deriving DecidableEq, Repr

def CivilTime.toSeconds (t : CivilTime) : Int := t.date.toDays * 86400 + t.second

/-- The date and time of day of a number of seconds since 1970. -/
def CivilTime.ofSeconds (s : Int) : CivilTime :=
  { date := .ofDays (Int.fdiv s 86400), second := (s - 86400 * Int.fdiv s 86400).toNat }

end SiteGateway

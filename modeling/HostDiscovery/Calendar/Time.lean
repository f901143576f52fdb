import HostDiscovery.Failure

/-!
# Calendar time

A day of the Gregorian calendar and a time on it, without a time zone. Days are
counted from the first day of year 1, a Monday; from the count follow the day
of the week and the weeks of a year. Numbers from outside become a time only if
there is such a day and such a time on it.
-/
namespace HostDiscovery

structure CalendarTime where
  year : Nat
  month : Nat
  day : Nat
  hour : Nat := 0
  minute : Nat := 0
  second : Nat := 0
  microsecond : Nat := 0
  deriving DecidableEq, Repr

namespace CalendarTime

def isLeap (year : Nat) : Bool := year % 4 = 0 && (year % 100 ≠ 0 || year % 400 = 0)

def monthLengths (year : Nat) : List Nat :=
  [31, if isLeap year then 29 else 28, 31, 30, 31, 30, 31, 31, 30, 31, 30, 31]

def monthLength (year month : Nat) : Nat := ((monthLengths year)[month - 1]?).getD 0

def daysOfMonths (year months : Nat) : Nat :=
  ((monthLengths year).take months).foldl (fun days length => days + length) 0

def yearLength (year : Nat) : Nat := daysOfMonths year 12

/-- The days of the year before this one. -/
def yearDay (t : CalendarTime) : Nat := daysOfMonths t.year (t.month - 1) + (t.day - 1)

/-- The days from the first of year 1 to the first of a year. -/
def daysBefore (year : Nat) : Nat :=
  let past := year - 1
  past * 365 + past / 4 - past / 100 + past / 400

def dayNumber (t : CalendarTime) : Nat := daysBefore t.year + t.yearDay

/-- The days since Monday. -/
def weekday (t : CalendarTime) : Nat := t.dayNumber % 7

/-- The weeks of the year that have begun, a week beginning `first` days after Monday. -/
def weekFrom (t : CalendarTime) (first : Nat) : Nat :=
  (t.yearDay + 7 - (t.weekday + 7 - first) % 7) / 7

/-- The year and week by the rule that a week belongs to the year of its Thursday. -/
def thursdayWeek (t : CalendarTime) : Nat × Nat :=
  let thursday := t.yearDay + 3
  if thursday < t.weekday then
    (t.year - 1, (thursday + yearLength (t.year - 1) - t.weekday) / 7 + 1)
  else if yearLength t.year ≤ thursday - t.weekday then (t.year + 1, 1)
  else (t.year, (thursday - t.weekday) / 7 + 1)

def clockHour (t : CalendarTime) : Nat := if t.hour % 12 = 0 then 12 else t.hour % 12

def isMorning (t : CalendarTime) : Bool := t.hour < 12

def epochSeconds (t : CalendarTime) : Int :=
  ((t.dayNumber : Int) - daysBefore 1970) * 86400 + (t.hour * 3600 + t.minute * 60 + t.second : Nat)

def monthNames : List String :=
  ["January", "February", "March", "April", "May", "June", "July", "August", "September",
    "October", "November", "December"]

def dayNames : List String :=
  ["Monday", "Tuesday", "Wednesday", "Thursday", "Friday", "Saturday", "Sunday"]

def monthName (t : CalendarTime) : String := (monthNames[t.month - 1]?).getD "?"

def dayName (t : CalendarTime) : String := (dayNames[t.weekday]?).getD "?"

/-- What is wrong with the numbers of a time, if anything: the first one that is out of range. -/
def fault? (year month day hour minute second microsecond : Int) : Option String :=
  let outside (n low high : Int) : Bool := n < low || high < n
  if outside year 1 9999 then some s!"year {year} is out of range"
  else if outside month 1 12 then some "month must be in 1..12"
  else if outside day 1 (monthLength year.toNat month.toNat) then
    some "day is out of range for month"
  else if outside hour 0 23 then some "hour must be in 0..23"
  else if outside minute 0 59 then some "minute must be in 0..59"
  else if outside second 0 59 then some "second must be in 0..59"
  else if outside microsecond 0 999999 then some "microsecond must be in 0..999999"
  else none

/-- The time with these numbers, from the year on; what is left out is zero. -/
def ofNumbers (numbers : List Int) : Except Failure CalendarTime :=
  let part (i : Nat) : Int := (numbers[i]?).getD 0
  match fault? (part 0) (part 1) (part 2) (part 3) (part 4) (part 5) (part 6) with
  | some text => .error { kind := .value, message := text }
  | none =>
    let number (i : Nat) : Nat := (part i).toNat
    .ok ⟨number 0, number 1, number 2, number 3, number 4, number 5, number 6⟩

end CalendarTime

end HostDiscovery

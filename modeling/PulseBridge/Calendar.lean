/-!
# The civil calendar

Instants in seconds since the beginning of 1970 and their dates in the Gregorian calendar, extended
to all years. A year is counted from the first of March, so that a leap day is the last day of its
year; a cycle of four hundred years has always the same number of days.

`timestamp` writes an instant as RFC 3339 does, in UTC. Years that do not have four digits are
written with their sign.
-/

namespace PulseBridge.Calendar

/-- A day of the calendar. -/
structure Date where
  year : Int
  month : Nat
  day : Nat
  deriving DecidableEq, Repr

/-- The number of days in a cycle of four hundred years. -/
def daysPerCycle : Nat := 146097

/-- The number of days from the first of March of the year zero to the beginning of 1970. -/
def epochOffset : Int := 719468

/-- The date of a day, counted from the beginning of 1970. -/
def dateOf (days : Int) : Date :=
  let shifted := days + epochOffset
  let cycle := shifted.fdiv daysPerCycle
  let dayOfCycle := (shifted.fmod daysPerCycle).toNat
  let yearOfCycle :=
    (dayOfCycle - dayOfCycle / 1460 + dayOfCycle / 36524 - dayOfCycle / 146096) / 365
  let dayOfYear := dayOfCycle - (365 * yearOfCycle + yearOfCycle / 4 - yearOfCycle / 100)
  let marchMonth := (5 * dayOfYear + 2) / 153
  let month := if marchMonth < 10 then marchMonth + 3 else marchMonth - 9
  { year := yearOfCycle + cycle * 400 + (if month ≤ 2 then 1 else 0)
    month
    day := dayOfYear - (153 * marchMonth + 2) / 5 + 1 }

/-- The number of days from the beginning of 1970 to a date. -/
def daysTo (date : Date) : Int :=
  let year := if date.month ≤ 2 then date.year - 1 else date.year
  let cycle := year.fdiv 400
  let yearOfCycle := (year.fmod 400).toNat
  let marchMonth := if 2 < date.month then date.month - 3 else date.month + 9
  let dayOfYear := (153 * marchMonth + 2) / 5 + date.day - 1
  let dayOfCycle := 365 * yearOfCycle + yearOfCycle / 4 - yearOfCycle / 100 + dayOfYear
  cycle * daysPerCycle + dayOfCycle - epochOffset

/-- A date and a time of day. -/
structure Moment where
  date : Date
  hour : Nat
  minute : Nat
  second : Nat
  deriving DecidableEq, Repr

/-- The moment of an instant. -/
def momentOf (seconds : Int) : Moment :=
  let ofDay := (seconds.fmod 86400).toNat
  ⟨dateOf (seconds.fdiv 86400), ofDay / 3600, ofDay / 60 % 60, ofDay % 60⟩

/-- The instant of a moment. -/
def secondsTo (moment : Moment) : Int :=
  daysTo moment.date * 86400 + moment.hour * 3600 + moment.minute * 60 + moment.second

/-- The earliest year that a timestamp is written for. -/
def earliestYear : Int := -262143

/-- The latest year that a timestamp is written for. -/
def latestYear : Int := 262142

/-- A number in decimal with at least so many digits. -/
def padded (width n : Nat) : String :=
  let digits := Nat.toDigits 10 n
  String.ofList (List.replicate (width - digits.length) '0' ++ digits)

/-- A year in at least four digits, with its sign unless it lies between 0 and 9999. -/
def yearText (year : Int) : String :=
  if 0 ≤ year && year ≤ 9999 then padded 4 year.toNat
  else (if year < 0 then "-" else "+") ++ padded 4 year.natAbs

/-- A moment of UTC as RFC 3339 writes it. -/
def Moment.text (m : Moment) : String :=
  yearText m.date.year ++ "-" ++ padded 2 m.date.month ++ "-" ++ padded 2 m.date.day ++ "T"
    ++ padded 2 m.hour ++ ":" ++ padded 2 m.minute ++ ":" ++ padded 2 m.second ++ "+00:00"

/-- An instant as RFC 3339 writes it, if its year is within the range. -/
def timestamp? (seconds : Int) : Option String :=
  let moment := momentOf seconds
  if earliestYear ≤ moment.date.year && moment.date.year ≤ latestYear then some moment.text
  else none

end PulseBridge.Calendar

import Firewall.Text

/-!
Moments of coordinated universal time and the calendar dates they fall on.
A leap second is the second 59 of a minute with a nanosecond part of a thousand
million or more. The calendar is the Gregorian one, extended in both directions.
-/

namespace Firewall

/-- A moment: whole seconds since 1970-01-01T00:00:00Z and the nanoseconds on top. -/
structure Instant where
  seconds : Int
  nanos : Nat
  deriving DecidableEq, Repr, Inhabited

namespace Instant

def nanosPerSecond : Nat := 1000000000

def secondsPerDay : Int := 86400

/-- The first second of the year -262143. -/
def firstSecond : Int := -8334601228800

/-- The last second of the year 262142. -/
def lastSecond : Int := 8210266876799

/-- A moment from its parts, inside the supported years; only the last second of
a minute may be a leap second. -/
def ofParts? (seconds : Int) (nanos : Nat) : Option Instant :=
  if firstSecond ≤ seconds ∧ seconds ≤ lastSecond ∧
      (nanos < nanosPerSecond ∨ (nanos < 2 * nanosPerSecond ∧ seconds % 60 = 59)) then
    some ⟨seconds, nanos⟩
  else none

def wholeSecond (t : Instant) : Instant := ⟨t.seconds, 0⟩

/-- Days since 1970-01-01. -/
def day (t : Instant) : Int := t.seconds / secondsPerDay

def secondOfDay (t : Instant) : Int := t.seconds % secondsPerDay

def isLeap (t : Instant) : Bool := nanosPerSecond ≤ t.nanos

/-- Nanoseconds from `past` to `t`. A leap second counts once the clock of the
later time of day has gone past it. -/
def since (t past : Instant) : Int :=
  let leap : Int :=
    if t.secondOfDay > past.secondOfDay ∧ past.isLeap then 1
    else if t.secondOfDay < past.secondOfDay ∧ t.isLeap then -1
    else 0
  (t.seconds - past.seconds + leap) * nanosPerSecond + ((t.nanos : Int) - (past.nanos : Int))

def days (n : Nat) : Int := n * secondsPerDay * nanosPerSecond

/-- The moment a number of days earlier, `none` outside the supported years. A
leap second counts as the second that follows it. -/
def minusDays? (t : Instant) (n : Nat) : Option Instant :=
  let even : Instant := if t.isLeap then ⟨t.seconds + 1, t.nanos - nanosPerSecond⟩ else t
  let earlier := even.seconds - n * secondsPerDay
  if firstSecond ≤ earlier ∧ earlier ≤ lastSecond then some ⟨earlier, even.nanos⟩ else none

end Instant

structure CivilDate where
  year : Int
  month : Nat
  day : Nat
  deriving DecidableEq, Repr

namespace CivilDate

/-- The date that lies the given number of days after 1970-01-01. Years are
counted from March, so that the leap day ends a year; an era is 400 years. -/
def ofDays (days : Int) : CivilDate :=
  let shifted := days + 719468
  let era := shifted / 146097
  let dayOfEra := (shifted % 146097).toNat
  let yearOfEra := (dayOfEra - dayOfEra / 1460 + dayOfEra / 36524 - dayOfEra / 146096) / 365
  let dayOfYear := dayOfEra - (365 * yearOfEra + yearOfEra / 4 - yearOfEra / 100)
  let monthFromMarch := (5 * dayOfYear + 2) / 153
  let day := dayOfYear - (153 * monthFromMarch + 2) / 5 + 1
  let month := if monthFromMarch < 10 then monthFromMarch + 3 else monthFromMarch - 9
  let year := era * 400 + yearOfEra + (if month ≤ 2 then 1 else 0)
  ⟨year, month, day⟩

end CivilDate

namespace Instant

def date (t : Instant) : CivilDate := CivilDate.ofDays t.day

/-- A number with zeros in front up to the given width. -/
def padded (width n : Nat) : String :=
  String.ofList (Text.padZeros width (toString n).toList)

/-- A year in a date: four digits, and a sign outside the years 0 to 9999. -/
def yearText (year : Int) : String :=
  if 0 ≤ year ∧ year ≤ 9999 then padded 4 year.toNat
  else if year < 0 then "-" ++ padded 4 (-year).toNat
  else "+" ++ padded 4 year.toNat

/-- A year filled up with zeros to four characters, the sign among them. -/
def yearField (year : Int) : String :=
  if year < 0 then "-" ++ padded 3 (-year).toNat else padded 4 year.toNat

/-- Date and time to the second, as in `2024-02-29T12:30:00Z`. -/
def dateTime (t : Instant) : String :=
  let date := t.date
  let s := t.secondOfDay.toNat
  let second := s % 60 + (if t.isLeap then 1 else 0)
  yearText date.year ++ "-" ++ padded 2 date.month ++ "-" ++ padded 2 date.day ++ "T" ++
    padded 2 (s / 3600) ++ ":" ++ padded 2 (s / 60 % 60) ++ ":" ++ padded 2 second ++ "Z"

end Instant

end Firewall

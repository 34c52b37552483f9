set_option autoImplicit false

/-! # Timestamps

A timestamp counts nanoseconds since the beginning of 1970 in universal time. It is written as a
date of the Gregorian calendar and a time of day with nine decimals.
-/

namespace LogEgress.Syslog

/-- The number of days from the beginning of year 0 to the beginning of a year. -/
def daysBefore (year : Nat) : Nat :=
  365 * year + (year + 3) / 4 - (year + 99) / 100 + (year + 399) / 400

/-- Whether a year has a 29th of February. -/
def isLeap (year : Nat) : Bool := year % 4 == 0 && (year % 100 != 0 || year % 400 == 0)

/-- The lengths of the months of a year. -/
def monthLengths (year : Nat) : List Nat :=
  [31, if isLeap year then 29 else 28, 31, 30, 31, 30, 31, 31, 30, 31, 30, 31]

/-- The year of a day counted from the beginning of year 0. The estimate by the mean length of a
year is at most one off. -/
def yearOf (day : Nat) : Nat :=
  let y := day * 400 / 146097
  if day < daysBefore y then y - 1
  else if daysBefore (y + 1) ≤ day then y + 1
  else y

/-- The month, from 1, and the day of the month, from 1, of a day of a year, from 0; the first
number is the month that the list begins with. -/
def monthOf (month : Nat) : List Nat → Nat → Nat × Nat
  | [], day => (month, day + 1)
  | n :: ns, day => if day < n then (month, day + 1) else monthOf (month + 1) ns (day - n)

/-- A date and a time of day. -/
structure CivilTime where
  year : Nat
  month : Nat
  day : Nat
  hour : Nat
  minute : Nat
  second : Nat
  nanosecond : Nat
  deriving DecidableEq, Repr

namespace CivilTime

/-- The number of days from the beginning of year 0 to the beginning of 1970. -/
def epoch : Nat := 719528

/-- The date and time of day of a timestamp. -/
def ofNanoseconds (t : Int) : CivilTime :=
  let day := (t / 86400000000000 + epoch).toNat
  let rest := (t % 86400000000000).toNat
  let year := yearOf day
  let (month, dayOfMonth) := monthOf 1 (monthLengths year) (day - daysBefore year)
  let seconds := rest / 1000000000
  { year := year, month := month, day := dayOfMonth, hour := seconds / 3600,
    minute := seconds / 60 % 60, second := seconds % 60, nanosecond := rest % 1000000000 }

/-- A number in decimal with leading zeros up to a width. -/
def padded (width n : Nat) : List Char :=
  let ds := Nat.toDigits 10 n
  List.replicate (width - ds.length) '0' ++ ds

/-- A date and time of day in the notation of RFC 3339. -/
def print (c : CivilTime) : List Char :=
  padded 4 c.year ++ '-' :: padded 2 c.month ++ '-' :: padded 2 c.day ++ 'T' ::
    padded 2 c.hour ++ ':' :: padded 2 c.minute ++ ':' :: padded 2 c.second ++ '.' ::
    padded 9 c.nanosecond ++ ['Z']

end CivilTime

end LogEgress.Syslog

import Courier.Field

/-!
# Dates in headers

An instant is counted in seconds from the first of January 1970. Its header form names the
weekday, the date and the time of day in universal time. The calendar is the Gregorian one,
extended to all years; a leap second is written as second sixty.
-/

namespace Courier

/-- An instant. Its nanoseconds may run on into one second more: a leap second after the last second
of a minute, and else the second that follows. -/
structure Instant where
  secs : Int
  nanos : Nat := 0
  nanos_lt : nanos < 2000000000 := by decide
deriving DecidableEq, Repr

/-- A day of the calendar. -/
structure CalendarDay where
  year : Int
  month : Nat
  day : Nat
deriving DecidableEq, Repr

namespace CalendarDay

/-- Days from the first of March of year zero to the first of January 1970. -/
def epochOffset : Int := 719468

/-- Days in four centuries. -/
def eraDays : Int := 146097

/-- The year within four centuries in which a day lies, where years start in March. -/
def yearOfEra (dayOfEra : Nat) : Nat :=
  (dayOfEra - dayOfEra / 1460 + dayOfEra / 36524 - dayOfEra / 146096) / 365

/-- The days before a year within four centuries. -/
def daysBeforeYear (year : Nat) : Nat :=
  365 * year + year / 4 - year / 100

/-- The days before a month, where March is month zero. -/
def daysBeforeMonth (month : Nat) : Nat :=
  (153 * month + 2) / 5

/-- The day that lies `days` days after the first of January 1970. -/
def ofDays (days : Int) : CalendarDay :=
  let shifted := days + epochOffset
  let era := shifted.fdiv eraDays
  let dayOfEra := (shifted.fmod eraDays).toNat
  let year := yearOfEra dayOfEra
  let dayOfYear := dayOfEra - daysBeforeYear year
  let month := (5 * dayOfYear + 2) / 153
  let early : Int := if month < 10 then 0 else 1
  { year := era * 400 + year + early
    month := if month < 10 then month + 3 else month - 9
    day := dayOfYear - daysBeforeMonth month + 1 }

/-- The number of days from the first of January 1970 to a day. -/
def toDays (d : CalendarDay) : Int :=
  let month := if d.month < 3 then d.month + 9 else d.month - 3
  let year := if d.month < 3 then d.year - 1 else d.year
  let yearOfEra := (year.fmod 400).toNat
  year.fdiv 400 * eraDays + (daysBeforeYear yearOfEra + daysBeforeMonth month + d.day - 1 : Nat)
    - epochOffset

end CalendarDay

namespace Instant

/-- Whole days since the first of January 1970. -/
def days (t : Instant) : Int := t.secs.fdiv 86400

/-- Seconds since midnight, without those of nanoseconds that run on. -/
def secondOfDay (t : Instant) : Nat := (t.secs.fmod 86400).toNat

/-- The second within the minute, sixty in a leap second. Nanoseconds that run on count. -/
def second (t : Instant) : Nat := t.secondOfDay % 60 + t.nanos / 1000000000

/-- The weekday, counted from Sunday. -/
def weekday (t : Instant) : Nat := ((t.days + 4).fmod 7).toNat

end Instant

namespace HttpDate

/-- The names of the weekdays from Sunday on. -/
def dayNames : List String := ["Sun", "Mon", "Tue", "Wed", "Thu", "Fri", "Sat"]

/-- The names of the months. -/
def monthNames : List String :=
  ["Jan", "Feb", "Mar", "Apr", "May", "Jun", "Jul", "Aug", "Sep", "Oct", "Nov", "Dec"]

/-- A year in four digits; one that does not fit has a sign. -/
def yearText (year : Int) : Text :=
  let digits := Text.ofNatPadded 4 year.natAbs
  if year < 0 then '-' :: digits else if 9999 < year then '+' :: digits else digits

/-- The header form of an instant (`format_http_date`). -/
def toText (t : Instant) : Text :=
  let date := CalendarDay.ofDays t.days
  (dayNames.getD t.weekday "").toList ++ ", ".toList ++ Text.ofNatPadded 2 date.day ++ [' ']
    ++ (monthNames.getD (date.month - 1) "").toList ++ [' '] ++ yearText date.year ++ [' ']
    ++ Text.ofNatPadded 2 (t.secondOfDay / 3600) ++ [':']
    ++ Text.ofNatPadded 2 (t.secondOfDay / 60 % 60) ++ [':']
    ++ Text.ofNatPadded 2 t.second ++ " GMT".toList

/-- What stands in a header if a date has no header form. -/
def epoch : FieldValue :=
  { octets := Octets.ofString "Thu, 01 Jan 1970 00:00:00 GMT" }

/-- The field value of an instant (`date_header_value`). -/
def toValue (t : Instant) : FieldValue :=
  (FieldValue.ofOctets? (Octets.ofText (toText t))).getD epoch

end HttpDate

end Courier

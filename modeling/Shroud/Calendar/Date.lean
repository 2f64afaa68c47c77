/-!
# The calendar

Days are counted from 1 January 1970 in the Gregorian calendar, extended to all years.  The
conversions count in years that begin in March, so that the leap day is the last of its year, and in
eras of 400 years, which all have the same number of days.
-/

set_option autoImplicit false

namespace Shroud

/-- A day of the calendar. -/
structure Date where
  year : Int
  month : Nat
  day : Nat
  deriving DecidableEq

namespace Date

/-- The days of an era of 400 years. -/
def daysPerEra : Int := 146097

/-- The number of days from 1 March of year 0 to 1 January 1970. -/
def epochShift : Int := 719468

/-- The day that is `n` days after 1 January 1970. -/
def ofDays (n : Int) : Date :=
  let z := n + epochShift
  let era := z / daysPerEra
  let dayOfEra := (z % daysPerEra).toNat
  let yearOfEra := (dayOfEra - dayOfEra / 1460 + dayOfEra / 36524 - dayOfEra / 146096) / 365
  let dayOfYear := dayOfEra - (365 * yearOfEra + yearOfEra / 4 - yearOfEra / 100)
  let m := (5 * dayOfYear + 2) / 153
  let month := if m < 10 then m + 3 else m - 9
  let year : Int := yearOfEra + era * 400 + (if month ≤ 2 then 1 else 0)
  ⟨year, month, dayOfYear - (153 * m + 2) / 5 + 1⟩

/-- The number of days from 1 January 1970. -/
def toDays (d : Date) : Int :=
  let y : Int := if d.month ≤ 2 then d.year - 1 else d.year
  let era := y / 400
  let yearOfEra := (y % 400).toNat
  let m := if 2 < d.month then d.month - 3 else d.month + 9
  let dayOfYear := (153 * m + 2) / 5 + d.day - 1
  let dayOfEra := yearOfEra * 365 + yearOfEra / 4 - yearOfEra / 100 + dayOfYear
  era * daysPerEra + dayOfEra - epochShift

end Date

/-- A time of day.  A leap second is the second before it with `10 ^ 9` or more nanoseconds. -/
structure TimeOfDay where
  seconds : Nat
  nanos : Nat
  deriving DecidableEq

/-- A moment: seconds since 1970 in universal time, and nanoseconds, counted as in `TimeOfDay`. -/
structure Instant where
  seconds : Int
  nanos : Nat
  deriving DecidableEq

namespace Instant

/-- The seconds of a day. -/
def secondsPerDay : Int := 86400

/-- The day and the time of day of a moment. -/
def civil (t : Instant) : Date × TimeOfDay :=
  (Date.ofDays (t.seconds / secondsPerDay), ⟨(t.seconds % secondsPerDay).toNat, t.nanos⟩)

/-- The moment of a day and a time of day. -/
def ofCivil (d : Date) (t : TimeOfDay) : Instant := ⟨d.toDays * secondsPerDay + t.seconds, t.nanos⟩

end Instant

end Shroud

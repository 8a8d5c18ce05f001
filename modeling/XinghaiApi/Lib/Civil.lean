import XinghaiApi.Lib.Word

/-!
# Civil time in a location

Instants are Unix times in seconds. A location assigns every instant the offset from UTC then
in force, so the civil date of an instant and the instant of a civil date depend on it. Dates
are proleptic Gregorian; months and days out of range are carried over, and a civil time that a
change of offset skips or repeats is resolved with one of the two offsets around the change.
-/

namespace Civil

structure Date where
  year : Int
  month : Int
  day : Int
deriving DecidableEq

/-- Days from 1970-01-01 to a civil date whose month is in 1..12. The day may be out of range:
the count is linear in it. Years are counted from March, so that the leap day comes last. -/
def daysFromCivil (d : Date) : Int :=
  let y := if d.month ≤ 2 then d.year - 1 else d.year
  let era := y / 400
  let yoe := y - era * 400
  let doy := (153 * ((d.month + 9) % 12) + 2) / 5 + d.day - 1
  era * 146097 + (yoe * 365 + yoe / 4 - yoe / 100 + doy) - 719468

/-- The civil date of a day count from 1970-01-01. -/
def civilFromDays (days : Int) : Date :=
  let z := days + 719468
  let era := z / 146097
  let doe := z - era * 146097
  let yoe := (doe - doe / 1460 + doe / 36524 - doe / 146096) / 365
  let doy := doe - (365 * yoe + yoe / 4 - yoe / 100)
  let mp := (5 * doy + 2) / 153
  let month := if mp < 10 then mp + 3 else mp - 9
  { year := yoe + era * 400 + if month ≤ 2 then 1 else 0
    month := month
    day := doy - (153 * mp + 2) / 5 + 1 }

/-- A stretch of instants `start ≤ t < stop` with one offset from UTC, in seconds. -/
structure Zone where
  offset : Int
  start : Int
  stop : Int
deriving DecidableEq

/-- A location: the zone in force at every instant. -/
structure Location where
  lookup : Int → Zone

/-- A location whose offset never changes. -/
def Location.fixed (offset : Int) : Location where
  lookup _ := { offset := offset, start := -2 ^ 63, stop := 2 ^ 63 - 1 }

def Location.utc : Location := Location.fixed 0

namespace Location

variable (loc : Location)

/-- Seconds of the local clock since 1970-01-01 00:00 local time. -/
def localSeconds (t : Int) : Int := t + (loc.lookup t).offset

/-- The local day count of an instant. -/
def localDays (t : Int) : Int := loc.localSeconds t / 86400

def civil (t : Int) : Date := civilFromDays (loc.localDays t)

/-- The local time of day of an instant, in seconds. -/
def clock (t : Int) : Int := loc.localSeconds t % 86400

/-- The local day of the week of an instant; Sunday is 0. -/
def weekday (t : Int) : Int := (loc.localDays t + 4) % 7

/-- The instant of a civil date and time of day. The offset is first looked up as if the local
clock were UTC, and once more when the instant so found is outside the zone. -/
def date (year month day secs : Int) : Int :=
  let m := month - 1
  let local_ := daysFromCivil ⟨year + m / 12, m % 12 + 1, day⟩ * 86400 + secs
  let zone := loc.lookup local_
  if zone.offset = 0 then local_
  else
    let utc := local_ - zone.offset
    if utc < zone.start ∨ zone.stop ≤ utc then local_ - (loc.lookup utc).offset else utc

/-- Move an instant by years, months and days of the local calendar, keeping the clock. -/
def addDate (t years months days : Int) : Int :=
  let d := loc.civil t
  loc.date (d.year + years) (d.month + months) (d.day + days) (loc.clock t)

end Location

/-- Move an instant by a duration in seconds. Durations are 64-bit counts of nanoseconds, so
the multiplication wraps around for more than about 292 years. -/
def addSeconds (t secs : Int) : Int := t + Word.wrap64 (secs * 1000000000) / 1000000000

end Civil

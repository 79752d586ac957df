import Fermentationsschrank.Core.Calendar

/-!
# Local time

The only conversion of UTC into local time.  Calendar fields come from the C library;
whether they are of summer time is decided in UTC, from day numbers.  A computation in
`int` that overflows has no result.
-/

namespace Fermentationsschrank

/-! ## Days from a civil date -/

/-- A value of `int`; the operation that leaves its range is undefined. -/
def int (value : ℤ) : Option ℤ :=
  if -2 ^ 31 ≤ value ∧ value < 2 ^ 31 then some value else none

def daysFromCivil (year : ℤ) (month day : ℕ) : Option ℤ := do
  let adjustedYear ← int (year - if month ≤ 2 then 1 else 0)
  let shiftedYear := if 0 ≤ adjustedYear then some adjustedYear else int (adjustedYear - 399)
  let era := (← shiftedYear).tdiv 400
  let yearOfEra := adjustedYear - era * 400
  let marchBasedMonth := if 2 < month then month - 3 else month + 9
  let dayOfYear := (153 * marchBasedMonth + 2) / 5 + day - 1
  let dayOfEra := yearOfEra * 365 + yearOfEra / 4 - yearOfEra / 100 + dayOfYear
  return era * 146097 + dayOfEra - 719468

/-! ## Calendar fields of the C library -/

structure Tm where
  tm_year : ℤ
  tm_mon : ℤ
  tm_mday : ℤ
  tm_hour : ℤ
  tm_min : ℤ
  tm_sec : ℤ
  deriving DecidableEq, Repr

/-- The conversion to `time_t`, and `gmtime_r`, which may find no calendar fields. -/
structure CalendarLibrary where
  toTimeT : ℤ → ℤ
  gmtime_r : ℤ → Option Tm

def CalendarLibrary.breakDown (library : CalendarLibrary) (seconds : ℤ) : Option Tm :=
  let value := library.toTimeT seconds
  if value ≠ seconds then none else library.gmtime_r value

/-! ## Conversion -/

inductive DaylightSavingRule
  | unavailable
  | europeanUnion
  deriving DecidableEq, Repr

structure TimeZoneRule where
  dst : DaylightSavingRule := .unavailable
  standardOffsetMinutes : ℤ := 0
  deriving DecidableEq, Repr

structure LocalTime where
  year : ℤ
  month : ℕ
  day : ℕ
  hour : ℕ
  minute : ℕ
  second : ℕ
  utcOffsetMinutes : ℤ
  daylightSaving : Bool
  deriving DecidableEq, Repr

def kSecondsPerDay : ℤ := 86400
def kTransitionSecondsIntoDayUtc : ℤ := 3600
def kDaylightSavingMinutes : ℤ := 60

/-- The last Sunday of a month of 31 days, at one o'clock UTC. -/
def lastSundayTransitionUtc (year : ℤ) (month : ℕ) : Option ℤ := do
  let lastDay ← daysFromCivil year month 31
  let weekday := (lastDay + 4).tmod 7
  return (lastDay - weekday) * kSecondsPerDay + kTransitionSecondsIntoDayUtc

def toUInt8 (value : ℤ) : ℕ := (value % 2 ^ 8).toNat

def toInt16 (value : ℤ) : ℤ := value.bmod (2 ^ 16)

/-- The outer option is empty where an operation overflows. -/
def toLocalTime (library : CalendarLibrary) (trustedUtc : Option ℤ) (rule : TimeZoneRule) :
    Option (Option LocalTime) :=
  match trustedUtc with
  | none => some none
  | some utc =>
      if utc < 0 then some none
      else if rule.dst ≠ .europeanUnion then some none
      else
        match library.breakDown utc with
        | none => some none
        | some utcFields => do
            let year ← int (utcFields.tm_year + 1900)
            let start ← lastSundayTransitionUtc year 3
            let beforeStop := (lastSundayTransitionUtc year 10).map fun stop => decide (utc < stop)
            let daylightSaving ← bif decide (start ≤ utc) then beforeStop else some false
            let offsetMinutes := toInt16
              (rule.standardOffsetMinutes + if daylightSaving then kDaylightSavingMinutes else 0)
            match library.breakDown (utc + offsetMinutes * 60) with
            | none => return none
            | some localFields =>
                let year ← int (localFields.tm_year + 1900)
                return some {
                  year
                  month := toUInt8 (localFields.tm_mon + 1)
                  day := toUInt8 localFields.tm_mday
                  hour := toUInt8 localFields.tm_hour
                  minute := toUInt8 localFields.tm_min
                  second := toUInt8 localFields.tm_sec
                  utcOffsetMinutes := offsetMinutes
                  daylightSaving }

end Fermentationsschrank

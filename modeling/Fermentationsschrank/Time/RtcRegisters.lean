import Fermentationsschrank.Time.LocalTime
import Mathlib.Data.Fin.VecNotation

/-!
# Registers of the real-time clock

The seven calendar registers of the clock hold binary-coded digits: seconds, minutes, hours,
weekday, day, month and year of the century.  Hours are counted to 24, or to 12 with a mark
for the afternoon.
-/

namespace Fermentationsschrank.Ds3231

def validBcd (value maximum : UInt8) : Bool :=
  if (value &&& 0x0F) > 9 ∨ ((value >>> 4) &&& 0x0F) > 9 then false
  else (value >>> 4).toNat * 10 + (value &&& 0x0F).toNat ≤ maximum.toNat

def decodeBcd (value : UInt8) : UInt8 := (value >>> 4) * 10 + (value &&& 0x0F)

def leapYear (year : ℤ) : Bool := (year % 4 = 0 && year % 100 ≠ 0) || year % 400 = 0

def monthDays : List ℕ := [31, 28, 31, 30, 31, 30, 31, 31, 30, 31, 30, 31]

def daysInMonth (year : ℤ) (month : UInt8) : ℕ :=
  if month = 2 ∧ leapYear year then 29 else monthDays.getD (month.toNat - 1) 0

abbrev Calendar := Fin 7 → UInt8

variable (calendar : Calendar)

def yearOf : ℤ := 2000 + (decodeBcd (calendar 6)).toNat

/-- The checks of the single registers, less the hour. -/
def validFields : Bool :=
  !(calendar 0 &&& 0x80 ≠ 0 || !validBcd (calendar 0 &&& 0x7F) 59 ||
    calendar 1 &&& 0x80 ≠ 0 || !validBcd (calendar 1) 59 ||
    calendar 3 &&& 0xF8 ≠ 0 || !validBcd (calendar 3) 7 ||
    decodeBcd (calendar 3) = 0 || 7 < decodeBcd (calendar 3) ||
    calendar 4 &&& 0xC0 ≠ 0 || !validBcd (calendar 4 &&& 0x3F) 31 ||
    decodeBcd (calendar 4 &&& 0x3F) = 0 || calendar 5 &&& 0x80 ≠ 0 ||
    calendar 5 &&& 0xE0 ≠ 0 || !validBcd (calendar 5 &&& 0x1F) 12 ||
    decodeBcd (calendar 5 &&& 0x1F) = 0 || !validBcd (calendar 6) 99)

def validHour (rawHour : UInt8) : Bool :=
  if rawHour &&& 0x80 ≠ 0 then false
  else if rawHour &&& 0x40 ≠ 0 then
    validBcd (rawHour &&& 0x1F) 12 &&
      !(decodeBcd (rawHour &&& 0x1F) = 0 || 12 < decodeBcd (rawHour &&& 0x1F))
  else validBcd (rawHour &&& 0x3F) 23

def validateCalendar : Bool :=
  if !validFields calendar then false
  else
    let month := decodeBcd (calendar 5 &&& 0x1F)
    let day := decodeBcd (calendar 4 &&& 0x3F)
    if 12 < month ∨ daysInMonth (yearOf calendar) month < day.toNat then false
    else validHour (calendar 2)

def hourOf (rawHour : UInt8) : ℤ :=
  if rawHour &&& 0x40 ≠ 0 then
    ((decodeBcd (rawHour &&& 0x1F)).toNat % 12 : ℕ) + if rawHour &&& 0x20 ≠ 0 then 12 else 0
  else (decodeBcd (rawHour &&& 0x3F)).toNat

def rawCalendarToUnix : Option ℤ :=
  if !validateCalendar calendar then none
  else
    let month := decodeBcd (calendar 5 &&& 0x1F)
    let day := decodeBcd (calendar 4 &&& 0x3F)
    (daysFromCivil (yearOf calendar) month.toNat day.toNat).map fun days =>
      days * 86400 + hourOf (calendar 2) * 3600 + (decodeBcd (calendar 1)).toNat * 60 +
        (decodeBcd (calendar 0 &&& 0x7F)).toNat

end Fermentationsschrank.Ds3231

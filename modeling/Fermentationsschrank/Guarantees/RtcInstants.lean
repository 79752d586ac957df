import Fermentationsschrank.Guarantees.LocalClock
import Fermentationsschrank.Time.RtcRegisters
import Mathlib.Data.Fintype.Basic
import Mathlib.Data.List.Lex
import Mathlib.Tactic.FinCases

/-!
# Registers and instants

The registers that are accepted are the encodings of the seconds of one century.  Two
encodings of one second differ in the weekday or in how the hour is written.
-/

namespace Fermentationsschrank.Ds3231

open Calendar (CivilDate DayNumber)

/-! ## Encodings -/

/-- The two decimal digits of a number. -/
def bcd (value : ℕ) : UInt8 := UInt8.ofNat (value / 10 * 16 + value % 10)

/-- A second of the century that begins in 2000. -/
@[ext]
structure CenturySecond where
  date : CivilDate
  hour : ℕ
  minute : ℕ
  second : ℕ
  year_low : 2000 ≤ date.year
  year_high : date.year ≤ 2099
  hour_lt : hour < 24
  minute_lt : minute < 60
  second_lt : second < 60

namespace CenturySecond

/-- Unix time counts the seconds from the epoch; its days are those of the calendar. -/
def IsUnix (moment : CenturySecond) (seconds : ℤ) : Prop :=
  ∃ days, DayNumber moment.date days ∧
    seconds = days * 86400 + moment.hour * 3600 + moment.minute * 60 + moment.second

/-- The fields of date and time, the largest unit first. -/
def fields (moment : CenturySecond) : List ℤ :=
  [moment.date.year, moment.date.month, moment.date.day, moment.hour, moment.minute, moment.second]

def unix (moment : CenturySecond) : ℤ :=
  moment.date.number * 86400 + moment.hour * 3600 + moment.minute * 60 + moment.second

theorem isUnix_iff {moment : CenturySecond} {seconds : ℤ} :
    moment.IsUnix seconds ↔ seconds = moment.unix := by
  constructor
  · rintro ⟨days, hdays, rfl⟩
    rw [unix, ← Calendar.dayNumber_iff.mp hdays]
  · intro h
    exact ⟨moment.date.number, Calendar.dayNumber_iff.mpr rfl, h⟩

/-- A later date and time is a larger number. -/
theorem unix_lt {moment later : CenturySecond} (h : moment.fields < later.fields) :
    moment.unix < later.unix := by
  have hhour := moment.hour_lt
  have hminute := moment.minute_lt
  have hsecond := moment.second_lt
  simp only [fields, List.cons_lt_cons_iff, List.not_lt_nil, and_false, or_false] at h
  rw [unix, unix]
  rcases h with hyear | ⟨hyear, h⟩
  · have := Calendar.number_lt_of_year hyear
    omega
  rcases h with hmonth | ⟨hmonth, h⟩
  · have := Calendar.number_lt_of_month hyear (Int.ofNat_lt.mp hmonth)
    omega
  have hsame := Calendar.number_of_same_month hyear (Int.ofNat.inj hmonth)
  omega

theorem fields_injective : Function.Injective fields := by
  intro moment other h
  simp only [fields, List.cons.injEq, Nat.cast_inj, and_true] at h
  obtain ⟨hyear, hmonth, hday, hhour, hminute, hsecond⟩ := h
  exact CenturySecond.ext (CivilDate.ext hyear hmonth hday) hhour hminute hsecond

theorem unix_injective : Function.Injective unix := by
  intro moment other h
  rcases lt_trichotomy moment.fields other.fields with hlt | heq | hgt
  · exact absurd h (unix_lt hlt).ne
  · exact fields_injective heq
  · exact absurd h.symm (unix_lt hgt).ne

def first : CenturySecond where
  date := .newYear 2000
  hour := 0
  minute := 0
  second := 0
  year_low := le_refl _
  year_high := by decide
  hour_lt := by decide
  minute_lt := by decide
  second_lt := by decide

theorem month_pos_december : 1 ≤ 12 := by decide
theorem day_pos_lastOfDecember : 1 ≤ 31 := by decide

def last : CenturySecond where
  date := ⟨2099, 12, 31, month_pos_december, by decide, day_pos_lastOfDecember, by decide⟩
  hour := 23
  minute := 59
  second := 59
  year_low := by decide
  year_high := le_refl _
  hour_lt := by decide
  minute_lt := by decide
  second_lt := by decide

/-- Every second between the first and the last one is a second of the century. -/
theorem exists_unix {seconds : ℤ} (hlow : first.unix ≤ seconds) (hhigh : seconds ≤ last.unix) :
    ∃ moment : CenturySecond, moment.unix = seconds := by
  have hfirst : first.unix = (CivilDate.newYear 2000).number * 86400 := by decide
  have hlast : last.unix = (CivilDate.newYear 2100).number * 86400 - 1 := by decide
  obtain ⟨date, hdate⟩ := @Calendar.exists_number (.newYear 2000) (seconds / 86400) (by omega)
  have hbounds := date.number_bounds
  have hyearLow : 2000 ≤ date.year := by
    by_contra hbefore
    have := @Calendar.number_newYear_le (date.year + 1) 2000 (by omega)
    omega
  have hyearHigh : date.year ≤ 2099 := by
    by_contra hafter
    have := @Calendar.number_newYear_le 2100 date.year (by omega)
    omega
  refine ⟨⟨date, (seconds % 86400 / 3600).toNat, (seconds % 3600 / 60).toNat,
    (seconds % 60).toNat, hyearLow, hyearHigh, by omega, by omega, by omega⟩, ?_⟩
  rw [unix]
  dsimp only
  omega

end CenturySecond

/-- How the hour is written. -/
inductive HourNotation
  | hours24
  | hours12
  deriving DecidableEq

/-- Midnight and noon are the hour 12 of a count to 12. -/
def hourRegister : HourNotation → ℕ → UInt8
  | .hours24, hour => bcd hour
  | .hours12, hour =>
    0x40 ||| (if 12 ≤ hour then 0x20 else 0) ||| bcd (if hour % 12 = 0 then 12 else hour % 12)

def encode (moment : CenturySecond) (weekday : ℕ) (hours : HourNotation) : Calendar :=
  ![bcd moment.second, bcd moment.minute, hourRegister hours moment.hour, bcd weekday,
    bcd moment.date.day, bcd moment.date.month, bcd (moment.date.year - 2000).toNat]

/-! ## Single registers -/

/-- A register with its reserved bits, its digits and the range of its value. -/
structure RegisterRule where
  reserved : UInt8
  digits : UInt8
  low : ℕ
  high : ℕ
  deriving DecidableEq

def RegisterRule.accepts (rule : RegisterRule) (register : UInt8) : Bool :=
  register &&& rule.reserved = 0 && validBcd (register &&& rule.digits) (UInt8.ofNat rule.high) &&
    rule.low ≤ (decodeBcd (register &&& rule.digits)).toNat

def secondRule : RegisterRule := ⟨0x80, 0x7F, 0, 59⟩
def minuteRule : RegisterRule := ⟨0x80, 0xFF, 0, 59⟩
def weekdayRule : RegisterRule := ⟨0xF8, 0xFF, 1, 7⟩
def dayRule : RegisterRule := ⟨0xC0, 0x3F, 1, 31⟩
def monthRule : RegisterRule := ⟨0xE0, 0x1F, 1, 12⟩
def yearRule : RegisterRule := ⟨0, 0xFF, 0, 99⟩

def rules : List RegisterRule :=
  [secondRule, minuteRule, weekdayRule, dayRule, monthRule, yearRule]

/-- A statement about every register is checked for all 256 of them. -/
theorem forall_register {holds : UInt8 → Prop} (h : ∀ number : Fin 256, holds (UInt8.ofFin number))
    (register : UInt8) : holds register := h register.toFin

theorem accepts_bcd : ∀ rule ∈ rules, ∀ value : Fin 100, rule.low ≤ value → value ≤ rule.high →
    rule.accepts (bcd value) = true ∧ (decodeBcd (bcd value &&& rule.digits)).toNat = value := by
  decide +kernel

theorem bcd_of_accepts (register : UInt8) : ∀ rule ∈ rules, rule.accepts register = true →
    register = bcd (decodeBcd (register &&& rule.digits)).toNat ∧
      rule.low ≤ (decodeBcd (register &&& rule.digits)).toNat ∧
      (decodeBcd (register &&& rule.digits)).toNat ≤ rule.high := by
  revert register
  apply forall_register
  decide +kernel

/-- The notation that an hour register is written in. -/
def notationOf (register : UInt8) : HourNotation :=
  if register &&& 0x40 ≠ 0 then .hours12 else .hours24

theorem hourRegister_of_validHour (register : UInt8) : validHour register = true →
    register = hourRegister (notationOf register) (hourOf register).toNat ∧
      0 ≤ hourOf register ∧ hourOf register < 24 := by
  revert register
  apply forall_register
  decide +kernel

theorem validHour_hourRegister : ∀ hour : Fin 24, ∀ hours ∈ [HourNotation.hours24, .hours12],
    validHour (hourRegister hours hour) = true ∧ hourOf (hourRegister hours hour) = hour.val := by
  decide +kernel

theorem mem_notations (hours : HourNotation) : hours ∈ [HourNotation.hours24, .hours12] := by
  cases hours <;> decide

/-- What the firmware checks of each register is what its rule says. -/
theorem accepts_iff (register : UInt8) :
    (secondRule.accepts register = true ↔
      register &&& 0x80 = 0 ∧ validBcd (register &&& 0x7F) 59 = true) ∧
    (minuteRule.accepts register = true ↔
      register &&& 0x80 = 0 ∧ validBcd register 59 = true) ∧
    (weekdayRule.accepts register = true ↔
      register &&& 0xF8 = 0 ∧ validBcd register 7 = true ∧ ¬decodeBcd register = 0 ∧
        ¬7 < decodeBcd register) ∧
    (dayRule.accepts register = true ↔
      register &&& 0xC0 = 0 ∧ validBcd (register &&& 0x3F) 31 = true ∧
        ¬decodeBcd (register &&& 0x3F) = 0) ∧
    (monthRule.accepts register = true ↔
      register &&& 0x80 = 0 ∧ register &&& 0xE0 = 0 ∧ validBcd (register &&& 0x1F) 12 = true ∧
        ¬decodeBcd (register &&& 0x1F) = 0) ∧
    (yearRule.accepts register = true ↔ validBcd register 99 = true) := by
  revert register
  apply forall_register
  decide +kernel

variable {calendar : Calendar}

theorem validFields_iff :
    validFields calendar = true ↔
      secondRule.accepts (calendar 0) = true ∧ minuteRule.accepts (calendar 1) = true ∧
        weekdayRule.accepts (calendar 3) = true ∧ dayRule.accepts (calendar 4) = true ∧
        monthRule.accepts (calendar 5) = true ∧ yearRule.accepts (calendar 6) = true := by
  rw [(accepts_iff (calendar 0)).1, (accepts_iff (calendar 1)).2.1,
    (accepts_iff (calendar 3)).2.2.1, (accepts_iff (calendar 4)).2.2.2.1,
    (accepts_iff (calendar 5)).2.2.2.2.1, (accepts_iff (calendar 6)).2.2.2.2.2]
  simp only [validFields, Bool.not_eq_true', Bool.or_eq_false_iff, Bool.not_eq_false',
    decide_eq_false_iff_not, not_not, and_assoc]

theorem leapYear_eq (year : ℤ) : leapYear year = Calendar.leapYear year := by
  rw [leapYear, Calendar.leapYear, Bool.eq_iff_iff]
  simp only [Bool.or_eq_true, Bool.and_eq_true, decide_eq_true_eq]
  omega

theorem daysInMonth_eq {year : ℤ} {month : ℕ} (hpos : 1 ≤ month) (hle : month ≤ 12) :
    daysInMonth year (UInt8.ofNat month) = Calendar.daysInMonth year month := by
  rw [daysInMonth, Calendar.daysInMonth, leapYear_eq]
  interval_cases month <;> simp [monthDays]

/-! ## Whole calendars -/

theorem and_all (register : UInt8) : register &&& 0xFF = register := by
  revert register
  apply forall_register
  decide +kernel

/-- A value in the range of its rule is accepted and read back. -/
theorem RegisterRule.reads {rule : RegisterRule} (hrule : rule ∈ rules) {value : ℕ}
    (hlow : rule.low ≤ value) (hhigh : value ≤ rule.high) :
    rule.accepts (bcd value) = true ∧ (decodeBcd (bcd value &&& rule.digits)).toNat = value := by
  have hhundred : ∀ rule ∈ rules, rule.high < 100 := by decide
  exact accepts_bcd rule hrule ⟨value, hhigh.trans_lt (hhundred rule hrule)⟩ hlow hhigh

/-- What is read from the registers of an encoding. -/
structure Reads (calendar : Calendar) (moment : CenturySecond) : Prop where
  year : yearOf calendar = moment.date.year
  month : decodeBcd (calendar 5 &&& 0x1F) = UInt8.ofNat moment.date.month
  day : (decodeBcd (calendar 4 &&& 0x3F)).toNat = moment.date.day
  hour : hourOf (calendar 2) = moment.hour
  minute : (decodeBcd (calendar 1)).toNat = moment.minute
  second : (decodeBcd (calendar 0 &&& 0x7F)).toNat = moment.second

variable {moment : CenturySecond} {weekday : ℕ} {hours : HourNotation}

theorem day_le_31 (date : CivilDate) : date.day ≤ 31 := by
  have := date.day_le
  rw [Calendar.daysInMonth] at this
  split_ifs at this <;> omega

theorem reads_encode : Reads (encode moment weekday hours) moment where
  year := by
    have hlow := moment.year_low
    have hhigh := moment.year_high
    have hread := (@RegisterRule.reads yearRule (by decide) (moment.date.year - 2000).toNat
      (Nat.zero_le _) (show _ ≤ 99 by omega)).2
    rw [show yearRule.digits = 0xFF from rfl, and_all] at hread
    have hregister : encode moment weekday hours 6 = bcd (moment.date.year - 2000).toNat := rfl
    rw [yearOf, hregister, hread]
    omega
  month := by
    have hread := (@RegisterRule.reads monthRule (by decide) moment.date.month
      moment.date.month_pos moment.date.month_le).2
    rw [← hread, UInt8.ofNat_toNat]
    rfl
  day := (@RegisterRule.reads dayRule (by decide) moment.date.day moment.date.day_pos
    (day_le_31 _)).2
  hour := (validHour_hourRegister ⟨moment.hour, moment.hour_lt⟩ hours (mem_notations hours)).2
  minute := by
    have hread := (@RegisterRule.reads minuteRule (by decide) moment.minute (Nat.zero_le _)
      (Nat.le_of_lt_succ moment.minute_lt)).2
    rw [show minuteRule.digits = 0xFF from rfl, and_all] at hread
    exact hread
  second := (@RegisterRule.reads secondRule (by decide) moment.second (Nat.zero_le _)
    (Nat.le_of_lt_succ moment.second_lt)).2

theorem validFields_encode (hweekday : 1 ≤ weekday ∧ weekday ≤ 7) :
    validFields (encode moment weekday hours) = true := by
  have hhigh := moment.year_high
  rw [validFields_iff]
  exact ⟨(@RegisterRule.reads secondRule (by decide) moment.second (Nat.zero_le _)
      (Nat.le_of_lt_succ moment.second_lt)).1,
    (@RegisterRule.reads minuteRule (by decide) moment.minute (Nat.zero_le _)
      (Nat.le_of_lt_succ moment.minute_lt)).1,
    (@RegisterRule.reads weekdayRule (by decide) weekday hweekday.1 hweekday.2).1,
    (@RegisterRule.reads dayRule (by decide) moment.date.day moment.date.day_pos
      (day_le_31 _)).1,
    (@RegisterRule.reads monthRule (by decide) moment.date.month moment.date.month_pos
      moment.date.month_le).1,
    (@RegisterRule.reads yearRule (by decide) (moment.date.year - 2000).toNat (Nat.zero_le _)
      (show _ ≤ 99 by omega)).1⟩

theorem validateCalendar_iff :
    validateCalendar calendar = true ↔
      validFields calendar = true ∧ ¬12 < decodeBcd (calendar 5 &&& 0x1F) ∧
        (decodeBcd (calendar 4 &&& 0x3F)).toNat ≤
          daysInMonth (yearOf calendar) (decodeBcd (calendar 5 &&& 0x1F)) ∧
        validHour (calendar 2) = true := by
  simp only [validateCalendar, Bool.not_eq_true', Bool.if_false_left, Bool.and_eq_true,
    Bool.not_eq_true', Bool.not_eq_false, not_or, not_lt, and_assoc, decide_eq_false_iff_not]

theorem toNat_month (date : CivilDate) : (UInt8.ofNat date.month).toNat = date.month := by
  have hlt : date.month < 256 := date.month_le.trans_lt (by decide)
  exact UInt8.toNat_ofNat_of_lt' hlt

theorem validateCalendar_encode (hweekday : 1 ≤ weekday ∧ weekday ≤ 7) :
    validateCalendar (encode moment weekday hours) = true := by
  have hreads := @reads_encode moment weekday hours
  rw [validateCalendar_iff, hreads.month, hreads.day, hreads.year,
    daysInMonth_eq moment.date.month_pos moment.date.month_le, UInt8.lt_iff_toNat_lt,
    toNat_month]
  exact ⟨validFields_encode hweekday, moment.date.month_le.not_gt, moment.date.day_le,
    (validHour_hourRegister ⟨moment.hour, moment.hour_lt⟩ hours (mem_notations hours)).1⟩

theorem rawCalendarToUnix_encode (hweekday : 1 ≤ weekday ∧ weekday ≤ 7) :
    rawCalendarToUnix (encode moment weekday hours) = some moment.unix := by
  have hreads := @reads_encode moment weekday hours
  have hlow := moment.year_low
  have hhigh := moment.year_high
  have hdays := daysFromCivil_eq_number moment.date
    (by rw [Calendar.marchYear]; split_ifs <;> omega) (by omega)
  simp only [rawCalendarToUnix, validateCalendar_encode hweekday, Bool.not_true,
    Bool.false_eq_true, if_false, hreads.month, hreads.day, hreads.year, toNat_month, hdays,
    Option.map_some, hreads.hour, hreads.minute, hreads.second, CenturySecond.unix]

/-- What is accepted is an encoding. -/
theorem exists_encode (h : validateCalendar calendar = true) :
    ∃ moment weekday hours, (1 ≤ weekday ∧ weekday ≤ 7) ∧
      calendar = encode moment weekday hours := by
  obtain ⟨hfields, -, hdays, hhour⟩ := validateCalendar_iff.mp h
  obtain ⟨hsecond, hminute, hweekday, hday, hmonth, hyear⟩ := validFields_iff.mp hfields
  obtain ⟨hsecondIs, -, hsecondLe⟩ := bcd_of_accepts _ _ (by decide) hsecond
  obtain ⟨hminuteIs, -, hminuteLe⟩ := bcd_of_accepts _ _ (by decide) hminute
  obtain ⟨hweekdayIs, hweekdayPos, hweekdayLe⟩ := bcd_of_accepts _ _ (by decide) hweekday
  obtain ⟨hdayIs, hdayPos, -⟩ := bcd_of_accepts _ _ (by decide) hday
  obtain ⟨hmonthIs, hmonthPos, hmonthLe⟩ := bcd_of_accepts _ _ (by decide) hmonth
  obtain ⟨hyearIs, -, hyearLe⟩ := bcd_of_accepts _ _ (by decide) hyear
  obtain ⟨hhourIs, hhourPos, hhourLt⟩ := hourRegister_of_validHour _ hhour
  rw [show minuteRule.digits = 0xFF from rfl, and_all] at hminuteIs hminuteLe
  rw [show weekdayRule.digits = 0xFF from rfl, and_all] at hweekdayIs hweekdayPos hweekdayLe
  rw [show yearRule.digits = 0xFF from rfl, and_all] at hyearIs hyearLe
  have hyearHigh : (decodeBcd (calendar 6)).toNat ≤ 99 := hyearLe
  have hyearOf : yearOf calendar = 2000 + (decodeBcd (calendar 6)).toNat := rfl
  have hlow : 2000 ≤ yearOf calendar := by omega
  have hhigh : yearOf calendar ≤ 2099 := by omega
  have hmonthDays := @daysInMonth_eq (yearOf calendar) (decodeBcd (calendar 5 &&& 0x1F)).toNat
    hmonthPos hmonthLe
  rw [UInt8.ofNat_toNat] at hmonthDays
  let moment : CenturySecond :=
    { date :=
        { year := yearOf calendar
          month := (decodeBcd (calendar 5 &&& 0x1F)).toNat
          day := (decodeBcd (calendar 4 &&& 0x3F)).toNat
          month_pos := hmonthPos
          month_le := hmonthLe
          day_pos := hdayPos
          day_le := hmonthDays ▸ hdays }
      hour := (hourOf (calendar 2)).toNat
      minute := (decodeBcd (calendar 1)).toNat
      second := (decodeBcd (calendar 0 &&& 0x7F)).toNat
      year_low := hlow
      year_high := hhigh
      hour_lt := by omega
      minute_lt := Nat.lt_succ_of_le hminuteLe
      second_lt := Nat.lt_succ_of_le hsecondLe }
  refine ⟨moment, (decodeBcd (calendar 3)).toNat, notationOf (calendar 2),
    ⟨hweekdayPos, hweekdayLe⟩, ?_⟩
  have hyearDigits : (moment.date.year - 2000).toNat = (decodeBcd (calendar 6)).toNat := by
    rw [show moment.date.year = yearOf calendar from rfl, hyearOf]
    omega
  funext index
  fin_cases index
  · exact hsecondIs
  · exact hminuteIs
  · exact hhourIs
  · exact hweekdayIs
  · exact hdayIs
  · exact hmonthIs
  · exact hyearIs.trans (congrArg bcd hyearDigits.symm)

/-- Accepted registers encode a second of the century, with any weekday and in either
notation of the hour; they are read as its Unix time; two of them that are read as the same
one encode the same second; every second of the century is read from some; and a later date
and time is a larger number. -/
theorem registers_name_instants :
    (∀ calendar, validateCalendar calendar = true ↔ ∃ moment weekday hours,
      (1 ≤ weekday ∧ weekday ≤ 7) ∧ calendar = encode moment weekday hours) ∧
    (∀ moment weekday hours seconds, 1 ≤ weekday ∧ weekday ≤ 7 →
      (rawCalendarToUnix (encode moment weekday hours) = some seconds ↔
        moment.IsUnix seconds)) ∧
    (∀ calendar other seconds, rawCalendarToUnix calendar = some seconds →
      rawCalendarToUnix other = some seconds →
      ∃ moment weekday otherWeekday hours otherHours,
        calendar = encode moment weekday hours ∧
          other = encode moment otherWeekday otherHours) ∧
    (∀ seconds, CenturySecond.first.unix ≤ seconds → seconds ≤ CenturySecond.last.unix →
      ∃ calendar, rawCalendarToUnix calendar = some seconds) ∧
    ∀ moment later : CenturySecond, moment.fields < later.fields →
      ∀ weekday laterWeekday hours laterHours, 1 ≤ weekday ∧ weekday ≤ 7 →
        1 ≤ laterWeekday ∧ laterWeekday ≤ 7 →
        ∃ seconds laterSeconds,
          rawCalendarToUnix (encode moment weekday hours) = some seconds ∧
          rawCalendarToUnix (encode later laterWeekday laterHours) = some laterSeconds ∧
          seconds < laterSeconds := by
  have hvalid : ∀ calendar seconds, rawCalendarToUnix calendar = some seconds →
      ∃ moment weekday hours, calendar = encode moment weekday hours ∧ moment.unix = seconds := by
    intro calendar seconds hseconds
    have haccepted : validateCalendar calendar = true := by
      by_contra hrefused
      rw [rawCalendarToUnix, Bool.not_eq_true _ |>.mp hrefused] at hseconds
      cases hseconds
    obtain ⟨moment, weekday, hours, hweekday, rfl⟩ := exists_encode haccepted
    rw [rawCalendarToUnix_encode hweekday] at hseconds
    exact ⟨moment, weekday, hours, rfl, Option.some.inj hseconds⟩
  refine ⟨fun calendar => ⟨exists_encode, ?_⟩, ?_, ?_, ?_, ?_⟩
  · rintro ⟨moment, weekday, hours, hweekday, rfl⟩
    exact validateCalendar_encode hweekday
  · intro moment weekday hours seconds hweekday
    rw [rawCalendarToUnix_encode hweekday, CenturySecond.isUnix_iff, Option.some.injEq, eq_comm]
  · intro calendar other seconds hcalendar hother
    obtain ⟨moment, weekday, hours, rfl, hmoment⟩ := hvalid _ _ hcalendar
    obtain ⟨found, otherWeekday, otherHours, rfl, hfound⟩ := hvalid _ _ hother
    obtain rfl := CenturySecond.unix_injective (hmoment.trans hfound.symm)
    exact ⟨moment, weekday, otherWeekday, hours, otherHours, rfl, rfl⟩
  · intro seconds hlow hhigh
    obtain ⟨moment, hmoment⟩ := CenturySecond.exists_unix hlow hhigh
    refine ⟨encode moment 1 .hours24, ?_⟩
    rw [rawCalendarToUnix_encode (by decide), hmoment]
  · intro moment later hlater weekday laterWeekday hours laterHours hweekday hlaterWeekday
    exact ⟨_, _, rawCalendarToUnix_encode hweekday, rawCalendarToUnix_encode hlaterWeekday,
      CenturySecond.unix_lt hlater⟩

end Fermentationsschrank.Ds3231

import Mathlib.Data.Int.Order.Basic
import Mathlib.Tactic.IntervalCases

/-!
# Civil calendar

Dates of the proleptic Gregorian calendar, and the number of a day counted from the first
of January 1970.  The number is fixed by the calendar alone: the next day has the next
number.
-/

namespace Fermentationsschrank

namespace Calendar

/-! ## Dates -/

def leapYear (year : ℤ) : Bool := year % 4 = 0 ∧ (year % 100 ≠ 0 ∨ year % 400 = 0)

def daysInMonth (year : ℤ) (month : ℕ) : ℕ :=
  if month = 2 then if leapYear year then 29 else 28
  else if month = 4 ∨ month = 6 ∨ month = 9 ∨ month = 11 then 30
  else 31

@[ext]
structure CivilDate where
  year : ℤ
  month : ℕ
  day : ℕ
  month_pos : 1 ≤ month := by decide
  month_le : month ≤ 12 := by decide
  day_pos : 1 ≤ day := by decide
  day_le : day ≤ daysInMonth year month
  deriving DecidableEq

theorem daysInMonth_pos (year : ℤ) (month : ℕ) : 1 ≤ daysInMonth year month := by
  rw [daysInMonth]
  split_ifs <;> decide

namespace CivilDate

/-- The first day of a month. -/
def first (year : ℤ) (month : ℕ) (hpos : 1 ≤ month) (hle : month ≤ 12) : CivilDate where
  year
  month
  day := 1
  month_pos := hpos
  month_le := hle
  day_le := daysInMonth_pos year month

def newYear (year : ℤ) : CivilDate := first year 1 (Nat.le_refl 1) (by decide)

def epoch : CivilDate := newYear 1970

/-- The next day of the calendar. -/
def next (date : CivilDate) : CivilDate :=
  if hday : date.day < daysInMonth date.year date.month then
    { date with day := date.day + 1, day_pos := Nat.le_add_left .., day_le := hday }
  else if hmonth : date.month < 12 then
    first date.year (date.month + 1) (Nat.le_add_left ..) hmonth
  else newYear (date.year + 1)

theorem next_eq_of_lt {date : CivilDate} (hday : date.day < daysInMonth date.year date.month) :
    date.next = { date with day := date.day + 1, day_pos := Nat.le_add_left .., day_le := hday } :=
  dif_pos hday

theorem next_eq_first {date : CivilDate} (hday : date.day = daysInMonth date.year date.month)
    (hmonth : date.month < 12) :
    date.next = first date.year (date.month + 1) (Nat.le_add_left ..) hmonth := by
  rw [next, dif_neg (by omega), dif_pos hmonth]

theorem next_eq_newYear {date : CivilDate} (hday : date.day = daysInMonth date.year date.month)
    (hmonth : date.month = 12) : date.next = newYear (date.year + 1) := by
  rw [next, dif_neg (by omega), dif_neg (by omega)]

end CivilDate

/-! ## Day numbers -/

/-- The number of a date: the epoch has number zero, and the next day the next number. -/
inductive DayNumber : CivilDate → ℤ → Prop
  | epoch : DayNumber CivilDate.epoch 0
  | next {date : CivilDate} {number : ℤ} (hnumber : DayNumber date number) :
      DayNumber date.next (number + 1)
  | previous {date : CivilDate} {number : ℤ} (hnumber : DayNumber date.next (number + 1)) :
      DayNumber date number

/-- The days before the first of a month, in a year that begins in March. -/
def daysBeforeMonth (marchBasedMonth : ℕ) : ℕ := (153 * marchBasedMonth + 2) / 5

/-- January and February belong to the year that began in the March before them. -/
def marchYear (year : ℤ) (month : ℕ) : ℤ := year - if month ≤ 2 then 1 else 0

def marchMonth (month : ℕ) : ℕ := if month ≤ 2 then month + 9 else month - 3

/-- The days of the years before a year. -/
def daysBeforeYear (year : ℤ) : ℤ := 365 * year + year / 4 - year / 100 + year / 400

/-- The number of a date in closed form. -/
def CivilDate.number (date : CivilDate) : ℤ :=
  daysBeforeYear (marchYear date.year date.month) + daysBeforeMonth (marchMonth date.month) +
    date.day - 719469

theorem daysBeforeYear_succ (year : ℤ) :
    daysBeforeYear (year + 1) = daysBeforeYear year + if leapYear (year + 1) then 366 else 365 := by
  simp only [daysBeforeYear, leapYear, decide_eq_true_eq]
  split_ifs <;> omega

/-- The days of a month separate its first day from that of the next month. -/
theorem daysBeforeMonth_succ {year : ℤ} {month : ℕ} (hpos : 1 ≤ month) (hlt : month < 12)
    (hfebruary : month ≠ 2) :
    daysBeforeMonth (marchMonth (month + 1)) =
      daysBeforeMonth (marchMonth month) + daysInMonth year month := by
  interval_cases month <;> first | exact absurd rfl hfebruary | rfl

theorem number_next (date : CivilDate) : date.next.number = date.number + 1 := by
  rcases Nat.lt_or_eq_of_le date.day_le with hday | hday
  · rw [CivilDate.next_eq_of_lt hday]
    simp only [CivilDate.number]
    omega
  rcases Nat.lt_or_eq_of_le date.month_le with hmonth | hmonth
  · rw [CivilDate.next_eq_first hday hmonth]
    simp only [CivilDate.number, CivilDate.first, hday]
    rcases eq_or_ne date.month 2 with hfebruary | hfebruary
    · -- only here does the year of March change
      have hyear := daysBeforeYear_succ (date.year - 1)
      rw [Int.sub_add_cancel] at hyear
      simp only [hfebruary, marchYear, marchMonth, daysBeforeMonth, daysInMonth]
      norm_num
      split_ifs at hyear ⊢ <;> omega
    · have hyear : marchYear date.year (date.month + 1) = marchYear date.year date.month := by
        simp only [marchYear]
        split_ifs <;> omega
      have hmonths := @daysBeforeMonth_succ date.year _ date.month_pos hmonth hfebruary
      rw [hyear]
      omega
  · rw [CivilDate.next_eq_newYear hday hmonth]
    simp only [CivilDate.number, CivilDate.newYear, CivilDate.first, hday, hmonth, marchYear,
      marchMonth, daysBeforeMonth, daysInMonth]
    norm_num
    omega

theorem number_of_dayNumber {date : CivilDate} {number : ℤ} (h : DayNumber date number) :
    number = date.number := by
  induction h with
  | epoch => rfl
  | next _ ih => rw [number_next, ← ih]
  | previous _ ih =>
      rw [number_next] at ih
      exact add_right_cancel ih

/-! ## Every date has a number -/

def Numbered (date : CivilDate) : Prop := ∃ number, DayNumber date number

/-- A date is counted from the epoch exactly when its next day is. -/
theorem numbered_next_iff {date : CivilDate} : Numbered date.next ↔ Numbered date := by
  constructor
  · rintro ⟨number, hnumber⟩
    exact ⟨number - 1, .previous (by rwa [Int.sub_add_cancel])⟩
  · rintro ⟨number, hnumber⟩
    exact ⟨number + 1, .next hnumber⟩

theorem numbered_first_iff {year : ℤ} {month day : ℕ} (hpos : 1 ≤ month) (hle : month ≤ 12)
    (hday_pos : 1 ≤ day) (hday_le : day ≤ daysInMonth year month) :
    Numbered ⟨year, month, day, hpos, hle, hday_pos, hday_le⟩ ↔
      Numbered (.first year month hpos hle) := by
  induction day, hday_pos using Nat.le_induction with
  | base => rfl
  | succ day hday_pos ih =>
      have hday := Nat.le_of_succ_le hday_le
      have hnext := @CivilDate.next_eq_of_lt ⟨year, month, day, hpos, hle, hday_pos, hday⟩ hday_le
      rw [← ih hday, ← @numbered_next_iff ⟨year, month, day, hpos, hle, hday_pos, hday⟩, hnext]

theorem numbered_newYear_iff {year : ℤ} {month : ℕ} (hpos : 1 ≤ month) (hle : month ≤ 12) :
    Numbered (.first year month hpos hle) ↔ Numbered (.newYear year) := by
  induction month, hpos using Nat.le_induction with
  | base => rfl
  | succ month hpos ih =>
      have hmonth : month < 12 := hle
      have hnext := @CivilDate.next_eq_first
        ⟨year, month, daysInMonth year month, hpos, hmonth.le, daysInMonth_pos .., le_refl _⟩ rfl
        hmonth
      rw [← ih hmonth.le, ← hnext, numbered_next_iff, numbered_first_iff]

theorem numbered_year_iff {year : ℤ} :
    Numbered (.newYear (year + 1)) ↔ Numbered (.newYear year) := by
  have hnext : CivilDate.next ⟨year, 12, 31, by decide, by decide, by decide, le_refl _⟩ =
      .newYear (year + 1) := CivilDate.next_eq_newYear rfl rfl
  rw [← hnext, numbered_next_iff]
  exact (numbered_first_iff ..).trans (numbered_newYear_iff ..)

theorem numbered_newYear (year : ℤ) : Numbered (.newYear year) := by
  induction year using Int.inductionOn' (b := 1970) with
  | zero => exact ⟨0, .epoch⟩
  | succ year _ ih => exact numbered_year_iff.mpr ih
  | pred year _ ih => exact numbered_year_iff.mp (by rwa [Int.sub_add_cancel])

theorem numbered (date : CivilDate) : Numbered date :=
  (numbered_first_iff ..).mpr
    ((numbered_newYear_iff date.month_pos date.month_le).mpr (numbered_newYear date.year))

theorem dayNumber_iff {date : CivilDate} {number : ℤ} :
    DayNumber date number ↔ number = date.number := by
  refine ⟨number_of_dayNumber, fun heq => ?_⟩
  obtain ⟨found, hfound⟩ := numbered date
  rwa [heq, ← number_of_dayNumber hfound]

/-! ## Years and Sundays -/

theorem number_newYear (year : ℤ) :
    (CivilDate.newYear year).number = daysBeforeYear (year - 1) + 307 - 719469 := by
  simp only [CivilDate.number, CivilDate.newYear, CivilDate.first, marchYear, marchMonth,
    daysBeforeMonth]
  norm_num
  omega

/-- The last day of a month lies within its year of March. -/
theorem daysBeforeMonth_bounds {year : ℤ} {month : ℕ} (hpos : 1 ≤ month) (hle : month ≤ 12) :
    (if month ≤ 2 then 306 else 0) ≤ daysBeforeMonth (marchMonth month) ∧
      daysBeforeMonth (marchMonth month) + daysInMonth year month ≤
        if month ≤ 2 then 366 else 306 := by
  rw [daysInMonth]
  interval_cases month <;> simp only [marchMonth, daysBeforeMonth] <;> norm_num
  split_ifs <;> decide

/-- A day lies between two first days of a year. -/
theorem CivilDate.number_bounds (date : CivilDate) :
    (newYear date.year).number ≤ date.number ∧
      date.number < (newYear (date.year + 1)).number := by
  have hyear := daysBeforeYear_succ (date.year - 1)
  have hmonth := @daysBeforeMonth_bounds date.year _ date.month_pos date.month_le
  have hpos := date.day_pos
  have hle := date.day_le
  rw [Int.sub_add_cancel] at hyear
  rw [number_newYear, number_newYear, CivilDate.number, marchYear, Int.add_sub_cancel]
  rcases Nat.lt_or_ge 2 date.month with hlater | hearlier
  · rw [if_neg hlater.not_ge] at hmonth ⊢
    rw [if_neg hlater.not_ge] at hmonth
    rw [Int.sub_zero]
    split_ifs at hyear <;> omega
  · rw [if_pos hearlier] at hmonth ⊢
    rw [if_pos hearlier] at hmonth
    split_ifs at hyear <;> omega

theorem number_newYear_le {earlier later : ℤ} (h : earlier ≤ later) :
    (CivilDate.newYear earlier).number ≤ (CivilDate.newYear later).number := by
  rw [number_newYear, number_newYear, daysBeforeYear, daysBeforeYear]
  omega

/-! ## The order of the dates -/

/-- The first days of two months of a year lie as far apart as the months say. -/
theorem number_first_succ {year : ℤ} {month : ℕ} (hpos : 1 ≤ month) (hlt : month < 12) :
    (CivilDate.first year (month + 1) (Nat.le_add_left ..) hlt).number =
      (CivilDate.first year month hpos hlt.le).number + daysInMonth year month := by
  have hnext := number_next
    ⟨year, month, daysInMonth year month, hpos, hlt.le, daysInMonth_pos .., le_refl _⟩
  rw [CivilDate.next_eq_first rfl hlt] at hnext
  rw [hnext]
  simp only [CivilDate.number, CivilDate.first]
  omega

theorem number_first_mono {year : ℤ} {earlier later : ℕ} (hpos : 1 ≤ earlier)
    (hle : earlier ≤ later) (hlater : later ≤ 12) :
    (CivilDate.first year earlier hpos (hle.trans hlater)).number ≤
      (CivilDate.first year later (hpos.trans hle) hlater).number := by
  induction later, hle using Nat.le_induction with
  | base => exact le_refl _
  | succ later hle ih =>
      have hstep := @number_first_succ year later (hpos.trans hle) hlater
      have := ih (Nat.le_of_succ_le hlater)
      omega

theorem CivilDate.number_eq_first (date : CivilDate) :
    date.number = (first date.year date.month date.month_pos date.month_le).number +
      (date.day - 1) := by
  simp only [CivilDate.number, CivilDate.first]
  omega

/-- A later month of a year has later days. -/
theorem number_lt_of_month {date later : CivilDate} (hyear : date.year = later.year)
    (hmonth : date.month < later.month) : date.number < later.number := by
  have hlt : date.month < 12 := hmonth.trans_le later.month_le
  have hstep := @number_first_succ date.year date.month date.month_pos hlt
  have hmono := @number_first_mono date.year _ _ (Nat.le_add_left 1 date.month) hmonth
    later.month_le
  have hday := date.day_le
  have hlater := later.day_pos
  rw [date.number_eq_first, later.number_eq_first]
  simp only [← hyear]
  omega

theorem number_lt_of_year {date later : CivilDate} (hyear : date.year < later.year) :
    date.number < later.number := by
  have hbefore := date.number_bounds
  have hafter := later.number_bounds
  have := number_newYear_le (Int.add_one_le_iff.mpr hyear)
  omega

/-- Every number from that of a date on is the number of a date. -/
theorem exists_number {start : CivilDate} {number : ℤ} (h : start.number ≤ number) :
    ∃ date : CivilDate, date.number = number := by
  induction number, h using Int.leInduction with
  | base => exact ⟨start, rfl⟩
  | succ number _ ih =>
      obtain ⟨date, hdate⟩ := ih
      exact ⟨date.next, by rw [number_next, hdate]⟩

/-- The epoch was a Thursday. -/
def Sunday (date : CivilDate) : Prop := ∃ number, DayNumber date number ∧ (number + 4) % 7 = 0

structure LastSunday (date : CivilDate) : Prop where
  sunday : Sunday date
  last : daysInMonth date.year date.month < date.day + 7

theorem sunday_iff {date : CivilDate} : Sunday date ↔ (date.number + 4) % 7 = 0 := by
  constructor
  · rintro ⟨number, hnumber, hsunday⟩
    rwa [← dayNumber_iff.mp hnumber]
  · intro h
    exact ⟨date.number, dayNumber_iff.mpr rfl, h⟩

/-- Within a month the number counts the days. -/
theorem number_of_same_month {date other : CivilDate} (hyear : date.year = other.year)
    (hmonth : date.month = other.month) :
    other.number = date.number + (other.day - date.day) := by
  rw [CivilDate.number, CivilDate.number, hyear, hmonth]
  omega

/-- In a month of 31 days the last Sunday is found from its last day. -/
theorem lastSunday_iff {date last : CivilDate} (hyear : date.year = last.year)
    (hmonth : date.month = last.month) (hlong : daysInMonth date.year date.month = 31)
    (hlast : last.day = 31) :
    LastSunday date ↔ date.number = last.number - (last.number + 4) % 7 := by
  have hnumber := number_of_same_month hyear hmonth
  have hday := date.day_le
  constructor
  · rintro ⟨hsunday, hend⟩
    rw [sunday_iff] at hsunday
    omega
  · intro h
    refine ⟨sunday_iff.mpr ?_, ?_⟩ <;> omega

theorem exists_lastSunday (last : CivilDate)
    (hlong : daysInMonth last.year last.month = 31) (hlast : last.day = 31) :
    ∃ date : CivilDate, date.year = last.year ∧ date.month = last.month ∧ LastSunday date := by
  have hday : (31 - ((last.number + 4) % 7).toNat : ℕ) ≤ daysInMonth last.year last.month := by
    omega
  let date : CivilDate :=
    { last with
      day := 31 - ((last.number + 4) % 7).toNat
      day_pos := by omega
      day_le := hday }
  refine ⟨date, rfl, rfl, (@lastSunday_iff date last rfl rfl hlong hlast).mpr ?_⟩
  have hnumber := @number_of_same_month date last rfl rfl
  have hdate : date.day = 31 - ((last.number + 4) % 7).toNat := rfl
  omega

end Calendar

end Fermentationsschrank

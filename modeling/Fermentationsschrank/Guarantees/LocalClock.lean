import Fermentationsschrank.Time.LocalTime

/-!
# The local clock

Daylight saving of the European Union runs from the last Sunday of March to the last
Sunday of October, each at one o'clock UTC.  The conversion keeps this for every instant
whose calendar fields the C library knows, and whose years fit into an `int`.
-/

namespace Fermentationsschrank

open Calendar

/-! ## Days -/

theorem int_of_range {value : ℤ} (hlow : -2 ^ 31 ≤ value) (hhigh : value < 2 ^ 31) :
    int value = some value := if_pos ⟨hlow, hhigh⟩

/-- Division that rounds towards zero finds the era all the same. -/
theorem era_eq (adjustedYear : ℤ) :
    (if 0 ≤ adjustedYear then adjustedYear else adjustedYear - 399).tdiv 400 =
      adjustedYear / 400 := by
  split
  · rename_i hpos
    exact Int.tdiv_eq_ediv_of_nonneg hpos
  · rename_i hneg
    rw [← Int.neg_neg (adjustedYear - 399), Int.neg_tdiv, Int.tdiv_eq_ediv_of_nonneg (by omega)]
    omega

theorem daysFromCivil_eq_number (date : CivilDate)
    (hlow : -2 ^ 31 + 399 ≤ marchYear date.year date.month) (hhigh : date.year < 2 ^ 31) :
    daysFromCivil date.year date.month date.day = some date.number := by
  have hday := date.day_pos
  have hadjusted : int (marchYear date.year date.month) = some (marchYear date.year date.month) :=
    int_of_range (by omega) (by rw [marchYear]; split_ifs <;> omega)
  have hmonth : (if 2 < date.month then date.month - 3 else date.month + 9) =
      marchMonth date.month := by
    rw [marchMonth]
    split_ifs <;> omega
  rw [daysFromCivil, ← marchYear, hadjusted, Option.bind_eq_bind, Option.bind_some, hmonth,
    CivilDate.number]
  generalize marchYear date.year date.month = year at *
  have hshifted : (if 0 ≤ year then some year else int (year - 399)) =
      some (if 0 ≤ year then year else year - 399) := by
    split
    · rfl
    · exact int_of_range (by omega) (by omega)
  simp only [hshifted, Option.bind_some, era_eq]
  rw [daysBeforeYear, daysBeforeMonth]
  refine congrArg some ?_
  omega

/-! ## Summer time -/

/-- One o'clock UTC on the last Sunday of a month. -/
def Transition (year : ℤ) (month : ℕ) (instant : ℤ) : Prop :=
  ∃ date number, date.year = year ∧ date.month = month ∧ LastSunday date ∧
    DayNumber date number ∧ instant = number * 86400 + 3600

/-- The European Union is on summer time from the transition in March, inclusive, to the
one in October, exclusive. -/
def SummerTime (utc : ℤ) : Prop :=
  ∃ year start stop, Transition year 3 start ∧ Transition year 10 stop ∧ start ≤ utc ∧ utc < stop

/-- The last day of March, and of October. -/
def lastOfMarch (year : ℤ) : CivilDate where
  year
  month := 3
  day := 31
  day_le := Nat.le_refl _

def lastOfOctober (year : ℤ) : CivilDate where
  year
  month := 10
  day := 31
  day_le := Nat.le_refl _

/-- The transition in the month that ends with a day. -/
def transitionBefore (last : CivilDate) : ℤ :=
  (last.number - (last.number + 4) % 7) * 86400 + 3600

theorem transition_iff {last : CivilDate} (hlong : daysInMonth last.year last.month = 31)
    (hlast : last.day = 31) {instant : ℤ} :
    Transition last.year last.month instant ↔ instant = transitionBefore last := by
  rw [transitionBefore]
  constructor
  · rintro ⟨date, number, hyear, hmonth, hsunday, hnumber, rfl⟩
    rw [lastSunday_iff hyear hmonth (by rwa [hyear, hmonth]) hlast] at hsunday
    rw [dayNumber_iff.mp hnumber, hsunday]
  · rintro rfl
    obtain ⟨date, hyear, hmonth, hsunday⟩ := exists_lastSunday last hlong hlast
    have hnumber := (lastSunday_iff hyear hmonth (by rwa [hyear, hmonth]) hlast).mp hsunday
    exact ⟨date, date.number, hyear, hmonth, hsunday, dayNumber_iff.mpr rfl, by rw [hnumber]⟩

theorem transition_march {year instant : ℤ} :
    Transition year 3 instant ↔ instant = transitionBefore (lastOfMarch year) :=
  @transition_iff (lastOfMarch year) rfl rfl instant

theorem transition_october {year instant : ℤ} :
    Transition year 10 instant ↔ instant = transitionBefore (lastOfOctober year) :=
  @transition_iff (lastOfOctober year) rfl rfl instant

/-- The two transitions lie within their year, and in this order. -/
theorem transitions_ordered (year : ℤ) :
    (CivilDate.newYear year).number * 86400 < transitionBefore (lastOfMarch year) ∧
      transitionBefore (lastOfMarch year) < transitionBefore (lastOfOctober year) ∧
      transitionBefore (lastOfOctober year) < (CivilDate.newYear (year + 1)).number * 86400 := by
  have hyear := daysBeforeYear_succ (year - 1)
  rw [Int.sub_add_cancel] at hyear
  have hmarch : (lastOfMarch year).number = daysBeforeYear year + 31 - 719469 := by
    simp [CivilDate.number, lastOfMarch, marchYear, marchMonth, daysBeforeMonth]
  have hoctober : (lastOfOctober year).number = daysBeforeYear year + 245 - 719469 := by
    simp [CivilDate.number, lastOfOctober, marchYear, marchMonth, daysBeforeMonth]
    omega
  rw [transitionBefore, transitionBefore, number_newYear, number_newYear, hmarch, hoctober,
    Int.add_sub_cancel]
  split_ifs at hyear <;> omega

/-- An instant of a year, its end included, is compared with the transitions of that year. -/
theorem summerTime_iff {year utc : ℤ} (hlow : (CivilDate.newYear year).number * 86400 ≤ utc)
    (hhigh : utc ≤ (CivilDate.newYear (year + 1)).number * 86400) :
    SummerTime utc ↔
      transitionBefore (lastOfMarch year) ≤ utc ∧ utc < transitionBefore (lastOfOctober year) := by
  constructor
  · rintro ⟨found, start, stop, hstart, hstop, hfrom, huntil⟩
    rw [transition_march] at hstart
    rw [transition_october] at hstop
    obtain ⟨hbegins, _, hends⟩ := transitions_ordered found
    suffices found = year by
      subst this
      exact ⟨hstart ▸ hfrom, hstop ▸ huntil⟩
    rcases lt_trichotomy found year with hlt | heq | hgt
    · have := number_newYear_le (Int.add_one_le_iff.mpr hlt)
      omega
    · exact heq
    · have := number_newYear_le (Int.add_one_le_iff.mpr hgt)
      omega
  · rintro ⟨hfrom, huntil⟩
    exact ⟨year, _, _, transition_march.mpr rfl, transition_october.mpr rfl, hfrom, huntil⟩

/-! ## Calendar fields -/

/-- A date and a time of day denote an instant. -/
def Denotes (date : CivilDate) (hour minute second instant : ℤ) : Prop :=
  0 ≤ hour ∧ hour < 24 ∧ 0 ≤ minute ∧ minute < 60 ∧ 0 ≤ second ∧ second < 60 ∧
    ∃ number, DayNumber date number ∧
      instant = number * 86400 + hour * 3600 + minute * 60 + second

/-- What `gmtime_r` promises of the fields it returns. -/
structure CalendarLibrary.Correct (library : CalendarLibrary) : Prop where
  year_low {seconds : ℤ} {fields : Tm} (h : library.gmtime_r seconds = some fields) :
    -2 ^ 31 ≤ fields.tm_year
  denotes {seconds : ℤ} {fields : Tm} (h : library.gmtime_r seconds = some fields) :
    ∃ date : CivilDate, date.year = fields.tm_year + 1900 ∧ date.month = fields.tm_mon + 1 ∧
      date.day = fields.tm_mday ∧
      Denotes date fields.tm_hour fields.tm_min fields.tm_sec seconds

/-- The calendar fields of a local time denote an instant of the local clock. -/
def LocalTime.Reads (time : LocalTime) (clock : ℤ) : Prop :=
  ∃ date : CivilDate, date.year = time.year ∧ date.month = time.month ∧ date.day = time.day ∧
    Denotes date time.hour time.minute time.second clock

/-- The offset that is in force at an instant. -/
inductive OffsetAt (rule : TimeZoneRule) (utc : ℤ) : ℤ → Prop
  | standard (hwinter : ¬SummerTime utc) : OffsetAt rule utc rule.standardOffsetMinutes
  | saving (hsummer : SummerTime utc) : OffsetAt rule utc (rule.standardOffsetMinutes + 60)

theorem Denotes.year_bounds {date : CivilDate} {hour minute second instant : ℤ}
    (h : Denotes date hour minute second instant) :
    (CivilDate.newYear date.year).number * 86400 ≤ instant ∧
      instant < (CivilDate.newYear (date.year + 1)).number * 86400 := by
  obtain ⟨_, _, _, _, _, _, number, hnumber, rfl⟩ := h
  rw [dayNumber_iff.mp hnumber]
  have hbounds := date.number_bounds
  omega

theorem LocalTime.Reads.unique {time : LocalTime} {clock other : ℤ} (h : time.Reads clock)
    (hother : time.Reads other) : clock = other := by
  obtain ⟨date, hyear, hmonth, hday, _, _, _, _, _, _, number, hnumber, rfl⟩ := h
  obtain ⟨date', hyear', hmonth', hday', _, _, _, _, _, _, number', hnumber', rfl⟩ := hother
  have hdate : date = date' := CivilDate.ext (hyear.trans hyear'.symm)
    (hmonth.trans hmonth'.symm) (hday.trans hday'.symm)
  rw [hdate, dayNumber_iff] at hnumber
  rw [dayNumber_iff] at hnumber'
  rw [hnumber, hnumber']

theorem CalendarLibrary.gmtime_of_breakDown {library : CalendarLibrary} {seconds : ℤ}
    {fields : Tm} (h : library.breakDown seconds = some fields) :
    library.gmtime_r seconds = some fields := by
  simp only [breakDown] at h
  split_ifs at h with heq
  rwa [not_not.mp heq] at h

theorem toUInt8_of_range {value : ℤ} (hlow : 0 ≤ value) (hhigh : value < 256) :
    (toUInt8 value : ℤ) = value := by
  rw [toUInt8, Int.toNat_of_nonneg (by omega)]
  omega

/-! ## Conversion -/

section Conversion

variable {library : CalendarLibrary} {rule : TimeZoneRule} {utc : ℤ} {fields localFields : Tm}

theorem number_nonneg {date : CivilDate} (h : 1970 ≤ date.year) : 0 ≤ date.number :=
  (number_newYear_le h).trans date.number_bounds.1

theorem lastSundayTransitionUtc_eq {last : CivilDate} (hday : last.day = 31)
    (hlow : 1970 ≤ last.year) (hhigh : last.year < 2 ^ 31) :
    lastSundayTransitionUtc last.year last.month = some (transitionBefore last) := by
  have hdays := daysFromCivil_eq_number last
    (by rw [marchYear]; split_ifs <;> omega) hhigh
  have hnumber := number_nonneg hlow
  rw [hday] at hdays
  rw [lastSundayTransitionUtc, hdays, transitionBefore, Option.bind_eq_bind, Option.bind_some,
    Int.tmod_eq_emod_of_nonneg (by omega)]
  rfl

/-- The instant of a date that the library reports lies after the epoch only in years from
1970 on. -/
theorem year_of_nonneg {date : CivilDate} {hour minute second : ℤ}
    (h : Denotes date hour minute second utc) (hutc : 0 ≤ utc) : 1970 ≤ date.year := by
  have hbounds := h.year_bounds
  by_contra hearlier
  have hyears := number_newYear_le (Int.add_one_le_iff.mpr (not_le.mp hearlier))
  rw [number_newYear 1970] at hyears
  norm_num [daysBeforeYear] at hyears
  omega

/-- The conversion of an instant whose calendar fields are known. -/
theorem toLocalTime_eq (hlibrary : library.Correct) (hrule : rule.dst = .europeanUnion)
    (hlow : -1440 ≤ rule.standardOffsetMinutes) (hhigh : rule.standardOffsetMinutes ≤ 1440)
    (hutc : 0 ≤ utc) (hfields : library.breakDown utc = some fields)
    (hyear : fields.tm_year + 1900 < 2 ^ 31) :
    ∃ offset daylightSaving, OffsetAt rule utc offset ∧
      (daylightSaving = true ↔ SummerTime utc) ∧
      toLocalTime library (some utc) rule =
        match library.breakDown (utc + offset * 60) with
        | none => some none
        | some localFields => (int (localFields.tm_year + 1900)).map fun year => some {
            year
            month := toUInt8 (localFields.tm_mon + 1)
            day := toUInt8 localFields.tm_mday
            hour := toUInt8 localFields.tm_hour
            minute := toUInt8 localFields.tm_min
            second := toUInt8 localFields.tm_sec
            utcOffsetMinutes := offset
            daylightSaving } := by
  have hgmtime := library.gmtime_of_breakDown hfields
  obtain ⟨date, hdate, _, _, hdenotes⟩ := hlibrary.denotes hgmtime
  have hrecent := year_of_nonneg hdenotes hutc
  obtain ⟨hfrom, huntil⟩ := hdenotes.year_bounds
  have hsummer := summerTime_iff hfrom huntil.le
  have hfits : date.year < 2 ^ 31 := hdate ▸ hyear
  have hint : int (fields.tm_year + 1900) = some date.year :=
    hdate ▸ int_of_range (by omega) hfits
  have hmarch : lastSundayTransitionUtc date.year 3 =
      some (transitionBefore (lastOfMarch date.year)) :=
    @lastSundayTransitionUtc_eq (lastOfMarch date.year) rfl hrecent hfits
  have hoctober : lastSundayTransitionUtc date.year 10 =
      some (transitionBefore (lastOfOctober date.year)) :=
    @lastSundayTransitionUtc_eq (lastOfOctober date.year) rfl hrecent hfits
  have hcomputed : (bif decide (transitionBefore (lastOfMarch date.year) ≤ utc) then
      some (decide (utc < transitionBefore (lastOfOctober date.year))) else some false) =
      some (decide (transitionBefore (lastOfMarch date.year) ≤ utc ∧
        utc < transitionBefore (lastOfOctober date.year))) := by
    rw [Bool.decide_and]
    cases decide (transitionBefore (lastOfMarch date.year) ≤ utc) <;> rfl
  have hword {offset : ℤ} (hsmall : -1440 ≤ offset) (hlarge : offset ≤ 1500) :
      toInt16 offset = offset := by
    rw [toInt16, Int.bmod_eq_of_le (by omega) (by omega)]
  simp only [toLocalTime, hutc.not_gt, if_false, hrule, ne_eq, not_true_eq_false, hfields, hint,
    hmarch, hoctober, Option.bind_eq_bind, Option.bind_some, Option.map_some, hcomputed]
  by_cases hcase : SummerTime utc
  · refine ⟨_, true, .saving hcase, by simp [hcase], ?_⟩
    simp only [decide_eq_true (hsummer.mp hcase), if_true, kDaylightSavingMinutes,
      hword (by omega : -1440 ≤ rule.standardOffsetMinutes + 60) (by omega)]
    cases library.breakDown (utc + (rule.standardOffsetMinutes + 60) * 60) with
    | none => rfl
    | some localFields => exact Option.map_eq_bind.symm
  · refine ⟨_, false, .standard hcase, by simp [hcase], ?_⟩
    simp only [decide_eq_false (fun h => hcase (hsummer.mpr h)), Bool.false_eq_true, if_false,
      Int.add_zero, hword hlow (by omega)]
    cases library.breakDown (utc + rule.standardOffsetMinutes * 60) with
    | none => rfl
    | some localFields => exact Option.map_eq_bind.symm

theorem OffsetAt.unique {offset other : ℤ} (h : OffsetAt rule utc offset)
    (hother : OffsetAt rule utc other) : offset = other := by
  cases h with
  | standard hwinter =>
      cases hother with
      | standard _ => rfl
      | saving hsummer => exact absurd hsummer hwinter
  | saving hsummer =>
      cases hother with
      | standard hwinter => exact absurd hsummer hwinter
      | saving _ => rfl

theorem OffsetAt.lasts {offset later : ℤ} (h : OffsetAt rule utc offset)
    (hsame : SummerTime utc ↔ SummerTime later) : OffsetAt rule later offset := by
  cases h with
  | standard hwinter => exact .standard (mt hsame.mpr hwinter)
  | saving hsummer => exact .saving (hsame.mp hsummer)

/-- The fields that the library reports are those of the local time. -/
theorem reads_of_fields (hlibrary : library.Correct) {clock : ℤ} {offset : ℤ}
    {daylightSaving : Bool} (hlocal : library.breakDown clock = some localFields) :
    LocalTime.Reads {
      year := localFields.tm_year + 1900
      month := toUInt8 (localFields.tm_mon + 1)
      day := toUInt8 localFields.tm_mday
      hour := toUInt8 localFields.tm_hour
      minute := toUInt8 localFields.tm_min
      second := toUInt8 localFields.tm_sec
      utcOffsetMinutes := offset
      daylightSaving } clock := by
  obtain ⟨date, hyear, hmonth, hday, hdenotes⟩ :=
    hlibrary.denotes (library.gmtime_of_breakDown hlocal)
  have hmonths := date.month_le
  have hdays : date.day ≤ 31 := by
    have hle := date.day_le
    rw [daysInMonth] at hle
    split_ifs at hle <;> omega
  have hsame := hdenotes
  obtain ⟨_, _, _, _, _, _, _⟩ := hdenotes
  refine ⟨date, hyear, ?_, ?_, ?_⟩
  · rw [← Nat.cast_inj (R := ℤ), toUInt8_of_range (by omega) (by omega), hmonth]
  · rw [← Nat.cast_inj (R := ℤ), toUInt8_of_range (by omega) (by omega), hday]
  · rwa [toUInt8_of_range (by omega) (by omega), toUInt8_of_range (by omega) (by omega),
      toUInt8_of_range (by omega) (by omega)]

/-- A local time is reported only where the calendar fields are known and their years fit. -/
theorem fields_of_reported (hrule : rule.dst = .europeanUnion) {time : LocalTime}
    (h : toLocalTime library (some utc) rule = some (some time)) :
    0 ≤ utc ∧ ∃ fields, library.breakDown utc = some fields ∧ fields.tm_year + 1900 < 2 ^ 31 := by
  rw [toLocalTime] at h
  split at h
  · cases h
  rename_i hutc
  refine ⟨not_lt.mp hutc, ?_⟩
  rw [if_neg (not_not.mpr hrule)] at h
  split at h
  · cases h
  rename_i fields hfields
  refine ⟨fields, hfields, ?_⟩
  rw [Option.bind_eq_bind, Option.bind_eq_some_iff] at h
  obtain ⟨year, hint, _⟩ := h
  rw [int] at hint
  split_ifs at hint with hrange
  exact hrange.2

/-- A local time that is reported reads the instant, moved by the offset in force. -/
theorem reported (hlibrary : library.Correct) (hrule : rule.dst = .europeanUnion)
    (hlow : -1440 ≤ rule.standardOffsetMinutes) (hhigh : rule.standardOffsetMinutes ≤ 1440)
    {time : LocalTime} (h : toLocalTime library (some utc) rule = some (some time)) :
    OffsetAt rule utc time.utcOffsetMinutes ∧ (time.daylightSaving = true ↔ SummerTime utc) ∧
      time.Reads (utc + time.utcOffsetMinutes * 60) := by
  obtain ⟨hutc, fields, hfields, hyear⟩ := fields_of_reported hrule h
  obtain ⟨offset, daylightSaving, hoffset, hsaving, heq⟩ :=
    toLocalTime_eq hlibrary hrule hlow hhigh hutc hfields hyear
  rw [heq] at h
  split at h
  · cases h
  · rename_i localFields hlocal
    rw [Option.map_eq_some_iff] at h
    obtain ⟨year, hint, htime⟩ := h
    rw [int] at hint
    split_ifs at hint
    cases hint
    cases htime
    exact ⟨hoffset, hsaving, reads_of_fields hlibrary hlocal⟩

/-- Summer time changes only at a transition. -/
theorem summerTime_succ {date : CivilDate} {hour minute second : ℤ}
    (h : Denotes date hour minute second utc) :
    ((∃ year, Transition year 3 (utc + 1)) → ¬SummerTime utc ∧ SummerTime (utc + 1)) ∧
      ((∃ year, Transition year 10 (utc + 1)) → SummerTime utc ∧ ¬SummerTime (utc + 1)) ∧
      ((∀ year, ¬Transition year 3 (utc + 1) ∧ ¬Transition year 10 (utc + 1)) →
        (SummerTime utc ↔ SummerTime (utc + 1))) := by
  obtain ⟨hfrom, huntil⟩ := h.year_bounds
  have hnow := summerTime_iff hfrom huntil.le
  have hnext := @summerTime_iff date.year (utc + 1) (by omega) (by omega)
  have hordered := transitions_ordered date.year
  have hyear {year : ℤ} (hlow : (CivilDate.newYear year).number * 86400 < utc + 1)
      (hhigh : utc + 1 < (CivilDate.newYear (year + 1)).number * 86400) : year = date.year := by
    rcases lt_trichotomy year date.year with hlt | heq | hgt
    · have := number_newYear_le (Int.add_one_le_iff.mpr hlt)
      omega
    · exact heq
    · have := number_newYear_le (Int.add_one_le_iff.mpr hgt)
      omega
  rw [hnow, hnext]
  refine ⟨fun ⟨year, hmarch⟩ => ?_, fun ⟨year, hoctober⟩ => ?_, fun hnone => ?_⟩
  · have hbetween := transitions_ordered year
    rw [transition_march] at hmarch
    obtain rfl := @hyear year (by omega) (by omega)
    omega
  · have hbetween := transitions_ordered year
    rw [transition_october] at hoctober
    obtain rfl := @hyear year (by omega) (by omega)
    omega
  · have hmarch := mt transition_march.mpr (hnone date.year).1
    have hoctober := mt transition_october.mpr (hnone date.year).2
    omega

end Conversion

/-- Days are numbered as the calendar demands, daylight saving is reported exactly from the
last Sunday of March to the last Sunday of October, the reported fields and offset denote
the instant, and the local clock jumps by an hour at these two instants and never else. -/
theorem local_time_right :
    (∀ date : CivilDate, -2 ^ 31 + 399 ≤ marchYear date.year date.month →
      date.year < 2 ^ 31 → ∀ number,
        daysFromCivil date.year date.month date.day = some number ↔ DayNumber date number) ∧
    ∀ (library : CalendarLibrary) (rule : TimeZoneRule), library.Correct →
      rule.dst = .europeanUnion → -1440 ≤ rule.standardOffsetMinutes →
      rule.standardOffsetMinutes ≤ 1440 →
      (∀ utc fields offset localFields, 0 ≤ utc → library.breakDown utc = some fields →
        fields.tm_year + 1900 < 2 ^ 31 → OffsetAt rule utc offset →
        library.breakDown (utc + offset * 60) = some localFields →
        localFields.tm_year + 1900 < 2 ^ 31 →
        ∃ time, toLocalTime library (some utc) rule = some (some time) ∧
          (time.daylightSaving = true ↔ SummerTime utc) ∧ time.utcOffsetMinutes = offset ∧
          time.Reads (utc + offset * 60)) ∧
      ∀ utc time later clock laterClock,
        toLocalTime library (some utc) rule = some (some time) →
        toLocalTime library (some (utc + 1)) rule = some (some later) →
        time.Reads clock → later.Reads laterClock →
        ((∃ year, Transition year 3 (utc + 1)) → laterClock = clock + 1 + 3600) ∧
        ((∃ year, Transition year 10 (utc + 1)) → laterClock = clock + 1 - 3600) ∧
        ((∀ year, ¬Transition year 3 (utc + 1) ∧ ¬Transition year 10 (utc + 1)) →
          laterClock = clock + 1) := by
  refine ⟨fun date hlow hhigh number => ?_, fun library rule hlibrary hrule hlow hhigh =>
    ⟨fun utc fields offset localFields hutc hfields hyear hoffset hlocal hlocalYear => ?_,
      fun utc time later clock laterClock hnow hnext hclock hlater => ?_⟩⟩
  · rw [daysFromCivil_eq_number date hlow hhigh, dayNumber_iff, Option.some.injEq, eq_comm]
  · obtain ⟨found, daylightSaving, hfound, hsaving, heq⟩ :=
      toLocalTime_eq hlibrary hrule hlow hhigh hutc hfields hyear
    cases hoffset.unique hfound
    have hyearLow := hlibrary.year_low (library.gmtime_of_breakDown hlocal)
    rw [heq, hlocal]
    refine ⟨_, congrArg (Option.map _) (int_of_range (by omega) hlocalYear), hsaving, rfl,
      reads_of_fields hlibrary hlocal⟩
  · obtain ⟨hoffset, _, hreads⟩ := reported hlibrary hrule hlow hhigh hnow
    obtain ⟨hlaterOffset, _, hlaterReads⟩ := reported hlibrary hrule hlow hhigh hnext
    obtain ⟨_, fields, hfields, _⟩ := fields_of_reported hrule hnow
    obtain ⟨_, _, _, _, hdenotes⟩ := hlibrary.denotes (library.gmtime_of_breakDown hfields)
    obtain ⟨hmarch, hoctober, helse⟩ := summerTime_succ hdenotes
    rw [hclock.unique hreads, hlater.unique hlaterReads]
    refine ⟨fun htransition => ?_, fun htransition => ?_, fun hnone => ?_⟩
    · obtain ⟨hwinter, hsummer⟩ := hmarch htransition
      rw [hoffset.unique (.standard hwinter), hlaterOffset.unique (.saving hsummer)]
      omega
    · obtain ⟨hsummer, hwinter⟩ := hoctober htransition
      rw [hoffset.unique (.saving hsummer), hlaterOffset.unique (.standard hwinter)]
      omega
    · have hsame := helse hnone
      rw [hlaterOffset.unique (hoffset.lasts hsame)]
      omega

/-! ## Two days -/

/-- A library that knows the calendar fields of one day. -/
def CalendarLibrary.knowing (date : CivilDate) : CalendarLibrary where
  toTimeT seconds := seconds
  gmtime_r seconds :=
    let secondOfDay := seconds - date.number * 86400
    if 0 ≤ secondOfDay ∧ secondOfDay < 86400 then
      some {
        tm_year := date.year - 1900
        tm_mon := date.month - 1
        tm_mday := date.day
        tm_hour := secondOfDay / 3600
        tm_min := secondOfDay / 60 % 60
        tm_sec := secondOfDay % 60 }
    else none

theorem CalendarLibrary.correct_knowing {date : CivilDate} (hlow : -2 ^ 31 + 1900 ≤ date.year) :
    (knowing date).Correct := by
  constructor
  · intro seconds fields h
    simp only [knowing] at h
    split_ifs at h
    cases h
    exact Int.le_sub_right_of_add_le hlow
  · intro seconds fields h
    simp only [knowing] at h
    split_ifs at h
    cases h
    refine ⟨date, ?_, ?_, rfl, ?_, ?_, ?_, ?_, ?_, ?_, date.number, dayNumber_iff.mpr rfl, ?_⟩ <;>
      simp only <;> omega

/-- The last Sunday of March 2026. -/
def transitionDay : CivilDate where
  year := 2026
  month := 3
  day := 29
  day_le := by decide

def zurich : TimeZoneRule := ⟨.europeanUnion, 60⟩

theorem summerTime_begins : SummerTime 1774746000 :=
  ⟨2026, _, _, transition_march.mpr rfl, transition_october.mpr rfl, by decide, by decide⟩

theorem local_time_at_transition :
    ∃ time, toLocalTime (.knowing transitionDay) (some 1774746000) zurich = some (some time) ∧
      (time.daylightSaving = true ↔ SummerTime 1774746000) ∧ time.utcOffsetMinutes = 120 ∧
      time.Reads (1774746000 + 120 * 60) :=
  (local_time_right.2 (.knowing transitionDay) zurich
    (CalendarLibrary.correct_knowing (by decide)) rfl (by decide) (by decide)).1
    1774746000 ⟨126, 2, 29, 1, 0, 0⟩ 120 ⟨126, 2, 29, 3, 0, 0⟩ (by decide) (by decide +kernel)
    (by decide) (.saving summerTime_begins) (by decide +kernel) (by decide)

/-- A day whose year is one too many for an `int`. -/
def lateDay : CivilDate where
  year := 2147483648
  month := 6
  day := 1
  day_pos := Nat.one_pos
  day_le := by decide

/-- The fields of an instant on that day are known, but not its local time; and the first
years of an `int` have no day numbers. -/
theorem late_year_overflows :
    (CalendarLibrary.knowing lateDay).Correct ∧
    (∃ utc fields, 0 ≤ utc ∧ (CalendarLibrary.knowing lateDay).breakDown utc = some fields ∧
      fields.tm_year < 2 ^ 31 ∧
      (∃ localFields, (CalendarLibrary.knowing lateDay).breakDown (utc + 7200) = some localFields) ∧
      ¬∃ time, toLocalTime (.knowing lateDay) (some utc) zurich = some (some time)) ∧
    daysFromCivil (-2147483648) 1 1 = none := by
  refine ⟨CalendarLibrary.correct_knowing (by decide), ?_, by decide⟩
  refine ⟨lateDay.number * 86400, ⟨2147481748, 5, 1, 0, 0, 0⟩, by decide, by decide +kernel,
    by decide, ⟨⟨2147481748, 5, 1, 2, 0, 0⟩, by decide +kernel⟩, ?_⟩
  have hundefined : toLocalTime (.knowing lateDay) (some (lateDay.number * 86400)) zurich = none := by
    decide +kernel
  rintro ⟨time, htime⟩
  cases hundefined.symm.trans htime

end Fermentationsschrank

import Fermentationsschrank.Sensors.SensorPipelineRuns

/-!
# What the filters hold

The median filter holds the last contributing values.  The low pass holds the smoothed
medians, moved by the offset that the last contribution met: an offset is only ever added to
the whole state.
-/

namespace Fermentationsschrank.DevicePlatform

variable {Value : Type} [Field Value] [LinearOrder Value]

/-! ## Smoothed medians -/

/-- One more median without any offset, with the time of its sample. -/
def smoothStep (decay : Decay Value) (tauSeconds : Value) (state : Option (Value × ℕ))
    (contribution : Contribution Value) : Option (Value × ℕ) :=
  match state with
  | none => some (contribution.median, contribution.sample.monotonicTimestampMs)
  | some (filtered, last) =>
    some (filtered + (contribution.median - filtered) *
        LowPassFilter.alpha decay tauSeconds (contribution.sample.monotonicTimestampMs - last),
      contribution.sample.monotonicTimestampMs)

def smoothed (decay : Decay Value) (tauSeconds : Value)
    (contributing : List (Contribution Value)) : Option (Value × ℕ) :=
  contributing.foldl (smoothStep decay tauSeconds) none

theorem smoothed_concat {decay : Decay Value} {tauSeconds : Value}
    {contributing : List (Contribution Value)} {contribution : Contribution Value} :
    smoothed decay tauSeconds (contributing ++ [contribution]) =
      smoothStep decay tauSeconds (smoothed decay tauSeconds contributing) contribution :=
  List.foldl_concat ..

omit [Field Value] in
theorem MedianFilter.median_of_holds {filter : MedianFilter Value} {values : List Value}
    (h : filter.Holds values) : median filter = windowMedian filter.capacity values := by
  have hperm : filter.contents.Perm (values.rtake filter.capacity) :=
    (RingBuffer.perm_inOrder.symm.trans (List.Perm.of_eq h))
  have hsorted : filter.contents.insertionSort (· ≤ ·) =
      (values.rtake filter.capacity).insertionSort (· ≤ ·) := by
    apply List.Perm.eq_of_sortedLE (List.sortedLE_insertionSort ..)
      (List.sortedLE_insertionSort ..)
    exact (List.perm_insertionSort _ _).trans (hperm.trans (List.perm_insertionSort _ _).symm)
  rw [median, windowMedian, hsorted, ← hperm.length_eq, RingBuffer.length_contents]

/-! ## One step of the filters -/

namespace LowPassFilter

variable {decay : Decay Value} {filter : LowPassFilter Value} {input filtered : Value}
variable {timestampMs last : ℕ}

theorem update_of_empty (htau : 0 < filter.tauSeconds) (hempty : filter.filteredValue = none) :
    filter.update decay input timestampMs =
      { filter with filteredValue := some input, lastTimestampMs := some timestampMs } := by
  rw [update, if_neg htau.not_ge, hempty]

theorem tauSeconds_update :
    (filter.update decay input timestampMs).tauSeconds = filter.tauSeconds := by
  rw [update]
  repeat' split
  all_goals rfl

theorem update_of_filled (htau : 0 < filter.tauSeconds)
    (hfilled : filter.filteredValue = some filtered) (hlast : filter.lastTimestampMs = some last)
    (hle : last ≤ timestampMs) :
    filter.update decay input timestampMs =
      { filter with
        filteredValue := some (filtered +
          (input - filtered) * alpha decay filter.tauSeconds (timestampMs - last))
        lastTimestampMs := some timestampMs } := by
  rw [update, if_neg htau.not_ge, hfilled]
  simp only [hlast, if_neg hle.not_gt]

end LowPassFilter

namespace TrackedPipeline

variable {decay : Decay Value} {tracked : TrackedPipeline Value}
variable {sample : TemperatureReading Value} {nowMonotonicMs : ℕ} {celsius : Value}
variable {reason : SensorFaultReason}

/-- The low pass after its last contribution. -/
structure Smooths (decay : Decay Value) (pipeline : SensorQualityPipeline Value)
    (contributing : List (Contribution Value)) (last : Contribution Value)
    (filtered : Value) : Prop where
  smoothed : smoothed decay pipeline.config.lowPassTauSeconds contributing =
    some (filtered, last.sample.monotonicTimestampMs)
  filteredValue : pipeline.lowPassFilter.filteredValue = some (filtered + last.offset)
  lastTimestampMs : pipeline.lowPassFilter.lastTimestampMs =
    some last.sample.monotonicTimestampMs
  lastOffset : pipeline.lastFilterEffectiveOffsetCelsius = some last.offset
  correctedCelsius : pipeline.correctedCelsius = some (last.median + last.offset)

structure FiltersKnown (decay : Decay Value) (tracked : TrackedPipeline Value) : Prop where
  window : tracked.pipeline.medianFilter.capacity = tracked.pipeline.config.medianWindowSize
  tau : tracked.pipeline.lowPassFilter.tauSeconds = tracked.pipeline.config.lowPassTauSeconds
  holds : tracked.pipeline.medianFilter.Holds (tracked.contributing.map (·.celsius))
  earlier : ∀ contribution ∈ tracked.contributing, ∃ last,
    tracked.pipeline.lastAccepted = some last ∧
      contribution.sample.monotonicTimestampMs ≤ last.monotonicTimestampMs
  empty : tracked.contributing = [] →
    tracked.pipeline.lowPassFilter.filteredValue = none ∧
      tracked.pipeline.lastFilterEffectiveOffsetCelsius = none ∧
      tracked.pipeline.correctedCelsius = none
  filled : ∀ before last, tracked.contributing = before ++ [last] →
    ∃ filtered, Smooths decay tracked.pipeline tracked.contributing last filtered

theorem filtersKnown_create (config : SensorQualityConfig Value) :
    FiltersKnown decay (create config) where
  window := MedianFilter.capacity_create config.window_odd config.window_le
  tau := rfl
  holds := MedianFilter.holds_create
  earlier := nofun
  empty _ := ⟨rfl, rfl, rfl⟩
  filled _ _ h := absurd h.symm (List.append_ne_nil_of_right_ne_nil _ (List.cons_ne_nil _ _))

theorem pipeline_expire :
    (tracked.expire nowMonotonicMs).pipeline = tracked.pipeline.expire nowMonotonicMs := by
  rw [expire]
  split
  · rfl
  · next h => rw [SensorQualityPipeline.expire, if_neg h]

theorem FiltersKnown.expire (h : FiltersKnown decay tracked) :
    FiltersKnown decay (tracked.expire nowMonotonicMs) := by
  by_cases hfailure : tracked.pipeline.rawFailure nowMonotonicMs = true
  · obtain ⟨hmedian, hlowPass, hoffset, -⟩ :=
      SensorQualityPipeline.expire_of_failure hfailure
    rw [TrackedPipeline.expire, if_pos hfailure]
    refine
      { window := ?_
        tau := ?_
        holds := ?_
        earlier := nofun
        empty := fun _ => ⟨?_, hoffset, ?_⟩
        filled := fun _ _ h =>
          absurd h.symm (List.append_ne_nil_of_right_ne_nil _ (List.cons_ne_nil _ _)) }
    · rw [hmedian, SensorQualityPipeline.config_expire]
      exact h.window
    · rw [hlowPass, SensorQualityPipeline.config_expire]
      exact h.tau
    · rw [hmedian]
      exact RingBuffer.holds_reset
    · rw [hlowPass]
      rfl
    · rw [SensorQualityPipeline.expire, if_pos hfailure]
      rfl
  · rw [TrackedPipeline.expire, if_neg hfailure]
    exact h

theorem FiltersKnown.window_noted (h : FiltersKnown decay tracked) :
    (tracked.pipeline.noted sample nowMonotonicMs).medianFilter.capacity =
      (tracked.pipeline.noted sample nowMonotonicMs).config.medianWindowSize := by
  have hexpired := (@h.expire _ _ _ _ _ nowMonotonicMs).window
  rwa [pipeline_expire] at hexpired

theorem FiltersKnown.tau_noted (h : FiltersKnown decay tracked) :
    (tracked.pipeline.noted sample nowMonotonicMs).lowPassFilter.tauSeconds =
      (tracked.pipeline.noted sample nowMonotonicMs).config.lowPassTauSeconds := by
  have hexpired := (@h.expire _ _ _ _ _ nowMonotonicMs).tau
  rwa [pipeline_expire] at hexpired

/-- The contributing samples are older than the next accepted one. -/
theorem FiltersKnown.newer (h : FiltersKnown decay tracked)
    (haccepted : tracked.pipeline.determineDisposition sample nowMonotonicMs = .accepted)
    {contribution : Contribution Value} (hmem : contribution ∈ tracked.contributing) :
    contribution.sample.monotonicTimestampMs ≤ sample.monotonicTimestampMs := by
  obtain ⟨last, hlast, hle⟩ := h.earlier contribution hmem
  exact hle.trans ((SensorQualityPipeline.timestamps_of_accepted haccepted).2 last hlast).le

theorem FiltersKnown.reject (h : FiltersKnown decay tracked)
    (haccepted : tracked.pipeline.determineDisposition sample nowMonotonicMs = .accepted) :
    FiltersKnown decay (tracked.reject sample reason nowMonotonicMs) := by
  have hwindow := @h.window_noted _ _ _ _ _ sample nowMonotonicMs
  have htau := @h.tau_noted _ _ _ _ _ sample nowMonotonicMs
  cases hdiscards :
      (tracked.pipeline.noted sample nowMonotonicMs).countInvalid.discardsFilters reason with
  | true =>
      obtain ⟨hmedian, hlowPass, hoffset, hcorrected⟩ :=
        SensorQualityPipeline.recordInvalidSample_of_discards hdiscards
      simp only [TrackedPipeline.reject, hdiscards, if_true]
      refine
        { window := ?_
          tau := ?_
          holds := ?_
          earlier := fun _ h => absurd h List.not_mem_nil
          empty := fun _ => ⟨?_, hoffset, hcorrected⟩
          filled := fun _ _ h =>
            absurd h.symm (List.append_ne_nil_of_right_ne_nil _ (List.cons_ne_nil _ _)) }
      · rw [hmedian, SensorQualityPipeline.config_recordInvalidSample]
        exact hwindow
      · rw [hlowPass, SensorQualityPipeline.config_recordInvalidSample]
        exact htau
      · rw [hmedian]
        exact RingBuffer.holds_reset
      · rw [hlowPass]
        rfl
  | false =>
      obtain ⟨hmedian, hlowPass, hoffset, hcorrected⟩ :=
        SensorQualityPipeline.recordInvalidSample_of_keeps hdiscards
      have hfailure : tracked.pipeline.rawFailure nowMonotonicMs = false := by
        refine Bool.eq_false_iff.mpr fun hfailure => ?_
        rw [SensorQualityPipeline.discardsFilters_of_failure hfailure] at hdiscards
        cases hdiscards
      have hsame := SensorQualityPipeline.expire_of_no_failure hfailure
      have hnotedMedian : (tracked.pipeline.noted sample nowMonotonicMs).medianFilter =
          tracked.pipeline.medianFilter := congrArg (·.medianFilter) hsame
      have hnotedLowPass : (tracked.pipeline.noted sample nowMonotonicMs).lowPassFilter =
          tracked.pipeline.lowPassFilter := congrArg (·.lowPassFilter) hsame
      have hnotedOffset :
          (tracked.pipeline.noted sample nowMonotonicMs).lastFilterEffectiveOffsetCelsius =
            tracked.pipeline.lastFilterEffectiveOffsetCelsius :=
        congrArg (·.lastFilterEffectiveOffsetCelsius) hsame
      have hnotedCorrected : (tracked.pipeline.noted sample nowMonotonicMs).correctedCelsius =
          tracked.pipeline.correctedCelsius := congrArg (·.correctedCelsius) hsame
      simp only [TrackedPipeline.reject, hdiscards, Bool.false_eq_true, if_false]
      refine
        { window := ?_
          tau := ?_
          holds := ?_
          earlier := fun contribution hmem => ⟨sample, ?_, h.newer haccepted hmem⟩
          empty := fun hempty => ?_
          filled := fun before last hsplit => ?_ }
      · rw [hmedian, SensorQualityPipeline.config_recordInvalidSample]
        exact hwindow
      · rw [hlowPass, SensorQualityPipeline.config_recordInvalidSample]
        exact htau
      · rw [hmedian, hnotedMedian]
        exact h.holds
      · rw [SensorQualityPipeline.lastAccepted_recordInvalidSample]
        rfl
      · rw [hlowPass, hoffset, hcorrected, hnotedLowPass, hnotedOffset, hnotedCorrected]
        exact h.empty hempty
      · obtain ⟨filtered, hsmooths⟩ := h.filled before last hsplit
        refine ⟨filtered, ?_, ?_, ?_, ?_, ?_⟩
        · rw [SensorQualityPipeline.config_recordInvalidSample,
            SensorQualityPipeline.config_noted]
          exact hsmooths.smoothed
        · rw [hlowPass, hnotedLowPass]
          exact hsmooths.filteredValue
        · rw [hlowPass, hnotedLowPass]
          exact hsmooths.lastTimestampMs
        · rw [hoffset, hnotedOffset]
          exact hsmooths.lastOffset
        · rw [hcorrected, hnotedCorrected]
          exact hsmooths.correctedCelsius

/-- The low pass after one more contribution: the smoothed medians go on without their
offset, and the new offset takes the place of the old one. -/
theorem FiltersKnown.update (h : FiltersKnown decay tracked) {added : Contribution Value}
    (htau : 0 < tracked.pipeline.lowPassFilter.tauSeconds)
    (hnewer : ∀ contribution ∈ tracked.contributing,
      contribution.sample.monotonicTimestampMs ≤ added.sample.monotonicTimestampMs) :
    ∃ filtered,
      smoothed decay tracked.pipeline.config.lowPassTauSeconds
          (tracked.contributing ++ [added]) =
        some (filtered, added.sample.monotonicTimestampMs) ∧
      ((tracked.pipeline.shiftedLowPass added.offset).update decay
          (added.median + added.offset) added.sample.monotonicTimestampMs).filteredValue =
        some (filtered + added.offset) ∧
      ((tracked.pipeline.shiftedLowPass added.offset).update decay
          (added.median + added.offset) added.sample.monotonicTimestampMs).lastTimestampMs =
        some added.sample.monotonicTimestampMs := by
  rw [smoothed_concat]
  rcases List.eq_nil_or_concat tracked.contributing with hnil | ⟨before, last, hsplit⟩
  · obtain ⟨hfiltered, hoffset, -⟩ := h.empty hnil
    have hshifted : tracked.pipeline.shiftedLowPass added.offset = tracked.pipeline.lowPassFilter := by
      rw [SensorQualityPipeline.shiftedLowPass, hoffset]
    rw [hnil, hshifted, LowPassFilter.update_of_empty htau hfiltered]
    exact ⟨added.median, rfl, rfl, rfl⟩
  · rw [List.concat_eq_append] at hsplit
    obtain ⟨filtered, hsmooths⟩ := h.filled before last hsplit
    have hle := hnewer last (hsplit ▸ List.mem_append_right _ (List.mem_singleton_self _))
    have hshifted : (tracked.pipeline.shiftedLowPass added.offset).tauSeconds =
          tracked.pipeline.lowPassFilter.tauSeconds ∧
        (tracked.pipeline.shiftedLowPass added.offset).filteredValue = some (filtered + added.offset) ∧
        (tracked.pipeline.shiftedLowPass added.offset).lastTimestampMs =
          some last.sample.monotonicTimestampMs := by
      simp only [SensorQualityPipeline.shiftedLowPass, hsmooths.lastOffset]
      split
      · refine ⟨rfl, ?_, hsmooths.lastTimestampMs⟩
        rw [LowPassFilter.shiftState, hsmooths.filteredValue, Option.map_some]
        exact congrArg some (by ring)
      · next hsame =>
          rw [not_not.mp hsame]
          exact ⟨rfl, hsmooths.filteredValue, hsmooths.lastTimestampMs⟩
    obtain ⟨htauShifted, hfilteredShifted, hlastShifted⟩ := hshifted
    rw [LowPassFilter.update_of_filled (htauShifted ▸ htau) hfilteredShifted hlastShifted hle,
      hsmooths.smoothed, htauShifted, h.tau]
    exact ⟨_, rfl, congrArg some (by ring), rfl⟩

/-- A value that is added to a filter with a window has a median. -/
theorem FiltersKnown.median (h : FiltersKnown decay tracked) :
    ∃ median,
      windowMedian tracked.pipeline.config.medianWindowSize
          (tracked.contributing.map (·.celsius) ++ [celsius]) = some median ∧
      MedianFilter.median (tracked.pipeline.medianFilter.push celsius) = some median ∧
      (tracked.pipeline.medianFilter.push celsius).Holds
        (tracked.contributing.map (·.celsius) ++ [celsius]) := by
  have hcapacity : 0 < tracked.pipeline.medianFilter.capacity := by
    have := tracked.pipeline.config.window_odd
    rw [h.window]
    omega
  have hholds : RingBuffer.Holds _ (tracked.pipeline.medianFilter.push celsius) :=
    h.holds.push hcapacity
  have hmedian := MedianFilter.median_of_holds hholds
  rw [RingBuffer.capacity_push, h.window] at hmedian
  cases hfound : MedianFilter.median (tracked.pipeline.medianFilter.push celsius) with
  | none =>
      have hsize := hholds.size_eq
      rw [MedianFilter.median_eq_none.mp hfound, RingBuffer.capacity_push,
        List.length_append, List.length_singleton] at hsize
      omega
  | some median => exact ⟨median, hmedian.symm.trans hfound, rfl, hholds⟩

theorem FiltersKnown.accept (h : FiltersKnown decay tracked)
    (haccepted : tracked.pipeline.determineDisposition sample nowMonotonicMs = .accepted) :
    FiltersKnown decay (tracked.accept sample decay celsius nowMonotonicMs) := by
  have hexpired := @h.expire _ _ _ _ _ nowMonotonicMs
  have hpipeline := @pipeline_expire _ _ _ tracked nowMonotonicMs
  have htau := @h.tau_noted _ _ _ _ _ sample nowMonotonicMs
  have hconfig : (tracked.pipeline.expire nowMonotonicMs).config = tracked.pipeline.config :=
    SensorQualityPipeline.config_expire
  have hstill : (tracked.expire nowMonotonicMs).pipeline.determineDisposition sample
      nowMonotonicMs = .accepted := by
    rw [hpipeline, SensorQualityPipeline.determineDisposition_expire]
    exact haccepted
  obtain ⟨median, hwindow, hmedian, hholds⟩ := @hexpired.median _ _ _ _ _ celsius
  rw [hpipeline] at hmedian hholds
  rw [hpipeline, hconfig] at hwindow
  have hentered : MedianFilter.median
      (((tracked.pipeline.noted sample nowMonotonicMs).recover sample
        celsius).medianFilter.push celsius) = some median := by
    rw [SensorQualityPipeline.medianFilter_recover, SensorQualityPipeline.medianFilter_noted]
    exact hmedian
  obtain ⟨filtered, hsmoothed, hfiltered, hlast⟩ := @hexpired.update _ _ _ _ _
    ⟨sample, celsius, median, (tracked.pipeline.effectiveOffsetFor sample).getD 0⟩
    (by
      rw [hexpired.tau]
      exact (tracked.expire nowMonotonicMs).pipeline.config.tau_pos)
    (fun contribution hmem => hexpired.newer hstill hmem)
  rw [hpipeline] at hsmoothed hfiltered hlast
  obtain ⟨hmedianFilter, hcorrected, hlowPass, hlastOffset⟩ :=
    @SensorQualityPipeline.contribute_filters _ _ _
      ((tracked.pipeline.noted sample nowMonotonicMs).recover sample celsius) sample decay celsius
      median _ hentered
      (congrArg (Option.getD · 0) SensorQualityPipeline.effectiveOffsetFor_noted_recover)
  rw [SensorQualityPipeline.medianFilter_recover, SensorQualityPipeline.medianFilter_noted]
    at hmedianFilter
  rw [SensorQualityPipeline.shiftedLowPass_recover, SensorQualityPipeline.shiftedLowPass_noted]
    at hlowPass
  have hacceptConfig : (tracked.accept sample decay celsius nowMonotonicMs).pipeline.config =
      (tracked.pipeline.noted sample nowMonotonicMs).config := by
    rw [TrackedPipeline.accept, SensorQualityPipeline.config_contribute,
      SensorQualityPipeline.config_recover]
  have hcontributing : (tracked.accept sample decay celsius nowMonotonicMs).contributing =
      (tracked.expire nowMonotonicMs).contributing ++
        [⟨sample, celsius, median, (tracked.pipeline.effectiveOffsetFor sample).getD 0⟩] := by
    rw [TrackedPipeline.accept, hwindow, Option.getD_some]
  constructor
  · rw [hacceptConfig, TrackedPipeline.accept, hmedianFilter, RingBuffer.capacity_push]
    exact @h.window_noted _ _ _ _ _ sample nowMonotonicMs
  · rw [hacceptConfig, TrackedPipeline.accept, hlowPass, LowPassFilter.tauSeconds_update,
      SensorQualityPipeline.tauSeconds_shiftedLowPass]
    exact htau
  · rw [hcontributing, TrackedPipeline.accept, hmedianFilter, List.map_append]
    exact hholds
  · rw [hcontributing]
    intro contribution hmem
    refine ⟨sample, ?_, ?_⟩
    · rw [TrackedPipeline.accept, SensorQualityPipeline.lastAccepted_contribute]
      rfl
    · rcases List.mem_append.mp hmem with hmem | hmem
      · exact hexpired.newer hstill hmem
      · rw [List.mem_singleton.mp hmem]
  · rw [hcontributing]
    exact fun hempty =>
      absurd hempty (List.append_ne_nil_of_right_ne_nil _ (List.cons_ne_nil _ _))
  · rw [hcontributing]
    intro before last hsplit
    obtain ⟨-, hadded⟩ := List.append_inj' hsplit rfl
    cases hadded
    refine ⟨filtered, ?_, ?_, ?_, ?_, ?_⟩
    · rw [hacceptConfig]
      exact hsmoothed
    · rw [TrackedPipeline.accept, hlowPass]
      exact hfiltered
    · rw [TrackedPipeline.accept, hlowPass]
      exact hlast
    · exact hlastOffset
    · exact hcorrected

theorem filtersKnown_run (config : SensorQualityConfig Value) (calls : List (SensorCall Value)) :
    FiltersKnown decay ((create config).run decay calls) :=
  run_keeps
    (fun _ _ h => ⟨h.window, h.tau, h.holds, h.earlier, h.empty, fun before last hsplit =>
      let ⟨filtered, hsmooths⟩ := h.filled before last hsplit
      ⟨filtered, hsmooths.smoothed, hsmooths.filteredValue, hsmooths.lastTimestampMs,
        hsmooths.lastOffset, hsmooths.correctedCelsius⟩⟩)
    (fun _ _ _ _ h _ haccepted _ => h.reject haccepted)
    (fun _ _ _ _ h _ haccepted _ => h.accept haccepted) (fun _ _ _ _ => Nat.zero_le _)
    (filtersKnown_create config)

end TrackedPipeline

end Fermentationsschrank.DevicePlatform

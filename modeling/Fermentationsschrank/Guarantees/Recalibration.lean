import Mathlib
import Fermentationsschrank.Sensors.FilterContents
import Mathlib.Tactic.Positivity

/-!
# Recalibration

A calibration moves the filtered temperature and does nothing else: the smoothed medians are
those of a run without any calibration.
-/

namespace Fermentationsschrank.DevicePlatform

variable {Value : Type} [Field Value] [LinearOrder Value]

/-! ## Smoothing -/

section Bounds

variable [IsStrictOrderedRing Value] {decay : Decay Value} {tauSeconds : Value}

theorem exponent_nonpos (htau : 0 < tauSeconds) (elapsedMs : ℕ) :
    -((elapsedMs : Value) / 1000) / tauSeconds ≤ 0 := by
  apply div_nonpos_of_nonpos_of_nonneg _ htau.le
  rw [neg_nonpos]
  positivity

theorem alpha_nonneg (htau : 0 < tauSeconds) (elapsedMs : ℕ) :
    0 ≤ LowPassFilter.alpha decay tauSeconds elapsedMs :=
  sub_nonneg.mpr (decay.le_one _ (exponent_nonpos htau elapsedMs))

theorem alpha_lt_one (htau : 0 < tauSeconds) (elapsedMs : ℕ) :
    LowPassFilter.alpha decay tauSeconds elapsedMs < 1 :=
  sub_lt_self _ (decay.pos _ (exponent_nonpos htau elapsedMs))

/-- Smoothing does not leave a range of the medians that has no gaps. -/
theorem smoothed_mem {range : Set Value}
    (hblend : ∀ previous ∈ range, ∀ median ∈ range, ∀ weight, 0 ≤ weight → weight ≤ 1 →
      previous + (median - previous) * weight ∈ range)
    {contributing : List (Contribution Value)} {filtered : Value} {timestampMs : ℕ}
    (htau : 0 < tauSeconds)
    (hmedians : ∀ contribution ∈ contributing, contribution.median ∈ range)
    (h : smoothed decay tauSeconds contributing = some (filtered, timestampMs)) :
    filtered ∈ range := by
  induction contributing using List.reverseRecOn generalizing filtered timestampMs with
  | nil => cases h
  | append_singleton before last ih =>
      have hlast := hmedians last (List.mem_append_right _ (List.mem_singleton_self _))
      rw [smoothed_concat] at h
      cases hbefore : smoothed decay tauSeconds before with
      | none =>
          rw [hbefore] at h
          cases h
          exact hlast
      | some state =>
          obtain ⟨previous, previousMs⟩ := state
          have hprevious := ih
            (fun contribution hmem => hmedians contribution (List.mem_append_left _ hmem)) hbefore
          rw [hbefore] at h
          cases h
          exact hblend _ hprevious _ hlast _ (alpha_nonneg htau _) (alpha_lt_one htau _).le

theorem le_smoothed {contributing : List (Contribution Value)} {low filtered : Value}
    {timestampMs : ℕ} (htau : 0 < tauSeconds)
    (hmedians : ∀ contribution ∈ contributing, low ≤ contribution.median)
    (h : smoothed decay tauSeconds contributing = some (filtered, timestampMs)) :
    low ≤ filtered := by
  change filtered ∈ Set.Ici low
  refine smoothed_mem ?_ htau hmedians h
  intro previous hprevious median hmedian weight hnonneg hle
  calc
    low = low * (1 - weight) + low * weight := by ring
    _ ≤ previous * (1 - weight) + median * weight :=
      add_le_add (mul_le_mul_of_nonneg_right hprevious (sub_nonneg.mpr hle))
        (mul_le_mul_of_nonneg_right hmedian hnonneg)
    _ = previous + (median - previous) * weight := by ring

theorem smoothed_le {contributing : List (Contribution Value)} {high filtered : Value}
    {timestampMs : ℕ} (htau : 0 < tauSeconds)
    (hmedians : ∀ contribution ∈ contributing, contribution.median ≤ high)
    (h : smoothed decay tauSeconds contributing = some (filtered, timestampMs)) :
    filtered ≤ high := by
  change filtered ∈ Set.Iic high
  refine smoothed_mem ?_ htau hmedians h
  intro previous hprevious median hmedian weight hnonneg hle
  calc
    previous + (median - previous) * weight = previous * (1 - weight) + median * weight := by ring
    _ ≤ high * (1 - weight) + high * weight :=
      add_le_add (mul_le_mul_of_nonneg_right hprevious (sub_nonneg.mpr hle))
        (mul_le_mul_of_nonneg_right hmedian hnonneg)
    _ = high := by ring

end Bounds

/-! ## Judging without the correction -/

namespace SensorQualityPipeline

variable {pipeline : SensorQualityPipeline Value} {sample : TemperatureReading Value}
variable {nowMonotonicMs : ℕ}

/-- The pipeline less everything that depends on a calibration. -/
def uncorrected (pipeline : SensorQualityPipeline Value) : SensorQualityPipeline Value :=
  { pipeline with
    calibration := none
    lowPassFilter := pipeline.lowPassFilter.reset
    correctedCelsius := none
    appliedOffset := none
    lastFilterEffectiveOffsetCelsius := none }

theorem uncorrected_expire :
    (pipeline.expire nowMonotonicMs).uncorrected = pipeline.uncorrected.expire nowMonotonicMs := by
  have hfailure : pipeline.uncorrected.rawFailure nowMonotonicMs =
      pipeline.rawFailure nowMonotonicMs := rfl
  rw [expire, expire, hfailure]
  split <;> rfl

theorem uncorrected_noted :
    (pipeline.noted sample nowMonotonicMs).uncorrected =
      pipeline.uncorrected.noted sample nowMonotonicMs := by
  rw [noted, noted, ← uncorrected_expire]
  rfl

theorem uncorrected_recordInvalidSample {reason : SensorFaultReason} :
    (pipeline.recordInvalidSample reason).uncorrected =
      pipeline.uncorrected.recordInvalidSample reason := by
  have hdiscards : pipeline.uncorrected.countInvalid.discardsFilters reason =
      pipeline.countInvalid.discardsFilters reason := rfl
  rw [recordInvalidSample, recordInvalidSample, hdiscards]
  split <;> rfl

theorem reset_update {decay : Decay Value} {filter : LowPassFilter Value} {input : Value}
    {timestampMs : ℕ} : (filter.update decay input timestampMs).reset = filter.reset := by
  rw [LowPassFilter.reset, LowPassFilter.tauSeconds_update]
  rfl

theorem reset_shiftedLowPass {effectiveOffset : Value} :
    (pipeline.shiftedLowPass effectiveOffset).reset = pipeline.lowPassFilter.reset := by
  rw [LowPassFilter.reset, tauSeconds_shiftedLowPass]
  rfl

theorem uncorrected_contribute {decay : Decay Value} {celsius : Value} :
    (pipeline.contribute sample decay celsius).uncorrected =
      (pipeline.uncorrected.contribute sample decay celsius).uncorrected := by
  have hmedianFilter : pipeline.uncorrected.medianFilter = pipeline.medianFilter := rfl
  cases hmedian : MedianFilter.median (pipeline.medianFilter.push celsius) with
  | none =>
      simp only [contribute, hmedianFilter, hmedian]
      rfl
  | some median =>
      simp only [contribute, hmedian, uncorrected, reset_update, reset_shiftedLowPass]
      rfl

end SensorQualityPipeline

/-! ## Two runs -/

/-- A contribution of a run without calibration. -/
def Contribution.withoutOffset (contribution : Contribution Value) : Contribution Value :=
  { contribution with offset := 0 }

theorem smoothed_withoutOffset {decay : Decay Value} {tauSeconds : Value}
    {contributing : List (Contribution Value)} :
    smoothed decay tauSeconds (contributing.map (·.withoutOffset)) =
      smoothed decay tauSeconds contributing := by
  rw [smoothed, List.foldl_map]
  rfl

namespace TrackedPipeline

variable {decay : Decay Value} {tracked plain : TrackedPipeline Value}

/-- The second run is the first one without its calibrations. -/
structure Uncalibrated (tracked plain : TrackedPipeline Value) : Prop where
  pipeline : plain.pipeline.uncorrected = tracked.pipeline.uncorrected
  calibration : plain.pipeline.calibration = none
  contributing : plain.contributing = tracked.contributing.map (·.withoutOffset)

theorem Uncalibrated.config (h : Uncalibrated tracked plain) :
    plain.pipeline.config = tracked.pipeline.config :=
  congrArg (·.config) h.pipeline

theorem Uncalibrated.expire (h : Uncalibrated tracked plain) {nowMonotonicMs : ℕ} :
    (plain.expire nowMonotonicMs).contributing =
      (tracked.expire nowMonotonicMs).contributing.map (·.withoutOffset) := by
  have hfailure : plain.pipeline.rawFailure nowMonotonicMs =
      tracked.pipeline.rawFailure nowMonotonicMs :=
    congrArg (·.rawFailure nowMonotonicMs) h.pipeline
  rw [TrackedPipeline.expire, TrackedPipeline.expire, hfailure]
  split
  · rfl
  · exact h.contributing

theorem Uncalibrated.noted (h : Uncalibrated tracked plain) {sample : TemperatureReading Value}
    {nowMonotonicMs : ℕ} :
    (plain.pipeline.noted sample nowMonotonicMs).uncorrected =
      (tracked.pipeline.noted sample nowMonotonicMs).uncorrected := by
  rw [SensorQualityPipeline.uncorrected_noted, h.pipeline,
    SensorQualityPipeline.uncorrected_noted]

theorem Uncalibrated.reject (h : Uncalibrated tracked plain) {sample : TemperatureReading Value}
    {reason : SensorFaultReason} {nowMonotonicMs : ℕ} :
    Uncalibrated (tracked.reject sample reason nowMonotonicMs)
      (plain.reject sample reason nowMonotonicMs) := by
  have hdiscards :
      (plain.pipeline.noted sample nowMonotonicMs).countInvalid.discardsFilters reason =
        (tracked.pipeline.noted sample nowMonotonicMs).countInvalid.discardsFilters reason :=
    congrArg (·.countInvalid.discardsFilters reason)
      (@h.noted _ _ _ _ _ sample nowMonotonicMs)
  constructor
  · rw [TrackedPipeline.reject, TrackedPipeline.reject]
    dsimp only
    rw [SensorQualityPipeline.uncorrected_recordInvalidSample, h.noted,
      SensorQualityPipeline.uncorrected_recordInvalidSample]
  · rw [TrackedPipeline.reject, SensorQualityPipeline.calibration_recordInvalidSample,
      SensorQualityPipeline.calibration_noted]
    exact h.calibration
  · rw [TrackedPipeline.reject, TrackedPipeline.reject, hdiscards]
    dsimp only
    split
    · rfl
    · exact h.contributing

theorem Uncalibrated.accept (h : Uncalibrated tracked plain) {sample : TemperatureReading Value}
    {celsius : Value} {nowMonotonicMs : ℕ} :
    Uncalibrated (tracked.accept sample decay celsius nowMonotonicMs)
      (plain.accept sample decay celsius nowMonotonicMs) := by
  have hrecover : ((plain.pipeline.noted sample nowMonotonicMs).recover sample
        celsius).uncorrected =
      ((tracked.pipeline.noted sample nowMonotonicMs).recover sample celsius).uncorrected :=
    congrArg (·.recover sample celsius) h.noted
  have hoffset : plain.pipeline.effectiveOffsetFor sample = none := by
    rw [SensorQualityPipeline.effectiveOffsetFor, h.calibration]
  constructor
  · rw [TrackedPipeline.accept, TrackedPipeline.accept]
    dsimp only
    rw [SensorQualityPipeline.uncorrected_contribute, hrecover,
      ← SensorQualityPipeline.uncorrected_contribute]
  · rw [TrackedPipeline.accept, SensorQualityPipeline.calibration_contribute,
      SensorQualityPipeline.calibration_recover, SensorQualityPipeline.calibration_noted]
    exact h.calibration
  · rw [TrackedPipeline.accept, TrackedPipeline.accept]
    dsimp only
    rw [h.expire, h.config, hoffset, List.map_append, List.map_map]
    rfl

/-- A call of the run and the same call without calibration. -/
theorem Uncalibrated.ingest (h : Uncalibrated tracked plain) {sample : TemperatureReading Value}
    {nowMonotonicMs : ℕ} :
    Uncalibrated (tracked.ingest sample decay nowMonotonicMs)
      (plain.ingest sample decay nowMonotonicMs) := by
  have hdisposition : plain.pipeline.determineDisposition sample nowMonotonicMs =
      tracked.pipeline.determineDisposition sample nowMonotonicMs :=
    congrArg (·.determineDisposition sample nowMonotonicMs) h.pipeline
  have hjudge : (plain.pipeline.expire nowMonotonicMs).judge sample =
      (tracked.pipeline.expire nowMonotonicMs).judge sample := by
    have hexpire : (plain.pipeline.expire nowMonotonicMs).uncorrected =
        (tracked.pipeline.expire nowMonotonicMs).uncorrected := by
      rw [SensorQualityPipeline.uncorrected_expire, h.pipeline,
        SensorQualityPipeline.uncorrected_expire]
    exact congrArg (·.judge sample) hexpire
  rw [TrackedPipeline.ingest, TrackedPipeline.ingest, hdisposition, hjudge]
  split
  · split
    · exact h.reject
    · exact h.accept
  · exact h

end TrackedPipeline

/-- A call that sets a calibration. -/
def SensorCall.calibrates : SensorCall Value → Bool
  | .setCalibration _ => true
  | _ => false

namespace TrackedPipeline

variable {decay : Decay Value} {tracked plain : TrackedPipeline Value}

theorem Uncalibrated.run (h : Uncalibrated tracked plain) (calls : List (SensorCall Value)) :
    Uncalibrated (tracked.run decay calls) (plain.run decay (calls.filter (!·.calibrates))) := by
  induction calls generalizing tracked plain with
  | nil => exact h
  | cons call calls ih =>
      cases call with
      | ingest sample nowMonotonicMs => exact ih h.ingest
      | snapshot nowMonotonicMs => exact ih h
      | setCalibration calibration =>
          have hset : Uncalibrated
              { tracked with pipeline := tracked.pipeline.setCalibration calibration } plain :=
            ⟨h.pipeline, h.calibration, h.contributing⟩
          exact ih hset

end TrackedPipeline

end Fermentationsschrank.DevicePlatform

import Fermentationsschrank.Sensors.SensorFilters

/-!
# The sensor quality pipeline

One pipeline judges the samples of one sensor role: whether a sample is accepted at all,
whether it is plausible, what enters the filters, and how far the sensor can be trusted.
-/

namespace Fermentationsschrank.DevicePlatform

variable {Value : Type} [Field Value] [LinearOrder Value]

inductive SampleDisposition
  | accepted
  | duplicateIgnored
  | rejectedTimestampConflict
  | rejectedRetrograde
  | rejectedFuture
  deriving DecidableEq, Repr

inductive SensorFaultReason
  | none
  | busFault
  | crcFault
  | missingSample
  | knownInvalidMeasurement
  | nonFinite
  | outOfRange
  | rateOfChangeExceeded
  | identityMismatch
  deriving DecidableEq, Repr

structure SensorQualitySnapshot (Value : Type) where
  identity : Option SensorIdentity
  quality : SensorQuality
  rawCelsius : Option (ExactDouble Value)
  correctedCelsius : Option Value
  filteredCelsius : Option Value
  appliedOffset : Option Value
  lastAcceptedSampleAgeMs : Option ℕ
  lastValidSampleAgeMs : Option ℕ
  lastFaultReason : SensorFaultReason
  consecutiveInvalidCount : ℕ
  recoveryProgressCount : ℕ
  changeRateCelsiusPerSecond : Option Value

/-- The counters of the pipeline stop at the largest 16-bit number. -/
def saturatingIncrement (value : ℕ) : ℕ :=
  if value = 65535 then value else value + 1

def saturatingAgeMs (referenceTimeMs pastTimestampMs : ℕ) : ℕ :=
  if referenceTimeMs < pastTimestampMs then 0 else referenceTimeMs - pastTimestampMs

/-- Two values that are not numbers are the same defective value. -/
def celsiusValuesEqual (left right : Option (ExactDouble Value)) : Bool :=
  left = right

def sampleValuesEqual (left right : TemperatureReading Value) : Bool :=
  left.identity = right.identity ∧ left.status = right.status ∧
    celsiusValuesEqual left.celsius right.celsius

def faultReasonForStatus (status : TemperatureSampleStatus) : SensorFaultReason :=
  match status with
  | .busFault => .busFault
  | .crcFault => .crcFault
  | .missingSample => .missingSample
  | .knownInvalidMeasurement => .knownInvalidMeasurement
  | .ok => .none

/-! ## State -/

structure SensorQualityPipeline (Value : Type) [Field Value] [LinearOrder Value] where
  config : SensorQualityConfig Value
  medianFilter : MedianFilter Value
  lowPassFilter : LowPassFilter Value
  calibration : Option (SensorCalibration Value) := none
  correctedCelsius : Option Value := none
  appliedOffset : Option Value := none
  lastFilterEffectiveOffsetCelsius : Option Value := none
  lastAccepted : Option (TemperatureReading Value) := none
  lastKnownIdentity : Option SensorIdentity := none
  rawCelsius : Option (ExactDouble Value) := none
  lastAcceptedTimestampMs : Option ℕ := none
  lastValidRawCelsius : Option Value := none
  lastValidTimestampMs : Option ℕ := none
  rateReferenceCelsius : Option Value := none
  rateReferenceTimestampMs : Option ℕ := none
  consecutiveInvalidCount : ℕ := 0
  recoveryProgressCount : ℕ := 0
  recoveryStreakStartTimestampMs : Option ℕ := none
  recoveryStreakLastTimestampMs : Option ℕ := none
  failedLatched : Bool := false
  lastFaultReason : SensorFaultReason := .none
  changeRateCelsiusPerSecond : Option Value := none

namespace SensorQualityPipeline

variable (pipeline : SensorQualityPipeline Value) (sample : TemperatureReading Value)

def create (config : SensorQualityConfig Value) : SensorQualityPipeline Value where
  config
  medianFilter := MedianFilter.create config.medianWindowSize
  lowPassFilter := { tauSeconds := config.lowPassTauSeconds }

def setCalibration (calibration : Option (SensorCalibration Value)) :
    SensorQualityPipeline Value :=
  { pipeline with calibration }

def resetFilterState : SensorQualityPipeline Value :=
  { pipeline with
    medianFilter := pipeline.medianFilter.reset
    lowPassFilter := pipeline.lowPassFilter.reset
    correctedCelsius := none
    appliedOffset := none
    lastFilterEffectiveOffsetCelsius := none }

/-- The offset of the calibration, if it was made for the probe of the sample. -/
def effectiveOffsetFor : Option Value :=
  match pipeline.calibration, sample.identity with
  | some calibration, some identity =>
    if calibration.identity = identity then some calibration.offset.celsius else none
  | _, _ => none

def determineDisposition (nowMonotonicMs : ℕ) : SampleDisposition :=
  match pipeline.lastAccepted with
  | none => if nowMonotonicMs < sample.monotonicTimestampMs then .rejectedFuture else .accepted
  | some last =>
    if sample.monotonicTimestampMs = last.monotonicTimestampMs then
      if sampleValuesEqual sample last then .duplicateIgnored else .rejectedTimestampConflict
    else if sample.monotonicTimestampMs < last.monotonicTimestampMs then .rejectedRetrograde
    else if nowMonotonicMs < sample.monotonicTimestampMs then .rejectedFuture
    else .accepted

/-! ## Quality -/

def ageFailed (referenceTimeMs : ℕ) : Bool :=
  pipeline.lastValidTimestampMs.any fun last =>
    pipeline.config.maxStaleAgeMs < saturatingAgeMs referenceTimeMs last

def countFailed : Bool :=
  pipeline.config.maxConsecutiveInvalid < pipeline.consecutiveInvalidCount

/-- The two conditions that make a sensor fail at once. -/
def rawFailure (referenceTimeMs : ℕ) : Bool :=
  pipeline.ageFailed referenceTimeMs || pipeline.countFailed

def isRecoveryComplete : Bool :=
  pipeline.config.minConsecutiveValidSamples ≤ pipeline.recoveryProgressCount &&
    match pipeline.recoveryStreakStartTimestampMs, pipeline.recoveryStreakLastTimestampMs with
    | some start, some last =>
      start ≤ last ∧ pipeline.config.minRecoveryStabilityDurationMs ≤ last - start
    | _, _ => false

def quality (referenceTimeMs : ℕ) : SensorQuality :=
  if pipeline.rawFailure referenceTimeMs then .failed
  else if pipeline.isRecoveryComplete then .valid
  else if pipeline.failedLatched then .failed
  else .stale

/-! ## Samples -/

def recordValidSample (celsius : Value) (monotonicTimestampMs : ℕ) :
    SensorQualityPipeline Value :=
  { pipeline with
    lastValidRawCelsius := some celsius
    lastValidTimestampMs := some monotonicTimestampMs
    consecutiveInvalidCount := 0
    lastFaultReason := .none
    recoveryStreakStartTimestampMs :=
      if pipeline.recoveryProgressCount = 0 then some monotonicTimestampMs
      else pipeline.recoveryStreakStartTimestampMs
    recoveryStreakLastTimestampMs := some monotonicTimestampMs
    recoveryProgressCount := saturatingIncrement pipeline.recoveryProgressCount
    rateReferenceCelsius := some celsius
    rateReferenceTimestampMs := some monotonicTimestampMs }

/-- One fault of a sensor that is trusted leaves the filters alone.  A sensor that has
failed, or whose probe was exchanged, starts with new ones. -/
def discardsFilters (reason : SensorFaultReason) : Bool :=
  pipeline.countFailed || pipeline.failedLatched || reason = .identityMismatch

def countInvalid : SensorQualityPipeline Value :=
  { pipeline with
    consecutiveInvalidCount := saturatingIncrement pipeline.consecutiveInvalidCount }

def recordInvalidSample (reason : SensorFaultReason) : SensorQualityPipeline Value :=
  let counted := pipeline.countInvalid
  let discarded := if counted.discardsFilters reason then counted.resetFilterState else counted
  { discarded with
    failedLatched := counted.failedLatched || counted.countFailed
    recoveryProgressCount := 0
    recoveryStreakStartTimestampMs := none
    recoveryStreakLastTimestampMs := none
    rateReferenceCelsius := none
    rateReferenceTimestampMs := none
    lastFaultReason := reason }

/-- A failure that has come about before the sample ends a recovery that is under way. -/
def expire (nowMonotonicMs : ℕ) : SensorQualityPipeline Value :=
  if pipeline.rawFailure nowMonotonicMs then
    { pipeline.resetFilterState with
      recoveryProgressCount := 0
      recoveryStreakStartTimestampMs := none
      failedLatched := true
      rateReferenceCelsius := none
      rateReferenceTimestampMs := none }
  else pipeline

/-- What is kept of every accepted sample, plausible or not. -/
def remember : SensorQualityPipeline Value :=
  { pipeline with
    lastAcceptedTimestampMs := some sample.monotonicTimestampMs
    rawCelsius := if sample.status = .ok then sample.celsius else pipeline.rawCelsius
    lastKnownIdentity := sample.identity.or pipeline.lastKnownIdentity
    lastAccepted := some sample }

/-- A change of the probe is seen only between two neighbours that both name theirs. -/
def identityMismatch : Bool :=
  match pipeline.lastAccepted.bind (·.identity), sample.identity with
  | some before, some identity => before ≠ identity
  | _, _ => false

local instance atLeastTwoMilliseconds : Nat.AtLeastTwo 1000 := inferInstance

def changeRate (celsius : Value) (monotonicTimestampMs : ℕ) : Option Value :=
  match pipeline.rateReferenceCelsius, pipeline.rateReferenceTimestampMs with
  | some reference, some referenceMs =>
    some (|celsius - reference| / (((monotonicTimestampMs - referenceMs : ℕ) : Value) / 1000))
  | _, _ => none

def outOfRange (celsius : Value) : Bool :=
  celsius < kAbsoluteMinCelsius || kAbsoluteMaxCelsius < celsius ||
    (celsius < pipeline.config.minPlausibleCelsius || pipeline.config.maxPlausibleCelsius < celsius)

/-- The checks before the change of rate. -/
def measure : Except SensorFaultReason Value :=
  if pipeline.identityMismatch sample then .error .identityMismatch
  else if h : sample.status = .ok then
    match sample.measured h with
    | .finite celsius => if pipeline.outOfRange celsius then .error .outOfRange else .ok celsius
    | _ => .error .nonFinite
  else .error (faultReasonForStatus sample.status)

def rateExceeded (rate : Option Value) : Bool :=
  rate.any (pipeline.config.maxRateOfChangeCelsiusPerSecond < ·)

/-- All checks of an accepted sample: the fault it shows or its plausible value. -/
def judge : Except SensorFaultReason Value :=
  match pipeline.measure sample with
  | .error reason => .error reason
  | .ok celsius =>
    if pipeline.rateExceeded (pipeline.changeRate celsius sample.monotonicTimestampMs) then
      .error .rateOfChangeExceeded
    else .ok celsius

/-- The rate is assessed only where the checks come that far. -/
def assessedRate : Option Value :=
  match pipeline.measure sample with
  | .error _ => pipeline.changeRateCelsiusPerSecond
  | .ok celsius => pipeline.changeRate celsius sample.monotonicTimestampMs

/-- The low pass holds an offset already; it is moved to the one that holds now. -/
def shiftedLowPass (effectiveOffset : Value) : LowPassFilter Value :=
  match pipeline.lastFilterEffectiveOffsetCelsius with
  | some last =>
    if effectiveOffset ≠ last then pipeline.lowPassFilter.shiftState (effectiveOffset - last)
    else pipeline.lowPassFilter
  | none => pipeline.lowPassFilter

/-- A plausible sample enters the filters. -/
def contribute (decay : Decay Value) (celsius : Value) : SensorQualityPipeline Value :=
  let medianFilter := pipeline.medianFilter.push celsius
  match MedianFilter.median medianFilter with
  | none => { pipeline with medianFilter }
  | some median =>
    let matchingOffset := pipeline.effectiveOffsetFor sample
    let effectiveOffset := matchingOffset.getD 0
    let correctedCelsius := median + effectiveOffset
    { pipeline with
      medianFilter
      correctedCelsius := some correctedCelsius
      appliedOffset := matchingOffset
      lowPassFilter := (pipeline.shiftedLowPass effectiveOffset).update decay correctedCelsius
        sample.monotonicTimestampMs
      lastFilterEffectiveOffsetCelsius := some effectiveOffset }

/-- A valid sample is counted, and a recovery that it completes is over. -/
def recover (celsius : Value) : SensorQualityPipeline Value :=
  let recorded := pipeline.recordValidSample celsius sample.monotonicTimestampMs
  { recorded with failedLatched := recorded.failedLatched && !recorded.isRecoveryComplete }

/-- The pipeline in which the verdict on an accepted sample is entered. -/
def noted (nowMonotonicMs : ℕ) : SensorQualityPipeline Value :=
  { (pipeline.expire nowMonotonicMs).remember sample with
    changeRateCelsiusPerSecond := (pipeline.expire nowMonotonicMs).assessedRate sample }

/-- What an accepted sample changes. -/
def take (decay : Decay Value) (nowMonotonicMs : ℕ) : SensorQualityPipeline Value :=
  let noted := pipeline.noted sample nowMonotonicMs
  match (pipeline.expire nowMonotonicMs).judge sample with
  | .error reason => noted.recordInvalidSample reason
  | .ok celsius => (noted.recover sample celsius).contribute sample decay celsius

def ingest (decay : Decay Value) (nowMonotonicMs : ℕ) : SensorQualityPipeline Value :=
  if pipeline.determineDisposition sample nowMonotonicMs = .accepted then
    pipeline.take sample decay nowMonotonicMs
  else pipeline

def snapshot (nowMonotonicMs : ℕ) : SensorQualitySnapshot Value :=
  let quality := pipeline.quality nowMonotonicMs
  { identity := pipeline.lastKnownIdentity
    quality
    rawCelsius := pipeline.rawCelsius
    correctedCelsius := if quality = .failed then none else pipeline.correctedCelsius
    filteredCelsius :=
      if quality = .failed then none else pipeline.lowPassFilter.filteredValue
    appliedOffset := if quality = .failed then none else pipeline.appliedOffset
    lastAcceptedSampleAgeMs :=
      pipeline.lastAcceptedTimestampMs.map (saturatingAgeMs nowMonotonicMs)
    lastValidSampleAgeMs := pipeline.lastValidTimestampMs.map (saturatingAgeMs nowMonotonicMs)
    lastFaultReason := pipeline.lastFaultReason
    consecutiveInvalidCount := pipeline.consecutiveInvalidCount
    recoveryProgressCount := pipeline.recoveryProgressCount
    changeRateCelsiusPerSecond := pipeline.changeRateCelsiusPerSecond }

/-! ## What the parts leave alone -/

variable {pipeline sample} {decay : Decay Value} {nowMonotonicMs : ℕ} {celsius : Value}
variable {reason : SensorFaultReason}

theorem expire_of_failure (h : pipeline.rawFailure nowMonotonicMs = true) :
    (pipeline.expire nowMonotonicMs).medianFilter = pipeline.medianFilter.reset ∧
      (pipeline.expire nowMonotonicMs).lowPassFilter = pipeline.lowPassFilter.reset ∧
      (pipeline.expire nowMonotonicMs).lastFilterEffectiveOffsetCelsius = none ∧
      (pipeline.expire nowMonotonicMs).recoveryProgressCount = 0 ∧
      (pipeline.expire nowMonotonicMs).failedLatched = true ∧
      (pipeline.expire nowMonotonicMs).rateReferenceCelsius = none := by
  rw [expire, if_pos h]
  exact ⟨rfl, rfl, rfl, rfl, rfl, rfl⟩

theorem expire_of_no_failure (h : pipeline.rawFailure nowMonotonicMs = false) :
    pipeline.expire nowMonotonicMs = pipeline := by
  rw [expire, if_neg (ne_true_of_eq_false h)]

@[simp]
theorem config_expire : (pipeline.expire nowMonotonicMs).config = pipeline.config := by
  rw [expire]
  split <;> rfl

@[simp]
theorem calibration_expire :
    (pipeline.expire nowMonotonicMs).calibration = pipeline.calibration := by
  rw [expire]
  split <;> rfl

@[simp]
theorem lastAccepted_expire :
    (pipeline.expire nowMonotonicMs).lastAccepted = pipeline.lastAccepted := by
  rw [expire]
  split <;> rfl

@[simp]
theorem determineDisposition_expire {atMs : ℕ} :
    (pipeline.expire nowMonotonicMs).determineDisposition sample atMs =
      pipeline.determineDisposition sample atMs := by
  simp only [determineDisposition, lastAccepted_expire]

@[simp]
theorem lastKnownIdentity_expire :
    (pipeline.expire nowMonotonicMs).lastKnownIdentity = pipeline.lastKnownIdentity := by
  rw [expire]
  split <;> rfl

@[simp]
theorem config_contribute :
    (pipeline.contribute sample decay celsius).config = pipeline.config := by
  rw [contribute]
  dsimp only
  split <;> rfl

@[simp]
theorem lastAccepted_contribute :
    (pipeline.contribute sample decay celsius).lastAccepted = pipeline.lastAccepted := by
  rw [contribute]
  dsimp only
  split <;> rfl

@[simp]
theorem lastKnownIdentity_contribute :
    (pipeline.contribute sample decay celsius).lastKnownIdentity =
      pipeline.lastKnownIdentity := by
  rw [contribute]
  dsimp only
  split <;> rfl

@[simp]
theorem config_recordInvalidSample :
    (pipeline.recordInvalidSample reason).config = pipeline.config := by
  rw [recordInvalidSample]
  dsimp only
  split <;> rfl

@[simp]
theorem lastAccepted_recordInvalidSample :
    (pipeline.recordInvalidSample reason).lastAccepted = pipeline.lastAccepted := by
  rw [recordInvalidSample]
  dsimp only
  split <;> rfl

@[simp]
theorem lastKnownIdentity_recordInvalidSample :
    (pipeline.recordInvalidSample reason).lastKnownIdentity = pipeline.lastKnownIdentity := by
  rw [recordInvalidSample]
  dsimp only
  split <;> rfl

@[simp]
theorem calibration_recordInvalidSample :
    (pipeline.recordInvalidSample reason).calibration = pipeline.calibration := by
  rw [recordInvalidSample]
  dsimp only
  split <;> rfl

@[simp]
theorem calibration_contribute :
    (pipeline.contribute sample decay celsius).calibration = pipeline.calibration := by
  rw [contribute]
  dsimp only
  split <;> rfl

@[simp]
theorem calibration_noted :
    (pipeline.noted sample nowMonotonicMs).calibration = pipeline.calibration :=
  calibration_expire

@[simp]
theorem calibration_recover :
    (pipeline.recover sample celsius).calibration = pipeline.calibration := rfl

@[simp]
theorem config_noted : (pipeline.noted sample nowMonotonicMs).config = pipeline.config :=
  config_expire

@[simp]
theorem config_recover : (pipeline.recover sample celsius).config = pipeline.config := rfl

@[simp]
theorem lastAccepted_noted :
    (pipeline.noted sample nowMonotonicMs).lastAccepted = some sample := rfl

@[simp]
theorem lastKnownIdentity_noted :
    (pipeline.noted sample nowMonotonicMs).lastKnownIdentity =
      sample.identity.or pipeline.lastKnownIdentity :=
  congrArg sample.identity.or lastKnownIdentity_expire

/-- An accepted sample is newer than the one accepted before it, and not from the future. -/
theorem timestamps_of_accepted
    (h : pipeline.determineDisposition sample nowMonotonicMs = .accepted) :
    sample.monotonicTimestampMs ≤ nowMonotonicMs ∧
      ∀ last, pipeline.lastAccepted = some last →
        last.monotonicTimestampMs < sample.monotonicTimestampMs := by
  rw [determineDisposition] at h
  cases hlast : pipeline.lastAccepted with
  | none =>
      simp only [hlast] at h
      split at h
      · cases h
      · next hpast => exact ⟨Nat.not_lt.mp hpast, nofun⟩
  | some last =>
      simp only [hlast] at h
      split at h
      · split at h <;> cases h
      · next hne =>
          split at h
          · cases h
          · next hnewer =>
              split at h
              · cases h
              · next hpast =>
                  constructor
                  · omega
                  · intro found hfound
                    cases hfound
                    omega

theorem tauSeconds_shiftedLowPass {effectiveOffset : Value} :
    (pipeline.shiftedLowPass effectiveOffset).tauSeconds = pipeline.lowPassFilter.tauSeconds := by
  rw [shiftedLowPass]
  repeat' split
  all_goals rfl

/-- The filters of the pipeline in which a verdict is entered. -/
@[simp]
theorem medianFilter_noted :
    (pipeline.noted sample nowMonotonicMs).medianFilter =
      (pipeline.expire nowMonotonicMs).medianFilter := rfl

@[simp]
theorem lowPassFilter_noted :
    (pipeline.noted sample nowMonotonicMs).lowPassFilter =
      (pipeline.expire nowMonotonicMs).lowPassFilter := rfl

@[simp]
theorem medianFilter_recover :
    (pipeline.recover sample celsius).medianFilter = pipeline.medianFilter := rfl

@[simp]
theorem shiftedLowPass_noted {effectiveOffset : Value} :
    (pipeline.noted sample nowMonotonicMs).shiftedLowPass effectiveOffset =
      (pipeline.expire nowMonotonicMs).shiftedLowPass effectiveOffset := rfl

@[simp]
theorem shiftedLowPass_recover {effectiveOffset : Value} :
    (pipeline.recover sample celsius).shiftedLowPass effectiveOffset =
      pipeline.shiftedLowPass effectiveOffset := rfl

theorem effectiveOffsetFor_noted_recover :
    ((pipeline.noted sample nowMonotonicMs).recover sample celsius).effectiveOffsetFor sample =
      pipeline.effectiveOffsetFor sample := by
  simp only [effectiveOffsetFor, calibration_recover, calibration_noted]

/-- The filters after one more contribution. -/
theorem contribute_filters {median offset : Value}
    (h : MedianFilter.median (pipeline.medianFilter.push celsius) = some median)
    (hoffset : (pipeline.effectiveOffsetFor sample).getD 0 = offset) :
    (pipeline.contribute sample decay celsius).medianFilter = pipeline.medianFilter.push celsius ∧
      (pipeline.contribute sample decay celsius).correctedCelsius = some (median + offset) ∧
      (pipeline.contribute sample decay celsius).lowPassFilter =
        (pipeline.shiftedLowPass offset).update decay (median + offset)
          sample.monotonicTimestampMs ∧
      (pipeline.contribute sample decay celsius).lastFilterEffectiveOffsetCelsius =
        some offset := by
  simp only [contribute, h, hoffset, and_self]

/-- What becomes of the filters at a fault. -/
theorem recordInvalidSample_of_discards
    (h : pipeline.countInvalid.discardsFilters reason = true) :
    (pipeline.recordInvalidSample reason).medianFilter = pipeline.medianFilter.reset ∧
      (pipeline.recordInvalidSample reason).lowPassFilter = pipeline.lowPassFilter.reset ∧
      (pipeline.recordInvalidSample reason).lastFilterEffectiveOffsetCelsius = none ∧
      (pipeline.recordInvalidSample reason).correctedCelsius = none := by
  rw [recordInvalidSample, if_pos h]
  exact ⟨rfl, rfl, rfl, rfl⟩

theorem recordInvalidSample_of_keeps
    (h : pipeline.countInvalid.discardsFilters reason = false) :
    (pipeline.recordInvalidSample reason).medianFilter = pipeline.medianFilter ∧
      (pipeline.recordInvalidSample reason).lowPassFilter = pipeline.lowPassFilter ∧
      (pipeline.recordInvalidSample reason).lastFilterEffectiveOffsetCelsius =
        pipeline.lastFilterEffectiveOffsetCelsius ∧
      (pipeline.recordInvalidSample reason).correctedCelsius = pipeline.correctedCelsius := by
  rw [recordInvalidSample, if_neg (ne_true_of_eq_false h)]
  exact ⟨rfl, rfl, rfl, rfl⟩

/-- A limit that is exceeded stays exceeded until the next accepted sample. -/
theorem rawFailure_mono {atMs laterMs : ℕ} (hle : atMs ≤ laterMs)
    (h : pipeline.rawFailure atMs = true) : pipeline.rawFailure laterMs = true := by
  rw [rawFailure, Bool.or_eq_true] at h ⊢
  refine h.imp_left fun hage => ?_
  rw [ageFailed, Option.any_eq_true] at hage ⊢
  obtain ⟨last, hlast, hexceeds⟩ := hage
  refine ⟨last, hlast, decide_eq_true ?_⟩
  have hsmaller : saturatingAgeMs atMs last ≤ saturatingAgeMs laterMs last := by
    rw [saturatingAgeMs, saturatingAgeMs]
    split <;> split <;> omega
  exact (of_decide_eq_true hexceeds).trans_le hsmaller

/-- A failure before the sample discards the filters whatever the sample shows. -/
theorem discardsFilters_of_failure (h : pipeline.rawFailure nowMonotonicMs = true) :
    (pipeline.noted sample nowMonotonicMs).countInvalid.discardsFilters reason = true := by
  have hlatched : (pipeline.noted sample nowMonotonicMs).countInvalid.failedLatched = true :=
    (expire_of_failure h).2.2.2.2.1
  rw [discardsFilters, hlatched, Bool.or_true, Bool.true_or]

@[simp]
theorem identityMismatch_expire :
    (pipeline.expire nowMonotonicMs).identityMismatch sample =
      pipeline.identityMismatch sample := by
  rw [identityMismatch, lastAccepted_expire]
  rfl

/-- Where the probe was exchanged, nothing else is checked. -/
theorem judge_of_mismatch (h : pipeline.identityMismatch sample = true) :
    (pipeline.expire nowMonotonicMs).judge sample = .error .identityMismatch := by
  rw [judge, measure, identityMismatch_expire, if_pos h]

end SensorQualityPipeline

end Fermentationsschrank.DevicePlatform

import Fermentationsschrank.Sensors.SensorQualityPipeline
import Mathlib.Algebra.Order.Ring.Rat
import Mathlib.Tactic.NormNum

/-!
# Runs of a sensor pipeline

The calls a pipeline receives, and next to its state the samples behind it: every accepted
one, those accepted since the filters were last reset, those that have entered the filters
since then, and the unbroken series of valid ones.
-/

namespace Fermentationsschrank.DevicePlatform

variable {Value : Type} [Field Value] [LinearOrder Value]

inductive SensorCall (Value : Type) [Field Value] [LinearOrder Value]
  | ingest (sample : TemperatureReading Value) (nowMonotonicMs : ℕ)
  | setCalibration (calibration : Option (SensorCalibration Value))
  | snapshot (nowMonotonicMs : ℕ)

/-- The clock of a call; a calibration is set without one. -/
def SensorCall.time : SensorCall Value → Option ℕ
  | .ingest _ nowMonotonicMs => some nowMonotonicMs
  | .setCalibration _ => none
  | .snapshot nowMonotonicMs => some nowMonotonicMs

/-- What a call does to the pipeline. -/
def SensorCall.perform (decay : Decay Value) (pipeline : SensorQualityPipeline Value) :
    SensorCall Value → SensorQualityPipeline Value
  | .ingest sample nowMonotonicMs => pipeline.ingest sample decay nowMonotonicMs
  | .setCalibration calibration => pipeline.setCalibration calibration
  | .snapshot _ => pipeline

/-- The median of the last values, as many as the window takes. -/
def windowMedian (capacity : ℕ) (values : List Value) : Option Value :=
  let window := values.rtake capacity
  (window.insertionSort (· ≤ ·))[window.length / 2]?

/-- A sample in the filters: its value, the median it made and the offset it met. -/
structure Contribution (Value : Type) where
  sample : TemperatureReading Value
  celsius : Value
  median : Value
  offset : Value
  deriving DecidableEq

structure TrackedPipeline (Value : Type) [Field Value] [LinearOrder Value] where
  pipeline : SensorQualityPipeline Value
  history : List (TemperatureReading Value) := []
  sinceReset : List (TemperatureReading Value) := []
  contributing : List (Contribution Value) := []
  streak : List (TemperatureReading Value) := []

namespace TrackedPipeline

variable (tracked : TrackedPipeline Value) (sample : TemperatureReading Value)

def create (config : SensorQualityConfig Value) : TrackedPipeline Value where
  pipeline := SensorQualityPipeline.create config

/-- The samples behind the state once a failure before the next sample is accounted for. -/
def expire (nowMonotonicMs : ℕ) : TrackedPipeline Value :=
  if tracked.pipeline.rawFailure nowMonotonicMs then
    { pipeline := tracked.pipeline.expire nowMonotonicMs
      history := tracked.history }
  else tracked

def reject (reason : SensorFaultReason) (nowMonotonicMs : ℕ) : TrackedPipeline Value :=
  let noted := tracked.pipeline.noted sample nowMonotonicMs
  let discards := noted.countInvalid.discardsFilters reason
  { pipeline := noted.recordInvalidSample reason
    history := tracked.history ++ [sample]
    sinceReset := if discards then [] else tracked.sinceReset ++ [sample]
    contributing := if discards then [] else tracked.contributing
    streak := [] }

def accept (decay : Decay Value) (celsius : Value) (nowMonotonicMs : ℕ) :
    TrackedPipeline Value :=
  let noted := tracked.pipeline.noted sample nowMonotonicMs
  let expired := tracked.expire nowMonotonicMs
  let values := expired.contributing.map (·.celsius) ++ [celsius]
  { pipeline := (noted.recover sample celsius).contribute sample decay celsius
    history := tracked.history ++ [sample]
    sinceReset := expired.sinceReset ++ [sample]
    contributing := expired.contributing ++
      [{ sample
         celsius
         median := (windowMedian tracked.pipeline.config.medianWindowSize values).getD celsius
         offset := (tracked.pipeline.effectiveOffsetFor sample).getD 0 }]
    streak := expired.streak ++ [sample] }

def ingest (decay : Decay Value) (nowMonotonicMs : ℕ) : TrackedPipeline Value :=
  if tracked.pipeline.determineDisposition sample nowMonotonicMs = .accepted then
    match (tracked.pipeline.expire nowMonotonicMs).judge sample with
    | .error reason => tracked.reject sample reason nowMonotonicMs
    | .ok celsius => tracked.accept sample decay celsius nowMonotonicMs
  else tracked

def call (decay : Decay Value) : SensorCall Value → TrackedPipeline Value
  | .ingest sample nowMonotonicMs => tracked.ingest sample decay nowMonotonicMs
  | .setCalibration calibration =>
    { tracked with pipeline := tracked.pipeline.setCalibration calibration }
  | .snapshot _ => tracked

def run (decay : Decay Value) (calls : List (SensorCall Value)) : TrackedPipeline Value :=
  calls.foldl (fun tracked call => tracked.call decay call) tracked

variable {tracked sample} {decay : Decay Value} {nowMonotonicMs : ℕ}

/-- The samples are only kept next to the pipeline. -/
theorem pipeline_ingest :
    (tracked.ingest sample decay nowMonotonicMs).pipeline =
      tracked.pipeline.ingest sample decay nowMonotonicMs := by
  rw [ingest, SensorQualityPipeline.ingest, SensorQualityPipeline.take]
  by_cases haccepted : tracked.pipeline.determineDisposition sample nowMonotonicMs = .accepted
  · rw [if_pos haccepted, if_pos haccepted]
    cases (tracked.pipeline.expire nowMonotonicMs).judge sample with
    | error reason => rfl
    | ok celsius => rfl
  · rw [if_neg haccepted, if_neg haccepted]

theorem pipeline_run (calls : List (SensorCall Value)) :
    (tracked.run decay calls).pipeline =
      calls.foldl (SensorCall.perform decay) tracked.pipeline := by
  induction calls generalizing tracked with
  | nil => rfl
  | cons call calls ih =>
      refine (@ih (tracked.call decay call)).trans (congrArg (calls.foldl _ ·) ?_)
      cases call with
      | ingest sample nowMonotonicMs => exact pipeline_ingest
      | setCalibration calibration => rfl
      | snapshot nowMonotonicMs => rfl

theorem run_append (calls later : List (SensorCall Value)) :
    tracked.run decay (calls ++ later) = (tracked.run decay calls).run decay later :=
  List.foldl_append

/-- What every rejected and every taken sample keeps, a run keeps; the clock of its calls may
be bounded from below. -/
theorem run_keeps {invariant : TrackedPipeline Value → Prop} {atMs : ℕ}
    (hcalibration : ∀ tracked : TrackedPipeline Value, ∀ calibration, invariant tracked →
      invariant { tracked with pipeline := tracked.pipeline.setCalibration calibration })
    (hreject : ∀ tracked : TrackedPipeline Value, ∀ sample reason nowMonotonicMs,
      invariant tracked → atMs ≤ nowMonotonicMs →
      tracked.pipeline.determineDisposition sample nowMonotonicMs = .accepted →
      (tracked.pipeline.expire nowMonotonicMs).judge sample = .error reason →
      invariant (tracked.reject sample reason nowMonotonicMs))
    (haccept : ∀ tracked : TrackedPipeline Value, ∀ sample celsius nowMonotonicMs,
      invariant tracked → atMs ≤ nowMonotonicMs →
      tracked.pipeline.determineDisposition sample nowMonotonicMs = .accepted →
      (tracked.pipeline.expire nowMonotonicMs).judge sample = .ok celsius →
      invariant (tracked.accept sample decay celsius nowMonotonicMs))
    {calls : List (SensorCall Value)}
    (hlater : ∀ call ∈ calls, ∀ timeMs ∈ call.time, atMs ≤ timeMs) (h : invariant tracked) :
    invariant (tracked.run decay calls) := by
  induction calls generalizing tracked with
  | nil => exact h
  | cons call calls ih =>
      refine ih (fun later hmem => hlater later (List.mem_cons_of_mem _ hmem)) ?_
      cases call with
      | snapshot => exact h
      | setCalibration calibration => exact hcalibration tracked calibration h
      | ingest sample nowMonotonicMs =>
          have hle : atMs ≤ nowMonotonicMs := hlater _ List.mem_cons_self _ rfl
          simp only [TrackedPipeline.call, ingest]
          split
          · next haccepted =>
              split
              · next reason hjudge =>
                  exact hreject tracked sample reason nowMonotonicMs h hle haccepted hjudge
              · next celsius hjudge =>
                  exact haccept tracked sample celsius nowMonotonicMs h hle haccepted hjudge
          · exact h

theorem config_reject {reason : SensorFaultReason} :
    (tracked.reject sample reason nowMonotonicMs).pipeline.config = tracked.pipeline.config := by
  rw [reject, SensorQualityPipeline.config_recordInvalidSample, SensorQualityPipeline.config_noted]

theorem config_accept {celsius : Value} :
    (tracked.accept sample decay celsius nowMonotonicMs).pipeline.config =
      tracked.pipeline.config := by
  rw [accept, SensorQualityPipeline.config_contribute, SensorQualityPipeline.config_recover,
    SensorQualityPipeline.config_noted]

theorem config_run {calls : List (SensorCall Value)} :
    (tracked.run decay calls).pipeline.config = tracked.pipeline.config :=
  @run_keeps _ _ _ _ _ (fun later => later.pipeline.config = tracked.pipeline.config) _
    (fun _ _ h => h) (fun _ _ _ _ h _ _ _ => config_reject.trans h)
    (fun _ _ _ _ h _ _ _ => config_accept.trans h) _ (fun _ _ _ _ => Nat.zero_le _) rfl

end TrackedPipeline

/-! ## A small pipeline -/

namespace Bench

/-- A decay that can be computed. -/
def decay : Decay ℚ where
  exp exponent := 1 / (1 - exponent)
  pos exponent h := one_div_pos.mpr (by linarith)
  le_one exponent h := (div_le_one (by linarith)).mpr (by linarith)

def config : SensorQualityConfig ℚ where
  medianWindowSize := 3
  lowPassTauSeconds := 1
  minPlausibleCelsius := 0
  maxPlausibleCelsius := 100
  maxRateOfChangeCelsiusPerSecond := 10
  maxStaleAgeMs := 60000
  maxConsecutiveInvalid := 2
  minConsecutiveValidSamples := 2
  minRecoveryStabilityDurationMs := 1000
  window_odd := rfl
  window_le := by decide
  tau_pos := by norm_num
  range_ordered := by norm_num
  min_le := by norm_num [kAbsoluteMinCelsius]
  le_max := by norm_num [kAbsoluteMaxCelsius]
  rate_pos := by norm_num
  staleAge_pos := by norm_num
  staleAge_le := by decide
  invalid_pos := by norm_num
  invalid_le := by decide
  two_le_valid := le_rfl
  valid_le := by decide
  duration_pos := by norm_num
  duration_le := by decide

def firstProbe : SensorIdentity := ⟨1, by decide⟩

def secondProbe : SensorIdentity := ⟨2, by decide⟩

/-- A good sample that is delivered when it is taken. -/
def sampled (identity : Option SensorIdentity) (timestampMs : ℕ) (celsius : ℚ) : SensorCall ℚ :=
  .ingest (.good identity timestampMs (.finite celsius)) timestampMs

/-- A fault of the bus, where nobody can tell which probe did not answer. -/
def busFault (timestampMs : ℕ) : SensorCall ℚ :=
  .ingest (.faulty none timestampMs .busFault (by decide)) timestampMs

end Bench

end Fermentationsschrank.DevicePlatform

import Fermentationsschrank.Run.RunState
import Mathlib.Algebra.Order.Field.Basic

/-!
# Readings and sensor parameters

A reading of one probe, its calibration and the parameters of its quality pipeline.  Real
arithmetic takes the place of floating point: a double is a value of an ordered field or one
of the values that are not finite.
-/

namespace Fermentationsschrank.DevicePlatform

variable {Value : Type} [Field Value] [LinearOrder Value]

/-- A double in exact arithmetic. -/
inductive ExactDouble (Value : Type)
  | finite (celsius : Value)
  | positiveInfinity
  | negativeInfinity
  | notANumber
  deriving DecidableEq, Repr

/-- An identity is never zero: an unknown one is an absent one. -/
structure SensorIdentity where
  value : UInt64
  nonzero : value ≠ 0
  deriving DecidableEq

def SensorIdentity.create (value : UInt64) : Option SensorIdentity :=
  if h : value = 0 then none else some ⟨value, h⟩

/-! ## Readings -/

inductive TemperatureSampleStatus
  | ok
  | busFault
  | crcFault
  | missingSample
  | knownInvalidMeasurement
  deriving DecidableEq, Repr

/-- A reading has a value exactly when its status is good. -/
structure TemperatureReading (Value : Type) where
  identity : Option SensorIdentity
  monotonicTimestampMs : ℕ
  status : TemperatureSampleStatus
  celsius : Option (ExactDouble Value)
  consistent : status = .ok ↔ celsius.isSome = true
  deriving DecidableEq

namespace TemperatureReading

/-- The value of a good reading. -/
def measured (sample : TemperatureReading Value) (h : sample.status = .ok) : ExactDouble Value :=
  sample.celsius.get (sample.consistent.mp h)

/-- A reading with a value. -/
def good (identity : Option SensorIdentity) (monotonicTimestampMs : ℕ)
    (celsius : ExactDouble Value) : TemperatureReading Value where
  identity
  monotonicTimestampMs
  status := .ok
  celsius := some celsius
  consistent := by simp

/-- A reading of a probe that did not answer properly. -/
def faulty (identity : Option SensorIdentity) (monotonicTimestampMs : ℕ)
    (status : TemperatureSampleStatus) (h : status ≠ .ok) : TemperatureReading Value where
  identity
  monotonicTimestampMs
  status
  celsius := none
  consistent := by simp [h]

end TemperatureReading

/-! ## Calibration -/

def kAbsoluteMinCelsius : Value := -40
def kAbsoluteMaxCelsius : Value := 150
def kMaxAbsoluteOffsetCelsius : Value := 10

structure SensorOffset (Value : Type) [Field Value] [LinearOrder Value] where
  celsius : Value
  bounded : |celsius| ≤ kMaxAbsoluteOffsetCelsius

inductive SensorOffsetStatus
  | nonFinite
  | outOfFirmwareRange
  deriving DecidableEq, Repr

def SensorOffset.create (celsius : ExactDouble Value) :
    Except SensorOffsetStatus (SensorOffset Value) :=
  match celsius with
  | .finite celsius =>
    if h : |celsius| ≤ kMaxAbsoluteOffsetCelsius then .ok ⟨celsius, h⟩
    else .error .outOfFirmwareRange
  | _ => .error .nonFinite

structure SensorCalibration (Value : Type) [Field Value] [LinearOrder Value] where
  identity : SensorIdentity
  offset : SensorOffset Value

/-! ## Parameters -/

def kMaxMedianWindowSize : ℕ := 15
def kMaxStaleAgeCeilingMs : ℕ := 86400000
def kMaxConsecutiveInvalidCeiling : ℕ := 1000
def kMaxRecoveryStabilityDurationCeilingMs : ℕ := 3600000
def kMaxConsecutiveValidSamplesCeiling : ℕ := 1000

structure SensorQualityConfig (Value : Type) [Field Value] [LinearOrder Value] where
  medianWindowSize : ℕ
  lowPassTauSeconds : Value
  minPlausibleCelsius : Value
  maxPlausibleCelsius : Value
  maxRateOfChangeCelsiusPerSecond : Value
  maxStaleAgeMs : ℕ
  maxConsecutiveInvalid : ℕ
  minConsecutiveValidSamples : ℕ
  minRecoveryStabilityDurationMs : ℕ
  window_odd : medianWindowSize % 2 = 1
  window_le : medianWindowSize ≤ kMaxMedianWindowSize
  tau_pos : 0 < lowPassTauSeconds
  range_ordered : minPlausibleCelsius < maxPlausibleCelsius
  min_le : kAbsoluteMinCelsius ≤ minPlausibleCelsius
  le_max : maxPlausibleCelsius ≤ kAbsoluteMaxCelsius
  rate_pos : 0 < maxRateOfChangeCelsiusPerSecond
  staleAge_pos : 0 < maxStaleAgeMs
  staleAge_le : maxStaleAgeMs ≤ kMaxStaleAgeCeilingMs
  invalid_pos : 0 < maxConsecutiveInvalid
  invalid_le : maxConsecutiveInvalid ≤ kMaxConsecutiveInvalidCeiling
  two_le_valid : 2 ≤ minConsecutiveValidSamples
  valid_le : minConsecutiveValidSamples ≤ kMaxConsecutiveValidSamplesCeiling
  duration_pos : 0 < minRecoveryStabilityDurationMs
  duration_le : minRecoveryStabilityDurationMs ≤ kMaxRecoveryStabilityDurationCeilingMs

inductive SensorQualityConfigStatus
  | invalidMedianWindowSize
  | nonFiniteParameter
  | invalidLowPassTimeConstant
  | invalidPlausibleRange
  | invalidRateOfChangeLimit
  | invalidStaleAgeThreshold
  | invalidConsecutiveInvalidLimit
  | invalidRecoveryThresholds
  deriving DecidableEq, Repr

/-- The checks stand in the order in which the firmware makes them; values that are not
finite are refused before anything is compared. -/
def SensorQualityConfig.create (medianWindowSize : ℕ)
    (lowPassTauSeconds minPlausibleCelsius maxPlausibleCelsius
      maxRateOfChangeCelsiusPerSecond : ExactDouble Value)
    (maxStaleAgeMs maxConsecutiveInvalid minConsecutiveValidSamples
      minRecoveryStabilityDurationMs : ℕ) :
    Except SensorQualityConfigStatus (SensorQualityConfig Value) :=
  match lowPassTauSeconds, minPlausibleCelsius, maxPlausibleCelsius,
    maxRateOfChangeCelsiusPerSecond with
  | .finite tau, .finite low, .finite high, .finite rate =>
    if hwindow : medianWindowSize % 2 = 1 ∧ medianWindowSize ≤ kMaxMedianWindowSize then
      if htau : 0 < tau then
        if hrange : low < high ∧ kAbsoluteMinCelsius ≤ low ∧ high ≤ kAbsoluteMaxCelsius then
          if hrate : 0 < rate then
            if hage : 0 < maxStaleAgeMs ∧ maxStaleAgeMs ≤ kMaxStaleAgeCeilingMs then
              if hinvalid : 0 < maxConsecutiveInvalid ∧
                  maxConsecutiveInvalid ≤ kMaxConsecutiveInvalidCeiling then
                if hrecovery : (2 ≤ minConsecutiveValidSamples ∧
                    minConsecutiveValidSamples ≤ kMaxConsecutiveValidSamplesCeiling) ∧
                    0 < minRecoveryStabilityDurationMs ∧
                    minRecoveryStabilityDurationMs ≤ kMaxRecoveryStabilityDurationCeilingMs then
                  .ok {
                    medianWindowSize
                    lowPassTauSeconds := tau
                    minPlausibleCelsius := low
                    maxPlausibleCelsius := high
                    maxRateOfChangeCelsiusPerSecond := rate
                    maxStaleAgeMs
                    maxConsecutiveInvalid
                    minConsecutiveValidSamples
                    minRecoveryStabilityDurationMs
                    window_odd := hwindow.1
                    window_le := hwindow.2
                    tau_pos := htau
                    range_ordered := hrange.1
                    min_le := hrange.2.1
                    le_max := hrange.2.2
                    rate_pos := hrate
                    staleAge_pos := hage.1
                    staleAge_le := hage.2
                    invalid_pos := hinvalid.1
                    invalid_le := hinvalid.2
                    two_le_valid := hrecovery.1.1
                    valid_le := hrecovery.1.2
                    duration_pos := hrecovery.2.1
                    duration_le := hrecovery.2.2 }
                else .error .invalidRecoveryThresholds
              else .error .invalidConsecutiveInvalidLimit
            else .error .invalidStaleAgeThreshold
          else .error .invalidRateOfChangeLimit
        else .error .invalidPlausibleRange
      else .error .invalidLowPassTimeConstant
    else .error .invalidMedianWindowSize
  | _, _, _, _ => .error .nonFiniteParameter

end Fermentationsschrank.DevicePlatform

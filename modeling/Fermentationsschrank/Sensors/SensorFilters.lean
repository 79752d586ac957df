import Fermentationsschrank.Core.RingBuffer
import Fermentationsschrank.Sensors.SensorReading
import Mathlib.Data.List.Sort
import Mathlib.Analysis.Complex.Exponential
import Mathlib.Tactic.Linarith
import Mathlib.Tactic.Ring

/-!
# Median and low pass

The two filters of a sensor pipeline.  The median takes raw values; the low pass takes the
corrected medians and is smoothed by the time between two samples.
-/

namespace Fermentationsschrank.DevicePlatform

variable {Value : Type} [Field Value] [LinearOrder Value]

/-! ## Median -/

abbrev MedianFilter (Value : Type) := RingBuffer Value kMaxMedianWindowSize

namespace MedianFilter

/-- Only an odd capacity that fits is taken; any other one leaves the filter empty for
good. -/
def create (capacity : ℕ) : MedianFilter Value :=
  if h : capacity ≠ 0 ∧ capacity ≤ kMaxMedianWindowSize ∧ capacity % 2 ≠ 0 then
    RingBuffer.empty 0 capacity h.2.1
  else RingBuffer.empty 0 0 (Nat.zero_le _)

/-- The middle of the sorted values; of an even number of values the upper middle. -/
def median (filter : MedianFilter Value) : Option Value :=
  (filter.contents.insertionSort (· ≤ ·))[filter.size / 2]?

omit [Field Value] in
theorem median_eq_none {filter : MedianFilter Value} :
    median filter = none ↔ filter.size = 0 := by
  rw [median, List.getElem?_eq_none_iff, List.length_insertionSort, RingBuffer.length_contents]
  omega

omit [LinearOrder Value] in
theorem capacity_create {capacity : ℕ} (hodd : capacity % 2 = 1)
    (hle : capacity ≤ kMaxMedianWindowSize) :
    (create capacity : MedianFilter Value).capacity = capacity := by
  rw [create, dif_pos ⟨by omega, hle, by omega⟩]
  rfl

omit [LinearOrder Value] in
theorem holds_create {capacity : ℕ} : (create capacity : MedianFilter Value).Holds [] := by
  rw [create]
  split <;> exact RingBuffer.holds_empty _

end MedianFilter

/-! ## Low pass -/

/-- What the low pass needs of the exponential function: on the negative axis it lies
between zero and one. -/
structure Decay (Value : Type) [Field Value] [LinearOrder Value] where
  exp : Value → Value
  pos : ∀ exponent ≤ 0, 0 < exp exponent
  le_one : ∀ exponent ≤ 0, exp exponent ≤ 1

/-- The exponential function itself. -/
noncomputable def Decay.real : Decay ℝ where
  exp := Real.exp
  pos _ _ := Real.exp_pos _
  le_one _ h := Real.exp_le_one_iff.mpr h

structure LowPassFilter (Value : Type) where
  tauSeconds : Value
  filteredValue : Option Value := none
  lastTimestampMs : Option ℕ := none

namespace LowPassFilter

/-- The share of the new input after a time step. -/
def alpha (decay : Decay Value) (tauSeconds : Value) (elapsedMs : ℕ) : Value :=
  1 - decay.exp (-((elapsedMs : Value) / 1000) / tauSeconds)

/-- The first input is taken over; a later one moves the state towards it.  A filter without
a positive time constant and a step back in time change nothing. -/
def update (decay : Decay Value) (filter : LowPassFilter Value) (input : Value)
    (timestampMs : ℕ) : LowPassFilter Value :=
  if filter.tauSeconds ≤ 0 then filter
  else
    match filter.filteredValue with
    | none => { filter with filteredValue := some input, lastTimestampMs := some timestampMs }
    | some filtered =>
      match filter.lastTimestampMs with
      | none => filter
      | some last =>
        if timestampMs < last then filter
        else
          { filter with
            filteredValue := some (filtered +
              (input - filtered) * alpha decay filter.tauSeconds (timestampMs - last))
            lastTimestampMs := some timestampMs }

def shiftState (filter : LowPassFilter Value) (delta : Value) : LowPassFilter Value :=
  { filter with filteredValue := filter.filteredValue.map (· + delta) }

def reset (filter : LowPassFilter Value) : LowPassFilter Value :=
  { filter with filteredValue := none, lastTimestampMs := none }

end LowPassFilter

end Fermentationsschrank.DevicePlatform

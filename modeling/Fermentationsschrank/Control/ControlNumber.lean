import Fermentationsschrank.Storage.Binary64
import Mathlib.Algebra.Order.Field.Basic
import Mathlib.Algebra.Order.Field.Rat
import Mathlib.Algebra.Order.Floor.Ring
import Mathlib.Data.Rat.Floor

/-!
# Numbers of the control code

The controller and the planner compute with `double` values.  The model takes
their operations from a type class and assumes nothing of the rounding; where a
result needs exact arithmetic, it is stated for an ordered field.
-/

namespace Fermentationsschrank

/-- The operations on `double` that the control code uses. -/
class ControlNumber (K : Type) extends Zero K, One K, Add K, Sub K, Mul K, Div K, Neg K where
  ofBinary64 : Binary64 → K
  /-- `static_cast<double>` of a number of milliseconds. -/
  ofMillis : UInt64 → K
  /-- `std::floor(value + 0.5)` as a number of milliseconds. -/
  roundHalfUp : K → UInt64
  isFinite : K → Bool
  lt : K → K → Bool
  le : K → K → Bool
  eq : K → K → Bool

namespace ControlNumber

variable {K : Type} [ControlNumber K]

/-- `std::min` -/
def smaller (left right : K) : K := if lt right left then right else left

/-- `std::max` -/
def larger (left right : K) : K := if lt left right then right else left

/-- `std::clamp(value, 0.0, 1.0)` -/
def clampQuote (value : K) : K :=
  if lt value 0 then 0 else if lt 1 value then 1 else value

/-- `std::fabs` -/
def magnitude (value : K) : K := if lt value 0 then -value else value

end ControlNumber

/-- The magnitude of a finite bit pattern in units of the smallest subnormal. -/
def Binary64.ulps (magnitude : ℕ) : ℕ :=
  if magnitude < 2 ^ 52 then magnitude
  else (2 ^ 52 + magnitude % 2 ^ 52) * 2 ^ (magnitude / 2 ^ 52 - 1)

/-- The number a finite value denotes. -/
def Binary64.toRat : Binary64 → ℚ
  | nan => 0
  | ordered position =>
      (position.val.sign * Binary64.ulps position.val.natAbs : ℤ) / 2 ^ 1074

/-- Exact arithmetic in place of the floating point: every number is finite. -/
instance (priority := low) exactNumber {K : Type} [Field K] [LinearOrder K] [FloorRing K] :
    ControlNumber K where
  ofBinary64 value := (value.toRat : K)
  ofMillis millis := (millis.toNat : K)
  roundHalfUp value := UInt64.ofNat ⌊value + 1 / 2⌋.toNat
  isFinite _ := true
  lt left right := decide (left < right)
  le left right := decide (left ≤ right)
  eq left right := decide (left = right)

/-! ## Exact arithmetic -/

section Exact

open ControlNumber (isFinite lt le eq smaller larger magnitude)

variable {K : Type} [Field K] [LinearOrder K] [FloorRing K] {left right value : K}

@[simp]
theorem exact_lt : lt left right = decide (left < right) := rfl

@[simp]
theorem exact_le : le left right = decide (left ≤ right) := rfl

@[simp]
theorem exact_eq : eq left right = decide (left = right) := rfl

@[simp]
theorem exact_isFinite : isFinite value = true := rfl

theorem exact_smaller : smaller left right = min left right := by
  rw [smaller, exact_lt]
  by_cases h : right < left
  · rw [if_pos (decide_eq_true h), min_eq_right h.le]
  · rw [if_neg (by simpa using h), min_eq_left (not_lt.mp h)]

theorem exact_larger : larger left right = max left right := by
  rw [larger, exact_lt]
  by_cases h : left < right
  · rw [if_pos (decide_eq_true h), max_eq_right h.le]
  · rw [if_neg (by simpa using h), max_eq_left (not_lt.mp h)]

theorem exact_magnitude [IsStrictOrderedRing K] : magnitude value = |value| := by
  rw [magnitude, exact_lt]
  by_cases h : value < 0
  · rw [if_pos (decide_eq_true h), abs_of_neg h]
  · rw [if_neg (by simpa using h), abs_of_nonneg (not_lt.mp h)]

end Exact

end Fermentationsschrank

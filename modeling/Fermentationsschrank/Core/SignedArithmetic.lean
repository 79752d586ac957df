import Mathlib.Algebra.Group.Int.Defs
import Mathlib.Algebra.Group.Nat.Defs
import Mathlib.Data.Int.Order.Basic

/-!
# Signed words

Signed arithmetic of 64 bits whose result is undefined when it leaves the range of the
word.  A computation that comes out as a value has performed no such operation.
-/

namespace Fermentationsschrank

namespace Signed

/-- The word that stands for a value, if there is one. -/
def word (value : ℤ) : Option Int64 :=
  if -2 ^ 63 ≤ value ∧ value < 2 ^ 63 then some (Int64.ofInt value) else none

def add (left right : Int64) : Option Int64 := word (left.toInt + right.toInt)
def sub (left right : Int64) : Option Int64 := word (left.toInt - right.toInt)
def neg (operand : Int64) : Option Int64 := word (-operand.toInt)

theorem exists_word {value : ℤ} (hlow : -2 ^ 63 ≤ value) (hhigh : value < 2 ^ 63) :
    ∃ result, word value = some result ∧ result.toInt = value :=
  ⟨Int64.ofInt value, if_pos ⟨hlow, hhigh⟩, Int64.toInt_ofInt_of_le hlow hhigh⟩

/-! ## Conversions -/

theorem toNat_toUInt64 {value : Int64} (h : 0 ≤ value.toInt) :
    (value.toUInt64.toNat : ℤ) = value.toInt := by
  have hle : 0 ≤ value := Int64.le_iff_toInt_le.mpr h
  rw [Int64.toNat_toUInt64_of_le hle, ← Int64.toNat_toInt, Int.toNat_of_nonneg h]

theorem toInt_toInt64 {value : UInt64} (h : value.toNat < 2 ^ 63) :
    value.toInt64.toInt = value.toNat := by
  have hword : value.toInt64 = Int64.ofNat value.toNat := by
    rw [← UInt64.toInt64_ofNat', UInt64.ofNat_toNat]
  rw [hword, Int64.toInt_ofNat_of_lt h]

end Signed

end Fermentationsschrank

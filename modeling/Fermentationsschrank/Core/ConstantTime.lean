import Fermentationsschrank.Core.Format

/-!
# Comparison in constant time

Secrets are compared by accumulating the difference of every pair of bytes, so that
the time does not tell where they differ.  The comparison is equality.
-/

namespace Fermentationsschrank

/-- The accumulated difference of two strings, byte by byte. -/
def accumulatedDifference (left right : Bytes) : Byte :=
  (left.zip right).foldl (fun difference pair => difference ||| (pair.1 ^^^ pair.2)) 0

/-- Nothing is taken back from what was accumulated before. -/
theorem foldl_difference_eq_zero_iff {left right : Bytes} (start : Byte)
    (hlength : left.length = right.length) :
    (left.zip right).foldl (fun difference pair => difference ||| (pair.1 ^^^ pair.2)) start = 0 ↔
      start = 0 ∧ left = right := by
  induction left generalizing right start with
  | nil =>
      cases right with
      | nil => simp
      | cons _ _ => simp at hlength
  | cons byte left ih =>
      cases right with
      | nil => simp at hlength
      | cons other right =>
          rw [List.zip_cons_cons, List.foldl_cons, ih _ (by simpa using hlength),
            UInt8.or_eq_zero_iff, UInt8.xor_eq_zero_iff, List.cons.injEq, and_assoc]

theorem accumulatedDifference_eq_zero_iff {left right : Bytes}
    (hlength : left.length = right.length) :
    accumulatedDifference left right = 0 ↔ left = right := by
  rw [accumulatedDifference, foldl_difference_eq_zero_iff 0 hlength, and_iff_right rfl]

/-- Arrays of one length. -/
def constantTimeEqual {length : ℕ} (left right : Vector Byte length) : Bool :=
  accumulatedDifference left.toList right.toList == 0

@[simp]
theorem constantTimeEqual_iff {length : ℕ} {left right : Vector Byte length} :
    constantTimeEqual left right = true ↔ left = right := by
  rw [constantTimeEqual, beq_iff_eq, accumulatedDifference_eq_zero_iff (by simp),
    Vector.toList_inj]

end Fermentationsschrank

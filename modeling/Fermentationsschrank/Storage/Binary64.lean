import Fermentationsschrank.Core.Format

/-!
# Binary64 values and their wire format

The run logic compares `double` values with each other and with constants,
asks whether they are finite, and stores them.  It never computes with them
and never looks at the sign of a zero, and the codec writes `-0.0` as `+0.0`.
A value is therefore either NaN or a position on the ordered line of the
remaining bit patterns, on which both zeros are the position `0` and the
infinities are the two ends.
-/

namespace Fermentationsschrank

/-- The bit pattern of `+∞`, the largest magnitude that is not NaN. -/
def kInfinityBits : ℕ := 0x7FF0000000000000

/-- A `double` up to the sign of zero. -/
inductive Binary64
  | nan
  | ordered (position : {position : Int // position.natAbs ≤ kInfinityBits})
  deriving DecidableEq, Repr

namespace Binary64

def isFinite : Binary64 → Bool
  | nan => false
  | ordered position => position.val.natAbs < kInfinityBits

/-- `left < right` of the language: false when an operand is NaN. -/
def lt : Binary64 → Binary64 → Bool
  | ordered left, ordered right => left.val < right.val
  | _, _ => false

def le : Binary64 → Binary64 → Bool
  | ordered left, ordered right => left.val ≤ right.val
  | _, _ => false

/-- `left == right` of the language: false when an operand is NaN. -/
def eq : Binary64 → Binary64 → Bool
  | ordered left, ordered right => left.val = right.val
  | _, _ => false

/-- The value a bit pattern denotes. -/
def ofBits (bits : UInt64) : Binary64 :=
  if h : bits.toNat % 2 ^ 63 ≤ kInfinityBits then
    if bits.toNat < 2 ^ 63 then
      ordered ⟨Int.ofNat (bits.toNat % 2 ^ 63), h⟩
    else
      ordered ⟨-Int.ofNat (bits.toNat % 2 ^ 63), (Int.natAbs_neg _).le.trans h⟩
  else nan

/-- The pattern the encoder writes: none for NaN and the infinities, the
positive zero for both zeros. -/
def toBits : Binary64 → Option UInt64
  | nan => none
  | ordered position =>
      if position.val.natAbs < kInfinityBits then
        if 0 ≤ position.val then some (UInt64.ofNat position.val.natAbs)
        else some (UInt64.ofNat (2 ^ 63 + position.val.natAbs))
      else none

/-- The decoder rejects negative zero, NaN and the infinities. -/
def canonicalBits (bits : UInt64) : Bool :=
  bits.toNat ≠ 2 ^ 63 ∧ bits.toNat % 2 ^ 63 < kInfinityBits

theorem toBits_ofBits {bits : UInt64} (h : canonicalBits bits = true) :
    (ofBits bits).toBits = some bits := by
  simp only [canonicalBits, ne_eq, decide_eq_true_eq] at h
  obtain ⟨hzero, hfinite⟩ := h
  have hword := bits.toNat_lt
  unfold ofBits
  rw [dif_pos hfinite.le]
  by_cases hsign : bits.toNat < 2 ^ 63
  · have hmod : bits.toNat % 2 ^ 63 = bits.toNat := Nat.mod_eq_of_lt hsign
    rw [if_pos hsign]
    simp only [toBits, Int.ofNat_eq_natCast, Int.natAbs_natCast, Int.natCast_nonneg]
    rw [if_pos hfinite, if_pos trivial, hmod, UInt64.ofNat_toNat]
  · have hmod : 2 ^ 63 + bits.toNat % 2 ^ 63 = bits.toNat := by omega
    rw [if_neg hsign]
    simp only [toBits, Int.ofNat_eq_natCast, Int.natAbs_neg, Int.natAbs_natCast]
    rw [if_pos hfinite, if_neg (by omega), hmod, UInt64.ofNat_toNat]

theorem ofBits_toBits {value : Binary64} {bits : UInt64}
    (h : value.toBits = some bits) :
    ofBits bits = value ∧ canonicalBits bits = true := by
  cases value with
  | nan => cases h
  | ordered position =>
      obtain ⟨position, hposition⟩ := position
      simp only [toBits] at h
      split at h
      · rename_i hfinite
        have hbound : kInfinityBits < 2 ^ 63 := by decide
        split at h
        · rename_i hsign
          cases h
          have hword : (UInt64.ofNat position.natAbs).toNat = position.natAbs :=
            UInt64.toNat_ofNat_of_lt' (show position.natAbs < 2 ^ 64 by omega)
          have hmod : position.natAbs % 2 ^ 63 = position.natAbs :=
            Nat.mod_eq_of_lt (by omega)
          constructor
          · simp only [ofBits, hword, hmod, dif_pos hposition]
            rw [if_pos (by omega)]
            congr
            exact Int.natAbs_of_nonneg hsign
          · simp only [canonicalBits, hword, hmod, decide_eq_true_eq]
            omega
        · rename_i hsign
          cases h
          have hword : (UInt64.ofNat (2 ^ 63 + position.natAbs)).toNat =
              2 ^ 63 + position.natAbs :=
            UInt64.toNat_ofNat_of_lt' (show 2 ^ 63 + position.natAbs < 2 ^ 64 by omega)
          have hmod : (2 ^ 63 + position.natAbs) % 2 ^ 63 = position.natAbs := by
            omega
          constructor
          · simp only [ofBits, hword, hmod, dif_pos hposition]
            rw [if_neg (by omega)]
            congr
            rw [Int.ofNat_eq_natCast]
            omega
          · simp only [canonicalBits, hword, hmod, decide_eq_true_eq]
            omega
      · cases h

theorem toBits_isSome {value : Binary64} :
    value.toBits.isSome = true ↔ value.isFinite = true := by
  cases value with
  | nan => simp [toBits, isFinite]
  | ordered position =>
      simp only [toBits, isFinite, decide_eq_true_eq]
      split <;> [split; skip] <;> simp_all

/-- Equal values are equal, since the sign of a zero is not part of a value. -/
theorem eq_of_eq {left right : Binary64} (h : left.eq right = true) :
    left = right := by
  cases left with
  | nan => cases h
  | ordered left =>
      cases right with
      | nan => cases h
      | ordered right =>
          simp only [Binary64.eq, decide_eq_true_eq] at h
          rw [Subtype.ext h]

end Binary64

namespace Format

/-- The eight big-endian bytes of a finite value. -/
def binary64 : Format Binary64 :=
  (uint64.guard Binary64.canonicalBits).embed Binary64.ofBits Binary64.toBits
    (by
      intro bits bytes rest hread
      have hguard : ∃ tail, (uint64.read bytes).filter
          (fun found => Binary64.canonicalBits found.1) = some (bits, tail) :=
        ⟨rest, hread⟩
      obtain ⟨tail, hguard⟩ := hguard
      exact Binary64.toBits_ofBits (Option.filter_eq_some_iff.mp hguard).2)
    (fun value bits h => (Binary64.ofBits_toBits h).1)

@[simp]
theorem readable_binary64 (value : Binary64) : binary64.Readable value := by
  intro bits _
  exact readable_uint64 bits

instance : binary64.Total := ⟨readable_binary64⟩

end Format

end Fermentationsschrank

import Fermentationsschrank.Core.SignedArithmetic
import Fermentationsschrank.Run.RecoveryTime
import Mathlib.Tactic.Linarith

/-!
# Arithmetic of the recovery time

The recovery time mixes signed UTC seconds with unsigned counters.  The source avoids
signed overflow by hand; here its signed operations are written out, and none of them
ever leaves its range.  What the checked operations compute is then said in integers.
-/

namespace Fermentationsschrank

/-! ## The signed operations of the source -/

/-- `checkedNonNegativeInt64Difference`, with its signed operations. -/
def signedDifference (later earlier : Int64) : Option (Option UInt64) :=
  if later < earlier then some none
  else if earlier < 0 ∧ 0 ≤ later then do
    let successor ← Signed.add earlier 1
    let magnitude ← Signed.neg successor
    return some (later.toUInt64 + (magnitude.toUInt64 + 1))
  else do
    let difference ← Signed.sub later earlier
    return some difference.toUInt64

/-- `checkedAddSignedUnsigned`, with its signed operations. -/
def signedAddUnsigned (base : Int64) (offset : UInt64) : Option (Option Int64) :=
  if 0 ≤ base then
    if maxInt64.toUInt64 - base.toUInt64 < offset then some none
    else do
      let sum ← Signed.add base offset.toInt64
      return some sum
  else do
    let successor ← Signed.add base 1
    let magnitude ← Signed.neg successor
    let negativeMagnitude := magnitude.toUInt64 + 1
    if maxInt64.toUInt64 + negativeMagnitude < offset then some none
    else if negativeMagnitude ≤ offset then some (some (offset - negativeMagnitude).toInt64)
    else do
      let sum ← Signed.add base offset.toInt64
      return some sum

/-- `deriveUtcAtRecoveryBootAnchor`, with its signed operations. -/
def signedUtcAtRecoveryBootAnchor (utcNow : Option Int64)
    (nowMonotonicMillis recoveryBootAnchorMonotonicMillis : UInt64) : Option (Option Int64) :=
  match utcNow with
  | none => some none
  | some utcNow =>
      if utcNow < 0 ∨ nowMonotonicMillis < recoveryBootAnchorMonotonicMillis then some none
      else
        let elapsedSeconds := (nowMonotonicMillis - recoveryBootAnchorMonotonicMillis) / 1000
        if maxInt64.toUInt64 < elapsedSeconds then some none
        else if utcNow < elapsedSeconds.toInt64 then some none
        else do
          let boot ← Signed.sub utcNow elapsedSeconds.toInt64
          return some boot

theorem toInt_maxInt64 : maxInt64.toInt = 2 ^ 63 - 1 := rfl

theorem toNat_maxInt64 : maxInt64.toUInt64.toNat = 2 ^ 63 - 1 := rfl

/-- The magnitude of a negative instant is found without negating the least one. -/
theorem negativeMagnitude {instant : Int64} (hnegative : instant.toInt < 0) :
    ∃ successor magnitude, Signed.add instant 1 = some successor ∧
      Signed.neg successor = some magnitude ∧
        ((magnitude.toUInt64 + 1).toNat : ℤ) = -instant.toInt := by
  have hleast := instant.le_toInt
  have hone : (1 : Int64).toInt = 1 := rfl
  obtain ⟨successor, hadd, hsuccessor⟩ :=
    @Signed.exists_word (instant.toInt + (1 : Int64).toInt) (by omega) (by omega)
  obtain ⟨magnitude, hneg, hmagnitude⟩ :=
    @Signed.exists_word (-successor.toInt) (by omega) (by omega)
  refine ⟨successor, magnitude, hadd, hneg, ?_⟩
  have hword := @Signed.toNat_toUInt64 magnitude (by omega)
  rw [UInt64.toNat_add, UInt64.toNat_one, Nat.mod_eq_of_lt (by omega)]
  omega

theorem signedDifference_eq (later earlier : Int64) :
    signedDifference later earlier = some (checkedNonNegativeInt64Difference later earlier) := by
  rw [signedDifference, checkedNonNegativeInt64Difference]
  by_cases hbefore : later < earlier
  · rw [if_pos hbefore, if_pos hbefore]
  rw [if_neg hbefore, if_neg hbefore]
  rw [Int64.lt_iff_toInt_lt] at hbefore
  have hlater := later.toInt_lt
  have hearlier := earlier.le_toInt
  by_cases hsigns : earlier < 0 ∧ 0 ≤ later
  · obtain ⟨hnegative, hpositive⟩ := hsigns
    rw [if_pos ⟨hnegative, hpositive⟩]
    rw [Int64.lt_iff_toInt_lt, Int64.toInt_zero] at hnegative
    rw [Int64.le_iff_toInt_le, Int64.toInt_zero] at hpositive
    obtain ⟨successor, magnitude, hadd, hneg, hmagnitude⟩ := negativeMagnitude hnegative
    have hword := Signed.toNat_toUInt64 hpositive
    rw [hadd, Option.bind_eq_bind, Option.bind_some, hneg, Option.bind_some]
    refine congrArg (some ∘ some) (UInt64.toNat_inj.mp ?_)
    rw [UInt64.toNat_add, UInt64.toNat_ofNat_of_lt' (by rw [UInt64.size]; omega)]
    omega
  · rw [if_neg hsigns]
    rw [Int64.lt_iff_toInt_lt, Int64.le_iff_toInt_le, Int64.toInt_zero] at hsigns
    obtain ⟨difference, hsub, hdifference⟩ :=
      @Signed.exists_word (later.toInt - earlier.toInt) (by omega) (by omega)
    have hword := @Signed.toNat_toUInt64 difference (by omega)
    rw [Signed.sub, hsub, Option.bind_eq_bind, Option.bind_some]
    refine congrArg (some ∘ some) (UInt64.toNat_inj.mp ?_)
    rw [UInt64.toNat_ofNat_of_lt' (by rw [UInt64.size]; omega)]
    omega

/-- The words of one value are one word. -/
theorem ofInt_eq {value : ℤ} {result : Int64} (h : result.toInt = value) :
    Int64.ofInt value = result := by
  rw [← h, Int64.ofInt_toInt]

theorem signedAddUnsigned_eq (base : Int64) (offset : UInt64) :
    signedAddUnsigned base offset = some (checkedAddSignedUnsigned base offset) := by
  have hbase := base.toInt_lt
  rw [signedAddUnsigned, checkedAddSignedUnsigned, toInt_maxInt64]
  by_cases hsign : 0 ≤ base
  · rw [if_pos hsign]
    rw [Int64.le_iff_toInt_le, Int64.toInt_zero] at hsign
    have hword := Signed.toNat_toUInt64 hsign
    have hroom : (maxInt64.toUInt64 - base.toUInt64).toNat = 2 ^ 63 - 1 - base.toUInt64.toNat := by
      rw [UInt64.toNat_sub_of_le _ _ (UInt64.le_iff_toNat_le.mpr (by rw [toNat_maxInt64]; omega)),
        toNat_maxInt64]
    by_cases hfits : maxInt64.toUInt64 - base.toUInt64 < offset
    · rw [if_pos hfits]
      rw [UInt64.lt_iff_toNat_lt, hroom] at hfits
      rw [if_neg (by omega)]
    · rw [if_neg hfits]
      rw [UInt64.lt_iff_toNat_lt, hroom] at hfits
      have hoffset := @Signed.toInt_toInt64 offset (by omega)
      obtain ⟨sum, hadd, hsum⟩ :=
        @Signed.exists_word (base.toInt + offset.toInt64.toInt) (by omega) (by omega)
      rw [if_pos (by omega), Signed.add, hadd, Option.bind_eq_bind, Option.bind_some,
        ofInt_eq (by rw [hsum, hoffset])]
      rfl
  · rw [if_neg hsign]
    rw [Int64.le_iff_toInt_le, Int64.toInt_zero, not_le] at hsign
    have hleast := base.le_toInt
    obtain ⟨successor, magnitude, hadd, hneg, hmagnitude⟩ := negativeMagnitude hsign
    rw [hadd, Option.bind_eq_bind, Option.bind_some, hneg, Option.bind_some]
    have hroom : (maxInt64.toUInt64 + (magnitude.toUInt64 + 1)).toNat =
        2 ^ 63 - 1 + (magnitude.toUInt64 + 1).toNat := by
      rw [UInt64.toNat_add, toNat_maxInt64, Nat.mod_eq_of_lt (by omega)]
    dsimp only
    by_cases hfits : maxInt64.toUInt64 + (magnitude.toUInt64 + 1) < offset
    · rw [if_pos hfits]
      rw [UInt64.lt_iff_toNat_lt, hroom] at hfits
      rw [if_neg (by omega)]
    rw [if_neg hfits]
    rw [UInt64.lt_iff_toNat_lt, hroom] at hfits
    have hmodel : base.toInt + offset.toNat ≤ 2 ^ 63 - 1 := by omega
    rw [if_pos hmodel]
    by_cases hcrosses : magnitude.toUInt64 + 1 ≤ offset
    · rw [if_pos hcrosses]
      have hrest := UInt64.toNat_sub_of_le _ _ hcrosses
      rw [UInt64.le_iff_toNat_le] at hcrosses
      refine congrArg (some ∘ some) (ofInt_eq ?_).symm
      rw [Signed.toInt_toInt64 (by omega), hrest]
      omega
    · rw [if_neg hcrosses]
      rw [UInt64.le_iff_toNat_le] at hcrosses
      have hoffset := @Signed.toInt_toInt64 offset (by omega)
      obtain ⟨sum, hsigned, hsum⟩ :=
        @Signed.exists_word (base.toInt + offset.toInt64.toInt) (by omega) (by omega)
      rw [Signed.add, hsigned, Option.bind_some, ofInt_eq (by rw [hsum, hoffset])]
      rfl

theorem toInt_sub_of_le {left right : Int64} (hpositive : 0 ≤ right.toInt)
    (hle : right.toInt ≤ left.toInt) : (left - right).toInt = left.toInt - right.toInt := by
  have hleft := left.toInt_lt
  rw [Int64.toInt_sub, Int.bmod_eq_of_le]
  · omega
  · omega

theorem deriveUtcAtRecoveryBootAnchor_some (utc : Int64) (now boot : UInt64) :
    deriveUtcAtRecoveryBootAnchor (some utc) now boot =
      if utc < 0 ∨ now < boot ∨ maxInt64.toInt < ((now - boot) / 1000).toNat ∨
          utc.toInt < ((now - boot) / 1000).toNat then none
      else some (utc - ((now - boot) / 1000).toInt64) := rfl

theorem signedUtcAtRecoveryBootAnchor_eq (utcNow : Option Int64) (now boot : UInt64) :
    signedUtcAtRecoveryBootAnchor utcNow now boot =
      some (deriveUtcAtRecoveryBootAnchor utcNow now boot) := by
  cases utcNow with
  | none => rfl
  | some utc =>
  rw [signedUtcAtRecoveryBootAnchor, deriveUtcAtRecoveryBootAnchor_some]
  dsimp only
  have hutc := utc.toInt_lt
  by_cases hearly : utc < 0 ∨ now < boot
  · rw [if_pos hearly, if_pos]
    exact hearly.imp_right .inl
  rw [if_neg hearly]
  rw [not_or, Int64.lt_iff_toInt_lt, Int64.toInt_zero] at hearly
  have helapsed : ((now - boot) / 1000).toNat < 2 ^ 63 - 1 := by
    have hthousand : (1000 : UInt64).toNat = 1000 := rfl
    have hlt := (now - boot).toNat_lt
    rw [UInt64.toNat_div, hthousand]
    omega
  have hsigned := @Signed.toInt_toInt64 ((now - boot) / 1000) (by omega)
  have hwide : ¬maxInt64.toUInt64 < (now - boot) / 1000 := by
    rw [UInt64.lt_iff_toNat_lt, toNat_maxInt64]
    omega
  rw [if_neg hwide]
  by_cases hlate : utc < ((now - boot) / 1000).toInt64
  · rw [if_pos hlate, if_pos]
    rw [Int64.lt_iff_toInt_lt, hsigned] at hlate
    exact .inr (.inr (.inr hlate))
  · rw [if_neg hlate]
    rw [Int64.lt_iff_toInt_lt, hsigned] at hlate
    obtain ⟨start, hsub, hstart⟩ :=
      @Signed.exists_word (utc.toInt - ((now - boot) / 1000).toInt64.toInt) (by omega) (by omega)
    have hnone : ¬(utc < 0 ∨ now < boot ∨ maxInt64.toInt < ((now - boot) / 1000).toNat ∨
        utc.toInt < ((now - boot) / 1000).toNat) := by
      rw [Int64.lt_iff_toInt_lt, Int64.toInt_zero, toInt_maxInt64, not_or, not_or, not_or]
      exact ⟨hearly.1, hearly.2, by omega, by omega⟩
    rw [if_neg hnone, Signed.sub, hsub, Option.bind_eq_bind, Option.bind_some]
    refine congrArg (some ∘ some) (Int64.toInt_inj.mp ?_)
    rw [hstart, toInt_sub_of_le (by omega) (by omega)]

/-! ## What the checked operations compute -/

theorem checkedAdd_eq_some_iff {left right sum : UInt64} :
    checkedAdd left right = some sum ↔ sum.toNat = left.toNat + right.toNat := by
  have hmax : maxUInt64.toNat = 2 ^ 64 - 1 := rfl
  have hleft := left.toNat_lt
  have hroom : (maxUInt64 - left).toNat = 2 ^ 64 - 1 - left.toNat := by
    rw [UInt64.toNat_sub_of_le _ _ (UInt64.le_iff_toNat_le.mpr (by omega)), hmax]
  rw [checkedAdd]
  by_cases hfits : right ≤ maxUInt64 - left
  · rw [if_pos hfits, Option.some.injEq, ← UInt64.toNat_inj]
    rw [UInt64.le_iff_toNat_le, hroom] at hfits
    rw [UInt64.toNat_add, Nat.mod_eq_of_lt (by omega), eq_comm]
  · rw [if_neg hfits]
    rw [UInt64.le_iff_toNat_le, hroom] at hfits
    have hsum := sum.toNat_lt
    exact ⟨nofun, fun h => by omega⟩

theorem exists_checkedAdd {left right : UInt64} (h : left.toNat + right.toNat < 2 ^ 64) :
    ∃ sum, checkedAdd left right = some sum ∧ sum.toNat = left.toNat + right.toNat := by
  have hsum : (left + right).toNat = left.toNat + right.toNat := by
    rw [UInt64.toNat_add, Nat.mod_eq_of_lt h]
  exact ⟨_, checkedAdd_eq_some_iff.mpr hsum, hsum⟩

theorem difference_eq_some_iff {later earlier : Int64} {difference : UInt64} :
    checkedNonNegativeInt64Difference later earlier = some difference ↔
      (difference.toNat : ℤ) = later.toInt - earlier.toInt := by
  rw [checkedNonNegativeInt64Difference]
  have hlater := later.toInt_lt
  have hearlier := earlier.le_toInt
  by_cases hbefore : later < earlier
  · rw [if_pos hbefore]
    rw [Int64.lt_iff_toInt_lt] at hbefore
    exact ⟨nofun, fun h => by omega⟩
  · rw [if_neg hbefore]
    rw [Int64.lt_iff_toInt_lt] at hbefore
    rw [Option.some.injEq, ← UInt64.toNat_inj,
      UInt64.toNat_ofNat_of_lt' (by rw [UInt64.size]; omega)]
    omega

theorem addSignedUnsigned_eq_some_iff {base sum : Int64} {offset : UInt64} :
    checkedAddSignedUnsigned base offset = some sum ↔
      sum.toInt = base.toInt + offset.toNat := by
  rw [checkedAddSignedUnsigned, toInt_maxInt64]
  have hbase := base.le_toInt
  have hsum := sum.toInt_lt
  split
  · rw [Option.some.injEq]
    constructor
    · intro h
      rw [← h, Int64.toInt_ofInt_of_le (by omega) (by omega)]
    · exact ofInt_eq
  · exact ⟨nofun, fun h => by omega⟩

/-- UTC at the start of the recovery is UTC now less the whole seconds since then. -/
theorem utcAtRecoveryBoot_eq_some_iff {utcNow : Option Int64} {now boot : UInt64}
    {start : Int64} :
    deriveUtcAtRecoveryBootAnchor utcNow now boot = some start ↔
      ∃ utc, utcNow = some utc ∧ boot.toNat ≤ now.toNat ∧ 0 ≤ start.toInt ∧
        start.toInt = utc.toInt - ((now.toNat - boot.toNat) / 1000 : ℕ) := by
  cases utcNow with
  | none => exact ⟨nofun, by rintro ⟨_, ⟨⟩, _⟩⟩
  | some utc =>
  rw [deriveUtcAtRecoveryBootAnchor_some]
  have hthousand : (1000 : UInt64).toNat = 1000 := rfl
  have hutc := utc.toInt_lt
  have hnow := now.toNat_lt
  have helapsed : boot.toNat ≤ now.toNat →
      ((now - boot) / 1000).toNat = (now.toNat - boot.toNat) / 1000 := by
    intro hordered
    rw [UInt64.toNat_div, UInt64.toNat_sub_of_le _ _ (UInt64.le_iff_toNat_le.mpr hordered),
      hthousand]
  by_cases hinvalid : utc < 0 ∨ now < boot ∨ maxInt64.toInt < ((now - boot) / 1000).toNat ∨
      utc.toInt < ((now - boot) / 1000).toNat
  · rw [if_pos hinvalid]
    rw [Int64.lt_iff_toInt_lt, Int64.toInt_zero, UInt64.lt_iff_toNat_lt, toInt_maxInt64]
      at hinvalid
    refine ⟨nofun, ?_⟩
    rintro ⟨_, ⟨⟩, hordered, hpositive, hstart⟩
    rw [helapsed hordered] at hinvalid
    omega
  · rw [if_neg hinvalid, Option.some.injEq, ← Int64.toInt_inj]
    rw [Int64.lt_iff_toInt_lt, Int64.toInt_zero, UInt64.lt_iff_toNat_lt, toInt_maxInt64, not_or,
      not_or, not_or, not_lt, not_lt, not_lt, not_lt] at hinvalid
    obtain ⟨hpositive, hordered, hwide, hlate⟩ := hinvalid
    have hsigned := @Signed.toInt_toInt64 ((now - boot) / 1000) (by omega)
    rw [toInt_sub_of_le (by omega) (by omega), hsigned, helapsed hordered]
    rw [helapsed hordered] at hlate
    constructor
    · intro h
      exact ⟨utc, rfl, hordered, by omega, h.symm⟩
    · rintro ⟨_, ⟨⟩, -, -, hstart⟩
      exact hstart.symm

end Fermentationsschrank

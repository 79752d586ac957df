import Fermentationsschrank.Persistence.Contract
import Fermentationsschrank.Run.RecoveryArithmetic

/-!
# Bounds of the recovery time

After a reboot the phase time is known only between two bounds.  The lower bound is
what the device has certainly run; the upper bound adds the time between the last
checkpoint and the reboot, by UTC.  The bounds are checked against every history of the
phase that is consistent with what was recorded.
-/

namespace Fermentationsschrank

/-! ## What a context contains -/

/-- The upper bound of the earlier part that the context counts on. -/
def PendingRecoveryAnchor.countedPrefix (anchor : PendingRecoveryAnchor) : ℕ :=
  (anchor.accumulatedBeforeEpisode.upperBoundSeconds.getD
    anchor.accumulatedBeforeEpisode.lowerBoundSeconds).toNat

/-- The seconds that the device has certainly run. -/
def PendingRecoveryAnchor.certainSeconds (anchor : PendingRecoveryAnchor) : ℕ :=
  anchor.knownPhaseSecondsAtOriginalCheckpoint.toNat +
    anchor.knownSecondsSinceOriginalCheckpoint.toNat

/-- UTC in whole seconds at the start of the recovery. -/
def recoveryStart (utc : Int64) (now boot : UInt64) : ℤ :=
  utc.toInt - ((now.toNat - boot.toNat) / 1000 : ℕ)

/-- The readings give the whole seconds from the effective checkpoint to the reboot. -/
def MeasuredOutage (anchor : PendingRecoveryAnchor) (utcNow : Option Int64)
    (now boot : UInt64) (outage : ℕ) : Prop :=
  ∃ checkpoint utc, anchor.originalCheckpointUtc = some checkpoint ∧ utcNow = some utc ∧
    boot.toNat ≤ now.toNat ∧ 0 ≤ recoveryStart utc now boot ∧
      (outage : ℤ) = recoveryStart utc now boot -
        (checkpoint.toInt + anchor.knownSecondsSinceOriginalCheckpoint.toNat)

section Context

variable {anchor : PendingRecoveryAnchor} {basis : EffectiveAnchorTimeBasis}
variable {utcNow utcAtBoot : Option Int64} {now boot : UInt64}
variable {outage : RecoveryOutageBounds} {context : RecoveryTimeContext}

theorem computeRecoveryOutageBounds_eq_some_iff {input : RecoveryOutageBoundsInput}
    {bounds : RecoveryOutageBounds} :
    computeRecoveryOutageBounds input = some bounds ↔
      ∃ last restart, input.utcAtLastCheckpoint = some last ∧
        input.utcAtRestartBoundary = some restart ∧
          (bounds.outageSecondsUpperBound.toNat : ℤ) = restart.toInt - last.toInt ∧
            bounds.outageSecondsLowerBound = match input.maxCheckpointGapSeconds with
              | some gap => if gap.toUInt64 < bounds.outageSecondsUpperBound then
                  bounds.outageSecondsUpperBound - gap.toUInt64 else 0
              | none => 0 := by
  obtain ⟨last?, restart?, gap?⟩ := input
  cases last? with
  | none => exact ⟨nofun, by rintro ⟨_, _, ⟨⟩, _⟩⟩
  | some last =>
  cases restart? with
  | none => exact ⟨nofun, by rintro ⟨_, _, _, ⟨⟩, _⟩⟩
  | some restart =>
  rw [computeRecoveryOutageBounds]
  simp only [Option.bind_eq_bind, Option.bind_some, Option.bind_eq_some_iff,
    difference_eq_some_iff, Option.pure_def, Option.some.injEq]
  constructor
  · rintro ⟨upper, hupper, rfl⟩
    exact ⟨last, restart, rfl, rfl, hupper, rfl⟩
  · rintro ⟨_, _, rfl, rfl, hupper, hlower⟩
    obtain ⟨upper, lower⟩ := bounds
    exact ⟨upper, hupper, congrArg (RecoveryOutageBounds.mk upper) hlower.symm⟩

theorem anchorOutage_eq_some_iff :
    anchorOutage anchor basis utcAtBoot = some outage ↔
      ∃ effective start, basis.effectiveCheckpointUtc = some effective ∧
        utcAtBoot = some start ∧ outage.outageSecondsLowerBound = 0 ∧
          (outage.outageSecondsUpperBound.toNat : ℤ) = start.toInt - effective.toInt := by
  rw [anchorOutage, Option.map_eq_some_iff]
  constructor
  · rintro ⟨bounds, hbounds, rfl⟩
    obtain ⟨effective, start, heffective, hstart, hupper, hlower⟩ :=
      computeRecoveryOutageBounds_eq_some_iff.mp hbounds
    refine ⟨effective, start, heffective, hstart, ?_, ?_⟩
    · split
      · rfl
      · exact hlower
    · split <;> exact hupper
  · rintro ⟨effective, start, heffective, hstart, hlower, hupper⟩
    refine ⟨outage, computeRecoveryOutageBounds_eq_some_iff.mpr
      ⟨effective, start, heffective, hstart, hupper, hlower⟩, ?_⟩
    split
    · rw [← hlower]
    · rfl

theorem effectiveBasis_eq_some_iff :
    deriveEffectiveAnchorTimeBasis anchor = some basis ↔
      basis.effectiveKnownSecondsBeforeCheckpoint.toNat = anchor.certainSeconds ∧
        basis.effectiveCheckpointUtc = anchor.originalCheckpointUtc.bind fun utc =>
          checkedAddSignedUnsigned utc anchor.knownSecondsSinceOriginalCheckpoint := by
  rw [deriveEffectiveAnchorTimeBasis]
  simp only [Option.bind_eq_bind, Option.bind_eq_some_iff, checkedAdd_eq_some_iff,
    Option.pure_def, Option.some.injEq]
  constructor
  · rintro ⟨known, hknown, rfl⟩
    exact ⟨hknown, rfl⟩
  · rintro ⟨hknown, hutc⟩
    exact ⟨_, hknown, by rw [← hutc]⟩

/-- The outage of an anchor is what the readings give. -/
theorem measuredOutage_of_anchorOutage (hbasis : deriveEffectiveAnchorTimeBasis anchor = some basis)
    (houtage : anchorOutage anchor basis (deriveUtcAtRecoveryBootAnchor utcNow now boot) =
      some outage) :
    MeasuredOutage anchor utcNow now boot outage.outageSecondsUpperBound.toNat := by
  obtain ⟨effective, start, heffective, hstart, -, hupper⟩ := anchorOutage_eq_some_iff.mp houtage
  obtain ⟨utc, hutc, hordered, hpositive, hvalue⟩ := utcAtRecoveryBoot_eq_some_iff.mp hstart
  rw [(effectiveBasis_eq_some_iff.mp hbasis).2, Option.bind_eq_some_iff] at heffective
  obtain ⟨checkpoint, hcheckpoint, hsum⟩ := heffective
  rw [addSignedUnsigned_eq_some_iff] at hsum
  refine ⟨checkpoint, utc, hcheckpoint, hutc, hordered, ?_, ?_⟩
  · rw [recoveryStart, ← hvalue]
    exact hpositive
  · rw [recoveryStart, ← hvalue, hupper, hsum]

/-- What the readings give is the outage of the anchor. -/
theorem anchorOutage_of_measuredOutage {seconds : ℕ}
    (hbasis : deriveEffectiveAnchorTimeBasis anchor = some basis)
    (h : MeasuredOutage anchor utcNow now boot seconds) :
    ∃ outage, anchorOutage anchor basis (deriveUtcAtRecoveryBootAnchor utcNow now boot) =
      some outage ∧ outage.outageSecondsUpperBound.toNat = seconds ∧
        outage.outageSecondsLowerBound = 0 := by
  obtain ⟨checkpoint, utc, hcheckpoint, hutc, hordered, hpositive, hseconds⟩ := h
  have hrange := utc.toInt_lt
  have hleast := checkpoint.le_toInt
  obtain ⟨start, -, hstart⟩ := @Signed.exists_word (recoveryStart utc now boot) (by omega)
    (by rw [recoveryStart]; omega)
  obtain ⟨effective, -, heffective⟩ := @Signed.exists_word
    (checkpoint.toInt + anchor.knownSecondsSinceOriginalCheckpoint.toNat) (by omega)
    (by rw [recoveryStart] at hseconds; omega)
  have hsize : seconds < UInt64.size := by
    rw [UInt64.size]
    rw [recoveryStart] at hseconds
    omega
  refine ⟨⟨UInt64.ofNat seconds, 0⟩, anchorOutage_eq_some_iff.mpr
    ⟨effective, start, ?_, ?_, rfl, ?_⟩, UInt64.toNat_ofNat_of_lt' hsize, rfl⟩
  · rw [(effectiveBasis_eq_some_iff.mp hbasis).2, hcheckpoint, Option.bind_some]
    exact addSignedUnsigned_eq_some_iff.mpr heffective
  · exact utcAtRecoveryBoot_eq_some_iff.mpr
      ⟨utc, hutc, hordered, by rw [hstart]; exact hpositive, hstart⟩
  · rw [UInt64.toNat_ofNat_of_lt' hsize, hseconds, hstart, heffective]

/-- The elapsed time behind an outage: without an upper bound of the earlier part its lower
bound takes that place. -/
theorem recoveredElapsed_eq_some {known certain : UInt64} {elapsed : RecoveredPhaseElapsed}
    (hcertain : certain = basis.effectiveKnownSecondsBeforeCheckpoint)
    (hknown : known.toNat =
      anchor.accumulatedBeforeEpisode.lowerBoundSeconds.toNat + certain.toNat)
    (h : recoveredElapsed anchor basis known (some outage) = some elapsed) :
    elapsed.totalSecondsLowerBound.toNat =
        known.toNat + outage.outageSecondsLowerBound.toNat ∧
      ∃ upper, elapsed.totalSecondsUpperBound = some upper ∧
        upper.toNat = anchor.countedPrefix + certain.toNat +
          outage.outageSecondsUpperBound.toNat := by
  rw [PendingRecoveryAnchor.countedPrefix]
  unfold recoveredElapsed at h
  cases hcarried : anchor.accumulatedBeforeEpisode.upperBoundSeconds with
  | none =>
      rw [hcarried] at h
      simp only [computeRecoveredPhaseElapsed, Option.bind_eq_bind, Option.bind_eq_some_iff,
        checkedAdd_eq_some_iff, Option.pure_def, Option.some.injEq] at h
      obtain ⟨lower, hlower, upper, hupper, rfl⟩ := h
      refine ⟨hlower, upper, rfl, ?_⟩
      rw [hupper, hknown, Option.getD_none]
  | some accumulatedUpper =>
      rw [hcarried] at h
      simp only [boundedPhaseElapsed, Option.bind_eq_bind, Option.bind_eq_some_iff,
        checkedAdd_eq_some_iff, Option.pure_def, Option.some.injEq] at h
      obtain ⟨accumulated, haccumulated, upper, hupper, lower, hlower, rfl⟩ := h
      refine ⟨hlower, upper, rfl, ?_⟩
      rw [hupper, haccumulated, UInt32.toNat_toUInt64, hcertain, Option.getD_some]

theorem exists_recoveredElapsed {known certain : UInt64}
    (hcertain : certain = basis.effectiveKnownSecondsBeforeCheckpoint)
    (hknown : known.toNat =
      anchor.accumulatedBeforeEpisode.lowerBoundSeconds.toNat + certain.toNat)
    (hordered : anchor.accumulatedBeforeEpisode.lowerBoundSeconds.toNat ≤ anchor.countedPrefix)
    (hzero : outage.outageSecondsLowerBound = 0)
    (hroom : anchor.countedPrefix + certain.toNat + outage.outageSecondsUpperBound.toNat < 2 ^ 64) :
    ∃ elapsed, recoveredElapsed anchor basis known (some outage) = some elapsed := by
  have hlowest : outage.outageSecondsLowerBound.toNat = 0 := congrArg UInt64.toNat hzero
  obtain ⟨lower, hlower, -⟩ := @exists_checkedAdd known outage.outageSecondsLowerBound (by omega)
  rw [PendingRecoveryAnchor.countedPrefix] at hroom
  unfold recoveredElapsed
  cases hcarried : anchor.accumulatedBeforeEpisode.upperBoundSeconds with
  | none =>
      rw [hcarried, Option.getD_none] at hroom
      obtain ⟨upper, hupper, -⟩ := @exists_checkedAdd known outage.outageSecondsUpperBound
        (by omega)
      refine ⟨⟨known, lower, some upper⟩, ?_⟩
      simp only [computeRecoveredPhaseElapsed, hlower, hupper, Option.bind_eq_bind,
        Option.bind_some, Option.pure_def]
  | some accumulatedUpper =>
      rw [hcarried, Option.getD_some, hcertain] at hroom
      obtain ⟨accumulated, haccumulated, hvalue⟩ := @exists_checkedAdd
        accumulatedUpper.toUInt64 basis.effectiveKnownSecondsBeforeCheckpoint
        (by rw [UInt32.toNat_toUInt64]; omega)
      rw [UInt32.toNat_toUInt64] at hvalue
      obtain ⟨upper, hupper, -⟩ := @exists_checkedAdd accumulated outage.outageSecondsUpperBound
        (by omega)
      refine ⟨⟨basis.effectiveKnownSecondsBeforeCheckpoint, lower, some upper⟩, ?_⟩
      simp only [boundedPhaseElapsed, haccumulated, hupper, hlower, Option.bind_eq_bind,
        Option.bind_some, Option.pure_def]

/-- The bounds of a context: the lower one is what the device has certainly run, the upper
one adds the measured outage. -/
theorem context_bounds
    (h : deriveRecoveryTimeContext anchor utcNow now boot = some context) :
    context.elapsed.totalSecondsLowerBound.toNat =
        anchor.accumulatedBeforeEpisode.lowerBoundSeconds.toNat + anchor.certainSeconds ∧
      (∀ outage ∈ context.outage, outage.outageSecondsLowerBound = 0) ∧
      ∀ upper ∈ context.elapsed.totalSecondsUpperBound, ∃ outage,
        MeasuredOutage anchor utcNow now boot outage ∧
          upper.toNat = anchor.countedPrefix + anchor.certainSeconds + outage := by
  rw [deriveRecoveryTimeContext, Option.bind_eq_bind, Option.bind_eq_some_iff] at h
  obtain ⟨basis, hbasis, h⟩ := h
  rw [Option.bind_eq_bind, Option.bind_eq_some_iff] at h
  obtain ⟨known, hknown, h⟩ := h
  rw [Option.bind_eq_bind, Option.bind_eq_some_iff] at h
  obtain ⟨elapsed, helapsed, h⟩ := h
  cases h
  dsimp only
  rw [checkedAdd_eq_some_iff, UInt32.toNat_toUInt64, (effectiveBasis_eq_some_iff.mp hbasis).1]
    at hknown
  rw [← hknown]
  cases houtage : anchorOutage anchor basis (deriveUtcAtRecoveryBootAnchor utcNow now boot) with
  | none =>
      rw [houtage] at helapsed
      cases helapsed
      exact ⟨rfl, nofun, nofun⟩
  | some outage =>
      have hmeasured := measuredOutage_of_anchorOutage hbasis houtage
      obtain ⟨-, -, -, -, hlowest, -⟩ := anchorOutage_eq_some_iff.mp houtage
      have hzero : outage.outageSecondsLowerBound.toNat = 0 := congrArg UInt64.toNat hlowest
      rw [houtage] at helapsed
      have hcertain := (effectiveBasis_eq_some_iff.mp hbasis).1
      obtain ⟨hlower, upper, hupper, hvalue⟩ :=
        recoveredElapsed_eq_some rfl (by rw [hknown, hcertain]) helapsed
      refine ⟨by rw [hlower, hzero, Nat.add_zero], by rintro _ ⟨⟩; exact hlowest, ?_⟩
      rw [hupper]
      rintro _ ⟨⟩
      exact ⟨_, hmeasured, by rw [hvalue, hcertain]⟩

/-- Readings that give an outage give an upper bound, unless a sum leaves the word. -/
theorem exists_context {outage : ℕ} (h : MeasuredOutage anchor utcNow now boot outage)
    (hordered : anchor.accumulatedBeforeEpisode.lowerBoundSeconds.toNat ≤ anchor.countedPrefix)
    (hroom : anchor.countedPrefix + anchor.certainSeconds + outage < 2 ^ 64) :
    ∃ context upper, deriveRecoveryTimeContext anchor utcNow now boot = some context ∧
      context.elapsed.totalSecondsUpperBound = some upper ∧
        upper.toNat = anchor.countedPrefix + anchor.certainSeconds + outage := by
  obtain ⟨certain, hcertain, hcertainValue⟩ := @exists_checkedAdd
    anchor.knownPhaseSecondsAtOriginalCheckpoint anchor.knownSecondsSinceOriginalCheckpoint
    (by rw [PendingRecoveryAnchor.certainSeconds] at hroom; omega)
  obtain ⟨basis, hbasis, hsame⟩ : ∃ basis, deriveEffectiveAnchorTimeBasis anchor = some basis ∧
      certain = basis.effectiveKnownSecondsBeforeCheckpoint :=
    ⟨⟨_, certain⟩, effectiveBasis_eq_some_iff.mpr ⟨hcertainValue, rfl⟩, rfl⟩
  obtain ⟨bounds, hbounds, hbound, hzero⟩ := anchorOutage_of_measuredOutage hbasis h
  rw [PendingRecoveryAnchor.certainSeconds, ← hcertainValue] at hroom ⊢
  obtain ⟨known, hknown, hknownValue⟩ := @exists_checkedAdd
    anchor.accumulatedBeforeEpisode.lowerBoundSeconds.toUInt64 certain
    (by rw [UInt32.toNat_toUInt64]; omega)
  rw [UInt32.toNat_toUInt64] at hknownValue
  obtain ⟨elapsed, helapsed⟩ := exists_recoveredElapsed hsame hknownValue hordered hzero
    (by rw [hbound]; exact hroom)
  obtain ⟨-, upper, hupper, hvalue⟩ := recoveredElapsed_eq_some hsame hknownValue helapsed
  refine ⟨⟨basis, some bounds, elapsed⟩, upper, ?_, hupper, by rw [hvalue, hbound]⟩
  rw [hsame] at hknown
  rw [deriveRecoveryTimeContext, hbasis, Option.bind_eq_bind, Option.bind_some]
  dsimp only
  rw [hbounds, hknown, Option.bind_eq_bind, Option.bind_some, helapsed]
  rfl

end Context

/-! ## The single computations -/

/-- What holds of the computations for all arguments. -/
structure RecoveryArithmeticSound : Prop where
  /-- No signed operation leaves its range. -/
  difference : ∀ later earlier,
    signedDifference later earlier = some (checkedNonNegativeInt64Difference later earlier)
  sum : ∀ base offset,
    signedAddUnsigned base offset = some (checkedAddSignedUnsigned base offset)
  bootAnchor : ∀ utcNow now boot, signedUtcAtRecoveryBootAnchor utcNow now boot =
    some (deriveUtcAtRecoveryBootAnchor utcNow now boot)
  /-- The device was off for the time between its readings, less what it ran after the
  checkpoint. -/
  outage : ∀ last restart gap bounds,
    computeRecoveryOutageBounds ⟨some last, some restart, gap⟩ = some bounds →
    bounds.outageSecondsLowerBound ≤ bounds.outageSecondsUpperBound ∧
      ∀ off ran : ℕ, (off + ran : ℤ) = restart.toInt - last.toInt →
        (∀ limit ∈ gap, ran ≤ UInt32.toNat limit) →
          bounds.outageSecondsLowerBound.toNat ≤ off ∧ off ≤ bounds.outageSecondsUpperBound.toNat
  outageMonotone : ∀ last restart later gap bounds laterBounds, restart ≤ later →
    computeRecoveryOutageBounds ⟨some last, some restart, gap⟩ = some bounds →
    computeRecoveryOutageBounds ⟨some last, some later, gap⟩ = some laterBounds →
    bounds.outageSecondsLowerBound ≤ laterBounds.outageSecondsLowerBound ∧
      bounds.outageSecondsUpperBound ≤ laterBounds.outageSecondsUpperBound
  elapsed : ∀ known outage elapsed,
    computeRecoveredPhaseElapsed known (some outage) = some elapsed →
    ∃ upper, elapsed.totalSecondsUpperBound = some upper ∧
      (outage.outageSecondsLowerBound ≤ outage.outageSecondsUpperBound →
        elapsed.totalSecondsLowerBound ≤ upper) ∧
      ∀ off : ℕ, outage.outageSecondsLowerBound.toNat ≤ off →
        off ≤ outage.outageSecondsUpperBound.toNat →
          elapsed.totalSecondsLowerBound.toNat ≤ known.toNat + off ∧
            known.toNat + off ≤ upper.toNat
  verdict : ∀ elapsed limit,
    (evaluateRecoveryTimeVerdict elapsed limit = .definitelyExpired →
      limit.toNat ≤ elapsed.totalSecondsLowerBound.toNat) ∧
    (evaluateRecoveryTimeVerdict elapsed limit = .definitelyStillValid →
      ∃ upper ∈ elapsed.totalSecondsUpperBound, UInt64.toNat upper < limit.toNat)

/-- What is left of a bound when a gap is taken away. -/
theorem toNat_lowerBound (upper : UInt64) (gap : UInt32) :
    (if gap.toUInt64 < upper then upper - gap.toUInt64 else 0).toNat =
      upper.toNat - gap.toNat := by
  split
  · rename_i hless
    rw [UInt64.toNat_sub_of_le _ _ (UInt64.le_of_lt hless), UInt32.toNat_toUInt64]
  · rename_i hless
    rw [UInt64.lt_iff_toNat_lt, UInt32.toNat_toUInt64] at hless
    rw [UInt64.toNat_zero]
    omega

/-- The lower bound of an outage, in integers. -/
theorem outage_lowerBound {last restart : Int64} {gap : Option UInt32}
    {bounds : RecoveryOutageBounds}
    (h : computeRecoveryOutageBounds ⟨some last, some restart, gap⟩ = some bounds) :
    (bounds.outageSecondsUpperBound.toNat : ℤ) = restart.toInt - last.toInt ∧
      bounds.outageSecondsLowerBound.toNat =
        gap.elim 0 (fun gap => bounds.outageSecondsUpperBound.toNat - gap.toNat) := by
  obtain ⟨_, _, ⟨⟩, ⟨⟩, hupper, hlower⟩ := computeRecoveryOutageBounds_eq_some_iff.mp h
  refine ⟨hupper, ?_⟩
  rw [hlower]
  cases gap with
  | none => rfl
  | some gap => exact toNat_lowerBound _ gap

theorem recoveryArithmetic_sound : RecoveryArithmeticSound where
  difference := signedDifference_eq
  sum := signedAddUnsigned_eq
  bootAnchor := signedUtcAtRecoveryBootAnchor_eq
  outage last restart gap bounds h := by
    obtain ⟨hupper, hlower⟩ := outage_lowerBound h
    rw [UInt64.le_iff_toNat_le, hlower]
    cases gap with
    | none => exact ⟨Nat.zero_le _, fun off ran htotal _ => ⟨Nat.zero_le _, by omega⟩⟩
    | some gap =>
        refine ⟨Nat.sub_le .., fun off ran htotal hran => ?_⟩
        have hlimit := hran gap rfl
        dsimp only [Option.elim_some]
        omega
  outageMonotone last restart later gap bounds laterBounds hlater h hnext := by
    obtain ⟨hupper, hlower⟩ := outage_lowerBound h
    obtain ⟨hupper', hlower'⟩ := outage_lowerBound hnext
    rw [Int64.le_iff_toInt_le] at hlater
    rw [UInt64.le_iff_toNat_le, UInt64.le_iff_toNat_le, hlower, hlower']
    cases gap with
    | none => exact ⟨le_rfl, by omega⟩
    | some gap =>
        dsimp only [Option.elim_some]
        omega
  elapsed known outage elapsed h := by
    simp only [computeRecoveredPhaseElapsed, Option.bind_eq_bind, Option.bind_eq_some_iff,
      checkedAdd_eq_some_iff, Option.pure_def, Option.some.injEq] at h
    obtain ⟨lower, hlower, upper, hupper, rfl⟩ := h
    rw [UInt64.le_iff_toNat_le]
    refine ⟨upper, rfl, fun hordered => ?_, fun off hoff hoff' => ?_⟩
    · rw [UInt64.le_iff_toNat_le, hlower, hupper]
      omega
    · dsimp only
      omega
  verdict elapsed limit := by
    rw [evaluateRecoveryTimeVerdict]
    split
    · rename_i hreached
      rw [UInt64.le_iff_toNat_le, UInt32.toNat_toUInt64] at hreached
      exact ⟨fun _ => hreached, by rintro ⟨⟩⟩
    · split
      · rename_i hbelow
        cases hupper : elapsed.totalSecondsUpperBound with
        | none =>
            rw [hupper] at hbelow
            cases hbelow
        | some upper =>
            rw [hupper, Option.any_some, decide_eq_true_iff, UInt64.lt_iff_toNat_lt,
              UInt32.toNat_toUInt64] at hbelow
            exact ⟨by rintro ⟨⟩, fun _ => ⟨upper, rfl, hbelow⟩⟩
      · exact ⟨by rintro ⟨⟩, by rintro ⟨⟩⟩

/-! ## Histories of a phase -/

/-- What may have happened: how long the phase had lasted before the episode, and how long
it was from the original checkpoint to the reboot.  The uptime is exact, and the two
readings of UTC misjudge the time between them by a bounded amount. -/
structure PhaseHistory (anchor : PendingRecoveryAnchor) (utcNow : Option Int64)
    (now boot : UInt64) (utcErrorMs : ℕ) where
  accumulatedMs : ℕ
  sinceCheckpointMs : ℕ
  accumulated_lower :
    anchor.accumulatedBeforeEpisode.lowerBoundSeconds.toNat * 1000 ≤ accumulatedMs
  accumulated_upper : ∀ upper ∈ anchor.accumulatedBeforeEpisode.upperBoundSeconds,
    accumulatedMs ≤ UInt32.toNat upper * 1000
  powered : anchor.knownSecondsSinceOriginalCheckpoint.toNat * 1000 ≤ sinceCheckpointMs
  clock : ∀ checkpoint utc, anchor.originalCheckpointUtc = some checkpoint →
    utcNow = some utc → boot.toNat ≤ now.toNat →
    |(sinceCheckpointMs : ℤ) -
      ((utc.toInt - checkpoint.toInt) * 1000 - (now.toNat - boot.toNat))| ≤ utcErrorMs

/-- The phase time at the reboot. -/
def PhaseHistory.elapsedMs {anchor : PendingRecoveryAnchor} {utcNow : Option Int64}
    {now boot : UInt64} {utcErrorMs : ℕ}
    (history : PhaseHistory anchor utcNow now boot utcErrorMs) : ℕ :=
  history.accumulatedMs + anchor.knownPhaseSecondsAtOriginalCheckpoint.toNat * 1000 +
    history.sinceCheckpointMs

/-- What holds of the bounds of one anchor at one time. -/
structure RecoveryBoundsSound (anchor : PendingRecoveryAnchor) (utcNow : Option Int64)
    (now boot : UInt64) : Prop where
  ordered : ∀ context, deriveRecoveryTimeContext anchor utcNow now boot = some context →
    (∀ outage ∈ context.outage,
      outage.outageSecondsLowerBound ≤ outage.outageSecondsUpperBound) ∧
    ∀ upper ∈ context.elapsed.totalSecondsUpperBound,
      context.elapsed.totalSecondsLowerBound ≤ upper
  /-- The bounds contain the phase time of every history; an upper bound is missed by no
  more than UTC is off. -/
  contains : ∀ context, deriveRecoveryTimeContext anchor utcNow now boot = some context →
    ∀ utcErrorMs, ∀ history : PhaseHistory anchor utcNow now boot utcErrorMs,
      context.elapsed.totalSecondsLowerBound.toNat * 1000 ≤ history.elapsedMs ∧
      ∀ upper ∈ context.elapsed.totalSecondsUpperBound,
        history.elapsedMs ≤ UInt64.toNat upper * 1000 + utcErrorMs
  monotone : ∀ utc later context laterContext, utcNow = some utc → utc ≤ later →
    deriveRecoveryTimeContext anchor utcNow now boot = some context →
    deriveRecoveryTimeContext anchor (some later) now boot = some laterContext →
    context.elapsed.totalSecondsLowerBound ≤ laterContext.elapsed.totalSecondsLowerBound ∧
      ∀ upper ∈ context.elapsed.totalSecondsUpperBound,
        ∀ laterUpper ∈ laterContext.elapsed.totalSecondsUpperBound, upper ≤ laterUpper

/-- The earlier part has no upper bound, and the readings give one for the whole. -/
def CountsUnknownPrefix (anchor : PendingRecoveryAnchor) (utcNow : Option Int64)
    (now boot : UInt64) : Prop :=
  anchor.accumulatedBeforeEpisode.upperBoundSeconds = none ∧
    ∃ outage, MeasuredOutage anchor utcNow now boot outage ∧
      anchor.countedPrefix + anchor.certainSeconds + outage < 2 ^ 64

section Soundness

variable {anchor : PendingRecoveryAnchor} {utcNow : Option Int64} {now boot : UInt64}

theorem countedPrefix_ordered
    (h : validPriorBootPhaseElapsedBounds anchor.accumulatedBeforeEpisode = true) :
    anchor.accumulatedBeforeEpisode.lowerBoundSeconds.toNat ≤ anchor.countedPrefix := by
  rw [PendingRecoveryAnchor.countedPrefix]
  cases hcarried : anchor.accumulatedBeforeEpisode.upperBoundSeconds with
  | none => exact le_rfl
  | some upper =>
      rw [validPriorBootPhaseElapsedBounds, hcarried, Option.all_some, decide_eq_true_iff,
        UInt32.le_iff_toNat_le] at h
      exact h

/-- A measured outage does not shrink when UTC advances. -/
theorem measuredOutage_mono {utc later : Int64} {outage laterOutage : ℕ} (hlater : utc ≤ later)
    (h : MeasuredOutage anchor (some utc) now boot outage)
    (hnext : MeasuredOutage anchor (some later) now boot laterOutage) : outage ≤ laterOutage := by
  obtain ⟨checkpoint, _, hcheckpoint, ⟨⟩, -, -, houtage⟩ := h
  obtain ⟨checkpoint', _, hcheckpoint', ⟨⟩, -, -, houtage'⟩ := hnext
  rw [hcheckpoint] at hcheckpoint'
  cases hcheckpoint'
  rw [Int64.le_iff_toInt_le] at hlater
  rw [recoveryStart] at houtage houtage'
  omega

/-- No history exceeds the measured outage by more than UTC is off; the fraction of a second
since the reboot is rounded up. -/
theorem sinceCheckpoint_le {outage utcErrorMs : ℕ}
    (h : MeasuredOutage anchor utcNow now boot outage)
    (history : PhaseHistory anchor utcNow now boot utcErrorMs) :
    history.sinceCheckpointMs ≤
      (anchor.knownSecondsSinceOriginalCheckpoint.toNat + outage) * 1000 + utcErrorMs := by
  obtain ⟨checkpoint, utc, hcheckpoint, hutc, hordered, -, houtage⟩ := h
  have hclock := (abs_le.mp (history.clock checkpoint utc hcheckpoint hutc hordered)).2
  rw [recoveryStart] at houtage
  have hrounded : (now.toNat - boot.toNat) / 1000 * 1000 ≤ now.toNat - boot.toNat :=
    Nat.div_mul_le_self _ _
  omega

/-- The bounds contain every history when the earlier part is bounded. -/
theorem contains_of_known {context : RecoveryTimeContext} {utcErrorMs : ℕ}
    (hcontext : deriveRecoveryTimeContext anchor utcNow now boot = some context)
    (hknown : ¬CountsUnknownPrefix anchor utcNow now boot)
    (history : PhaseHistory anchor utcNow now boot utcErrorMs) :
    context.elapsed.totalSecondsLowerBound.toNat * 1000 ≤ history.elapsedMs ∧
      ∀ upper ∈ context.elapsed.totalSecondsUpperBound,
        history.elapsedMs ≤ UInt64.toNat upper * 1000 + utcErrorMs := by
  obtain ⟨hlower, -, hupper⟩ := context_bounds hcontext
  have haccumulated := history.accumulated_lower
  have hpowered := history.powered
  rw [PhaseHistory.elapsedMs]
  constructor
  · rw [hlower, PendingRecoveryAnchor.certainSeconds]
    linarith
  · intro upper hmem
    obtain ⟨outage, hmeasured, hvalue⟩ := hupper upper hmem
    cases hcarried : anchor.accumulatedBeforeEpisode.upperBoundSeconds with
    | none =>
        refine absurd ⟨hcarried, outage, hmeasured, ?_⟩ hknown
        rw [← hvalue]
        exact upper.toNat_lt
    | some accumulatedUpper =>
        have hbounded := history.accumulated_upper accumulatedUpper hcarried
        have hsince := sinceCheckpoint_le hmeasured history
        rw [hvalue, PendingRecoveryAnchor.countedPrefix, hcarried, Option.getD_some,
          PendingRecoveryAnchor.certainSeconds]
        omega

/-- Without an upper bound of the earlier part the phase may have lasted any time. -/
theorem exists_longer_history (hunbounded :
    anchor.accumulatedBeforeEpisode.upperBoundSeconds = none) {outage : ℕ}
    (hmeasured : MeasuredOutage anchor utcNow now boot outage) (limitMs : ℕ) :
    ∃ history : PhaseHistory anchor utcNow now boot 1000, limitMs < history.elapsedMs := by
  obtain ⟨checkpoint, utc, hcheckpoint, hutc, hordered, -, houtage⟩ := hmeasured
  refine ⟨{
    accumulatedMs :=
      anchor.accumulatedBeforeEpisode.lowerBoundSeconds.toNat * 1000 + limitMs + 1
    sinceCheckpointMs := (anchor.knownSecondsSinceOriginalCheckpoint.toNat + outage) * 1000
    accumulated_lower := by omega
    accumulated_upper := by
      rw [hunbounded]
      rintro _ ⟨⟩
    powered := by omega
    clock := ?_ }, ?_⟩
  · intro checkpoint' utc' hcheckpoint' hutc' _
    rw [hcheckpoint] at hcheckpoint'
    rw [hutc] at hutc'
    cases hcheckpoint'
    cases hutc'
    rw [recoveryStart] at houtage
    rw [abs_le]
    omega
  · rw [PhaseHistory.elapsedMs]
    dsimp only
    omega

/-- The computations are sound, and the bounds of an anchor are sound exactly when no upper
bound is given on top of an unbounded earlier part. -/
theorem recoveryBounds_sound_iff (anchor : PendingRecoveryAnchor) (utcNow : Option Int64)
    (now boot : UInt64)
    (hvalid : validPriorBootPhaseElapsedBounds anchor.accumulatedBeforeEpisode = true) :
    RecoveryArithmeticSound ∧ RecoveryBoundsSound anchor utcNow now boot ↔
      ¬CountsUnknownPrefix anchor utcNow now boot := by
  have hordered := countedPrefix_ordered hvalid
  constructor
  · rintro ⟨-, hsound⟩ ⟨hunbounded, outage, hmeasured, hroom⟩
    obtain ⟨context, upper, hcontext, hupper, -⟩ := exists_context hmeasured hordered hroom
    obtain ⟨history, hlonger⟩ :=
      exists_longer_history hunbounded hmeasured (upper.toNat * 1000 + 1000)
    exact Nat.not_le.mpr hlonger ((hsound.contains context hcontext 1000 history).2 upper hupper)
  · intro hknown
    refine ⟨recoveryArithmetic_sound, ?_, ?_, ?_⟩
    · intro context hcontext
      obtain ⟨hlower, houtage, hupper⟩ := context_bounds hcontext
      constructor
      · intro outage hmem
        rw [houtage outage hmem]
        exact UInt64.le_iff_toNat_le.mpr (Nat.zero_le _)
      · intro upper hmem
        obtain ⟨outage, -, hvalue⟩ := hupper upper hmem
        rw [UInt64.le_iff_toNat_le]
        omega
    · intro context hcontext utcErrorMs history
      exact contains_of_known hcontext hknown history
    · rintro utc later context laterContext rfl hlater hcontext hnext
      obtain ⟨hlower, -, hupper⟩ := context_bounds hcontext
      obtain ⟨hlower', -, hupper'⟩ := context_bounds hnext
      rw [UInt64.le_iff_toNat_le]
      refine ⟨by omega, fun upper hmem laterUpper hmem' => ?_⟩
      obtain ⟨outage, hmeasured, hvalue⟩ := hupper upper hmem
      obtain ⟨outage', hmeasured', hvalue'⟩ := hupper' laterUpper hmem'
      have hgrows := measuredOutage_mono hlater hmeasured hmeasured'
      rw [UInt64.le_iff_toNat_le]
      omega

end Soundness

/-! ## An earlier part without an upper bound -/

/-- A waiting phase that was recovered before without UTC: it has lasted ten minutes at
least. -/
def unboundedAnchor : PendingRecoveryAnchor where
  originalProcessState := {}
  knownPhaseSecondsAtOriginalCheckpoint := 60
  originalCheckpointUtc := some 1000
  originalCheckpointTrigger := .periodic
  originalCheckpointIntervalMinutes := 5
  accumulatedBeforeEpisode := { lowerBoundSeconds := 600, upperBoundSeconds := none }
  knownSecondsSinceOriginalCheckpoint := 0

def boundedAnchor : PendingRecoveryAnchor :=
  { unboundedAnchor with
    accumulatedBeforeEpisode := { lowerBoundSeconds := 600, upperBoundSeconds := some 900 } }

theorem boundedAnchor_sound :
    RecoveryArithmeticSound ∧ RecoveryBoundsSound boundedAnchor (some 2000) 5500 0 :=
  (recoveryBounds_sound_iff boundedAnchor (some 2000) 5500 0 (by decide)).mpr
    fun hunknown => nomatch hunknown.1

/-- It had lasted for hours, and UTC is exact. -/
def longHistory : PhaseHistory unboundedAnchor (some 2000) 0 0 0 where
  accumulatedMs := 10000000
  sinceCheckpointMs := 1000000
  accumulated_lower := by decide
  accumulated_upper := nofun
  powered := by decide
  clock := by
    rintro _ _ ⟨⟩ ⟨⟩ _
    decide

/-- An upper bound of 1660 seconds is given for a phase that has lasted for hours. -/
theorem unboundedAnchor_unsound :
    ¬(RecoveryArithmeticSound ∧ RecoveryBoundsSound unboundedAnchor (some 2000) 0 0) := by
  rintro ⟨-, hsound⟩
  obtain ⟨context, hcontext, hupper⟩ : ∃ context,
      deriveRecoveryTimeContext unboundedAnchor (some 2000) 0 0 = some context ∧
        context.elapsed.totalSecondsUpperBound = some 1660 := ⟨_, rfl, by decide⟩
  have hcontained : longHistory.elapsedMs ≤ (1660 : UInt64).toNat * 1000 + 0 :=
    (hsound.contains context hcontext 0 longHistory).2 1660 hupper
  exact absurd hcontained (by decide)

end Fermentationsschrank

import Fermentationsschrank.Run.RunState

/-!
# Recovery time

How much phase time a reboot has cost.  All inputs are passed in; nothing here
reads a clock.  A result is absent exactly when the checked arithmetic of the
source fails.
-/

namespace Fermentationsschrank

/-! ## Checked arithmetic -/

def checkedAdd (left right : UInt64) : Option UInt64 :=
  if right ≤ maxUInt64 - left then some (left + right) else none

def checkedToUint32 (value : UInt64) : Option UInt32 :=
  if value ≤ maxUInt32.toUInt64 then some value.toUInt32 else none

/-- The distance of two instants; it always fits the unsigned word. -/
def checkedNonNegativeInt64Difference (later earlier : Int64) : Option UInt64 :=
  if later < earlier then none
  else some (UInt64.ofNat (later.toInt - earlier.toInt).toNat)

def maxInt64 : Int64 := 9223372036854775807

def checkedAddSignedUnsigned (base : Int64) (offset : UInt64) : Option Int64 :=
  if base.toInt + offset.toNat ≤ maxInt64.toInt then
    some (Int64.ofInt (base.toInt + offset.toNat))
  else none

/-! ## Outage bounds -/

structure RecoveryOutageBoundsInput where
  utcAtLastCheckpoint : Option Int64
  utcAtRestartBoundary : Option Int64
  maxCheckpointGapSeconds : Option UInt32

structure RecoveryOutageBounds where
  outageSecondsUpperBound : UInt64
  outageSecondsLowerBound : UInt64
  deriving DecidableEq, Repr

def computeRecoveryOutageBounds (input : RecoveryOutageBoundsInput) :
    Option RecoveryOutageBounds := do
  let last ← input.utcAtLastCheckpoint
  let restart ← input.utcAtRestartBoundary
  let upperBound ← checkedNonNegativeInt64Difference restart last
  return ⟨upperBound, match input.maxCheckpointGapSeconds with
    | some gap => if gap.toUInt64 < upperBound then upperBound - gap.toUInt64 else 0
    | none => 0⟩

structure RecoveredPhaseElapsed where
  knownSecondsBeforeCheckpoint : UInt64
  totalSecondsLowerBound : UInt64
  totalSecondsUpperBound : Option UInt64
  deriving DecidableEq, Repr

def computeRecoveredPhaseElapsed (knownSecondsBeforeCheckpoint : UInt64)
    (outage : Option RecoveryOutageBounds) : Option RecoveredPhaseElapsed :=
  match outage with
  | none => some ⟨knownSecondsBeforeCheckpoint, knownSecondsBeforeCheckpoint, none⟩
  | some outage => do
      let lower ← checkedAdd knownSecondsBeforeCheckpoint outage.outageSecondsLowerBound
      let upper ← checkedAdd knownSecondsBeforeCheckpoint outage.outageSecondsUpperBound
      return ⟨knownSecondsBeforeCheckpoint, lower, some upper⟩

inductive RecoveryTimeVerdict
  | definitelyStillValid
  | definitelyExpired
  | uncertain
  deriving DecidableEq, Repr

def evaluateRecoveryTimeVerdict (elapsed : RecoveredPhaseElapsed)
    (limitSeconds : UInt32) : RecoveryTimeVerdict :=
  if limitSeconds.toUInt64 ≤ elapsed.totalSecondsLowerBound then .definitelyExpired
  else if elapsed.totalSecondsUpperBound.any (· < limitSeconds.toUInt64) then
    .definitelyStillValid
  else .uncertain

/-! ## The time basis of an anchor -/

/-- UTC at the start of the recovery, derived from UTC now. -/
def deriveUtcAtRecoveryBootAnchor (utcNow : Option Int64)
    (nowMonotonicMillis recoveryBootAnchorMonotonicMillis : UInt64) : Option Int64 := do
  let utcNow ← utcNow
  let elapsedSeconds := (nowMonotonicMillis - recoveryBootAnchorMonotonicMillis) / 1000
  if utcNow < 0 ∨ nowMonotonicMillis < recoveryBootAnchorMonotonicMillis ∨
      maxInt64.toInt < elapsedSeconds.toNat ∨ utcNow.toInt < elapsedSeconds.toNat then none
  else some (utcNow - elapsedSeconds.toInt64)

structure EffectiveAnchorTimeBasis where
  effectiveCheckpointUtc : Option Int64 := none
  effectiveKnownSecondsBeforeCheckpoint : UInt64 := 0
  deriving DecidableEq, Repr

def deriveEffectiveAnchorTimeBasis (anchor : PendingRecoveryAnchor) :
    Option EffectiveAnchorTimeBasis := do
  let effectiveKnownSeconds ← checkedAdd anchor.knownPhaseSecondsAtOriginalCheckpoint
    anchor.knownSecondsSinceOriginalCheckpoint
  return ⟨anchor.originalCheckpointUtc.bind fun utc =>
    checkedAddSignedUnsigned utc anchor.knownSecondsSinceOriginalCheckpoint,
    effectiveKnownSeconds⟩

structure RecoveryTimeContext where
  basis : EffectiveAnchorTimeBasis
  outage : Option RecoveryOutageBounds
  elapsed : RecoveredPhaseElapsed
  deriving DecidableEq, Repr

/-- A carried-over anchor has no lower bound of its own. -/
def anchorOutage (anchor : PendingRecoveryAnchor) (basis : EffectiveAnchorTimeBasis)
    (utcAtRecoveryBoot : Option Int64) : Option RecoveryOutageBounds :=
  (computeRecoveryOutageBounds
    ⟨basis.effectiveCheckpointUtc, utcAtRecoveryBoot, none⟩).map fun outage =>
      if 0 < anchor.knownSecondsSinceOriginalCheckpoint then
        { outage with outageSecondsLowerBound := 0 }
      else outage

/-- The phase time of an anchor whose earlier part and whose outage are both
bounded from above. -/
def boundedPhaseElapsed (basis : EffectiveAnchorTimeBasis)
    (knownWithAccumulated : UInt64) (accumulatedUpperBound : UInt32)
    (outage : RecoveryOutageBounds) : Option RecoveredPhaseElapsed := do
  let accumulatedUpper ← checkedAdd accumulatedUpperBound.toUInt64
    basis.effectiveKnownSecondsBeforeCheckpoint
  let upper ← checkedAdd accumulatedUpper outage.outageSecondsUpperBound
  let lower ← checkedAdd knownWithAccumulated outage.outageSecondsLowerBound
  return ⟨basis.effectiveKnownSecondsBeforeCheckpoint, lower, some upper⟩

def recoveredElapsed (anchor : PendingRecoveryAnchor) (basis : EffectiveAnchorTimeBasis)
    (knownWithAccumulated : UInt64) (outage : Option RecoveryOutageBounds) :
    Option RecoveredPhaseElapsed :=
  match outage, anchor.accumulatedBeforeEpisode.upperBoundSeconds with
  | some outage, some accumulatedUpperBound =>
      boundedPhaseElapsed basis knownWithAccumulated accumulatedUpperBound outage
  | outage, _ => computeRecoveredPhaseElapsed knownWithAccumulated outage

def deriveRecoveryTimeContext (anchor : PendingRecoveryAnchor) (utcNow : Option Int64)
    (nowMonotonicMillis recoveryBootAnchorMonotonicMillis : UInt64) :
    Option RecoveryTimeContext := do
  let basis ← deriveEffectiveAnchorTimeBasis anchor
  let utcAtRecoveryBoot := deriveUtcAtRecoveryBootAnchor utcNow nowMonotonicMillis
    recoveryBootAnchorMonotonicMillis
  let outage := anchorOutage anchor basis utcAtRecoveryBoot
  let knownWithAccumulated ← checkedAdd
    anchor.accumulatedBeforeEpisode.lowerBoundSeconds.toUInt64
    basis.effectiveKnownSecondsBeforeCheckpoint
  let elapsed ← recoveredElapsed anchor basis knownWithAccumulated outage
  return ⟨basis, outage, elapsed⟩

/-! ## Weighted progress -/

/-- The progress of a segment that was never booked is unknown from now on. -/
def supersedeUnbookedWeightedSegment (progress : RunProgressState)
    (oldSegmentId : Option UInt32) : RunProgressState :=
  let weighted := progress.weightedProgress.getD {}
  if oldSegmentId = none ∨ oldSegmentId = some 0 ∨
      (progress.weightedProgress.bind (·.lastApplied)).map (·.lastAppliedSegmentId) =
        oldSegmentId then progress
  else
    { progress with weightedProgress := some { weighted with
      coverage := .partialUnknown
      cumulative := { weighted.cumulative with upperBoundSeconds := none } } }

end Fermentationsschrank

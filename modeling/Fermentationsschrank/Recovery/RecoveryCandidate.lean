import Fermentationsschrank.Persistence.Operations
import Fermentationsschrank.Run.RecoveryTime

/-!
# Recovery candidates

The live states a recovery proposes.  Nothing here touches the store; a missing
candidate is what the coordinator reports as an invalid decision.
-/

namespace Fermentationsschrank

/-! ## Time of an earlier boot -/

/-- The unsigned distance of two instants, without a signed overflow. -/
def checkedUtcDelta (current checkpoint : Int64) : Option UInt64 :=
  if current < checkpoint then none
  else if 0 ≤ checkpoint ∨ current < 0 then some (current - checkpoint).toUInt64
  else checkedAdd current.toUInt64 ((-(checkpoint + 1)).toUInt64 + 1)

/-- Earlier fermentation time that is known to the second. -/
def exactPriorFermentingSeconds (current : RunCommandState) : Option UInt32 :=
  match current.priorBootPhaseElapsed with
  | none => some 0
  | some tagged =>
      if tagged.taggedState = .fermenting ∧
          tagged.elapsed.upperBoundSeconds = some tagged.elapsed.lowerBoundSeconds then
        some tagged.elapsed.lowerBoundSeconds
      else none

/-- The seconds between the entry of the phase and its last checkpoint. -/
def secondsUntilCheckpoint (record : RunPersistenceRawRecord)
    (processState : ProcessRuntimeState) : Option UInt64 :=
  if record.snapshot.checkpointMonotonicMillis < processState.stateEnteredAtMillis then none
  else some
    ((record.snapshot.checkpointMonotonicMillis - processState.stateEnteredAtMillis) / 1000)

structure PendingRecoveryAnchorConstruction where
  anchor : PendingRecoveryAnchor
  thisHopAltBootLocalSeconds : UInt32

/-- An anchor that is still open is extended by the time of the last boot. -/
def makePendingRecoveryAnchor (candidate : RunCommandState)
    (loadedRecord : RunPersistenceRawRecord) (originalProcessState : ProcessRuntimeState) :
    Option PendingRecoveryAnchorConstruction :=
  if !(stateUsesRunSnapshot originalProcessState.state &&
      candidate.processRunSnapshot.any
        (stateMatchesRunSnapshot originalProcessState.state)) then none
  else do
    let seconds ← secondsUntilCheckpoint loadedRecord originalProcessState
    let thisHop ← checkedToUint32 seconds
    match loadedRecord.snapshot.pendingRecoveryAnchor with
    | some anchor => do
        let knownSince ← checkedAdd anchor.knownSecondsSinceOriginalCheckpoint
          thisHop.toUInt64
        some ⟨{ anchor with knownSecondsSinceOriginalCheckpoint := knownSince }, thisHop⟩
    | none =>
        some ⟨{
          originalProcessState
          knownPhaseSecondsAtOriginalCheckpoint := thisHop.toUInt64
          originalCheckpointUtc := loadedRecord.utcUnixSeconds
          originalCheckpointTrigger := loadedRecord.snapshot.trigger
          originalCheckpointIntervalMinutes :=
            loadedRecord.snapshot.intervalMinutes.toUInt32
          accumulatedBeforeEpisode :=
            ((candidate.priorBootPhaseElapsed.filter
              (·.taggedState = originalProcessState.state)).map (·.elapsed)).getD
                ⟨0, some 0⟩
          knownSecondsSinceOriginalCheckpoint := 0 }, thisHop⟩

def accumulatedPriorForResume (context : RecoveryTimeContext) :
    Option PriorBootPhaseElapsed := do
  let lower ← checkedToUint32 context.elapsed.totalSecondsLowerBound
  match context.elapsed.totalSecondsUpperBound with
  | none => some ⟨lower, none⟩
  | some upper => do
      let upper ← checkedToUint32 upper
      some ⟨lower, some upper⟩

/-- The phase as it starts again in this boot. -/
def rebasedRecoveredState (original : ProcessRuntimeState) (monotonicMillis : UInt64) :
    ProcessRuntimeState :=
  let state := if original.state = .qualifyingTarget then .reachingTarget
    else original.state
  { original with
    state
    stateEnteredAtMillis := monotonicMillis
    qualificationValidSinceMillis := none
    targetReachWarningIssued := false
    targetReachStartedAtMillis := if state = .reachingTarget then monotonicMillis else 0 }

def recoveryTimeResolvedAtResume (accumulated : Option TaggedPriorBootPhaseElapsed) :
    Bool := accumulated.all (·.elapsed.upperBoundSeconds.isSome)

/-- A resolved resume closes the time question. -/
def closeResolvedAnchor (candidate : RunCommandState) : RunCommandState :=
  if recoveryTimeResolvedAtResume candidate.priorBootPhaseElapsed then
    { candidate with
      pendingRecoveryAnchor := none
      recoveryBootAnchorMonotonicMillis := none }
  else candidate

/-! ## Steps shared by the recoveries -/

def updateLastKnownEvidence (candidate : RunCommandState)
    (live : CrossRolePlausibilityContext) : RunCommandState :=
  { candidate with recoveryTemperatureEvidence := { lastKnown := {
      air := toRoleTemperatureEvidence live.air
      product := toRoleTemperatureEvidence live.product
      cooling := toRoleTemperatureEvidence live.cooling } } }

/-- The sensor selection a restart recommends, with the run it was applied to. -/
def restartSensors (candidate : RunCommandState) (live : CrossRolePlausibilityContext) :
    Option (SensorPeltierPermission × RunCommandState) := do
  let selection ← candidate.sensorSelection
  let mode ← candidate.activeRunSensorMode
  let recommendation := computeRestartSensorSelection selection mode
    (recoverySensorSelectionProgramContext candidate) live
  return (recommendation.runtime.permission, { candidate with
    sensorSelectionRuntime := recommendation.runtime
    activeRunSensorMode := some recommendation.activeMode
    activeManualRun :=
      setManualSensorMode candidate.activeManualRun recommendation.activeMode })

/-- A product wait that ended during the outage leaves no run. -/
def endExpiredWait (candidate : RunCommandState) (monotonicMillis : UInt64) :
    Option RunCommandState :=
  transitioned candidate (propose candidate.processState .standby
    .recoveryEndedByExpiredWait monotonicMillis)

/-- The decision that ends a recovery whose sensors do not permit it. -/
def recoveryRejection (candidate : RunCommandState) (monotonicMillis : UInt64) :
    TransitionDecision :=
  decideProcessTransition candidate.processState candidate.processRunSnapshot {}
    { event := .recoveryReject } monotonicMillis

def clearRejectedRun (candidate : RunCommandState) : RunCommandState :=
  clearActiveRunState { candidate with
    pendingRecoveryAnchor := none
    recoveryBootAnchorMonotonicMillis := none
    priorBootPhaseElapsed := none }

/-- The second hop: out of the evaluation, into the recovered phase. -/
def resumePhase (candidate : RunCommandState) (recovered : ProcessRuntimeState)
    (monotonicMillis : UInt64) (prior : PriorBootPhaseElapsed) : Option RunCommandState :=
  transitioned candidate (decideProcessTransition candidate.processState
    candidate.processRunSnapshot {}
    { event := .recoveryResume, recoveredState := some recovered } monotonicMillis prior)

def clearFallback : RunPersistenceFallbackDirective := { mode := .clearFallback }

/-! ## A recovery episode -/

/-- The first hop of a new episode: the interrupted phase becomes the anchor. -/
def openEpisode (current : RunCommandState) (loadedRecord : RunPersistenceRawRecord)
    (monotonicMillis : UInt64) (live : CrossRolePlausibilityContext) :
    Option RunCommandState :=
  if !stateUsesRunSnapshot current.processState.state ||
      current.recoveryEpisodeRevision = maxUInt32 then none
  else do
    let opened ← makePendingRecoveryAnchor current loadedRecord current.processState
    let anchored := { current with pendingRecoveryAnchor := some opened.anchor }
    let folded ←
      if current.processState.state = .fermenting then
        foldObservedRunSeconds anchored opened.thisHopAltBootLocalSeconds.toUInt64
      else some anchored
    let episode := current.recoveryEpisodeRevision + 1
    -- The evidence before the outage is frozen before the readings of this boot.
    let frozen := { folded with
      recoveryBootAnchorMonotonicMillis := some monotonicMillis
      recoveryEpisodeRevision := episode
      runProgress := match current.lastRecoveryEpisodeEvidence with
        | some evidence => supersedeUnbookedWeightedSegment folded.runProgress
            evidence.weightedProgressSegmentId
        | none => folded.runProgress
      lastRecoveryEpisodeEvidence := some {
        beforeOutage := current.recoveryTemperatureEvidence.lastKnown
        weightedProgressSegmentId := some episode } }
    let evaluating ← transitioned (updateLastKnownEvidence frozen live)
      (propose current.processState .recoveryEvaluation .recoveryReentryRequired
        monotonicMillis)
    some (applyLiveRecoveryEvidence evaluating live)

/-- The product wait can only be resumed before its latest possible end. -/
def priorForResume (original : ProcessState) (context : RecoveryTimeContext)
    (accumulated : PriorBootPhaseElapsed) : Option PriorBootPhaseElapsed :=
  if original = .waitingForProduct then do
    let upper ← context.elapsed.totalSecondsUpperBound
    let upper ← checkedToUint32 upper
    some ⟨upper, some upper⟩
  else some accumulated

/-- Only the phases with a limit remember what they had spent before. -/
def tagPriorElapsed (resumed : RunCommandState) (accumulated : PriorBootPhaseElapsed) :
    RunCommandState :=
  let state := resumed.processState.state
  { resumed with
    priorBootPhaseElapsed :=
      if state = .waitingForProduct ∨ state = .fermenting ∨ state = .coolHolding then
        some ⟨state, accumulated⟩
      else none }

/-- The resume of an episode whose sensors permit it. -/
def resumeEpisode (original : ProcessRuntimeState) (candidate : RunCommandState)
    (context : RecoveryTimeContext) (monotonicMillis : UInt64)
    (live : CrossRolePlausibilityContext) : Option RunCommandState := do
  let accumulated ← accumulatedPriorForResume context
  let prior ← priorForResume original.state context accumulated
  match resumePhase candidate (rebasedRecoveredState original monotonicMillis)
      monotonicMillis prior with
  | none => if original.state = .waitingForProduct then some candidate else none
  | some resumed =>
      some (closeResolvedAnchor
        (applyLiveRecoveryEvidence (tagPriorElapsed resumed accumulated) live))

/-- The episode after its time has been judged. -/
def continueEpisode (original : ProcessRuntimeState) (candidate : RunCommandState)
    (context : RecoveryTimeContext) (monotonicMillis : UInt64)
    (live : CrossRolePlausibilityContext) :
    Option (RunCommandState × RunPersistenceFallbackDirective) := do
  let (permission, selected) ← restartSensors candidate live
  if permission ≠ .allowed then do
    let rejected ← transitioned selected (recoveryRejection selected monotonicMillis)
    some (clearRejectedRun (closeWeightedSegment rejected), clearFallback)
  else do
    let resumed ← resumeEpisode original selected context monotonicMillis live
    some (resumed, {})

/-- What becomes of the evaluated episode: an expired wait ends, an uncertain
one keeps waiting for an answer, everything else continues. -/
def settleEpisode (original : ProcessRuntimeState) (candidate : RunCommandState)
    (time : RunCheckpointTime) (live : CrossRolePlausibilityContext) :
    Option (RunCommandState × RunPersistenceFallbackDirective) := do
  let anchor ← candidate.pendingRecoveryAnchor
  let bootAnchor ← candidate.recoveryBootAnchorMonotonicMillis
  let context ← deriveRecoveryTimeContext anchor time.utcUnixSeconds time.monotonicMillis
    bootAnchor
  if original.state = .waitingForProduct then do
    let process ← candidate.processRunSnapshot
    let minutes ← process.maximumProductWaitMinutes
    match evaluateRecoveryTimeVerdict context.elapsed (minutes * 60) with
    | .definitelyExpired => do
        let ended ← endExpiredWait candidate time.monotonicMillis
        some (clearActiveRunState (applyLiveRecoveryEvidence ended live), {})
    | .uncertain => some (candidate, {})
    | .definitelyStillValid =>
        continueEpisode original candidate context time.monotonicMillis live
  else continueEpisode original candidate context time.monotonicMillis live

/-- A reboot during the evaluation only refreshes the episode. -/
def refreshEpisode (current : RunCommandState) (monotonicMillis : UInt64)
    (live : CrossRolePlausibilityContext) : Option RunCommandState :=
  if current.pendingRecoveryAnchor.isSome && current.recoveryBootAnchorMonotonicMillis.isSome
      && decide (current.recoveryEpisodeRevision ≠ maxUInt32) then
    some (applyLiveRecoveryEvidence { updateLastKnownEvidence current live with
      recoveryEpisodeRevision := current.recoveryEpisodeRevision + 1
      recoveryBootAnchorMonotonicMillis := some monotonicMillis } live)
  else none

/-! ## A fermentation with exactly known time -/

/-- What the recovery of a fermentation can fail with. -/
inductive FermentingFailure
  | invalid
  | counterOverflow
  deriving DecidableEq, Repr

/-- The phase time at the checkpoint, and with the outage. -/
structure RecoveredFermentingTime where
  liveSegment : UInt32
  recoveredPhase : UInt64
  recoveredPrior : UInt32
  duration : UInt32
  deriving DecidableEq, Repr

def recoverFermentingTime (current : RunCommandState)
    (loadedRecord : RunPersistenceRawRecord) (time : RunCheckpointTime) :
    Except FermentingFailure RecoveredFermentingTime := do
  require (current.processState.state = .fermenting ∧
    current.runProgress.basis = .knownTotal) .invalid
  let minutes ← orFail (current.processRunSnapshot.bind (·.fermentationDurationMinutes))
    .invalid
  let checkpointUtc ← orFail loadedRecord.utcUnixSeconds .invalid
  let utc ← orFail time.utcUnixSeconds .invalid
  let prior ← orFail (exactPriorFermentingSeconds current) .invalid
  let seconds ← orFail (secondsUntilCheckpoint loadedRecord current.processState) .invalid
  let liveSegment ← orFail (checkedToUint32 seconds) .counterOverflow
  let phaseAtCheckpoint ← orFail (checkedAdd prior.toUInt64 liveSegment.toUInt64)
    .counterOverflow
  let wallClock ← orFail (checkedUtcDelta utc checkpointUtc) .counterOverflow
  let recoveredPhase ← orFail (checkedAdd phaseAtCheckpoint wallClock) .counterOverflow
  let duration ← orFail (checkedToUint32 (minutes.toUInt64 * 60)) .counterOverflow
  let recoveredPrior ← orFail (checkedToUint32 recoveredPhase) .counterOverflow
  return ⟨liveSegment, recoveredPhase, recoveredPrior, duration⟩

/-- The fermentation goes on with the outage counted as phase time. -/
def continueFermenting (candidate : RunCommandState) (original : ProcessRuntimeState)
    (recoveredPrior : UInt32) (monotonicMillis : UInt64) : Option RunCommandState := do
  let evaluating ← transitioned candidate (propose candidate.processState
    .recoveryEvaluation .recoveryReentryRequired monotonicMillis)
  let resumed ← resumePhase evaluating { original with
      state := .fermenting
      stateEnteredAtMillis := monotonicMillis
      qualificationValidSinceMillis := none
      targetReachStartedAtMillis := 0
      targetReachWarningIssued := false }
    monotonicMillis ⟨recoveredPrior, some recoveredPrior⟩
  some { resumed with
    priorBootPhaseElapsed := some ⟨.fermenting, ⟨recoveredPrior, some recoveredPrior⟩⟩ }

/-- The fermentation ended during the outage.  A selected fallback that has
completed is acknowledged at once. -/
def completeFermenting (candidate : RunCommandState) (monotonicMillis : UInt64)
    (completionToNoActiveRun : Bool) : Option RunCommandState := do
  let process ← candidate.processRunSnapshot
  let completed ← transitioned candidate
    (completeTimedRun candidate.processState process monotonicMillis)
  if completionToNoActiveRun && decide (completed.processState.state = .completed) then do
    let acknowledged ← transitioned completed (decideProcessTransition
      completed.processState completed.processRunSnapshot {}
      { event := .acknowledgeCompletion } monotonicMillis)
    some { clearActiveRunState acknowledged with priorBootPhaseElapsed := none }
  else some { completed with priorBootPhaseElapsed := none }

def exactFermentingCandidate (current : RunCommandState)
    (loadedRecord : RunPersistenceRawRecord) (time : RunCheckpointTime)
    (completionToNoActiveRun : Bool) : Except FermentingFailure RunCommandState := do
  let recovered ← recoverFermentingTime current loadedRecord time
  let folded ← orFail (foldObservedRunSeconds current recovered.liveSegment.toUInt64)
    .counterOverflow
  require (folded.runRevision ≠ maxUInt32) .counterOverflow
  let candidate ← orFail
    (if recovered.recoveredPhase < recovered.duration.toUInt64 then
      continueFermenting folded current.processState recovered.recoveredPrior
        time.monotonicMillis
    else completeFermenting folded time.monotonicMillis completionToNoActiveRun)
    .invalid
  return { candidate with runRevision := candidate.runRevision + 1 }

end Fermentationsschrank

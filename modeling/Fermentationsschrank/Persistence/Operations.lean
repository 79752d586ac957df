import Fermentationsschrank.Persistence.SnapshotWrite
import Fermentationsschrank.Run.RunCommands

/-!
# Operations of the coordinator

The operations that change a running boot.  Each of them derives a candidate
from the live state, writes its projection, and applies the change to the live
state only after the write has been reported as applied.
-/

namespace Fermentationsschrank

/-! ## Shared steps -/

structure RunPersistenceOutcome where
  result : RunPersistenceResult
  coordinator : RunPersistenceCoordinator
  current : RunCommandState

/-- A write with the step that follows it when it was applied. -/
structure PlannedWrite where
  write : SnapshotWrite
  finish : RunPersistenceCoordinator → RunPersistenceResult → RunPersistenceOutcome

/-- Write before apply: the live state follows only an applied write. -/
def PlannedWrite.settle (planned : PlannedWrite) (current : RunCommandState)
    (ended : RunPersistenceResult × RunPersistenceCoordinator) : RunPersistenceOutcome :=
  if ended.1.status = .applied then planned.finish ended.2 ended.1
  else ⟨ended.1, ended.2, current⟩

namespace RunPersistenceCoordinator

def commitWrite (coordinator : RunPersistenceCoordinator) (current : RunCommandState)
    (planned : PlannedWrite) : RunStoreProgram RunPersistenceOutcome := do
  let ended ← coordinator.writeSnapshotCore planned.write
  pure (planned.settle current ended)

def performWrite (coordinator : RunPersistenceCoordinator) (current : RunCommandState) :
    Except RunPersistenceResult PlannedWrite → RunStoreProgram RunPersistenceOutcome
  | .error refused => pure ⟨refused, coordinator, current⟩
  | .ok planned => coordinator.commitWrite current planned

/-- Nothing runs while a command borrows the candidate. -/
def unlessBorrowed (coordinator : RunPersistenceCoordinator) (current : RunCommandState)
    (operation : RunStoreProgram RunPersistenceOutcome) :
    RunStoreProgram RunPersistenceOutcome :=
  if coordinator.commandBorrowed then
    pure ⟨coordinator.borrowedBusyResult, coordinator, current⟩
  else operation

def requireReady (coordinator : RunPersistenceCoordinator) :
    Except RunPersistenceResult Unit :=
  require (coordinator.state = .ready) coordinator.unavailableResult

/-- The result of a candidate that cannot be projected. -/
def invalidCandidate (coordinator : RunPersistenceCoordinator) : RunPersistenceResult :=
  coordinator.result .invalidDecision .candidateApply .invalidProjection

/-- The projection of a candidate as every operation writes it. -/
def projectCandidate (coordinator : RunPersistenceCoordinator)
    (candidate : RunCommandState) (ids : List CommandId) (trigger : RunCheckpointTrigger)
    (time : RunCheckpointTime) : Except RunPersistenceResult RunPersistenceSnapshot :=
  orFail (makeRunPersistenceSnapshot candidate ids trigger time
    coordinator.schedule.intervalMinutes) coordinator.invalidCandidate

/-- The result of an operation whose live state has followed the write. -/
def appliedResult (coordinator : RunPersistenceCoordinator) : RunPersistenceResult :=
  coordinator.result .applied .ramApply .none .changed

/-- The live state could not follow a committed write. -/
def applyFailed (coordinator : RunPersistenceCoordinator) (current : RunCommandState) :
    RunPersistenceOutcome :=
  let failed := coordinator.withState .persistenceCommittedApplyFailed
  ⟨failed.result .persistenceCommittedApplyFailed .ramApply .invalidProjection .changed,
    failed, current⟩

end RunPersistenceCoordinator

/-! ## Sensor evidence after a restart -/

def toRoleTemperatureEvidence (source : SensorQualitySnapshot) :
    RoleTemperatureEvidence := ⟨source.filteredCelsius, source.quality⟩

def recoveryEvidenceWindowOpen (current : RunCommandState) : Bool :=
  (current.pendingRecoveryAnchor.isSome &&
      decide (current.processState.state = .recoveryEvaluation)) ||
    current.priorBootPhaseElapsed.any (·.taggedState = current.processState.state)

/-- The first valid reading after a restart is kept. -/
def latchRole (target : Option RoleTemperatureEvidence) (live : SensorQualitySnapshot) :
    Option RoleTemperatureEvidence :=
  if target.isSome ∨ live.quality ≠ .valid ∨ live.filteredCelsius = none then target
  else some (toRoleTemperatureEvidence live)

def latchEvidence (evidence : RecoveryEpisodeEvidence)
    (live : CrossRolePlausibilityContext) : RecoveryEpisodeEvidence :=
  { evidence with firstAfterRestart := {
      air := latchRole evidence.firstAfterRestart.air live.air
      product := latchRole evidence.firstAfterRestart.product live.product
      cooling := latchRole evidence.firstAfterRestart.cooling live.cooling } }

def applyLiveRecoveryEvidence (current : RunCommandState)
    (live : CrossRolePlausibilityContext) : RunCommandState :=
  if recoveryEvidenceWindowOpen current then
    { current with lastRecoveryEpisodeEvidence :=
        current.lastRecoveryEpisodeEvidence.map (latchEvidence · live) }
  else current

/-- The evidence is optional in every operation. -/
def withLiveEvidence (current : RunCommandState)
    (live : Option CrossRolePlausibilityContext) : RunCommandState :=
  match live with
  | none => current
  | some live => applyLiveRecoveryEvidence current live

/-! ## Commands -/

/-- Where the planner parameters of a fresh start come from. -/
inductive FreshStartSnapshotProvenance
  | absent
  | present (snapshot : ActuatorPlannerParameters)
  | invalidSource
  deriving DecidableEq, Repr

def FreshStartSnapshotProvenance.snapshot? :
    FreshStartSnapshotProvenance → Option ActuatorPlannerParameters
  | .present snapshot => some snapshot
  | .absent | .invalidSource => none

def isPersistedRunCommand : CommandKind → Bool
  | .acknowledgeMessage | .muteMessage => false
  | _ => true

def freshProductiveStart (kind : CommandKind) : Bool :=
  kind = .startProgram ∨ kind = .startManualHolding

def ramOnlySensorAction (decision : CommandDecision) : Bool :=
  decision.kind = .applySensorSelectionAction ∧
    decision.sensorSelectionApplyStatus = some .appliedRamOnly

def rememberPersistedCommand (ids : List CommandId) (id : CommandId) : List CommandId :=
  if ids.length < kMaximumPersistedRunCommandIds then ids ++ [id] else ids.drop 1 ++ [id]

/-- Only a fresh start decides about the planner parameters of its run. -/
def withFreshPlanner (state : RunCommandState) (kind : CommandKind)
    (provenance : Option FreshStartSnapshotProvenance) : RunCommandState :=
  if freshProductiveStart kind then
    { state with actuatorPlannerParametersSnapshot := provenance.bind (·.snapshot?) }
  else state

namespace RunPersistenceCoordinator

def admitCommand (coordinator : RunPersistenceCoordinator) (decision : CommandDecision)
    (time : RunCheckpointTime) (provenance : Option FreshStartSnapshotProvenance) :
    Except RunPersistenceResult Unit := do
  require (coordinator.state = .ready ∨ coordinator.state = .readyEmpty)
    coordinator.unavailableResult
  require decision.proposed (coordinator.result .invalidDecision)
  require (isPersistedRunCommand decision.kind) (coordinator.result .notEligible)
  require (decision.effects.length ≤ kMaximumCommandEffects) coordinator.invalidCandidate
  require (time.monotonicMillis = decision.envelope.monotonicMillis)
    (coordinator.result .timeMismatch)
  require (decision.envelope.id ∉ coordinator.persistedIds)
    (coordinator.result .alreadyPersisted)
  require coordinator.commandIdHighWater.isSome
    (coordinator.result .blocked .candidateApply .invalidProjection)
  let fresh := freshProductiveStart decision.kind
  require (!fresh || provenance.isSome)
    (coordinator.result .notEligible .candidateApply .invalidProjection)
  require (!fresh || decide (provenance ≠ some .invalidSource))
    coordinator.invalidCandidate
  require (!fresh || time.utcUnixSeconds.isSome)
    (coordinator.result .blocked .candidateApply .trustedAbsoluteTimeRequired)

/-- A decision that is not recorded changes the live state alone. -/
def applyRamOnly (coordinator : RunPersistenceCoordinator) (current : RunCommandState)
    (decision : CommandDecision) (guard : CommandApplyGuard)
    (live : Option CrossRolePlausibilityContext) : RunPersistenceOutcome :=
  match applyRunCommand current decision guard with
  | (.applied, after) =>
      ⟨{ coordinator.result .applied .ramApply with effects := decision.effects },
        coordinator, withLiveEvidence after live⟩
  | (.alreadyProcessed, _) => ⟨coordinator.result .alreadyProcessed, coordinator, current⟩
  | (.staleState, _) =>
      ⟨coordinator.result .staleDecision .candidateApply, coordinator, current⟩
  | _ => ⟨coordinator.result .invalidDecision .candidateApply, coordinator, current⟩

/-- What is written of a command. -/
def commandCandidate (decision : CommandDecision)
    (live : Option CrossRolePlausibilityContext)
    (provenance : Option FreshStartSnapshotProvenance) : RunCommandState :=
  withFreshPlanner (withLiveEvidence decision.after live) decision.kind provenance

/-- What the live state becomes by a command. -/
def commandApplied (decision : CommandDecision)
    (live : Option CrossRolePlausibilityContext)
    (provenance : Option FreshStartSnapshotProvenance) : RunCommandState :=
  withLiveEvidence (withFreshPlanner decision.after decision.kind provenance) live

def finishCommand (current : RunCommandState) (decision : CommandDecision)
    (guard : CommandApplyGuard) (live : Option CrossRolePlausibilityContext)
    (provenance : Option FreshStartSnapshotProvenance)
    (coordinator : RunPersistenceCoordinator) (_ : RunPersistenceResult) :
    RunPersistenceOutcome :=
  if validateRunCommand current decision guard ≠ .applied then
    coordinator.applyFailed current
  else
    ⟨{ coordinator.appliedResult with
        effects := decision.effects
        sensorSelectionEvent := decision.sensorSelectionEvent
        sensorSelectionNotice := decision.sensorSelectionNotice
        startSensorSelectionNotice := decision.startSensorSelectionNotice
        committedControlContextTransition := decision.committedControlContextTransition },
      { coordinator with persistedIds :=
          rememberPersistedCommand coordinator.persistedIds decision.envelope.id },
      commandApplied decision live provenance⟩

def planCommand (coordinator : RunPersistenceCoordinator) (current : RunCommandState)
    (decision : CommandDecision) (guard : CommandApplyGuard) (time : RunCheckpointTime)
    (live : Option CrossRolePlausibilityContext)
    (provenance : Option FreshStartSnapshotProvenance) :
    Except RunPersistenceResult PlannedWrite := do
  let status := validateRunCommand current decision guard
  require (status ≠ .staleState) (coordinator.result .staleDecision .candidateApply)
  require (status = .applied) (coordinator.result .invalidDecision .candidateApply)
  require (coordinator.nextCheckpointRevision ≠ 0) (coordinator.result .counterOverflow)
  let snapshot ← coordinator.projectCandidate (commandCandidate decision live provenance)
    (rememberPersistedCommand coordinator.persistedIds decision.envelope.id) .command time
  return {
    write := {
      snapshot, time
      before := .ofState current
      mutationKind := .command
      commandId := some decision.envelope.id
      rollbackState := coordinator.state }
    finish := finishCommand current decision guard live provenance }

def persistCommandInternal (coordinator : RunPersistenceCoordinator)
    (current : RunCommandState) (decision : CommandDecision) (guard : CommandApplyGuard)
    (time : RunCheckpointTime) (live : Option CrossRolePlausibilityContext)
    (provenance : Option FreshStartSnapshotProvenance) :
    RunStoreProgram RunPersistenceOutcome :=
  match coordinator.admitCommand decision time provenance with
  | .error refused => pure ⟨refused, coordinator, current⟩
  | .ok () =>
      if ramOnlySensorAction decision then
        pure (coordinator.applyRamOnly current decision guard live)
      else
        coordinator.performWrite current
          (coordinator.planCommand current decision guard time live provenance)

/-- A start without a provenance carries no planner parameters. -/
def persistCommand (coordinator : RunPersistenceCoordinator) (current : RunCommandState)
    (decision : CommandDecision) (time : RunCheckpointTime)
    (live : Option CrossRolePlausibilityContext := none) :
    RunStoreProgram RunPersistenceOutcome :=
  coordinator.unlessBorrowed current <|
    coordinator.persistCommandInternal current decision (.exact decision.before) time live
      (if freshProductiveStart decision.kind then some .absent else none)

def persistFreshStartCommand (coordinator : RunPersistenceCoordinator)
    (current : RunCommandState) (decision : CommandDecision)
    (provenance : FreshStartSnapshotProvenance) (time : RunCheckpointTime)
    (live : Option CrossRolePlausibilityContext := none) :
    RunStoreProgram RunPersistenceOutcome :=
  coordinator.unlessBorrowed current <|
    coordinator.persistCommandInternal current decision (.exact decision.before) time live
      (some provenance)

/-- The decision refers to the live state itself; its guard was frozen when the
operation was opened. -/
def persistBorrowedCommand (coordinator : RunPersistenceCoordinator)
    (current : RunCommandState) (decision : CommandDecision) (time : RunCheckpointTime)
    (live : Option CrossRolePlausibilityContext)
    (provenance : Option FreshStartSnapshotProvenance) :
    RunStoreProgram RunPersistenceOutcome :=
  coordinator.unlessBorrowed current <|
    if decision.before ≠ current then
      pure ⟨coordinator.result .invalidDecision, coordinator, current⟩
    else
      coordinator.persistCommandInternal current decision (.freeze decision.before) time
        live provenance

end RunPersistenceCoordinator

/-! ## Transitions -/

def eligibleTransition : TransitionReason → Bool
  | .qualificationTrackingStarted | .qualificationReset | .preheatQualified
  | .productInserted | .productWaitExpired | .targetReachTimeExceeded | .targetQualified
  | .fermentationCompleted | .coolingTargetReached | .holdDurationCompleted
  | .holdFinishedByUser | .criticalFault => true
  | _ => false

def foldsObservedFermentingTime (current : RunCommandState)
    (decision : TransitionDecision) : Bool :=
  current.processState.state = .fermenting ∧ decision.after.state ≠ .fermenting

/-- The transition on a state that has a process snapshot. -/
def transitioned (current : RunCommandState) (decision : TransitionDecision) :
    Option RunCommandState := do
  let process ← current.processRunSnapshot
  let processState ← applyProcessTransition current.processState decision (some process)
  return { current with processState }

def clearExpiredWait (state : RunCommandState) (reason : TransitionReason) :
    RunCommandState :=
  if reason = .productWaitExpired then clearActiveRunState state else state

/-- A segment that was not booked before the phase ended is closed. -/
def closeSegmentOnPhaseChange (candidate : RunCommandState) (before : ProcessState) :
    RunCommandState :=
  if candidate.processState.state ≠ before then closeWeightedSegment candidate
  else candidate

/-- What a product insertion means for the control context. -/
def transitionControlContext (current : RunCommandState) (decision : TransitionDecision) :
    Option CommittedControlContextTransition :=
  if decision.reason = .productInserted then
    resolveProductInsertedControlContextTransition
      (resolveEffectiveControlSensorRole decision.before.state current.activeRunSensorMode)
      (resolveEffectiveControlSensorRole current.processState.state
        current.activeRunSensorMode)
  else decision.committedControlContextTransition

namespace RunPersistenceCoordinator

/-- The observed seconds of a fermentation that ends with the transition. -/
def foldTransition (coordinator : RunPersistenceCoordinator) (current : RunCommandState)
    (decision : TransitionDecision) :
    Except RunPersistenceResult (UInt32 × RunCommandState) :=
  if foldsObservedFermentingTime current decision then do
    let delta ← orFail (deriveFermentingSecondsDelta current decision.monotonicMillis)
      (coordinator.result .invalidDecision .candidateApply)
    let folded ← orFail (foldObservedRunSeconds current delta.toUInt64)
      (coordinator.result .counterOverflow .candidateApply)
    return (delta, folded)
  else return (0, current)

def finishTransition (current : RunCommandState) (decision : TransitionDecision)
    (delta : UInt32) (live : Option CrossRolePlausibilityContext)
    (coordinator : RunPersistenceCoordinator) (_ : RunPersistenceResult) :
    RunPersistenceOutcome :=
  match transitioned current decision with
  | none => coordinator.applyFailed current
  | some moved =>
      match (if foldsObservedFermentingTime current decision then
          foldObservedRunSeconds moved delta.toUInt64
        else some moved) with
      | none => coordinator.applyFailed moved
      | some folded =>
          let after := withLiveEvidence (clearExpiredWait folded decision.reason) live
          ⟨{ coordinator.appliedResult with
              messages := decision.messages
              committedControlContextTransition :=
                transitionControlContext after decision },
            coordinator, after⟩

/-- What is written of a transition. -/
def transitionCandidate (current : RunCommandState) (moved : RunCommandState)
    (reason : TransitionReason) (live : Option CrossRolePlausibilityContext) :
    RunCommandState :=
  withLiveEvidence
    (closeSegmentOnPhaseChange (clearExpiredWait moved reason) current.processState.state)
    live

def planTransition (coordinator : RunPersistenceCoordinator) (current : RunCommandState)
    (decision : TransitionDecision) (time : RunCheckpointTime)
    (live : Option CrossRolePlausibilityContext) :
    Except RunPersistenceResult PlannedWrite := do
  coordinator.requireReady
  require (decision.proposed && eligibleTransition decision.reason)
    (coordinator.result .invalidDecision)
  require (decision.messages.length ≤ kMaximumTransitionMessages)
    coordinator.invalidCandidate
  require (time.monotonicMillis = decision.monotonicMillis)
    (coordinator.result .timeMismatch)
  let (delta, folded) ← coordinator.foldTransition current decision
  let moved ← orFail (transitioned folded decision)
    (coordinator.result .staleDecision .candidateApply)
  let snapshot ← coordinator.projectCandidate
    (transitionCandidate current moved decision.reason live) coordinator.persistedIds
    .transition time
  return {
    write := {
      snapshot, time
      before := .ofState current
      mutationKind := .transition
      rollbackState := coordinator.state }
    finish := finishTransition current decision delta live }

def persistTransition (coordinator : RunPersistenceCoordinator)
    (current : RunCommandState) (decision : TransitionDecision) (time : RunCheckpointTime)
    (live : Option CrossRolePlausibilityContext := none) :
    RunStoreProgram RunPersistenceOutcome :=
  coordinator.unlessBorrowed current <|
    coordinator.performWrite current
      (coordinator.planTransition current decision time live)

/-! ## Periodic checkpoints -/

/-- The payload the live state would have under the confirmed checkpoint. -/
def expectedPayload (coordinator : RunPersistenceCoordinator) (current : RunCommandState)
    (confirmed : RunPersistenceSnapshot) : Option Bytes := do
  let expected ← makeRunPersistenceSnapshot current coordinator.persistedIds
    confirmed.trigger ⟨confirmed.checkpointMonotonicMillis, none⟩ confirmed.intervalMinutes
  (encodeRunPersistenceSnapshot expected).toOption

/-- The live state still is the confirmed checkpoint. -/
def matchesConfirmed (coordinator : RunPersistenceCoordinator) (current : RunCommandState)
    (confirmed : RunPersistenceSnapshot) : Bool :=
  (coordinator.expectedPayload current confirmed).any fun expected =>
    (encodeRunPersistenceSnapshot confirmed).toOption = some expected

def isActiveFermentingCurrent (current : RunCommandState) : Bool :=
  current.hasActiveRun && decide (current.processState.state = .fermenting)

def planPeriodic (coordinator : RunPersistenceCoordinator) (current : RunCommandState)
    (time : RunCheckpointTime) (live : Option CrossRolePlausibilityContext) :
    Except RunPersistenceResult PlannedWrite := do
  require (coordinator.state ≠ .readyEmpty) (coordinator.result .noActiveRun)
  coordinator.requireReady
  require current.hasActiveRun (coordinator.result .noActiveRun)
  let stale := coordinator.result .staleDecision .candidateApply .invalidProjection
  let record ← orFail coordinator.currentRecord stale
  require (coordinator.matchesConfirmed current record.snapshot) stale
  let due := coordinator.schedule.due time.monotonicMillis
  require (due ≠ .notDue) (coordinator.result .notDue)
  require (due = .success) (coordinator.result .timeWentBackwards)
  require (!(isActiveFermentingCurrent current && time.utcUnixSeconds.isNone))
    (coordinator.result .blocked .candidateApply .trustedAbsoluteTimeRequired)
  let snapshot ← coordinator.projectCandidate (withLiveEvidence current live)
    coordinator.persistedIds .periodic time
  return {
    write := {
      snapshot, time
      periodic := true
      before := .ofState current
      mutationKind := .transition
      rollbackState := coordinator.state }
    finish := fun after persisted => ⟨persisted, after, current⟩ }

/-- The live state is only read. -/
def checkpointPeriodic (coordinator : RunPersistenceCoordinator)
    (current : RunCommandState) (time : RunCheckpointTime)
    (live : Option CrossRolePlausibilityContext := none) :
    RunStoreProgram RunPersistenceOutcome :=
  coordinator.unlessBorrowed current <|
    coordinator.performWrite current (coordinator.planPeriodic current time live)

end RunPersistenceCoordinator

/-! ## Sensor selection -/

/-- The six causes that arise without a user. -/
def automaticSensorSelectionCause : SensorSelectionDecisionCause → Bool
  | .productFailureBlock | .fallbackToAir | .automaticValidatedReturn
  | .recoveryRevalidation | .safeStateEntry | .returnValidationAborted => true
  | .none | .startSelection | .manualUserFallback | .manualUserReturn => false

namespace RunPersistenceCoordinator

def finishSensorSelection (current : RunCommandState) (candidate : RunCommandState)
    (mutation : SensorSelectionStateMutation) (time : RunCheckpointTime)
    (live : Option CrossRolePlausibilityContext)
    (coordinator : RunPersistenceCoordinator) (_ : RunPersistenceResult) :
    RunPersistenceOutcome :=
  let after := withLiveEvidence { applySensorSelectionMutation current mutation with
    processState := candidate.processState } live
  let applied := { coordinator.appliedResult with
    effects := (sensorPermissionEffect current mutation).toList }
  ⟨match mutation.event with
    | some event => { applied with
        sensorSelectionEvent := some { event with utcUnixSeconds := time.utcUnixSeconds }
        committedControlContextTransition :=
          resolveControlSensorRoleTransition current.processState.state
            current.activeRunSensorMode after.processState.state mutation.activeMode }
    | none => { applied with sensorSelectionNotice := mutation.notice },
    coordinator, after⟩

def planSensorSelection (coordinator : RunPersistenceCoordinator)
    (current : RunCommandState) (mutation : SensorSelectionStateMutation)
    (time : RunCheckpointTime) (live : Option CrossRolePlausibilityContext) :
    Except RunPersistenceResult PlannedWrite := do
  require (coordinator.state ≠ .readyEmpty) (coordinator.result .noActiveRun)
  coordinator.requireReady
  require current.hasActiveRun (coordinator.result .noActiveRun)
  require (!current.activeRunId.isEmpty && current.activeRunSensorMode.isSome &&
    current.sensorSelection.isSome) (coordinator.result .notEligible)
  require (mutation.status = .appliedPersistentCandidate)
    (coordinator.result .invalidDecision)
  require mutation.activeMode.isSome coordinator.invalidCandidate
  let persisted ← orFail mutation.persisted coordinator.invalidCandidate
  require (automaticSensorSelectionCause persisted.lastDecisionCause)
    (coordinator.result .notEligible)
  require (mutation.runtime.lastAppliedMonotonicMillis.all (· = time.monotonicMillis))
    (coordinator.result .timeMismatch)
  require (mutation.resultingRunRevision = current.runRevision + 1)
    (coordinator.result .staleDecision .candidateApply)
  require (coordinator.nextCheckpointRevision ≠ 0) (coordinator.result .counterOverflow)
  let candidate ← orFail (resetChangedSensorRole current
    (applySensorSelectionMutation current mutation) mutation time.monotonicMillis)
    coordinator.invalidCandidate
  let snapshot ← coordinator.projectCandidate (withLiveEvidence candidate live)
    coordinator.persistedIds .sensorSelection time
  return {
    write := {
      snapshot, time
      before := .ofState current
      mutationKind := .sensorSelection
      rollbackState := coordinator.state }
    finish := finishSensorSelection current candidate mutation time live }

def persistSensorSelection (coordinator : RunPersistenceCoordinator)
    (current : RunCommandState) (mutation : SensorSelectionStateMutation)
    (time : RunCheckpointTime) (live : Option CrossRolePlausibilityContext := none) :
    RunStoreProgram RunPersistenceOutcome :=
  coordinator.unlessBorrowed current <|
    coordinator.performWrite current
      (coordinator.planSensorSelection current mutation time live)

/-! ## Recovery candidates -/

def sameLogicalActiveRun (left right : RunCommandState) : Bool :=
  left.activeProgramRun.isSome == right.activeProgramRun.isSome &&
    left.activeManualRun.isSome == right.activeManualRun.isSome && left.hasActiveRun &&
    decide (left.activeRunId ≠ [] ∧ left.activeRunId = right.activeRunId)

def requireReadyOrLoaded (coordinator : RunPersistenceCoordinator) :
    Except RunPersistenceResult Unit :=
  require (coordinator.state = .ready ∨ coordinator.state = .loadedActiveRun)
    coordinator.unavailableResult

def finishRecoveryCandidate (candidate : RunCommandState)
    (coordinator : RunPersistenceCoordinator) (persisted : RunPersistenceResult) :
    RunPersistenceOutcome :=
  let after := { coordinator with
    pendingR1CheckpointRevision := none
    pendingR1RunRevision := none }
  ⟨{ persisted with
      step := .ramApply
      durability := .changed
      coordinatorState := after.state }, after, candidate⟩

def planRecoveryCandidate (coordinator : RunPersistenceCoordinator)
    (current candidate : RunCommandState) (time : RunCheckpointTime)
    (fallbackDirective : RunPersistenceFallbackDirective) :
    Except RunPersistenceResult PlannedWrite := do
  coordinator.requireReadyOrLoaded
  require (current.runRevision ≠ maxUInt32 ∧
    candidate.runRevision = current.runRevision + 1) coordinator.invalidCandidate
  require (!sameLogicalActiveRun current candidate ||
    samePlannerParameters current.actuatorPlannerParametersSnapshot
      candidate.actuatorPlannerParametersSnapshot) coordinator.invalidCandidate
  let snapshot ← coordinator.projectCandidate candidate coordinator.persistedIds
    .transition time
  return {
    write := {
      snapshot, time
      before := .ofState current
      mutationKind := .recovery
      fallbackDirective
      rollbackState := coordinator.state }
    finish := finishRecoveryCandidate candidate }

def persistRecoveryCandidate (coordinator : RunPersistenceCoordinator)
    (current candidate : RunCommandState) (time : RunCheckpointTime)
    (fallbackDirective : RunPersistenceFallbackDirective := {}) :
    RunStoreProgram RunPersistenceOutcome :=
  coordinator.unlessBorrowed current <|
    coordinator.performWrite current
      (coordinator.planRecoveryCandidate current candidate time fallbackDirective)

/-- The idle state a discarded run leaves behind. -/
def discardCandidate (current : RunCommandState) (monotonicMillis : UInt64) :
    Option RunCommandState := do
  let discard := propose current.processState .standby .recoveryRejected monotonicMillis
  let processState ← applyProcessTransition current.processState discard
    current.processRunSnapshot
  let cleared := clearActiveRunState { current with processState }
  return { cleared with runRevision := current.runRevision + 1 }

def planDiscard (coordinator : RunPersistenceCoordinator) (current : RunCommandState)
    (time : RunCheckpointTime) : Except RunPersistenceResult PlannedWrite := do
  coordinator.requireReadyOrLoaded
  require current.hasActiveRun (coordinator.result .noActiveRun)
  require (current.runRevision ≠ maxUInt32)
    (coordinator.result .counterOverflow .candidateApply)
  let candidate ← orFail (discardCandidate current time.monotonicMillis)
    coordinator.invalidCandidate
  let snapshot ← coordinator.projectCandidate candidate coordinator.persistedIds
    .transition time
  return {
    write := {
      snapshot, time
      before := .ofState current
      mutationKind := .recovery
      fallbackDirective := { mode := .clearFallback }
      rollbackState := coordinator.state }
    finish := fun after persisted => ⟨persisted, after, candidate⟩ }

def discardAsNoActiveRun (coordinator : RunPersistenceCoordinator)
    (current : RunCommandState) (time : RunCheckpointTime) :
    RunStoreProgram RunPersistenceOutcome :=
  coordinator.unlessBorrowed current <|
    coordinator.performWrite current (coordinator.planDiscard current time)

end RunPersistenceCoordinator

end Fermentationsschrank

import Fermentationsschrank.Persistence.WriteProtocol
import Fermentationsschrank.Recovery.RecoveryOperations

/-!
# All operations of the coordinator

Every operation that may write a snapshot, as one type.  `OperationEnds` lists
how an operation ends: it is refused, it changes the live state alone, or it
writes exactly one admissible snapshot.
-/

namespace Fermentationsschrank

/-- The operations of a loaded coordinator, less the live state they work on. -/
inductive RunOperation
  | persistCommand (decision : CommandDecision) (time : RunCheckpointTime)
      (live : Option CrossRolePlausibilityContext)
  | persistFreshStartCommand (decision : CommandDecision)
      (provenance : FreshStartSnapshotProvenance) (time : RunCheckpointTime)
      (live : Option CrossRolePlausibilityContext)
  | persistBorrowedCommand (decision : CommandDecision) (time : RunCheckpointTime)
      (live : Option CrossRolePlausibilityContext)
      (provenance : Option FreshStartSnapshotProvenance)
  | persistTransition (decision : TransitionDecision) (time : RunCheckpointTime)
      (live : Option CrossRolePlausibilityContext)
  | checkpointPeriodic (time : RunCheckpointTime)
      (live : Option CrossRolePlausibilityContext)
  | persistSensorSelection (mutation : SensorSelectionStateMutation)
      (time : RunCheckpointTime) (live : Option CrossRolePlausibilityContext)
  | persistRecoveryCandidate (candidate : RunCommandState) (time : RunCheckpointTime)
      (fallbackDirective : RunPersistenceFallbackDirective)
  | discardAsNoActiveRun (time : RunCheckpointTime)
  | activateLoadedRun (time : RunCheckpointTime) (live : CrossRolePlausibilityContext)
  | activateR1EligibleRun (time : RunCheckpointTime)
      (live : Option CrossRolePlausibilityContext)
  | evaluateCurrentFermentingRecovery (time : RunCheckpointTime)
  | activateFallbackRecoveredRun (time : RunCheckpointTime)
      (live : CrossRolePlausibilityContext)
  | reevaluateRecoveryEvaluation (time : RunCheckpointTime)
      (live : Option CrossRolePlausibilityContext)
  | resolveRecoveryOutcome (request : ResolveRecoveryUncertaintyRequest)
      (time : RunCheckpointTime) (live : CrossRolePlausibilityContext)

open RunPersistenceCoordinator in
def RunOperation.perform (operation : RunOperation)
    (coordinator : RunPersistenceCoordinator) (current : RunCommandState) :
    RunStoreProgram RunPersistenceOutcome :=
  match operation with
  | .persistCommand decision time live =>
      coordinator.persistCommand current decision time live
  | .persistFreshStartCommand decision provenance time live =>
      coordinator.persistFreshStartCommand current decision provenance time live
  | .persistBorrowedCommand decision time live provenance =>
      coordinator.persistBorrowedCommand current decision time live provenance
  | .persistTransition decision time live =>
      coordinator.persistTransition current decision time live
  | .checkpointPeriodic time live => coordinator.checkpointPeriodic current time live
  | .persistSensorSelection mutation time live =>
      coordinator.persistSensorSelection current mutation time live
  | .persistRecoveryCandidate candidate time fallbackDirective =>
      coordinator.persistRecoveryCandidate current candidate time fallbackDirective
  | .discardAsNoActiveRun time => coordinator.discardAsNoActiveRun current time
  | .activateLoadedRun time live => coordinator.activateLoadedRun current time live
  | .activateR1EligibleRun time live => coordinator.activateR1EligibleRun current time live
  | .evaluateCurrentFermentingRecovery time => do
      let evaluation ← coordinator.evaluateCurrentFermentingRecovery current time
      pure evaluation.outcome
  | .activateFallbackRecoveredRun time live =>
      coordinator.activateFallbackRecoveredRun current time live
  | .reevaluateRecoveryEvaluation time live =>
      coordinator.reevaluateRecoveryEvaluation current time live
  | .resolveRecoveryOutcome request time live =>
      coordinator.resolveRecoveryOutcome current request time live

/-- The provenance of a start that was asked for without one. -/
def startProvenance (kind : CommandKind) : Option FreshStartSnapshotProvenance :=
  if freshProductiveStart kind then some .absent else none

open RunPersistenceCoordinator in
/-- The writes an operation may perform.  Only the recoveries depend on what they
have read; their record is the loaded or the offered one. -/
def RunOperation.Plans (operation : RunOperation) (coordinator : RunPersistenceCoordinator)
    (current : RunCommandState) (planned : PlannedWrite) : Prop :=
  match operation with
  | .persistCommand decision time live =>
      coordinator.admitCommand decision time (startProvenance decision.kind) = .ok () ∧
        coordinator.planCommand current decision (.exact decision.before) time live
          (startProvenance decision.kind) = .ok planned
  | .persistFreshStartCommand decision provenance time live =>
      coordinator.admitCommand decision time (some provenance) = .ok () ∧
        coordinator.planCommand current decision (.exact decision.before) time live
          (some provenance) = .ok planned
  | .persistBorrowedCommand decision time live provenance =>
      coordinator.admitCommand decision time provenance = .ok () ∧
        coordinator.planCommand current decision (.freeze decision.before) time live
          provenance = .ok planned
  | .persistTransition decision time live =>
      coordinator.planTransition current decision time live = .ok planned
  | .checkpointPeriodic time live => coordinator.planPeriodic current time live = .ok planned
  | .persistSensorSelection mutation time live =>
      coordinator.planSensorSelection current mutation time live = .ok planned
  | .persistRecoveryCandidate candidate time fallbackDirective =>
      coordinator.planRecoveryCandidate current candidate time fallbackDirective =
        .ok planned
  | .discardAsNoActiveRun time => coordinator.planDiscard current time = .ok planned
  | .activateLoadedRun time live =>
      ∃ record, coordinator.loadedRecord = some record ∧
        coordinator.planActivation current record time live = .ok planned
  | .activateR1EligibleRun time live =>
      ∃ record, coordinator.loadedRecord = some record ∧
        coordinator.planR1Activation current record time live = .ok planned
  | .evaluateCurrentFermentingRecovery time =>
      ∃ record, coordinator.loadedRecord = some record ∧
        coordinator.planExactFermenting current record time none {} .loadedActiveRun false =
          .ok planned
  | .activateFallbackRecoveredRun time live =>
      ∃ head reference record, coordinator.state = .fallbackRecoveryPending ∧
        coordinator.currentHead = some head ∧ head.fallback = some reference ∧
        coordinator.planFallback current head reference record time live = .ok planned
  | .reevaluateRecoveryEvaluation time live =>
      coordinator.planReevaluation current time live = .ok planned
  | .resolveRecoveryOutcome request time live =>
      coordinator.planResolution current request time live = .ok planned

/-- The id a command is recorded under. -/
def RunOperation.commandId : RunOperation → Option CommandId
  | .persistCommand decision _ _ => some decision.envelope.id
  | .persistFreshStartCommand decision _ _ _ => some decision.envelope.id
  | .persistBorrowedCommand decision _ _ _ => some decision.envelope.id
  | .resolveRecoveryOutcome request _ _ => some request.commandId
  | _ => none

end Fermentationsschrank

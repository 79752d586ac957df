import Fermentationsschrank.Core.Fallible
import Fermentationsschrank.Run.SensorSelectionDecision

/-!
# Command decisions

What a command carries, the decision it leads to, and the conditions under
which a decision may be applied.  A decision that is not proposed leaves the
run as it is.
-/

namespace Fermentationsschrank

def kMaximumProcessedCommandIds : ℕ := 32
def kMaximumCommandEffects : ℕ := 6

structure CommandEnvelope where
  id : CommandId := 0
  source : CommandSource := .localDisplay
  monotonicMillis : UInt64 := 0
  expectedStateSequence : UInt32 := 0
  expectedRunRevision : Option UInt32 := none
  expectedMessageRevision : Option UInt32 := none
  expectedFaultRevision : Option UInt32 := none
  confirmed : Bool := false
  expectedRecoveryEpisodeRevision : Option UInt32 := none
  deriving DecidableEq, Repr

inductive CommandStatus
  | proposed
  | applied
  | noChange
  | notConfirmed
  | notAllowedInState
  | invalidInput
  | staleState
  | alreadyProcessed
  | safetyRejected
  | capacityReached
  | contextMissing
  deriving DecidableEq, Repr

inductive CommandKind
  | startProgram
  | startManualHolding
  | abortAndTurnOff
  | abortAndCool
  | acknowledgeCompletion
  | coolAfterCompletion
  | adjustRun
  | applyRecoveryTimeCorrection
  | acknowledgeMessage
  | muteMessage
  | applySensorSelectionAction
  deriving DecidableEq, Repr

inductive CommandEffect
  | runStarted
  | runAborted
  | safePeltierStopRequested
  | fanRunOnRequired
  | manualRunStarted
  | runAdjusted
  | completionAcknowledged
  | messageAcknowledged
  | acousticMuted
  | sensorSelectionPermissionBlocked
  | sensorSelectionPermissionRestored
  deriving DecidableEq, Repr

structure StartSummary where
  runId : Bytes
  sourceKind : Option ProgramSourceKind
  programName : Option Bytes
  targetTemperatureCelsius : Binary64
  durationMinutes : Option UInt32
  sensorMode : RunSensorMode
  preheatEnabled : Bool
  completionMode : CompletionMode
  kind : ProcessKind
  deriving DecidableEq, Repr

structure RunAdjustmentPreview where
  before : EffectiveRunValues
  after : EffectiveRunValues
  phase : ProcessState
  targetRequalificationRequired : Bool
  timerContinuesWithoutBiologicalCorrection : Bool
  deriving DecidableEq, Repr

structure CommandDecision where
  status : CommandStatus
  kind : CommandKind
  envelope : CommandEnvelope
  startSummary : Option StartSummary := none
  adjustmentPreview : Option RunAdjustmentPreview := none
  effects : List CommandEffect := []
  sensorSelectionApplyStatus : Option SensorSelectionApplyStatus := none
  sensorSelectionEvent : Option SensorSelectionEvent := none
  sensorSelectionNotice : Option SensorSelectionNotice := none
  startSensorSelectionNotice : Option StartSensorSelectionNotice := none
  committedControlContextTransition : Option CommittedControlContextTransition := none
  before : RunCommandState
  after : RunCommandState
  deriving DecidableEq, Repr

/-- Every command but those about messages and sensors is a comfort command. -/
def isRunComfortCommand : CommandKind → Bool
  | .acknowledgeMessage | .muteMessage | .applySensorSelectionAction => false
  | _ => true

def containsProcessedCommand (state : RunCommandState) (id : CommandId) : Bool :=
  id ∈ state.processedCommandIds

/-- A sliding window: the oldest id makes room. -/
def rememberProcessedCommand (ids : List CommandId) (id : CommandId) : List CommandId :=
  if ids.length < kMaximumProcessedCommandIds then ids ++ [id] else ids.drop 1 ++ [id]

/-! ## Building a decision -/

/-- Whether the command may be considered at all. -/
def beginStatus (current : RunCommandState) (envelope : CommandEnvelope)
    (kind : CommandKind) : CommandStatus :=
  if envelope.id = 0 then .invalidInput
  else if containsProcessedCommand current envelope.id then .alreadyProcessed
  else if current.commandSequence = maxUInt32 then .capacityReached
  else if envelope.expectedStateSequence ≠ current.processState.transitionSequence ∨
      current.processedCommandIds ≠ [] ∧
        envelope.monotonicMillis < current.lastCommandMonotonicMillis then .staleState
  else if current.criticalSafetyEventPending && isRunComfortCommand kind then
    .safetyRejected
  else .proposed

def beginDecision (current : RunCommandState) (envelope : CommandEnvelope)
    (kind : CommandKind) : CommandDecision where
  status := beginStatus current envelope kind
  kind := kind
  envelope := envelope
  before := current
  after := current

namespace CommandDecision

def proposed (decision : CommandDecision) : Bool := decision.status = .proposed

/-- The run is restored; what the decision has to show stays. -/
def rejected (decision : CommandDecision) (status : CommandStatus) : CommandDecision :=
  { decision with status, after := decision.before }

def check (decision : CommandDecision) (condition : Bool) (status : CommandStatus) :
    Except CommandDecision Unit :=
  require condition (decision.rejected status)

def demand {α : Type} (decision : CommandDecision) (value : Option α)
    (status : CommandStatus) : Except CommandDecision α :=
  orFail value (decision.rejected status)

/-- A decision under construction ends with its last or its failed step. -/
def settle : Except CommandDecision CommandDecision → CommandDecision
  | .ok decision => decision
  | .error decision => decision

def beginMutation (decision : CommandDecision) : CommandDecision :=
  { decision with after := { decision.after with
    commandSequence := decision.before.commandSequence + 1
    processedCommandIds :=
      rememberProcessedCommand decision.after.processedCommandIds decision.envelope.id
    lastCommandMonotonicMillis := decision.envelope.monotonicMillis } }

def addEffect (decision : CommandDecision) (effect : CommandEffect) : CommandDecision :=
  if decision.effects.length < kMaximumCommandEffects then
    { decision with effects := decision.effects ++ [effect] }
  else { decision with status := .capacityReached }

/-- The command names the revision it was made for. -/
def requireRevision (decision : CommandDecision) (expected : Option UInt32)
    (actual : UInt32) : Except CommandDecision Unit := do
  decision.check decision.proposed decision.status
  decision.check expected.isSome .contextMissing
  decision.check (expected = some actual) .staleState

def requireRunRevision (decision : CommandDecision) : Except CommandDecision Unit :=
  decision.requireRevision decision.envelope.expectedRunRevision decision.before.runRevision

def requireRecoveryEpisodeRevision (decision : CommandDecision) :
    Except CommandDecision Unit :=
  decision.requireRevision decision.envelope.expectedRecoveryEpisodeRevision
    decision.before.recoveryEpisodeRevision

def requireMessageRevision (decision : CommandDecision) : Except CommandDecision Unit :=
  decision.requireRevision decision.envelope.expectedMessageRevision
    decision.before.messageRevision

/-- No counter is raised past its maximum. -/
def requireRevisionCapacity (decision : CommandDecision) (revision : UInt32) :
    Except CommandDecision Unit :=
  decision.check (revision ≠ maxUInt32) .capacityReached

end CommandDecision

/-! ## Applying a decision -/

/-- What the state must still look like when a decision is applied.  The run id
is absent when it does not fit the frozen copy of a borrowed decision. -/
structure CommandApplyGuard where
  processState : ProcessRuntimeState
  commandSequence : UInt32
  runRevision : UInt32
  messageRevision : UInt32
  faultRevision : UInt32
  criticalSafetyEventPending : Bool
  activeRunId : Option Bytes
  activeRunSensorMode : Option RunSensorMode
  sensorSelectionRuntime : SensorSelectionRuntimeState
  sensorSelection : Option PersistedSensorSelectionState
  recoveryEpisodeRevision : UInt32
  deriving DecidableEq, Repr

/-- The guard of a decision that carries its own copy of the state. -/
def CommandApplyGuard.exact (before : RunCommandState) : CommandApplyGuard where
  processState := before.processState
  commandSequence := before.commandSequence
  runRevision := before.runRevision
  messageRevision := before.messageRevision
  faultRevision := before.faultRevision
  criticalSafetyEventPending := before.criticalSafetyEventPending
  activeRunId := some before.activeRunId
  activeRunSensorMode := before.activeRunSensorMode
  sensorSelectionRuntime := before.sensorSelectionRuntime
  sensorSelection := before.sensorSelection
  recoveryEpisodeRevision := before.recoveryEpisodeRevision

/-- The guard a borrowed decision freezes when it is opened. -/
def CommandApplyGuard.freeze (state : RunCommandState) : CommandApplyGuard :=
  { CommandApplyGuard.exact state with
    activeRunId :=
      if state.activeRunId.length ≤ kMaximumRunIdBytes then some state.activeRunId
      else none }

def validateRunCommand (current : RunCommandState) (decision : CommandDecision)
    (guard : CommandApplyGuard) : CommandStatus :=
  if containsProcessedCommand current decision.envelope.id then .alreadyProcessed
  else if current.criticalSafetyEventPending && isRunComfortCommand decision.kind then
    .safetyRejected
  else if !decision.proposed || decide (CommandApplyGuard.exact current ≠ guard) ||
      decide (decision.after.commandSequence ≠ current.commandSequence + 1) then
    .staleState
  else .applied

def applyRunCommand (current : RunCommandState) (decision : CommandDecision)
    (guard : CommandApplyGuard) : CommandStatus × RunCommandState :=
  let status := validateRunCommand current decision guard
  (status, if status = .applied then decision.after else current)

theorem validateRunCommand_eq_applied {current : RunCommandState}
    {decision : CommandDecision} {guard : CommandApplyGuard} :
    validateRunCommand current decision guard = .applied ↔
      containsProcessedCommand current decision.envelope.id = false ∧
        (current.criticalSafetyEventPending && isRunComfortCommand decision.kind) =
          false ∧
        decision.proposed = true ∧ CommandApplyGuard.exact current = guard ∧
        decision.after.commandSequence = current.commandSequence + 1 := by
  unfold validateRunCommand
  split_ifs with hprocessed hcritical hstale
  · simp [hprocessed]
  · simp [hcritical]
  · simp only [Bool.or_eq_true, Bool.not_eq_true', decide_eq_true_eq] at hstale
    constructor
    · intro h
      cases h
    · rintro ⟨-, -, hproposed, hguard, hsequence⟩
      rcases hstale with (hstale | hstale) | hstale
      · rw [hproposed] at hstale
        cases hstale
      · exact absurd hguard hstale
      · exact absurd hsequence hstale
  · simp only [Bool.not_eq_true, Bool.or_eq_false_iff, Bool.not_eq_false',
      decide_eq_false_iff_not, not_not] at hprocessed hcritical hstale
    exact ⟨fun _ => ⟨hprocessed, hcritical, hstale.1.1, hstale.1.2, hstale.2⟩,
      fun _ => rfl⟩

end Fermentationsschrank

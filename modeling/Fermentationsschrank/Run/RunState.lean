import Fermentationsschrank.Run.ProcessStateMachine

/-!
# State of a run

The live state on which commands, transitions and the persistence coordinator
work, with the value types it shares with the stored checkpoints: the planner
parameters of a run, the sensor selection, and the recovery and progress data.
-/

namespace Fermentationsschrank

abbrev CommandId := UInt64

/-! ## Actuator planner parameters -/

structure ActuatorPlannerParameters where
  switchingWindowMillis : UInt64
  minimumOnMillis : UInt64
  minimumOffMillis : UInt64
  polarityDeadTimeMillis : UInt64
  pulseAccumulatorCapMillis : UInt64
  counterDirectionConfirmationQuoteThreshold : Binary64
  counterDirectionConfirmationDurationMillis : UInt64
  requestWatchdogMillis : UInt64
  outerFanPostRunMillis : UInt64
  innerFanPostRunMillis : UInt64
  deriving DecidableEq, Repr

/-- `left == right` of the source, which compares the threshold as a `double`. -/
def ActuatorPlannerParameters.eq (left right : ActuatorPlannerParameters) : Bool :=
  left.counterDirectionConfirmationQuoteThreshold.eq
      right.counterDirectionConfirmationQuoteThreshold &&
    decide ({ left with counterDirectionConfirmationQuoteThreshold :=
      right.counterDirectionConfirmationQuoteThreshold } = right)

inductive ActuatorPlannerParametersValidation
  | unconfigured
  | valid
  | invalid
  deriving DecidableEq, Repr

/-- `0.0` -/
def zeroQuote : Binary64 := .ofBits 0
/-- `1.0` -/
def fullQuote : Binary64 := .ofBits 0x3FF0000000000000
/-- `2^53` -/
def kMaxExactDoubleInteger : UInt64 := 9007199254740992

def classifyActuatorPlannerParameters (parameters : ActuatorPlannerParameters) :
    ActuatorPlannerParametersValidation :=
  let threshold := parameters.counterDirectionConfirmationQuoteThreshold
  if parameters.switchingWindowMillis = 0 ∧ parameters.minimumOnMillis = 0 ∧
      parameters.minimumOffMillis = 0 ∧ parameters.polarityDeadTimeMillis = 0 ∧
      parameters.pulseAccumulatorCapMillis = 0 ∧ threshold.eq zeroQuote ∧
      parameters.counterDirectionConfirmationDurationMillis = 0 ∧
      parameters.requestWatchdogMillis = 0 ∧ parameters.outerFanPostRunMillis = 0 ∧
      parameters.innerFanPostRunMillis = 0 then
    .unconfigured
  else if 0 < parameters.switchingWindowMillis ∧ 0 < parameters.minimumOnMillis ∧
      parameters.minimumOnMillis ≤ parameters.switchingWindowMillis ∧
      0 < parameters.minimumOffMillis ∧ 0 < parameters.polarityDeadTimeMillis ∧
      parameters.minimumOnMillis ≤ parameters.pulseAccumulatorCapMillis ∧
      threshold.isFinite ∧ zeroQuote.lt threshold ∧ threshold.le fullQuote ∧
      0 < parameters.counterDirectionConfirmationDurationMillis ∧
      0 < parameters.requestWatchdogMillis ∧ 0 < parameters.outerFanPostRunMillis ∧
      parameters.switchingWindowMillis ≤ kMaxExactDoubleInteger then
    .valid
  else .invalid

/-! ## Sensor selection -/

inductive RunSensorMode
  | product
  | air
  deriving DecidableEq, Repr

inductive SensorSelectionPhase
  | noActiveRun
  | normalProduct
  | normalAir
  | productFailureDetected
  | userDecisionRequired
  | airFallbackActive
  | returnValidationPending
  | safeLocked
  | restartRevalidationPending
  deriving DecidableEq, Repr

inductive SensorPeltierPermission
  | allowed
  | blocked
  deriving DecidableEq, Repr

structure ReturnValidationRuntimeState where
  enteredAtMonotonicMillis : Option UInt64 := none
  lastObservedProfileRevision : Option UInt32 := none
  deriving DecidableEq, Repr

structure SensorSelectionRuntimeState where
  phase : SensorSelectionPhase := .noActiveRun
  permission : SensorPeltierPermission := .blocked
  fallbackWaitStartedAtMonotonicMillis : Option UInt64 := none
  lastAppliedMonotonicMillis : Option UInt64 := none
  returnValidation : ReturnValidationRuntimeState := {}
  productReArmPending : Bool := false
  deriving DecidableEq, Repr

inductive SensorSelectionProvenance
  | initialSelection
  | fallbackActive
  | returnedToProduct
  | legacyUnknown
  deriving DecidableEq, Repr

inductive SensorSelectionDecisionCause
  | none
  | startSelection
  | productFailureBlock
  | fallbackToAir
  | manualUserFallback
  | automaticValidatedReturn
  | manualUserReturn
  | recoveryRevalidation
  | safeStateEntry
  | returnValidationAborted
  deriving DecidableEq, Repr

structure PersistedSensorSelectionState where
  provenance : SensorSelectionProvenance := .initialSelection
  lastDecisionCause : SensorSelectionDecisionCause := .none
  lastDecisionRunRevision : UInt32 := 0
  deriving DecidableEq, Repr

/-! ## Recovery and progress -/

inductive RunCheckpointTrigger
  | command
  | transition
  | periodic
  | sensorSelection
  deriving DecidableEq, Repr

structure PendingRecoveryAnchor where
  originalProcessState : ProcessRuntimeState
  knownPhaseSecondsAtOriginalCheckpoint : UInt64
  originalCheckpointUtc : Option Int64
  originalCheckpointTrigger : RunCheckpointTrigger
  originalCheckpointIntervalMinutes : UInt32
  accumulatedBeforeEpisode : PriorBootPhaseElapsed
  knownSecondsSinceOriginalCheckpoint : UInt64
  deriving DecidableEq, Repr

structure TaggedPriorBootPhaseElapsed where
  taggedState : ProcessState
  elapsed : PriorBootPhaseElapsed
  deriving DecidableEq, Repr

structure NominalRecoveryAdjustmentState where
  cumulativeAppliedSeconds : UInt32 := 0
  lastAppliedEpisodeRevision : UInt32 := 0
  lastAppliedEpisodeDelta : UInt32 := 0
  deriving DecidableEq, Repr

inductive SensorQuality
  | valid
  | stale
  | failed
  deriving DecidableEq, Repr

structure RoleTemperatureEvidence where
  filteredCelsius : Option Binary64 := none
  quality : SensorQuality := .stale
  deriving DecidableEq, Repr

structure CrossRoleEvidence where
  air : RoleTemperatureEvidence := {}
  product : RoleTemperatureEvidence := {}
  cooling : RoleTemperatureEvidence := {}
  deriving DecidableEq, Repr

structure FirstAfterRestartEvidence where
  air : Option RoleTemperatureEvidence := none
  product : Option RoleTemperatureEvidence := none
  cooling : Option RoleTemperatureEvidence := none
  deriving DecidableEq, Repr

structure RecoveryTemperatureEvidence where
  lastKnown : CrossRoleEvidence := {}
  deriving DecidableEq, Repr

structure RecoveryEpisodeEvidence where
  beforeOutage : CrossRoleEvidence := {}
  firstAfterRestart : FirstAfterRestartEvidence := {}
  weightedProgressSegmentId : Option UInt32 := none
  deriving DecidableEq, Repr

inductive RunProgressBasis
  | knownTotal
  | partialUnknownHistory
  deriving DecidableEq, Repr

inductive WeightedProgressConfidence
  | productPreferred
  | airReduced
  deriving DecidableEq, Repr

inductive WeightedProgressCoverage
  | complete
  | partialUnknown
  deriving DecidableEq, Repr

structure WeightedProgressBounds where
  lowerBoundSeconds : UInt64 := 0
  upperBoundSeconds : Option UInt64 := none
  deriving DecidableEq, Repr

structure WeightedProgressProvenance where
  lastSourceRole : RunSensorMode
  confidence : WeightedProgressConfidence
  modelRevision : UInt32
  lastAppliedSegmentId : UInt32
  deriving DecidableEq, Repr

structure WeightedProgressState where
  cumulative : WeightedProgressBounds := {}
  coverage : WeightedProgressCoverage := .partialUnknown
  lastApplied : Option WeightedProgressProvenance := none
  deriving DecidableEq, Repr

structure RunProgressState where
  basis : RunProgressBasis := .knownTotal
  observedRunSeconds : UInt32 := 0
  weightedProgress : Option WeightedProgressState := none
  deriving DecidableEq, Repr

/-! ## Manual runs -/

inductive CommandSource
  | localDisplay
  | webInterface
  deriving DecidableEq, Repr

structure ManualRunPlanRequest where
  runId : Bytes
  targetTemperatureCelsius : Binary64
  sensorMode : RunSensorMode
  preheatEnabled : Bool
  maximumProductWaitMinutes : Option UInt32
  qualificationBandCelsius : Binary64
  qualificationDurationMinutes : UInt32
  maximumTargetReachMinutes : UInt32
  deriving DecidableEq, Repr

structure ManualRunPlan where
  values : ManualRunPlanRequest
  source : CommandSource
  createdAtMonotonicMillis : UInt64
  kind : ProcessKind
  deriving DecidableEq, Repr

def kMinimumRunIdBytes : ℕ := 1
def kMaximumRunIdBytes : ℕ := 48

def validRunId (runId : Bytes) : Bool :=
  kMinimumRunIdBytes ≤ runId.length ∧ runId.length ≤ kMaximumRunIdBytes

def validateManualRunPlan (plan : ManualRunPlan) : Bool :=
  let values := plan.values
  validRunId values.runId && decide (plan.kind = .manualHolding) &&
    inRange values.targetTemperatureCelsius kMinimumFermentationTemperatureCelsius
      kMaximumFermentationTemperatureCelsius &&
    inRange values.qualificationBandCelsius kMinimumQualificationBandCelsius
      kMaximumQualificationBandCelsius &&
    decide (kMinimumQualificationDurationMinutes ≤ values.qualificationDurationMinutes ∧
      values.qualificationDurationMinutes ≤ kMaximumQualificationDurationMinutes ∧
      kMinimumTargetReachMinutes ≤ values.maximumTargetReachMinutes ∧
      values.maximumTargetReachMinutes ≤ kMaximumTargetReachMinutes) &&
    values.preheatEnabled == values.maximumProductWaitMinutes.isSome &&
    values.maximumProductWaitMinutes.all fun minutes =>
      kMinimumProductWaitMinutes ≤ minutes ∧ minutes ≤ kMaximumProductWaitMinutes

def makeManualProcessRunSnapshot (plan : ManualRunPlan) : Option ProcessRunSnapshot :=
  if validateManualRunPlan plan then
    (some {
      kind := .manualHolding
      preheatEnabled := plan.values.preheatEnabled
      completionMode := .finishWithoutCooling
      qualificationDurationMinutes := plan.values.qualificationDurationMinutes
      maximumTargetReachMinutes := plan.values.maximumTargetReachMinutes
      maximumProductWaitMinutes := plan.values.maximumProductWaitMinutes }).filter
        validateProcessRunSnapshot
  else none

/-! ## Messages -/

inductive MessageCode
  | productInsertionRequested
  | targetReachTimeExceeded
  | userDecisionRequired
  | runCompleted
  | runAborted
  | recoveryPending
  | safetyFault
  deriving DecidableEq, Repr

inductive MessageClass
  | information
  | processWarning
  | recovery
  | decisionRequired
  | safetyFault
  deriving DecidableEq, Repr

/-- A message shown to the user, less the origin and timing data that no
command reads. -/
structure RuntimeMessage where
  id : UInt32
  code : MessageCode
  messageClass : MessageClass
  priority : UInt8
  active : Bool
  acknowledged : Bool
  resolved : Bool
  acousticMuted : Bool
  revision : UInt32
  deriving DecidableEq, Repr

/-! ## The live state -/

structure RunCommandState where
  processState : ProcessRuntimeState := {}
  activeProgramRun : Option ActiveRun := none
  activeManualRun : Option ManualRunPlan := none
  processRunSnapshot : Option ProcessRunSnapshot := none
  actuatorPlannerParametersSnapshot : Option ActuatorPlannerParameters := none
  activeRunId : Bytes := []
  activeRunSensorMode : Option RunSensorMode := none
  sensorSelection : Option PersistedSensorSelectionState := none
  sensorSelectionRuntime : SensorSelectionRuntimeState := {}
  runRevision : UInt32 := 0
  messages : List RuntimeMessage := []
  messageRevision : UInt32 := 0
  faultRevision : UInt32 := 0
  criticalSafetyEventPending : Bool := false
  commandSequence : UInt32 := 0
  lastCommandMonotonicMillis : UInt64 := 0
  processedCommandIds : List CommandId := []
  pendingRecoveryAnchor : Option PendingRecoveryAnchor := none
  recoveryBootAnchorMonotonicMillis : Option UInt64 := none
  recoveryTemperatureEvidence : RecoveryTemperatureEvidence := {}
  lastRecoveryEpisodeEvidence : Option RecoveryEpisodeEvidence := none
  priorBootPhaseElapsed : Option TaggedPriorBootPhaseElapsed := none
  nominalRecoveryAdjustment : Option NominalRecoveryAdjustmentState := none
  recoveryEpisodeRevision : UInt32 := 0
  runProgress : RunProgressState := {}
  deriving DecidableEq, Repr

def RunCommandState.hasActiveRun (state : RunCommandState) : Bool :=
  state.activeProgramRun.isSome || state.activeManualRun.isSome

/-- Everything bound to a run is reset.  The temperature evidence and the
episode counter outlive it. -/
def clearActiveRunState (state : RunCommandState) : RunCommandState :=
  { state with
    activeProgramRun := none
    activeManualRun := none
    processRunSnapshot := none
    actuatorPlannerParametersSnapshot := none
    activeRunId := []
    activeRunSensorMode := none
    sensorSelection := none
    sensorSelectionRuntime := {}
    pendingRecoveryAnchor := none
    recoveryBootAnchorMonotonicMillis := none
    lastRecoveryEpisodeEvidence := none
    priorBootPhaseElapsed := none
    nominalRecoveryAdjustment := none
    runProgress := {} }

/-! ## Observed time -/

def foldObservedRunSeconds (candidate : RunCommandState) (deltaSeconds : UInt64) :
    Option RunCommandState :=
  if deltaSeconds.toNat ≤
      maxUInt32.toNat - candidate.runProgress.observedRunSeconds.toNat then
    some { candidate with runProgress := { candidate.runProgress with
      observedRunSeconds :=
        candidate.runProgress.observedRunSeconds + deltaSeconds.toUInt32 } }
  else none

def deriveFermentingSecondsDelta (before : RunCommandState) (atMillis : UInt64) :
    Option UInt32 :=
  if before.processState.state ≠ .fermenting ∨
      atMillis < before.processState.stateEnteredAtMillis then none
  else
    let seconds := (atMillis - before.processState.stateEnteredAtMillis) / 1000
    if seconds ≤ maxUInt32.toUInt64 then some seconds.toUInt32 else none

end Fermentationsschrank

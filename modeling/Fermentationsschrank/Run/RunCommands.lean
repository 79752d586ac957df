import Fermentationsschrank.Run.CommandDecision
import Fermentationsschrank.Run.RecoveryTime

/-!
# Run commands

The decisions behind the commands of a user: starting, stopping, completing and
adjusting a run, correcting the time of a recovery, answering messages and
acting on the sensor selection.
-/

namespace Fermentationsschrank

open CommandDecision

/-! ## Requests -/

structure ProgramStartRequest where
  envelope : CommandEnvelope
  runId : Bytes
  program : ProgramRunSource
  sourceProgramRevision : Option UInt64
  sensorMode : RunSensorMode
  safetyAllowsStart : Bool
  airSensorValid : Bool
  coolingSensorValid : Bool
  productSensorValid : Bool

structure ManualStartRequest where
  envelope : CommandEnvelope
  plan : ManualRunPlanRequest
  safetyAllowsStart : Bool
  airSensorValid : Bool
  coolingSensorValid : Bool
  productSensorValid : Bool

inductive StopOption
  | back
  | abortAndTurnOff
  | abortAndCool
  deriving DecidableEq, Repr

structure StopRequest where
  envelope : CommandEnvelope
  option : StopOption
  coolingPlan : Option ManualRunPlanRequest := none
  safetyAllowsCooling : Bool := false
  airSensorValid : Bool := false
  coolingSensorValid : Bool := false

structure CompletionRequest where
  envelope : CommandEnvelope
  startCooling : Bool := false
  coolingPlan : Option ManualRunPlanRequest := none
  safetyAllowsCooling : Bool := false
  airSensorValid : Bool := false
  coolingSensorValid : Bool := false

structure RunAdjustmentCommandRequest where
  envelope : CommandEnvelope
  targetTemperatureCelsius : Option Binary64 := none
  remainingDurationMinutes : Option UInt32 := none

structure ApplyRecoveryTimeCorrectionRequest where
  envelope : CommandEnvelope
  secondsDelta : UInt32

structure MessageCommandRequest where
  envelope : CommandEnvelope
  messageId : UInt32

structure SensorSelectionCommandRequest where
  envelope : CommandEnvelope
  action : SensorSelectionUserAction

/-! ## Steps shared by the commands -/

/-- The eight phases a user can stop. -/
def activeProcessState (state : ProcessState) : Bool := stateUsesRunSnapshot state

def adjustmentAllowedIn (state : ProcessState) : Bool :=
  state = .preheating ∨ state = .reachingTarget ∨ state = .qualifyingTarget ∨
    state = .fermenting

def phaseContextFor (state : ProcessState) : RunAdjustmentPhaseContext :=
  if state = .fermenting then .fermenting else .beforeFermentation

def changeSource : CommandSource → RunChangeSource
  | .webInterface => .webInterface
  | .localDisplay => .localDisplay

def targetContextTransition (targetChanged : Bool) :
    Option CommittedControlContextTransition :=
  if targetChanged then some .targetContextChange else none

def applyTransition (state : RunCommandState) (event : ProcessEvent)
    (monotonicMillis : UInt64) (snapshot : Option ProcessRunSnapshot) :
    Option RunCommandState :=
  let transition := decideProcessTransition state.processState snapshot {} { event }
    monotonicMillis
  if transition.proposed then
    (applyProcessTransition state.processState transition snapshot).map fun processState =>
      { state with processState }
  else none

def makeManualPlan (request : ManualRunPlanRequest) (envelope : CommandEnvelope) :
    Option ManualRunPlan :=
  let plan : ManualRunPlan :=
    ⟨request, envelope.source, envelope.monotonicMillis, .manualHolding⟩
  if validateManualRunPlan plan then some plan else none

def installManualRun (state : RunCommandState) (envelope : CommandEnvelope)
    (plan : ManualRunPlan) : Option RunCommandState := do
  let snapshot ← makeManualProcessRunSnapshot plan
  let started ← applyTransition state .startRun envelope.monotonicMillis (some snapshot)
  return { started with
    activeProgramRun := none
    activeRunId := plan.values.runId
    activeRunSensorMode := some plan.values.sensorMode
    activeManualRun := some plan
    processRunSnapshot := some snapshot }

def mapAdjustmentStatus : RunAdjustmentStatus → CommandStatus
  | .proposed => .proposed
  | .notConfirmed => .notConfirmed
  | .noChange => .noChange
  | .runInactive | .invalidStage | .completedStage => .notAllowedInState
  | .safetyRejected => .safetyRejected
  | .invalidValue | .invalidMetadata | .timestampWentBackwards => .invalidInput
  | .revisionCapacityReached => .capacityReached
  | .applied => .invalidInput

def mapSensorSelectionRejection : SensorSelectionApplyStatus → CommandStatus
  | .staleDecision => .staleState
  | .capacityReached => .capacityReached
  | _ => .invalidInput

/-- The run data a start leaves to the sensor selection. -/
def installSensorSelection (state : RunCommandState) (runtime : SensorSelectionRuntimeState)
    (persisted : PersistedSensorSelectionState) : RunCommandState :=
  { state with
    sensorSelectionRuntime := runtime
    sensorSelection := some persisted }

/-! ## Start -/

def programStartSensorModeAllowed (preference : SensorPreference)
    (requestedMode : RunSensorMode) : Bool :=
  modeAllowedByProgram preference requestedMode

structure ProgramStartSensorResolution where
  effectiveMode : RunSensorMode
  substituted : Bool := false

/-- Absent when the requested mode cannot be started. -/
def resolveProgramStartSensorMode (preference : SensorPreference)
    (requestedMode : RunSensorMode) (productSensorValid : Bool) :
    Option ProgramStartSensorResolution :=
  if !programStartSensorModeAllowed preference requestedMode then none
  else
    match requestedMode with
    | .air => some { effectiveMode := .air }
    | .product =>
        if productSensorValid then some { effectiveMode := .product }
        else if preference = .productIfAvailableElseAir then
          some { effectiveMode := .air, substituted := true }
        else none

structure StartSensorSelectionOutcome where
  runtime : SensorSelectionRuntimeState
  persisted : PersistedSensorSelectionState

def startSensorSelectionOutcome (effectiveMode : RunSensorMode)
    (substitutedFromProduct productSensorValid airSensorValid coolingSensorValid : Bool)
    (startRunRevision : UInt32) : StartSensorSelectionOutcome :=
  let fixedPermission : SensorPeltierPermission :=
    if airSensorValid && coolingSensorValid then .allowed else .blocked
  let outcome : SensorSelectionPhase × SensorPeltierPermission × SensorSelectionProvenance :=
    match effectiveMode, substitutedFromProduct, productSensorValid with
    | .air, true, _ => (.airFallbackActive, fixedPermission, .fallbackActive)
    | .air, false, _ => (.normalAir, fixedPermission, .initialSelection)
    | .product, _, true => (.normalProduct, fixedPermission, .initialSelection)
    | .product, _, false => (.userDecisionRequired, .blocked, .initialSelection)
  { runtime := { phase := outcome.1, permission := outcome.2.1 }
    persisted := {
      provenance := outcome.2.2
      lastDecisionCause := .startSelection
      lastDecisionRunRevision := startRunRevision } }

def resolveProgramStart (request : ProgramStartRequest) :
    Option ProgramStartSensorResolution :=
  match storedProgram request.program with
  | some document =>
      resolveProgramStartSensorMode document.program.sensorPreference request.sensorMode
        request.productSensorValid
  -- A timed manual run keeps the requested sensor, usable or not.
  | none => some { effectiveMode := request.sensorMode }

def programStartSummary (request : ProgramStartRequest) (run : ActiveRun)
    (sensorMode : RunSensorMode) (process : ProcessRunSnapshot) : StartSummary where
  runId := request.runId
  sourceKind := some (programSourceKind request.program)
  programName := (storedProgram request.program).map (·.program.name)
  targetTemperatureCelsius := run.effectiveValues.targetTemperatureCelsius
  durationMinutes := some run.effectiveValues.remainingDurationMinutes
  sensorMode := sensorMode
  preheatEnabled := process.preheatEnabled
  completionMode := process.completionMode
  kind := .timed

/-- The revision a start will create, shown before it is confirmed. -/
def previewRevision (runRevision : UInt32) : UInt32 :=
  if runRevision = maxUInt32 then maxUInt32 else runRevision + 1

def decideProgramStart (current : RunCommandState) (request : ProgramStartRequest) :
    CommandDecision := settle do
  let begun := beginDecision current request.envelope .startProgram
  begun.requireRunRevision
  begun.check request.safetyAllowsStart .safetyRejected
  begun.check (current.processState.state = .standby ∧ ¬ current.hasActiveRun)
    .notAllowedInState
  begun.check (validRunId request.runId) .invalidInput
  begun.check (request.airSensorValid && request.coolingSensorValid) .safetyRejected
  let resolution ← begun.demand (resolveProgramStart request) .invalidInput
  let run ← begun.demand
    (ActiveRun.start request.program request.sourceProgramRevision) .invalidInput
  let process ← begun.demand (makeProcessRunSnapshot run.snapshot run.effectiveValues)
    .invalidInput
  let decision := { begun with
    startSummary := some
      (programStartSummary request run resolution.effectiveMode process)
    startSensorSelectionNotice :=
      if resolution.substituted then
        some ⟨request.sensorMode, resolution.effectiveMode,
          previewRevision current.runRevision⟩
      else none }
  decision.requireRevisionCapacity current.runRevision
  let started ← decision.demand
    (applyTransition { current with activeProgramRun := some run } .startRun
      request.envelope.monotonicMillis (some process)) .invalidInput
  decision.check request.envelope.confirmed .notConfirmed
  let runRevision := current.runRevision + 1
  let outcome := startSensorSelectionOutcome resolution.effectiveMode
    resolution.substituted request.productSensorValid request.airSensorValid
    request.coolingSensorValid runRevision
  let installed := installSensorSelection { started with
    activeRunId := request.runId
    activeRunSensorMode := some resolution.effectiveMode
    activeManualRun := none
    processRunSnapshot := some process
    runRevision } outcome.runtime outcome.persisted
  return (beginMutation { decision with after := installed }).addEffect .runStarted

def decideManualStart (current : RunCommandState) (request : ManualStartRequest) :
    CommandDecision := settle do
  let begun := beginDecision current request.envelope .startManualHolding
  begun.requireRunRevision
  begun.check request.safetyAllowsStart .safetyRejected
  begun.check (current.processState.state = .standby ∧ ¬ current.hasActiveRun)
    .notAllowedInState
  let plan ← begun.demand (makeManualPlan request.plan request.envelope) .invalidInput
  begun.check (request.airSensorValid && request.coolingSensorValid) .safetyRejected
  let decision := { begun with startSummary := some {
    runId := request.plan.runId
    sourceKind := none
    programName := none
    targetTemperatureCelsius := request.plan.targetTemperatureCelsius
    durationMinutes := none
    sensorMode := request.plan.sensorMode
    preheatEnabled := request.plan.preheatEnabled
    completionMode := .finishWithoutCooling
    kind := .manualHolding } }
  decision.requireRevisionCapacity current.runRevision
  let installed ← decision.demand (installManualRun current request.envelope plan)
    .invalidInput
  decision.check request.envelope.confirmed .notConfirmed
  let runRevision := current.runRevision + 1
  let outcome := startSensorSelectionOutcome request.plan.sensorMode false
    request.productSensorValid request.airSensorValid request.coolingSensorValid
    runRevision
  let after := installSensorSelection { installed with runRevision } outcome.runtime
    outcome.persisted
  return ((beginMutation { decision with after }).addEffect .manualRunStarted).addEffect
    .runStarted

/-! ## Stop and completion -/

/-- The plan of the cooling run that follows, if one is wanted. -/
def demandCoolingPlan (decision : CommandDecision) (wanted safetyAllowsCooling : Bool)
    (request : Option ManualRunPlanRequest) :
    Except CommandDecision (Option ManualRunPlan) :=
  if wanted then do
    decision.check safetyAllowsCooling .safetyRejected
    let request ← decision.demand request .contextMissing
    let plan ← decision.demand (makeManualPlan request decision.envelope) .invalidInput
    return some plan
  else return none

def installCoolingRun (state : RunCommandState) (envelope : CommandEnvelope)
    (plan : Option ManualRunPlan) : Option RunCommandState :=
  match plan with
  | some plan => installManualRun state envelope plan
  | none => some state

/-- A cooling run has no product sensor evidence of its own. -/
def selectCoolingSensor (state : RunCommandState)
    (airSensorValid coolingSensorValid : Bool) : RunCommandState :=
  match state.activeManualRun with
  | some plan =>
      let outcome := startSensorSelectionOutcome plan.values.sensorMode false false
        airSensorValid coolingSensorValid state.runRevision
      installSensorSelection state outcome.runtime outcome.persisted
  | none => state

/-- Ends the current run by an event and starts the cooling run, if any. -/
def replaceRun (decision : CommandDecision) (event : ProcessEvent)
    (snapshot : Option ProcessRunSnapshot) (coolingPlan : Option ManualRunPlan)
    (airSensorValid coolingSensorValid : Bool) : Except CommandDecision CommandDecision := do
  let current := decision.before
  decision.requireRevisionCapacity current.runRevision
  let ended ← decision.demand
    (applyTransition current event decision.envelope.monotonicMillis snapshot)
    .notAllowedInState
  let installed ← decision.demand
    (installCoolingRun (clearActiveRunState ended) decision.envelope coolingPlan)
    .invalidInput
  decision.check decision.envelope.confirmed .notConfirmed
  let after := selectCoolingSensor
    { installed with runRevision := current.runRevision + 1 } airSensorValid
    coolingSensorValid
  return beginMutation { decision with after }

def stopKind : StopOption → CommandKind
  | .abortAndCool => .abortAndCool
  | _ => .abortAndTurnOff

def decideStop (current : RunCommandState) (request : StopRequest) : CommandDecision :=
  settle do
  let begun := beginDecision current request.envelope .abortAndTurnOff
  begun.check begun.proposed begun.status
  begun.check (request.option ≠ .back) .noChange
  let decision := { begun with kind := stopKind request.option }
  decision.requireRunRevision
  decision.check (activeProcessState current.processState.state &&
    current.processRunSnapshot.isSome) .notAllowedInState
  let coolingPlan ← demandCoolingPlan decision (request.option = .abortAndCool)
    request.safetyAllowsCooling request.coolingPlan
  let replaced ← replaceRun decision .abort current.processRunSnapshot coolingPlan
    request.airSensorValid request.coolingSensorValid
  let stopped := ((replaced.addEffect .runAborted).addEffect
    .safePeltierStopRequested).addEffect .fanRunOnRequired
  return if request.option = .abortAndCool then
      (stopped.addEffect .manualRunStarted).addEffect .runStarted
    else stopped

def decideCompletion (current : RunCommandState) (request : CompletionRequest) :
    CommandDecision := settle do
  let decision := beginDecision current request.envelope
    (if request.startCooling then .coolAfterCompletion else .acknowledgeCompletion)
  decision.requireRunRevision
  decision.check (current.processState.state = .completed) .notAllowedInState
  let coolingPlan ← demandCoolingPlan decision request.startCooling
    request.safetyAllowsCooling request.coolingPlan
  let replaced ← replaceRun decision .acknowledgeCompletion none coolingPlan
    request.airSensorValid request.coolingSensorValid
  let completed := replaced.addEffect .completionAcknowledged
  return if request.startCooling then
      (completed.addEffect .manualRunStarted).addEffect .runStarted
    else completed

/-! ## Adjustment -/

/-- The observed seconds of a fermentation whose duration changes. -/
def foldFermentation (state : RunCommandState) (monotonicMillis : UInt64) :
    Option RunCommandState := do
  let observed ← deriveFermentingSecondsDelta state monotonicMillis
  foldObservedRunSeconds state observed.toUInt64

/-- The segment of the last recovery can no longer be booked. -/
def closeWeightedSegment (state : RunCommandState) : RunCommandState :=
  match state.lastRecoveryEpisodeEvidence with
  | none => state
  | some evidence => { state with
      runProgress := supersedeUnbookedWeightedSegment state.runProgress
        evidence.weightedProgressSegmentId
      lastRecoveryEpisodeEvidence :=
        some { evidence with weightedProgressSegmentId := none } }

/-- The timer of the fermentation starts over with the new duration. -/
def restartFermentationTimer (state : RunCommandState) (monotonicMillis : UInt64) :
    RunCommandState :=
  closeWeightedSegment { state with
    processState := { state.processState with stateEnteredAtMillis := monotonicMillis }
    priorBootPhaseElapsed := some ⟨.fermenting, ⟨0, some 0⟩⟩
    nominalRecoveryAdjustment := none
    pendingRecoveryAnchor := none
    recoveryBootAnchorMonotonicMillis := none }

def decideRunAdjustment (current : RunCommandState)
    (request : RunAdjustmentCommandRequest) : CommandDecision := settle do
  let begun := beginDecision current request.envelope .adjustRun
  let now := request.envelope.monotonicMillis
  let state := current.processState.state
  begun.requireRunRevision
  begun.check (adjustmentAllowedIn state && current.processRunSnapshot.isSome)
    .notAllowedInState
  let run ← begun.demand current.activeProgramRun .notAllowedInState
  let runDecision := run.decideAdjustment {
      targetTemperatureCelsius := request.targetTemperatureCelsius
      remainingDurationMinutes := request.remainingDurationMinutes
      confirmed := true
      source := changeSource request.envelope.source
      timestamp := { monotonicMillis := now } }
    { phaseContext := phaseContextFor state }
  begun.check (runDecision.status = .proposed) (mapAdjustmentStatus runDecision.status)
  begun.requireRevisionCapacity current.runRevision
  let restartsTimer := decide (state = .fermenting) &&
    runDecision.revision.any (·.remainingDurationChanged)
  let folded ← begun.demand
    (if restartsTimer then foldFermentation current now else some current) .invalidInput
  let (adjusted, effect) ← begun.demand (run.applyAdjustment runDecision).toOption
    .invalidInput
  let targetChanged := !run.effectiveValues.targetTemperatureCelsius.eq
    adjusted.effectiveValues.targetTemperatureCelsius
  let process ← begun.demand
    (makeProcessRunSnapshot adjusted.snapshot adjusted.effectiveValues) .invalidInput
  let candidate := { folded with
    activeProgramRun := some adjusted
    processRunSnapshot := some process }
  let reevaluated ← begun.demand
    (if targetChanged && decide (state ≠ .fermenting) then
      applyTransition candidate .targetChanged now (some process)
    else some candidate) .invalidInput
  let decision := { begun with
    committedControlContextTransition := targetContextTransition targetChanged }
  decision.check request.envelope.confirmed .notConfirmed
  let timed := if restartsTimer then restartFermentationTimer reevaluated now
    else reevaluated
  return (beginMutation { decision with
    after := { timed with runRevision := current.runRevision + 1 }
    adjustmentPreview := some {
      before := run.effectiveValues
      after := adjusted.effectiveValues
      phase := state
      targetRequalificationRequired := effect = .restartTargetQualification
      timerContinuesWithoutBiologicalCorrection :=
        effect = .continueFermentationWithoutRequalification } }).addEffect .runAdjusted

/-! ## Recovery time -/

/-- The correction of the open episode, counted from the earlier ones. -/
def correctedRecoveryTime (current : RunCommandState) (secondsDelta upperBound : UInt32)
    (lowerBound : UInt32) : Option NominalRecoveryAdjustmentState :=
  let adjustment := current.nominalRecoveryAdjustment.getD {}
  if secondsDelta ≤ maxUInt32 - adjustment.cumulativeAppliedSeconds ∧
      lowerBound.toUInt64 +
          (adjustment.cumulativeAppliedSeconds + secondsDelta).toUInt64 ≤
        upperBound.toUInt64 then
    some ⟨adjustment.cumulativeAppliedSeconds + secondsDelta,
      current.recoveryEpisodeRevision, secondsDelta⟩
  else none

def decideApplyRecoveryTimeCorrection (current : RunCommandState)
    (request : ApplyRecoveryTimeCorrectionRequest) : CommandDecision := settle do
  let decision := beginDecision current request.envelope .applyRecoveryTimeCorrection
  decision.requireRunRevision
  decision.requireRecoveryEpisodeRevision
  decision.check (current.processState.state = .fermenting) .notAllowedInState
  let prior ← decision.demand
    (current.priorBootPhaseElapsed.filter fun prior => prior.taggedState = .fermenting)
    .notAllowedInState
  let upperBound ← decision.demand prior.elapsed.upperBoundSeconds .notAllowedInState
  let applied := current.nominalRecoveryAdjustment.filter fun adjustment =>
    adjustment.lastAppliedEpisodeRevision = current.recoveryEpisodeRevision
  decision.check applied.isNone
    (if applied.any (·.lastAppliedEpisodeDelta = request.secondsDelta) then
      .alreadyProcessed
    else .notAllowedInState)
  let corrected ← decision.demand
    (correctedRecoveryTime current request.secondsDelta upperBound
      prior.elapsed.lowerBoundSeconds) .invalidInput
  decision.check request.envelope.confirmed .notConfirmed
  return beginMutation { decision with
    after := { current with nominalRecoveryAdjustment := some corrected } }

/-! ## Messages -/

def findMessage (state : RunCommandState) (id : UInt32) : Option RuntimeMessage :=
  state.messages.find? (·.id = id)

/-- The first message with the id is replaced by its image under `change`. -/
def updateMessage (messages : List RuntimeMessage) (id : UInt32)
    (change : RuntimeMessage → RuntimeMessage) : List RuntimeMessage :=
  messages.modify (messages.findIdx (·.id = id)) change

/-- Acknowledging and muting differ in the flag they set. -/
def decideMessageFlag (current : RunCommandState) (request : MessageCommandRequest)
    (kind : CommandKind) (flag : RuntimeMessage → Bool)
    (setFlag : RuntimeMessage → RuntimeMessage) (effect : CommandEffect) :
    CommandDecision := settle do
  let decision := beginDecision current request.envelope kind
  decision.requireMessageRevision
  let message ← decision.demand (findMessage current request.messageId) .contextMissing
  decision.check (!flag message) .noChange
  decision.requireRevisionCapacity message.revision
  decision.requireRevisionCapacity current.messageRevision
  let messages := updateMessage current.messages request.messageId fun message =>
    { setFlag message with revision := message.revision + 1 }
  return (beginMutation { decision with after := { current with
    messages
    messageRevision := current.messageRevision + 1 } }).addEffect effect

def decideAcknowledgeMessage (current : RunCommandState)
    (request : MessageCommandRequest) : CommandDecision :=
  decideMessageFlag current request .acknowledgeMessage (·.acknowledged)
    (fun message => { message with acknowledged := true }) .messageAcknowledged

def decideMuteMessage (current : RunCommandState)
    (request : MessageCommandRequest) : CommandDecision :=
  decideMessageFlag current request .muteMessage (·.acousticMuted)
    (fun message => { message with acousticMuted := true }) .acousticMuted

/-! ## Sensor actions -/

/-- A changed controlling sensor restarts a qualification before it commits. -/
def resetChangedSensorRole (before : RunCommandState) (after : RunCommandState)
    (mutation : SensorSelectionStateMutation) (monotonicMillis : UInt64) :
    Option RunCommandState :=
  if mutation.event.isSome ∧
      (resolveControlSensorRoleTransition before.processState.state
        before.activeRunSensorMode after.processState.state
        after.activeRunSensorMode).isSome then
    applySensorRoleChangeQualificationReset after monotonicMillis
  else some after

def sensorPermissionEffect (before : RunCommandState)
    (mutation : SensorSelectionStateMutation) : Option CommandEffect :=
  if before.sensorSelectionRuntime.permission = mutation.runtime.permission then none
  else
    match mutation.runtime.permission with
    | .blocked => some .sensorSelectionPermissionBlocked
    | .allowed => some .sensorSelectionPermissionRestored

def applySensorAction (decision : CommandDecision)
    (mutation : SensorSelectionStateMutation) : Except CommandDecision CommandDecision := do
  let before := decision.before
  let after ← decision.demand
    (resetChangedSensorRole before (applySensorSelectionMutation before mutation) mutation
      decision.envelope.monotonicMillis) .invalidInput
  decision.check decision.envelope.confirmed .notConfirmed
  let mutated := beginMutation { decision with after }
  let announced := if mutation.event.isSome then
      { mutated with
        sensorSelectionEvent := mutation.event
        committedControlContextTransition :=
          resolveControlSensorRoleTransition before.processState.state
            before.activeRunSensorMode mutated.after.processState.state
            mutated.after.activeRunSensorMode }
    else { mutated with sensorSelectionNotice := mutation.notice }
  return match sensorPermissionEffect before mutation with
    | some effect => announced.addEffect effect
    | none => announced

def sensorSelectionProgramContextFor (state : RunCommandState) :
    SensorSelectionProgramContext := recoverySensorSelectionProgramContext state

def decideApplySensorSelectionAction (current : RunCommandState)
    (request : SensorSelectionCommandRequest)
    (plausibility : CrossRolePlausibilityContext) : CommandDecision := settle do
  let begun := beginDecision current request.envelope .applySensorSelectionAction
  begun.requireRunRevision
  begun.check current.hasActiveRun .notAllowedInState
  begun.check (!current.activeRunId.isEmpty && current.activeRunSensorMode.isSome)
    .contextMissing
  -- No way out of an open safety event by a comfort action.
  ({ begun with sensorSelectionApplyStatus := some .invalidDecision }).check
    (!(current.criticalSafetyEventPending && decide (request.action ≠ SensorSelectionUserAction.recheckProduct)))
    .safetyRejected
  let view := sensorSelectionViewFrom current
  let mutation := applySensorSelectionDecision view {
      expected := view
      program := sensorSelectionProgramContextFor current
      plausibility
      userAction := some request.action } request.envelope.monotonicMillis
  let decision := { begun with sensorSelectionApplyStatus := some mutation.status }
  decision.check (!(current.criticalSafetyEventPending &&
    decide (mutation.status ≠ .noChange))) .safetyRejected
  match mutation.status with
  | .noChange => .error (decision.rejected .noChange)
  | .appliedPersistentCandidate | .appliedRamOnly => applySensorAction decision mutation
  | status => .error (decision.rejected (mapSensorSelectionRejection status))

end Fermentationsschrank

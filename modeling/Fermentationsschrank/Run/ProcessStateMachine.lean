import Fermentationsschrank.Run.RunSnapshot

/-!
# Process state machine

The phases of a run and the decisions that move between them.  A decision is
computed without touching the state and applied later; `applyProcessTransition`
accepts it only on the state it was computed for.
-/

namespace Fermentationsschrank

inductive ProcessState
  | boot
  | safeBoot
  | standby
  | preheating
  | waitingForProduct
  | reachingTarget
  | qualifyingTarget
  | fermenting
  | cooling
  | coolHolding
  | manualHolding
  | completed
  | recoveryEvaluation
  | fault
  | serviceMode
  deriving DecidableEq, Repr

inductive ProcessKind
  | timed
  | manualHolding
  deriving DecidableEq, Repr

structure ProcessRunSnapshot where
  kind : ProcessKind := .timed
  preheatEnabled : Bool := false
  completionMode : CompletionMode := .finishWithoutCooling
  qualificationDurationMinutes : UInt32 := 0
  maximumTargetReachMinutes : UInt32 := 0
  maximumProductWaitMinutes : Option UInt32 := none
  fermentationDurationMinutes : Option UInt32 := none
  holdDurationMinutes : Option UInt32 := none
  deriving DecidableEq, Repr

structure ProcessRuntimeState where
  state : ProcessState := .boot
  stateEnteredAtMillis : UInt64 := 0
  targetReachStartedAtMillis : UInt64 := 0
  qualificationValidSinceMillis : Option UInt64 := none
  targetReachWarningIssued : Bool := false
  transitionSequence : UInt32 := 0
  deriving DecidableEq, Repr

inductive QualificationProgress
  | unavailable
  | invalid
  | outsideBand
  | grace
  | inBand
  | complete
  deriving DecidableEq, Repr

structure ProcessSignals where
  qualificationProgress : QualificationProgress := .unavailable
  coolingTargetConditionValid : Bool := false
  criticalFault : Bool := false
  deriving DecidableEq, Repr

inductive ProcessEvent
  | none
  | startRun
  | productInsertedConfirmed
  | targetChanged
  | abort
  | finishHoldConfirmed
  | acknowledgeCompletion
  | enterServiceMode
  | exitServiceMode
  | bootReady
  | bootSafe
  | bootRestoreCompleted
  | bootRecoverRun
  | recoveryResume
  | recoveryReject
  deriving DecidableEq, Repr

structure TransitionRequest where
  event : ProcessEvent := .none
  recoveredState : Option ProcessRuntimeState := none
  deriving DecidableEq, Repr

inductive DecisionStatus
  | proposed
  | noTransition
  | rejected
  | invalidInput
  | timeWentBackwards
  deriving DecidableEq, Repr

inductive TransitionReason
  | none
  | bootCompleted
  | safeBootRequired
  | completedRunRestored
  | recoveryRequired
  | runStarted
  | qualificationTrackingStarted
  | qualificationReset
  | preheatQualified
  | productInserted
  | targetChangedReevaluation
  | productWaitExpired
  | targetReachTimeExceeded
  | targetQualified
  | fermentationCompleted
  | coolingTargetReached
  | holdDurationCompleted
  | holdFinishedByUser
  | runAborted
  | completionAcknowledged
  | criticalFault
  | serviceModeEntered
  | serviceModeExited
  | recoveryResumed
  | recoveryRejected
  | recoveryReentryRequired
  | recoveryEndedByExpiredWait
  deriving DecidableEq, Repr

inductive ProcessMessage
  | productInsertionRequested
  | targetReachTimeExceeded
  | runCompleted
  | runAborted
  | faultEntered
  deriving DecidableEq, Repr

inductive CommittedControlContextTransition
  | targetContextChange
  | sensorRoleChange
  | productInserted
  | coolingTargetContextChange
  deriving DecidableEq, Repr

structure TransitionDecision where
  status : DecisionStatus
  before : ProcessRuntimeState
  after : ProcessRuntimeState
  reason : TransitionReason
  monotonicMillis : UInt64
  messages : List ProcessMessage
  committedControlContextTransition : Option CommittedControlContextTransition
  deriving DecidableEq, Repr

/-- Time a phase had already spent before this boot. -/
structure PriorBootPhaseElapsed where
  lowerBoundSeconds : UInt32 := 0
  upperBoundSeconds : Option UInt32 := none
  deriving DecidableEq, Repr

/-! ## Time and shape -/

def maxUInt32 : UInt32 := 4294967295
def maxUInt64 : UInt64 := 18446744073709551615

def minutesToMillis (minutes : UInt32) : UInt64 := minutes.toUInt64 * 60000

def elapsed (now startedAt : UInt64) (durationMinutes : UInt32) : Bool :=
  minutesToMillis durationMinutes ≤ now - startedAt

def elapsedWithPrior (now startedAt : UInt64) (durationMinutes priorSeconds : UInt32) :
    Bool :=
  durationMinutes.toUInt64 * 60 ≤ (now - startedAt) / 1000 + priorSeconds.toUInt64

def stateHasTargetReachTimer (state : ProcessState) : Bool :=
  state = .reachingTarget ∨ state = .qualifyingTarget

/-- The eight phases that run on a process snapshot. -/
def stateUsesRunSnapshot : ProcessState → Bool
  | .preheating | .waitingForProduct | .reachingTarget | .qualifyingTarget
  | .fermenting | .cooling | .coolHolding | .manualHolding => true
  | _ => false

def stateCanAbort (state : ProcessState) : Bool := stateUsesRunSnapshot state

def validRecoveryTarget (state : ProcessState) : Bool := stateUsesRunSnapshot state

def stateCanEnterFault (state : ProcessState) : Bool :=
  state ≠ .safeBoot ∧ state ≠ .fault

def stateMatchesRunSnapshot (state : ProcessState) (snapshot : ProcessRunSnapshot) : Bool :=
  match state with
  | .preheating => snapshot.preheatEnabled
  | .waitingForProduct =>
      snapshot.preheatEnabled && snapshot.maximumProductWaitMinutes.isSome
  | .reachingTarget | .qualifyingTarget => true
  | .fermenting => snapshot.kind = .timed ∧ snapshot.fermentationDurationMinutes.isSome
  | .cooling => snapshot.kind = .timed ∧ snapshot.completionMode ≠ .finishWithoutCooling
  | .coolHolding =>
      snapshot.kind = .timed ∧
        (snapshot.completionMode = .coolAndHoldForDuration ∨
          snapshot.completionMode = .coolAndHoldUntilManualStop)
  | .manualHolding => snapshot.kind = .manualHolding
  | _ => true

def runtimeTimeIsValid (state : ProcessRuntimeState) (monotonicMillis : UInt64) : Bool :=
  state.stateEnteredAtMillis ≤ monotonicMillis ∧
    (stateHasTargetReachTimer state.state →
      state.targetReachStartedAtMillis ≤ monotonicMillis) ∧
    state.qualificationValidSinceMillis.all (· ≤ monotonicMillis)

def mayTrackQualification (state : ProcessState) : Bool :=
  state = .preheating ∨ state = .qualifyingTarget

def runtimeShapeIsValid (state : ProcessRuntimeState) : Bool :=
  (mayTrackQualification state.state ∨ state.qualificationValidSinceMillis = none) ∧
    (stateHasTargetReachTimer state.state ∨
      state.targetReachStartedAtMillis = 0 ∧ ¬ state.targetReachWarningIssued)

def validFermentationDuration (snapshot : ProcessRunSnapshot) : Bool :=
  match snapshot.kind with
  | .timed =>
      snapshot.fermentationDurationMinutes.any (· ≤ kMaximumFermentationDurationMinutes)
  | .manualHolding =>
      snapshot.fermentationDurationMinutes.isNone &&
        decide (snapshot.completionMode = .finishWithoutCooling)

def validateProcessRunSnapshot (snapshot : ProcessRunSnapshot) : Bool :=
  kMinimumQualificationDurationMinutes ≤ snapshot.qualificationDurationMinutes ∧
    snapshot.qualificationDurationMinutes ≤ kMaximumQualificationDurationMinutes ∧
    kMinimumTargetReachMinutes ≤ snapshot.maximumTargetReachMinutes ∧
    snapshot.maximumTargetReachMinutes ≤ kMaximumTargetReachMinutes ∧
    snapshot.preheatEnabled = snapshot.maximumProductWaitMinutes.isSome ∧
    (snapshot.maximumProductWaitMinutes.all fun minutes =>
      kMinimumProductWaitMinutes ≤ minutes ∧ minutes ≤ kMaximumProductWaitMinutes) ∧
    validFermentationDuration snapshot ∧
    (snapshot.completionMode = .coolAndHoldForDuration ↔
      snapshot.holdDurationMinutes.isSome) ∧
    snapshot.holdDurationMinutes.all fun minutes =>
      kMinimumHoldDurationMinutes ≤ minutes ∧ minutes ≤ kMaximumHoldDurationMinutes

/-- The process contract of a program run, before its validation. -/
def processRunSnapshotOf (source : ProgramRunSource)
    (effectiveValues : EffectiveRunValues) : Option ProcessRunSnapshot :=
  match source with
  | .stored document => do
      let program := document.program
      let qualificationDurationMinutes ← program.targetQualification.durationMinutes
      let maximumTargetReachMinutes ← program.maximumTargetReachMinutes
      return {
        kind := .timed
        preheatEnabled := program.preheat
        completionMode := program.completion.mode
        qualificationDurationMinutes, maximumTargetReachMinutes
        maximumProductWaitMinutes := program.maximumProductWaitMinutes
        fermentationDurationMinutes := some effectiveValues.remainingDurationMinutes
        holdDurationMinutes := program.completion.holdDurationMinutes }
  | .manualTimed manual => do
      let qualificationDurationMinutes ← manual.targetQualification.durationMinutes
      let maximumTargetReachMinutes ← manual.maximumTargetReachMinutes
      return {
        kind := .timed
        preheatEnabled := manual.preheatEnabled
        completionMode := manual.completion.mode
        qualificationDurationMinutes, maximumTargetReachMinutes
        maximumProductWaitMinutes := manual.maximumProductWaitMinutes
        fermentationDurationMinutes := some effectiveValues.remainingDurationMinutes
        holdDurationMinutes := manual.completion.holdDurationMinutes }

def makeProcessRunSnapshot (runSnapshot : RunProgramSnapshot)
    (effectiveValues : EffectiveRunValues) : Option ProcessRunSnapshot :=
  (processRunSnapshotOf runSnapshot.source effectiveValues).filter
    validateProcessRunSnapshot

def validateProcessRuntimeForCheckpoint (state : ProcessRuntimeState)
    (runSnapshot : Option ProcessRunSnapshot) (checkpointMonotonicMillis : UInt64) : Bool :=
  runtimeShapeIsValid state && runtimeTimeIsValid state checkpointMonotonicMillis &&
    if stateUsesRunSnapshot state.state then
      runSnapshot.any fun snapshot =>
        validateProcessRunSnapshot snapshot && stateMatchesRunSnapshot state.state snapshot
    else runSnapshot.all validateProcessRunSnapshot

/-! ## Proposals -/

def decisionResult (status : DecisionStatus) (current : ProcessRuntimeState)
    (monotonicMillis : UInt64) : TransitionDecision where
  status := status
  before := current
  after := current
  reason := .none
  monotonicMillis := monotonicMillis
  messages := []
  committedControlContextTransition := none

def kMaximumTransitionMessages : ℕ := 3

def addMessage (decision : TransitionDecision) (message : ProcessMessage) :
    TransitionDecision :=
  if decision.messages.length < kMaximumTransitionMessages then
    { decision with messages := decision.messages ++ [message] }
  else decision

def propose (current : ProcessRuntimeState) (nextState : ProcessState)
    (reason : TransitionReason) (monotonicMillis : UInt64) : TransitionDecision :=
  if current.transitionSequence = maxUInt32 then
    decisionResult .invalidInput current monotonicMillis
  else
    { decisionResult .proposed current monotonicMillis with
      reason := reason
      after := {
        state := nextState
        stateEnteredAtMillis := monotonicMillis
        targetReachStartedAtMillis :=
          if stateHasTargetReachTimer nextState then current.targetReachStartedAtMillis
          else 0
        qualificationValidSinceMillis := none
        targetReachWarningIssued :=
          stateHasTargetReachTimer nextState && current.targetReachWarningIssued
        transitionSequence := current.transitionSequence + 1 } }

def proposePhaseDataUpdate (current : ProcessRuntimeState) (reason : TransitionReason)
    (monotonicMillis : UInt64) : TransitionDecision :=
  { decisionResult .proposed current monotonicMillis with
    reason := reason
    after := { current with transitionSequence := current.transitionSequence + 1 } }

def TransitionDecision.proposed (decision : TransitionDecision) : Bool :=
  decision.status = .proposed

/-- The decision with its resulting state replaced by its image under `change`. -/
def TransitionDecision.withAfter (decision : TransitionDecision)
    (change : ProcessRuntimeState → ProcessRuntimeState) : TransitionDecision :=
  { decision with after := change decision.after }

def initializeTargetReach (decision : TransitionDecision) (monotonicMillis : UInt64) :
    TransitionDecision :=
  decision.withAfter fun after =>
    { after with
      targetReachStartedAtMillis := monotonicMillis
      targetReachWarningIssued := false }

/-- The target-reach timer of the current phase carries over. -/
def keepTargetReach (decision : TransitionDecision) (current : ProcessRuntimeState) :
    TransitionDecision :=
  decision.withAfter fun after =>
    { after with
      targetReachStartedAtMillis := current.targetReachStartedAtMillis
      targetReachWarningIssued := current.targetReachWarningIssued }

def targetReachWarningDue (current : ProcessRuntimeState) (snapshot : ProcessRunSnapshot)
    (monotonicMillis : UInt64) : Bool :=
  stateHasTargetReachTimer current.state && !current.targetReachWarningIssued &&
    elapsed monotonicMillis current.targetReachStartedAtMillis
      snapshot.maximumTargetReachMinutes

def includeTargetReachWarning (decision : TransitionDecision) : TransitionDecision :=
  addMessage
    (decision.withAfter fun after =>
      if stateHasTargetReachTimer after.state then
        { after with targetReachWarningIssued := true }
      else after)
    .targetReachTimeExceeded

def completeTimedRun (current : ProcessRuntimeState) (snapshot : ProcessRunSnapshot)
    (monotonicMillis : UInt64) : TransitionDecision :=
  if snapshot.completionMode = .finishWithoutCooling then
    addMessage (propose current .completed .fermentationCompleted monotonicMillis)
      .runCompleted
  else
    { propose current .cooling .fermentationCompleted monotonicMillis with
      committedControlContextTransition := some .coolingTargetContextChange }

def completeHoldDuration (current : ProcessRuntimeState) (monotonicMillis : UInt64) :
    TransitionDecision :=
  addMessage (propose current .completed .holdDurationCompleted monotonicMillis)
    .runCompleted

/-! ## Automatic decisions -/

def qualificationHasPositiveEvidence (signals : ProcessSignals) : Bool :=
  match signals.qualificationProgress with
  | .grace | .inBand | .complete => true
  | .unavailable | .invalid | .outsideBand => false

def qualificationIsInterrupted (signals : ProcessSignals) : Bool :=
  !qualificationHasPositiveEvidence signals

def decideQualification (current : ProcessRuntimeState) (snapshot : ProcessRunSnapshot)
    (signals : ProcessSignals) (monotonicMillis : UInt64) (preheating : Bool) :
    TransitionDecision :=
  if qualificationIsInterrupted signals then
    if current.qualificationValidSinceMillis.isNone then
      decisionResult .noTransition current monotonicMillis
    else if preheating then
      (proposePhaseDataUpdate current .qualificationReset monotonicMillis).withAfter
        fun after => { after with qualificationValidSinceMillis := none }
    else
      keepTargetReach (propose current .reachingTarget .qualificationReset monotonicMillis)
        current
  else if signals.qualificationProgress = .complete then
    if preheating then
      addMessage (propose current .waitingForProduct .preheatQualified monotonicMillis)
        .productInsertionRequested
    else
      propose current
        (if snapshot.kind = .manualHolding then .manualHolding else .fermenting)
        .targetQualified monotonicMillis
  else if current.qualificationValidSinceMillis.isNone then
    (proposePhaseDataUpdate current .qualificationTrackingStarted monotonicMillis).withAfter
      fun after => { after with qualificationValidSinceMillis := some monotonicMillis }
  else decisionResult .noTransition current monotonicMillis

def decideWaitingForProduct (current : ProcessRuntimeState)
    (snapshot : ProcessRunSnapshot) (monotonicMillis : UInt64)
    (priorElapsed : PriorBootPhaseElapsed) : TransitionDecision :=
  if snapshot.maximumProductWaitMinutes.any fun minutes =>
      elapsedWithPrior monotonicMillis current.stateEnteredAtMillis minutes
        priorElapsed.lowerBoundSeconds then
    addMessage (propose current .standby .productWaitExpired monotonicMillis) .runAborted
  else decisionResult .noTransition current monotonicMillis

def decideReachingTarget (current : ProcessRuntimeState) (snapshot : ProcessRunSnapshot)
    (signals : ProcessSignals) (monotonicMillis : UInt64) : TransitionDecision :=
  if qualificationHasPositiveEvidence signals then
    let decision :=
      (keepTargetReach
        (propose current .qualifyingTarget .qualificationTrackingStarted monotonicMillis)
        current).withAfter fun after =>
          { after with qualificationValidSinceMillis := some monotonicMillis }
    if targetReachWarningDue current snapshot monotonicMillis then
      includeTargetReachWarning decision
    else decision
  else if targetReachWarningDue current snapshot monotonicMillis then
    includeTargetReachWarning
      (proposePhaseDataUpdate current .targetReachTimeExceeded monotonicMillis)
  else decisionResult .noTransition current monotonicMillis

def decideQualifyingTarget (current : ProcessRuntimeState) (snapshot : ProcessRunSnapshot)
    (signals : ProcessSignals) (monotonicMillis : UInt64) : TransitionDecision :=
  let decision := decideQualification current snapshot signals monotonicMillis false
  if targetReachWarningDue current snapshot monotonicMillis then
    includeTargetReachWarning
      (if decision.proposed then decision
      else proposePhaseDataUpdate current .targetReachTimeExceeded monotonicMillis)
  else decision

def decideFermenting (current : ProcessRuntimeState) (snapshot : ProcessRunSnapshot)
    (monotonicMillis : UInt64) (priorElapsed : PriorBootPhaseElapsed) :
    TransitionDecision :=
  if snapshot.fermentationDurationMinutes.any fun minutes =>
      elapsedWithPrior monotonicMillis current.stateEnteredAtMillis minutes
        priorElapsed.lowerBoundSeconds then
    completeTimedRun current snapshot monotonicMillis
  else decisionResult .noTransition current monotonicMillis

def decideCooling (current : ProcessRuntimeState) (snapshot : ProcessRunSnapshot)
    (signals : ProcessSignals) (monotonicMillis : UInt64) : TransitionDecision :=
  if !signals.coolingTargetConditionValid then
    decisionResult .noTransition current monotonicMillis
  else if snapshot.completionMode = .coolThenFinish then
    addMessage (propose current .completed .coolingTargetReached monotonicMillis)
      .runCompleted
  else propose current .coolHolding .coolingTargetReached monotonicMillis

def decideCoolHolding (current : ProcessRuntimeState) (snapshot : ProcessRunSnapshot)
    (monotonicMillis : UInt64) (priorElapsed : PriorBootPhaseElapsed) :
    TransitionDecision :=
  if snapshot.completionMode = .coolAndHoldForDuration ∧
      snapshot.holdDurationMinutes.any fun minutes =>
        elapsedWithPrior monotonicMillis current.stateEnteredAtMillis minutes
          priorElapsed.lowerBoundSeconds then
    completeHoldDuration current monotonicMillis
  else decisionResult .noTransition current monotonicMillis

def decideAutomatic (current : ProcessRuntimeState) (snapshot : Option ProcessRunSnapshot)
    (signals : ProcessSignals) (monotonicMillis : UInt64)
    (priorElapsed : PriorBootPhaseElapsed) : TransitionDecision :=
  match snapshot with
  | none =>
      if stateUsesRunSnapshot current.state then
        decisionResult .invalidInput current monotonicMillis
      else decisionResult .noTransition current monotonicMillis
  | some snapshot =>
      match current.state with
      | .preheating => decideQualification current snapshot signals monotonicMillis true
      | .waitingForProduct =>
          decideWaitingForProduct current snapshot monotonicMillis priorElapsed
      | .reachingTarget => decideReachingTarget current snapshot signals monotonicMillis
      | .qualifyingTarget =>
          decideQualifyingTarget current snapshot signals monotonicMillis
      | .fermenting => decideFermenting current snapshot monotonicMillis priorElapsed
      | .cooling => decideCooling current snapshot signals monotonicMillis
      | .coolHolding => decideCoolHolding current snapshot monotonicMillis priorElapsed
      | _ => decisionResult .noTransition current monotonicMillis

/-! ## Explicit events -/

def rejected (current : ProcessRuntimeState) (monotonicMillis : UInt64) :
    TransitionDecision :=
  decisionResult .rejected current monotonicMillis

def decideBootEvent (current : ProcessRuntimeState) (event : ProcessEvent)
    (monotonicMillis : UInt64) : TransitionDecision :=
  match event with
  | .bootReady => propose current .standby .bootCompleted monotonicMillis
  | .bootSafe => propose current .safeBoot .safeBootRequired monotonicMillis
  | .bootRestoreCompleted =>
      propose current .completed .completedRunRestored monotonicMillis
  | .bootRecoverRun =>
      propose current .recoveryEvaluation .recoveryRequired monotonicMillis
  | _ => rejected current monotonicMillis

def decideStandbyEvent (current : ProcessRuntimeState)
    (snapshot : Option ProcessRunSnapshot) (event : ProcessEvent)
    (monotonicMillis : UInt64) : TransitionDecision :=
  match event, snapshot with
  | .enterServiceMode, _ =>
      propose current .serviceMode .serviceModeEntered monotonicMillis
  | .startRun, some snapshot =>
      if snapshot.preheatEnabled then
        propose current .preheating .runStarted monotonicMillis
      else
        initializeTargetReach (propose current .reachingTarget .runStarted monotonicMillis)
          monotonicMillis
  | _, _ => rejected current monotonicMillis

def decideHoldEvent (current : ProcessRuntimeState) (event : ProcessEvent)
    (monotonicMillis : UInt64) : TransitionDecision :=
  if event = .finishHoldConfirmed then
    addMessage (propose current .completed .holdFinishedByUser monotonicMillis)
      .runCompleted
  else rejected current monotonicMillis

/-- The state a resume continues in: qualification starts over. -/
def resumedState (recovered : ProcessRuntimeState) (monotonicMillis : UInt64) :
    ProcessRuntimeState :=
  match recovered.state with
  | .preheating => { recovered with qualificationValidSinceMillis := none }
  | .qualifyingTarget =>
      { recovered with
        state := .reachingTarget
        stateEnteredAtMillis := monotonicMillis
        qualificationValidSinceMillis := none }
  | _ => recovered

def decideRecoveryEvent (current : ProcessRuntimeState)
    (snapshot : Option ProcessRunSnapshot) (request : TransitionRequest)
    (monotonicMillis : UInt64) (priorElapsed : PriorBootPhaseElapsed) :
    TransitionDecision :=
  match request.event, request.recoveredState, snapshot with
  | .recoveryReject, _, _ => propose current .standby .recoveryRejected monotonicMillis
  | .recoveryResume, some recovered, some snapshot =>
      if !validRecoveryTarget recovered.state || !runtimeShapeIsValid recovered ||
          !runtimeTimeIsValid recovered monotonicMillis ||
          !stateMatchesRunSnapshot recovered.state snapshot ||
          (decide (recovered.state = .waitingForProduct) &&
            snapshot.maximumProductWaitMinutes.any fun minutes =>
              elapsedWithPrior monotonicMillis recovered.stateEnteredAtMillis minutes
                priorElapsed.lowerBoundSeconds) then
        rejected current monotonicMillis
      else
        { decisionResult .proposed current monotonicMillis with
          reason := .recoveryResumed
          after := { resumedState recovered monotonicMillis with
            transitionSequence := current.transitionSequence + 1 } }
  | _, _, _ => rejected current monotonicMillis

def decideExplicitEvent (current : ProcessRuntimeState)
    (snapshot : Option ProcessRunSnapshot) (request : TransitionRequest)
    (monotonicMillis : UInt64) (priorElapsed : PriorBootPhaseElapsed) :
    TransitionDecision :=
  match request.event with
  | .abort =>
      if stateCanAbort current.state then
        addMessage (propose current .standby .runAborted monotonicMillis) .runAborted
      else rejected current monotonicMillis
  | .targetChanged =>
      match current.state with
      | .preheating =>
          { propose current .preheating .targetChangedReevaluation monotonicMillis with
            committedControlContextTransition := some .targetContextChange }
      | .reachingTarget | .qualifyingTarget =>
          { initializeTargetReach
              (propose current .reachingTarget .targetChangedReevaluation monotonicMillis)
              monotonicMillis with
            committedControlContextTransition := some .targetContextChange }
      | _ => rejected current monotonicMillis
  | event =>
      match current.state with
      | .boot => decideBootEvent current event monotonicMillis
      | .standby => decideStandbyEvent current snapshot event monotonicMillis
      | .waitingForProduct =>
          if event = .productInsertedConfirmed then
            initializeTargetReach
              (propose current .reachingTarget .productInserted monotonicMillis)
              monotonicMillis
          else rejected current monotonicMillis
      | .coolHolding | .manualHolding => decideHoldEvent current event monotonicMillis
      | .completed =>
          if event = .acknowledgeCompletion then
            propose current .standby .completionAcknowledged monotonicMillis
          else rejected current monotonicMillis
      | .recoveryEvaluation =>
          decideRecoveryEvent current snapshot request monotonicMillis priorElapsed
      | .serviceMode =>
          if event = .exitServiceMode then
            propose current .standby .serviceModeExited monotonicMillis
          else rejected current monotonicMillis
      | _ => rejected current monotonicMillis

def decideProcessTransition (current : ProcessRuntimeState)
    (runSnapshot : Option ProcessRunSnapshot) (signals : ProcessSignals)
    (request : TransitionRequest) (monotonicMillis : UInt64)
    (priorElapsed : PriorBootPhaseElapsed := {}) : TransitionDecision :=
  if !runtimeShapeIsValid current then
    decisionResult .invalidInput current monotonicMillis
  else if !runtimeTimeIsValid current monotonicMillis then
    decisionResult .timeWentBackwards current monotonicMillis
  else if current.transitionSequence = maxUInt32 then
    decisionResult .invalidInput current monotonicMillis
  else if signals.criticalFault && stateCanEnterFault current.state then
    addMessage (propose current .fault .criticalFault monotonicMillis) .faultEntered
  else if !runSnapshot.all validateProcessRunSnapshot then
    decisionResult .invalidInput current monotonicMillis
  else if stateUsesRunSnapshot current.state &&
      !runSnapshot.any (stateMatchesRunSnapshot current.state) then
    decisionResult .invalidInput current monotonicMillis
  else if decide (current.state = .waitingForProduct) &&
      (runSnapshot.bind (·.maximumProductWaitMinutes)).any fun minutes =>
        elapsedWithPrior monotonicMillis current.stateEnteredAtMillis minutes
          priorElapsed.lowerBoundSeconds then
    decideAutomatic current runSnapshot signals monotonicMillis priorElapsed
  else if request.event ≠ .none then
    decideExplicitEvent current runSnapshot request monotonicMillis priorElapsed
  else decideAutomatic current runSnapshot signals monotonicMillis priorElapsed

/-! ## Applying a decision -/

def validTargetChangedTopology (source target : ProcessState) : Bool :=
  match source with
  | .preheating => target = .preheating
  | .reachingTarget | .qualifyingTarget => target = .reachingTarget
  | _ => false

/-- Which phases a reason may connect; the boot, phase and control topologies of
the source, which do not share a reason. -/
def validProposedTopology (decision : TransitionDecision) : Bool :=
  let source := decision.before.state
  let target := decision.after.state
  match decision.reason with
  | .none => false
  | .bootCompleted => source = .boot ∧ target = .standby
  | .safeBootRequired => source = .boot ∧ target = .safeBoot
  | .completedRunRestored => source = .boot ∧ target = .completed
  | .recoveryRequired => source = .boot ∧ target = .recoveryEvaluation
  | .runStarted => source = .standby ∧ (target = .preheating ∨ target = .reachingTarget)
  | .qualificationTrackingStarted =>
      source = .preheating ∧ target = .preheating ∨
        source = .reachingTarget ∧ target = .qualifyingTarget
  | .qualificationReset =>
      source = .preheating ∧ target = .preheating ∨
        source = .qualifyingTarget ∧ target = .reachingTarget
  | .preheatQualified => source = .preheating ∧ target = .waitingForProduct
  | .productInserted => source = .waitingForProduct ∧ target = .reachingTarget
  | .targetChangedReevaluation => validTargetChangedTopology source target
  | .productWaitExpired => source = .waitingForProduct ∧ target = .standby
  | .targetReachTimeExceeded =>
      source = .reachingTarget ∧ target = .reachingTarget ∨
        source = .qualifyingTarget ∧ target = .qualifyingTarget
  | .targetQualified =>
      source = .qualifyingTarget ∧ (target = .fermenting ∨ target = .manualHolding)
  | .fermentationCompleted =>
      source = .fermenting ∧ (target = .cooling ∨ target = .completed)
  | .coolingTargetReached =>
      source = .cooling ∧ (target = .coolHolding ∨ target = .completed)
  | .holdDurationCompleted => source = .coolHolding ∧ target = .completed
  | .holdFinishedByUser =>
      (source = .coolHolding ∨ source = .manualHolding) ∧ target = .completed
  | .runAborted => stateCanAbort source ∧ target = .standby
  | .completionAcknowledged => source = .completed ∧ target = .standby
  | .criticalFault => stateCanEnterFault source ∧ target = .fault
  | .serviceModeEntered => source = .standby ∧ target = .serviceMode
  | .serviceModeExited => source = .serviceMode ∧ target = .standby
  | .recoveryResumed => source = .recoveryEvaluation ∧ validRecoveryTarget target
  | .recoveryRejected =>
      target = .standby ∧ (source = .recoveryEvaluation ∨ stateUsesRunSnapshot source)
  | .recoveryReentryRequired =>
      stateUsesRunSnapshot source ∧ target = .recoveryEvaluation
  | .recoveryEndedByExpiredWait => source = .recoveryEvaluation ∧ target = .standby

/-- The phase a reason leads to on a given snapshot, where the snapshot decides. -/
def reasonMatchesRunSnapshot (decision : TransitionDecision)
    (snapshot : ProcessRunSnapshot) : Bool :=
  match decision.reason with
  | .runStarted =>
      decision.after.state = if snapshot.preheatEnabled then .preheating else .reachingTarget
  | .targetQualified =>
      decision.after.state =
        if snapshot.kind = .manualHolding then .manualHolding else .fermenting
  | .fermentationCompleted =>
      decision.after.state =
        if snapshot.completionMode = .finishWithoutCooling then .completed else .cooling
  | .coolingTargetReached =>
      decision.after.state =
        if snapshot.completionMode = .coolThenFinish then .completed else .coolHolding
  | .holdDurationCompleted => snapshot.completionMode = .coolAndHoldForDuration
  | _ => true

def transitionMatchesRunSnapshot (decision : TransitionDecision)
    (runSnapshot : Option ProcessRunSnapshot) : Bool :=
  -- A safety shutdown never fails for want of an intact run context.
  if decision.reason = .criticalFault then true
  else if !runSnapshot.all validateProcessRunSnapshot then false
  else if !stateUsesRunSnapshot decision.before.state &&
      !stateUsesRunSnapshot decision.after.state then true
  else
    runSnapshot.any fun snapshot =>
      (!stateUsesRunSnapshot decision.before.state ||
        stateMatchesRunSnapshot decision.before.state snapshot) &&
      (!stateUsesRunSnapshot decision.after.state ||
        stateMatchesRunSnapshot decision.after.state snapshot) &&
      reasonMatchesRunSnapshot decision snapshot

def applyProcessTransition (current : ProcessRuntimeState) (decision : TransitionDecision)
    (runSnapshot : Option ProcessRunSnapshot) : Option ProcessRuntimeState :=
  if decision.proposed ∧ current = decision.before ∧
      decision.before.transitionSequence ≠ maxUInt32 ∧
      decision.after.transitionSequence = decision.before.transitionSequence + 1 ∧
      validProposedTopology decision ∧ transitionMatchesRunSnapshot decision runSnapshot ∧
      runtimeShapeIsValid decision.after ∧
      runtimeTimeIsValid decision.after decision.monotonicMillis then
    some decision.after
  else none

def establishBootCompletedStandby (current : ProcessRuntimeState)
    (monotonicMillis : UInt64) : Option ProcessRuntimeState :=
  applyProcessTransition current (propose current .standby .bootCompleted monotonicMillis)
    none

theorem applyProcessTransition_eq_some {current after : ProcessRuntimeState}
    {decision : TransitionDecision} {runSnapshot : Option ProcessRunSnapshot}
    (h : applyProcessTransition current decision runSnapshot = some after) :
    decision.proposed = true ∧ current = decision.before ∧ after = decision.after ∧
      after.transitionSequence = current.transitionSequence + 1 ∧
      validProposedTopology decision = true ∧ runtimeShapeIsValid after = true ∧
      runtimeTimeIsValid after decision.monotonicMillis = true := by
  unfold applyProcessTransition at h
  split at h
  · rename_i hchecks
    cases h
    obtain ⟨hproposed, rfl, -, hsequence, htopology, -, hshape, htime⟩ := hchecks
    exact ⟨hproposed, rfl, rfl, hsequence, htopology, hshape, htime⟩
  · cases h

end Fermentationsschrank

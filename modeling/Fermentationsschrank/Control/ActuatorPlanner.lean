import Fermentationsschrank.Control.ActuatorWindows

/-!
# Actuator planner

A tick first decides whether a new evaluation is admitted (phase A), then what the
output does (phase B).  A rejected tick switches the output off at once.
-/

namespace Fermentationsschrank

variable {K : Type} [ControlNumber K]

namespace ActuatorPlannerRuntimeState

variable (state : ActuatorPlannerRuntimeState K) (parameters : ActuatorPlannerParameters)

/-! ## Phase A -/

structure PhaseAOutcome (K : Type) where
  admissionOutcome : ActuatorAdmissionOutcome := .noCandidate
  candidate : Option (AcceptedControlCommand K) := none

/-- The outcome of an evaluation that is admitted under the gate of its tick. -/
def admittedUnder (gate : ActuatorSafetyGateStatus) : ActuatorAdmissionOutcome :=
  if gate = .unlisted then .malformedSafetyGate else .accepted

def isActiveDemand (demandClass : ActuatorDemandClass) : Bool :=
  demandClass = .normalDemand ∨ demandClass = .airLimitReducedDemand

/-- The command of an admitted evaluation without a request. -/
def requestlessCommand (context : ControlRequestContext) : AcceptedControlCommand K where
  sequence := 0
  direction := .idle
  timeQuote := 0
  demandClass := .noValidRequest
  contextAtAcceptance := context

/-- The command of an admitted request; a request to switch off asks for nothing. -/
def commandOf (request : ControlRequest K) (demandClass : ActuatorDemandClass) :
    AcceptedControlCommand K where
  sequence := request.identity.sequence
  direction := if isActiveDemand demandClass then request.direction else .idle
  timeQuote := if isActiveDemand demandClass then request.timeQuote else 0
  demandClass := demandClass
  contextAtAcceptance := request.context

/-- A request whose sequence is new, though it arrives too late or for another
context. -/
def observeStale (sequence : UInt64) (active : Bool) : ActuatorPlannerRuntimeState K :=
  let closed := state.feedback.endEpisode
  { state with
    feedback := if active then closed.openRejected sequence else closed
    lastObservedSequenceHighWatermark := some sequence }

/-- A request that is new, in time and of the current context. -/
def observeFresh (sequence : UInt64) (active : Bool) (now : UInt64) :
    ActuatorPlannerRuntimeState K :=
  let closed := state.feedback.endEpisode
  { state with
    feedback := if active then { closed with feedbackEpisodeSubjectSequence := some sequence }
      else closed
    lastObservedSequenceHighWatermark := some sequence
    lastNewRequestAcceptedAtMonotonicMillis := some now }

def admitRequest (input : ActuatorPlanTickInput K) (request : ControlRequest K)
    (demandClass : ActuatorDemandClass) : PhaseAOutcome K × ActuatorPlannerRuntimeState K :=
  let sequence := request.identity.sequence
  let active := isActiveDemand demandClass
  if state.lastObservedSequenceHighWatermark.any (sequence ≤ ·) then
    ({ admissionOutcome := .duplicateOrOldSequence }, state)
  else if deadlineReached input.nowMonotonicMillis request.identity.createdAtMonotonicMillis
      parameters.requestWatchdogMillis then
    ({ admissionOutcome := .staleOnArrivalWatchdog }, state.observeStale sequence active)
  else if request.context ≠ input.currentCanonicalContext then
    ({ admissionOutcome := .staleOnArrivalContext }, state.observeStale sequence active)
  else
    ({ admissionOutcome := admittedUnder input.safetyGate
       candidate := some (commandOf request demandClass) },
      state.observeFresh sequence active input.nowMonotonicMillis)

def runPhaseA (input : ActuatorPlanTickInput K) :
    PhaseAOutcome K × ActuatorPlannerRuntimeState K :=
  match input.newEvaluation with
  | none => ({}, state)
  | some evaluation =>
      if !isStructurallyValidEvaluation evaluation ||
          !isStructurallyValidContext input.currentCanonicalContext then
        ({ admissionOutcome := .malformedCandidate },
          { state with feedback := state.feedback.endEpisode })
      else
        match evaluation.controlRequest with
        | some request =>
            state.admitRequest parameters input request (classifyActuatorDemand evaluation)
        -- Without a request the demand class is `noValidRequest`.
        | none =>
            ({ admissionOutcome := admittedUnder input.safetyGate
               candidate := some (requestlessCommand input.currentCanonicalContext) },
              { state with
                feedback := state.feedback.endEpisode
                lastNewRequestAcceptedAtMonotonicMillis := some input.nowMonotonicMillis })

/-! ## Phase B -/

def hasRetrogradeTimeReference (now : UInt64) : Bool :=
  let retro (reference : Option UInt64) := reference.any (now < ·)
  retro state.currentOnPhaseStartedAtMonotonicMillis ||
    retro state.lastPhysicalDeactivationAtMonotonicMillis ||
    state.activeWindow.any (now < ·.startMonotonicMillis) ||
    (state.counterDirection.candidate.isSome &&
      decide (now < state.counterDirection.observedSinceMonotonicMillis)) ||
    retro state.lastNewRequestAcceptedAtMonotonicMillis ||
    retro state.watchdogEpisodeStartedAtMonotonicMillis ||
    retro state.fans.outerFanDeactivationRequestedAtMonotonicMillis ||
    retro state.fans.innerFanDeactivationRequestedAtMonotonicMillis

def runningWatchdogTripped (input : ActuatorPlanTickInput K) : Bool :=
  input.temperatureControlledPhase &&
    state.watchdogEpisodeStartedAtMonotonicMillis.any fun started =>
      deadlineReached input.nowMonotonicMillis
        (state.lastNewRequestAcceptedAtMonotonicMillis.getD started)
        parameters.requestWatchdogMillis

/-- The held command was accepted for another context, and no candidate replaces it. -/
def heldContextStale (input : ActuatorPlanTickInput K) (admission : PhaseAOutcome K) : Bool :=
  admission.candidate.isNone && state.acceptedCommand.any
    (·.contextAtAcceptance ≠ input.currentCanonicalContext)

/-- Why a tick is rejected, in the order of the checks. -/
def rejection (input : ActuatorPlanTickInput K) (admission : PhaseAOutcome K) :
    Option (ActuatorPlanStatus × ActuatorPlanReason) :=
  let validation := classifyActuatorPlannerParameters parameters
  if admission.admissionOutcome = .malformedCandidate ∨ input.safetyGate = .unlisted ∨
      !isStructurallyValidContext input.currentCanonicalContext then
    some (.invalidInput, .malformedInput)
  else if validation = .unconfigured then some (.unconfigured, .noCommissioning)
  else if validation = .invalid then some (.invalidInput, .invalidConfiguration)
  else if input.safetyGate = .unresolved then some (.idle, .safetyGateUnresolved)
  else if input.safetyGate = .immediateStop then some (.idle, .externalSafetyOverride)
  else if state.latchedWatchdogFault.isSome then some (.idle, .requestWatchdogFaultLatched)
  else if state.runningWatchdogTripped parameters input then
    some (.idle, .staleRequestWatchdog)
  else if admission.candidate.any (·.demandClass = .noValidRequest) then
    some (.idle, .noValidRequest)
  else if state.heldContextStale input admission then some (.idle, .staleRequestContext)
  else if state.hasRetrogradeTimeReference input.nowMonotonicMillis then
    some (.invalidInput, .timeInvalid)
  else none

/-- The watchdog that trips in this tick is latched before the output stops. -/
def latchTrippedWatchdog (reason : ActuatorPlanReason) (now : UInt64) :
    ActuatorPlannerRuntimeState K :=
  if reason = .staleRequestWatchdog then
    { state with
      latchedWatchdogFault := some ⟨now, state.lastObservedSequenceHighWatermark.getD 0⟩ }
  else state

/-- The credit a change of the demand class takes away. -/
def discardsCredit (previous next : ActuatorDemandClass) : Bool :=
  next = .airLimitBlockedOff ∨
    (next = .airLimitReducedDemand ∧ previous = .normalDemand)

def adoptCandidate (candidate : AcceptedControlCommand K) : ActuatorPlannerRuntimeState K :=
  let previous := (state.acceptedCommand.map (·.demandClass)).getD .noValidRequest
  let next := candidate.demandClass
  { state with
    acceptedCommand := some candidate
    counterDirection := if next = .neutralOff ∨ next = .airLimitBlockedOff then {}
      else state.counterDirection
    accumulator := if discardsCredit previous next then emptyAccumulator
      else state.accumulator }

/-- Without a demand the output stays on for its minimum on time at most. -/
def tearDown (admissionOutcome : ActuatorAdmissionOutcome) (now : UInt64) : TickOutcome K :=
  if state.lastAppliedDirection ≠ .idle ∧ !state.minimumOnReached parameters now then
    state.ended .active .minimumOnTimeHeld admissionOutcome
  else
    (state.setPhysicalDirection parameters .idle now).clearPlanningState.ended .idle
      (if state.acceptedCommand.any (·.demandClass = .airLimitBlockedOff) then
        .airLimitBlocked else .neutralIdle) admissionOutcome

def runPhaseB (input : ActuatorPlanTickInput K) (admission : PhaseAOutcome K) :
    TickOutcome K :=
  let now := input.nowMonotonicMillis
  match state.rejection parameters input admission with
  | some (status, reason) =>
      (state.latchTrippedWatchdog reason now).rejectToIdle parameters now
        admission.admissionOutcome status reason
  | none =>
      let planned := match admission.candidate with
        | some candidate => state.adoptCandidate candidate
        | none => state
      match planned.acceptedCommand.filter (·.direction ≠ .idle) with
      | some command =>
          planned.evaluateHeatingCoolingDemand parameters command
            admission.admissionOutcome now
      | none => planned.tearDown parameters admission.admissionOutcome now

/-! ## Calls -/

/-- The first tick of a controlled phase opens the episode of the watchdog. -/
def openWatchdogEpisode (input : ActuatorPlanTickInput K) : ActuatorPlannerRuntimeState K :=
  if input.temperatureControlledPhase &&
      state.watchdogEpisodeStartedAtMonotonicMillis.isNone then
    { state with watchdogEpisodeStartedAtMonotonicMillis := some input.nowMonotonicMillis }
  else state

def tick (input : ActuatorPlanTickInput K) : TickOutcome K :=
  let (admission, admitted) := (state.openWatchdogEpisode input).runPhaseA parameters input
  let (result, decided) := admitted.runPhaseB parameters input admission
  let settled := decided.updateFanState parameters input.nowMonotonicMillis
    input.temperatureControlledPhase
  ({ result with
      outerFanEnabled := settled.fans.outerFanActive
      innerFanEnabled := settled.fans.innerFanActive }, settled)

end ActuatorPlannerRuntimeState

inductive ActuatorFeedbackEpisodeAtStop
  | existingEpisodeOpen
  | closedByOutstandingEvaluation
  deriving DecidableEq, Repr

/-- The feedback a stop leaves: the open episode ends rejected, a closed one ends
without feedback. -/
def FeedbackEpisode.stop (episode : FeedbackEpisode)
    (feedbackEpisodeAtStop : ActuatorFeedbackEpisodeAtStop) : FeedbackEpisode :=
  let settled := match feedbackEpisodeAtStop, episode.feedbackEpisodeSubjectSequence with
    | .existingEpisodeOpen, some sequence => episode.mergeFeedback sequence .rejected
    | _, _ => { episode with pendingFeedback := none, pendingFeedbackUpdateAvailable := true }
  { settled with feedbackEpisodeSubjectSequence := none }

/-- A new evaluation is outstanding: the subject is closed with what was recorded. -/
def FeedbackEpisode.closeForOutstandingEvaluation (episode : FeedbackEpisode) :
    FeedbackEpisode where
  feedbackEpisodeSubjectSequence := none
  pendingFeedback := none
  pendingFeedbackUpdateAvailable :=
    episode.pendingFeedbackUpdateAvailable || episode.pendingFeedback.isSome

namespace ActuatorPlannerRuntimeState

variable (state : ActuatorPlannerRuntimeState K) (parameters : ActuatorPlannerParameters)

def forceStop (nowMonotonicMillis : UInt64)
    (feedbackEpisodeAtStop : ActuatorFeedbackEpisodeAtStop) : TickOutcome K :=
  let cleared :=
    (state.setPhysicalDirection parameters .idle nowMonotonicMillis).clearPlanningState
  let stopped := { cleared with
    watchdogEpisodeStartedAtMonotonicMillis := none
    lastNewRequestAcceptedAtMonotonicMillis := none
    feedback := cleared.feedback.stop feedbackEpisodeAtStop
    fans := cleared.fans.requestInnerFanStop parameters nowMonotonicMillis }
  (stopped.updateFanState parameters nowMonotonicMillis false).ended .idle .neutralIdle
    .noCandidate

end ActuatorPlannerRuntimeState

/-! ## The planner object -/

/-- Parameters that are not set. -/
def ActuatorPlannerParameters.unset : ActuatorPlannerParameters where
  switchingWindowMillis := 0
  minimumOnMillis := 0
  minimumOffMillis := 0
  polarityDeadTimeMillis := 0
  pulseAccumulatorCapMillis := 0
  counterDirectionConfirmationQuoteThreshold := zeroQuote
  counterDirectionConfirmationDurationMillis := 0
  requestWatchdogMillis := 0
  outerFanPostRunMillis := 0
  innerFanPostRunMillis := 0

structure ActuatorPlanner (K : Type) where
  parameters : ActuatorPlannerParameters
  state : ActuatorPlannerRuntimeState K
  testConfigured : Bool := false
  runBound : Bool := false

namespace ActuatorPlanner

/-- The planner of the production: it is configured by its runs alone. -/
def unconfigured : ActuatorPlanner K where
  parameters := .unset
  state := { accumulator := ActuatorPlannerRuntimeState.emptyAccumulator }

/-- The planner of a test fixture. -/
def configured (parameters : ActuatorPlannerParameters) : ActuatorPlanner K :=
  { (unconfigured : ActuatorPlanner K) with parameters, testConfigured := true }

variable (planner : ActuatorPlanner K)

def beginRun (parameters : ActuatorPlannerParameters) : Bool × ActuatorPlanner K :=
  if planner.runBound ∨ classifyActuatorPlannerParameters parameters ≠ .valid then
    (false, planner)
  else (true, { planner with parameters, runBound := true })

def endRun : ActuatorPlanner K :=
  { planner with
    runBound := false
    parameters := if planner.testConfigured then planner.parameters else .unset }

def tick (input : ActuatorPlanTickInput K) : ActuatorPlanTickResult × ActuatorPlanner K :=
  let (result, state) := planner.state.tick planner.parameters input
  (result, { planner with state })

def forceStop (nowMonotonicMillis : UInt64)
    (feedbackEpisodeAtStop : ActuatorFeedbackEpisodeAtStop) :
    ActuatorPlanTickResult × ActuatorPlanner K :=
  let (result, state) := planner.state.forceStop planner.parameters nowMonotonicMillis
    feedbackEpisodeAtStop
  (result, { planner with state })

def closeFeedbackEpisodeForOutstandingEvaluation : ActuatorPlanner K :=
  { planner with state := { planner.state with
      feedback := planner.state.feedback.closeForOutstandingEvaluation } }

def takeFeedbackUpdate : PendingControlRequestFeedbackUpdate × ActuatorPlanner K :=
  let episode := planner.state.feedback
  if episode.pendingFeedbackUpdateAvailable then
    ({ changed := true
       feedback := episode.pendingFeedback.map fun pending =>
        ⟨pending.sequence, pending.disposition⟩ },
      { planner with state := { planner.state with
          feedback := { episode with pendingFeedbackUpdateAvailable := false } } })
  else ({}, planner)

def applyExternalWatchdogFaultReset : ActuatorPlanner K :=
  { planner with state := { planner.state with latchedWatchdogFault := none } }

end ActuatorPlanner

end Fermentationsschrank

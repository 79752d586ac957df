import Fermentationsschrank.Control.ActuatorPlanner
import Fermentationsschrank.Control.ControlContext
import Fermentationsschrank.Persistence.Coordinator

/-!
# Control orchestrator

The orchestrator carries an evaluation from the controller to the planner and the
feedback back again, and resets both where a persisted operation crosses a boundary of
the run.
-/

namespace Fermentationsschrank

/-! ## Qualification -/

inductive QualificationPhase
  | preheating
  | target
  deriving DecidableEq, Repr

structure TargetQualificationContext where
  targetCelsius : Binary64
  bandCelsius : Binary64
  controlSensorRole : ControlSensorRole
  deriving DecidableEq, Repr

structure TargetQualificationCommitContext where
  qualification : TargetQualificationContext
  runRevision : UInt32
  processTransitionSequence : UInt32
  deriving DecidableEq, Repr

structure TargetQualificationRuntimeState where
  phase : QualificationPhase := .target
  context : Option TargetQualificationContext := none
  commitContext : Option TargetQualificationCommitContext := none
  episodeActive : Bool := false
  creditedInBandMillis : UInt64 := 0
  lastUsableTimestampMillis : Option UInt64 := none
  graceStartedAtMillis : Option UInt64 := none
  deriving DecidableEq, Repr

/-- `TargetQualificationEvaluator::reset`; the phase is kept. -/
def TargetQualificationRuntimeState.reset (state : TargetQualificationRuntimeState) :
    TargetQualificationRuntimeState := { phase := state.phase }

/-! ## Orchestrator -/

structure TemperatureControlEvaluationEvidence where
  sampleTimestampMonotonicMillis : UInt64
  air : SensorQualitySnapshot
  product : SensorQualitySnapshot
  deriving DecidableEq, Repr

/-- The planner is bound together with the driver of its output, or not at all. -/
structure TemperatureControlApplicationOrchestrator (K : Type) where
  temperatureController : TemperatureController K
  evaluator : TargetQualificationRuntimeState := {}
  planner : Option (ActuatorPlanner K) := none
  outstandingEvaluation : Option (TemperatureControlResult K) := none
  pendingControlRequestFeedback : Option PreviousControlRequestFeedback := none

variable {K : Type} [ControlNumber K]

namespace TemperatureControlApplicationOrchestrator

variable (orchestrator : TemperatureControlApplicationOrchestrator K)

/-! ## Evaluation -/

/-- The result of an evaluation that has no valid context, or comes before the last one
was consumed. -/
def failClosedResult : TemperatureControlResult K :=
  invalidResult ⟨.invalidInput, .invalidConfiguration, .unavailable⟩

def plannerlessResult : TemperatureControlResult K :=
  invalidResult ⟨.unavailable, .noCommissioning, .unavailable⟩

/-- The input the controller evaluates in a context. -/
def controllerInput (context : EffectiveControlContext)
    (evidence : TemperatureControlEvaluationEvidence) : TemperatureControlInput where
  sampleTimestampMonotonicMillis := evidence.sampleTimestampMonotonicMillis
  targetCelsius := context.target.targetCelsius
  controlSensorRole := context.controlSensorRole
  air := evidence.air
  product := evidence.product
  previousControlRequestFeedback := orchestrator.pendingControlRequestFeedback
  processTransitionSequence := context.requestContext.processTransitionSequence
  runRevision := context.requestContext.runRevision

/-- Without a valid context nothing is evaluated, and the controller starts anew. -/
def evaluateInContext (context : EffectiveControlContext)
    (evidence : TemperatureControlEvaluationEvidence) :
    TemperatureControlResult K × TemperatureControlApplicationOrchestrator K :=
  if context.valid then
    let evaluated := orchestrator.temperatureController.evaluate
      (orchestrator.controllerInput context evidence)
    (evaluated.1, { orchestrator with
      temperatureController := evaluated.2
      pendingControlRequestFeedback := none })
  else
    (failClosedResult, { orchestrator with
      temperatureController := orchestrator.temperatureController.resetRuntime })

/-- The result waits for the next tick; its predecessor gets no more feedback. -/
def evaluateTemperatureControl (current : RunCommandState)
    (evidence : TemperatureControlEvaluationEvidence) :
    TemperatureControlResult K × TemperatureControlApplicationOrchestrator K :=
  match orchestrator.planner with
  | none => (plannerlessResult, orchestrator)
  | some planner =>
      if orchestrator.outstandingEvaluation.isSome then (failClosedResult, orchestrator)
      else
        let (result, evaluated) :=
          orchestrator.evaluateInContext (resolveEffectiveControlContext current) evidence
        (result, { evaluated with
          planner := some planner.closeFeedbackEpisodeForOutstandingEvaluation
          outstandingEvaluation := some result })

/-! ## Tick -/

/-- An invalid context closes the gate. -/
def tickInput (current : RunCommandState) (nowMonotonicMillis : UInt64)
    (currentGate : ActuatorSafetyGateStatus) : ActuatorPlanTickInput K :=
  let context := resolveEffectiveControlContext current
  { nowMonotonicMillis
    newEvaluation := orchestrator.outstandingEvaluation
    currentCanonicalContext := context.requestContext
    temperatureControlledPhase :=
      isTemperatureControlledProcessState current.processState.state
    safetyGate := if context.valid then currentGate else .unresolved }

def plannerlessTick : ActuatorPlanTickResult where
  status := .unconfigured
  reason := .noCommissioning
  appliedDirection := .idle
  outerFanEnabled := false
  innerFanEnabled := false
  counterDirectionConfirming := false
  admissionOutcome := .noCandidate
  acceptedCommandSequence := none
  watchdogFaultActive := false

/-- The feedback an update leaves for the next evaluation. -/
def receive (update : PendingControlRequestFeedbackUpdate) :
    Option PreviousControlRequestFeedback :=
  if update.changed then update.feedback else orchestrator.pendingControlRequestFeedback

def tickActuatorPlan (current : RunCommandState) (nowMonotonicMillis : UInt64)
    (currentGate : ActuatorSafetyGateStatus) :
    ActuatorPlanTickResult × TemperatureControlApplicationOrchestrator K :=
  match orchestrator.planner with
  | none => (plannerlessTick, orchestrator)
  | some planner =>
      let (result, ticked) :=
        planner.tick (orchestrator.tickInput current nowMonotonicMillis currentGate)
      let (update, taken) := ticked.takeFeedbackUpdate
      (result, { orchestrator with
        planner := some taken
        outstandingEvaluation := none
        pendingControlRequestFeedback := orchestrator.receive update })

/-! ## Boundaries -/

def qualificationEpisodeDomain (state : ProcessState) : Bool :=
  state = .preheating ∨ state = .reachingTarget ∨ state = .qualifyingTarget

/-- A failed mark is consumed too. -/
def consumeCommittedControlContextTransition (persisted : RunPersistenceResult)
    (controller : TemperatureController K) : RunPersistenceResult × TemperatureController K :=
  match persisted.committedControlContextTransition with
  | some transition =>
      if persisted.status = .applied then
        ({ persisted with committedControlContextTransition := none },
          (controller.markCommittedControlContextTransitionPending transition).2)
      else (persisted, controller)
  | none => (persisted, controller)

/-- Every boundary resets the controller and the qualification alike. -/
def resetTemperatureControlAtBoundary : TemperatureControlApplicationOrchestrator K :=
  { orchestrator with
    temperatureController := orchestrator.temperatureController.resetRuntime
    evaluator := orchestrator.evaluator.reset }

/-- The stop of the planner at a boundary; its feedback is taken and dropped. -/
def stopPlanner (planner : ActuatorPlanner K) (nowMonotonicMillis : UInt64) :
    ActuatorPlanner K :=
  let episodeAtStop := if orchestrator.outstandingEvaluation.isSome then
      ActuatorFeedbackEpisodeAtStop.closedByOutstandingEvaluation
    else .existingEpisodeOpen
  (planner.forceStop nowMonotonicMillis episodeAtStop).2.takeFeedbackUpdate.2

/-- The planner works with the parameters of the live run. -/
def bindRun (planner : ActuatorPlanner K) (current : RunCommandState) : ActuatorPlanner K :=
  match current.actuatorPlannerParametersSnapshot with
  | some parameters => (planner.endRun.beginRun parameters).2
  | none => planner.endRun

def resetActuatorPlanAtBoundary (current : RunCommandState) (nowMonotonicMillis : UInt64) :
    TemperatureControlApplicationOrchestrator K :=
  match orchestrator.planner with
  | none => orchestrator
  | some planner => { orchestrator with
      planner := some (bindRun (orchestrator.stopPlanner planner nowMonotonicMillis) current)
      outstandingEvaluation := none
      pendingControlRequestFeedback := none }

def needsRuntimeReset (before after : ProcessState)
    (recoveryBoundary newActiveRun : Bool) : Bool :=
  newActiveRun || recoveryBoundary ||
    decide (before = .recoveryEvaluation ∨ after = .recoveryEvaluation) ||
    isTemperatureControlledProcessState before != isTemperatureControlledProcessState after ||
    (match after with
    | .fault | .safeBoot | .serviceMode | .standby => decide (before ≠ after)
    | _ => false)

/-- A committed change of the target, the role or the product ends the qualification. -/
def endsQualification (transition : Option CommittedControlContextTransition)
    (newActiveRun : Bool) (before after : ProcessState) : Bool :=
  !newActiveRun &&
    decide (transition = some .targetContextChange ∨ transition = some .sensorRoleChange ∨
      transition = some .productInserted) &&
    (qualificationEpisodeDomain before || qualificationEpisodeDomain after)

/-- The hand-over of a persisted operation from the phase `before` to the live state. -/
def complete (result : RunPersistenceResult) (before : ProcessState)
    (current : RunCommandState) (nowMonotonicMillis : UInt64) (recoveryBoundary : Bool) :
    RunPersistenceResult × TemperatureControlApplicationOrchestrator K :=
  if result.status ≠ .applied then (result, orchestrator)
  else
    let after := current.processState.state
    let newActiveRun := result.effects.contains .runStarted
    let (consumed, controller) := consumeCommittedControlContextTransition result
      orchestrator.temperatureController
    let marked := { orchestrator with temperatureController := controller }
    let bounded :=
      if needsRuntimeReset before after recoveryBoundary newActiveRun then
        marked.resetTemperatureControlAtBoundary.resetActuatorPlanAtBoundary current
          nowMonotonicMillis
      else marked
    let settled :=
      if endsQualification result.committedControlContextTransition newActiveRun before
          after then
        { bounded with evaluator := bounded.evaluator.reset }
      else bounded
    (consumed, settled)

end TemperatureControlApplicationOrchestrator

end Fermentationsschrank

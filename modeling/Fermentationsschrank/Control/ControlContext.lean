import Fermentationsschrank.Control.TemperatureControl

/-!
# Control context

The target and the sensor role the controller works with are derived from the live
state.  A live state that contradicts its run has no valid context.
-/

namespace Fermentationsschrank

/-! ## Phases -/

def isTemperatureControlledProcessState : ProcessState → Bool
  | .preheating | .waitingForProduct | .reachingTarget | .qualifyingTarget | .fermenting
  | .cooling | .coolHolding | .manualHolding => true
  | .boot | .safeBoot | .standby | .completed | .recoveryEvaluation | .fault
  | .serviceMode => false

def validCoolingMode : CompletionMode → Bool
  | .coolThenFinish | .coolAndHoldForDuration | .coolAndHoldUntilManualStop => true
  | .finishWithoutCooling => false

/-! ## The context of an input -/

inductive ControlTargetKind
  | fermentationRun
  | coolingCompletion
  | manualRun
  deriving DecidableEq, Repr

structure EffectiveControlTarget where
  targetCelsius : Binary64 := zeroQuote
  targetKind : ControlTargetKind := .fermentationRun
  sourceRevision : UInt32 := 0
  valid : Bool := false
  deriving DecidableEq, Repr

structure EffectiveControlContextInput where
  phase : ProcessState := .boot
  activeRunSensorMode : Option RunSensorMode := none
  effectiveFermentationTargetCelsius : Option Binary64 := none
  completionCoolingTargetCelsius : Option Binary64 := none
  manualTargetCelsius : Option Binary64 := none
  completionMode : CompletionMode := .finishWithoutCooling
  processTransitionSequence : UInt32 := 0
  runRevision : UInt32 := 0
  manualRun : Bool := false
  deriving DecidableEq, Repr

structure EffectiveControlContext where
  phase : ProcessState := .boot
  controlSensorRole : ControlSensorRole := .air
  target : EffectiveControlTarget := {}
  requestContext : ControlRequestContext := {}
  valid : Bool := false
  deriving DecidableEq, Repr

namespace EffectiveControlContextInput

variable (input : EffectiveControlContextInput)

/-- The target of the run: its own one, or the one of its program. -/
def runTarget : Option Binary64 × ControlTargetKind :=
  if input.manualRun then (input.manualTargetCelsius, .manualRun)
  else (input.effectiveFermentationTargetCelsius, .fermentationRun)

/-- The target of a phase; a combination of phase and run that cannot be has none. -/
def phaseTarget : Option (Binary64 × ControlTargetKind) :=
  let named (target : Option Binary64 × ControlTargetKind) :=
    target.1.map fun celsius => (celsius, target.2)
  match input.phase with
  | .cooling | .coolHolding =>
      if validCoolingMode input.completionMode then
        named (input.completionCoolingTargetCelsius, .coolingCompletion)
      else none
  | .manualHolding =>
      if input.manualRun then named (input.manualTargetCelsius, .manualRun) else none
  | .fermenting => if input.manualRun then none else named input.runTarget
  | .preheating | .waitingForProduct | .reachingTarget | .qualifyingTarget =>
      named input.runTarget
  | _ => none

/-- `resolveEffectiveControlContext` of an input. -/
def resolve : EffectiveControlContext :=
  let identified : EffectiveControlContext := {
    phase := input.phase
    requestContext := {
      processTransitionSequence := input.processTransitionSequence
      runRevision := input.runRevision } }
  if !isTemperatureControlledProcessState input.phase then identified
  else
    match resolveEffectiveControlSensorRole input.phase input.activeRunSensorMode with
    | none => identified
    | some role =>
        let controlled := { identified with
          controlSensorRole := role
          requestContext := { identified.requestContext with controlSensorRole := role } }
        match input.phaseTarget.filter (·.1.isFinite) with
        | none => controlled
        | some (targetCelsius, targetKind) =>
            { controlled with
              target := ⟨targetCelsius, targetKind, input.runRevision, true⟩
              valid := true }

end EffectiveControlContextInput

/-! ## The context of the live state -/

/-- The target a program cools to after its fermentation. -/
def completionCoolingTarget : ProgramRunSource → Option Binary64
  | .stored document => document.program.completion.coolingTargetCelsius
  | .manualTimed manual => manual.completion.coolingTargetCelsius

/-- The live state as an input; none where the run contradicts its process snapshot. -/
def projectEffectiveControlContextInput (current : RunCommandState) :
    Option EffectiveControlContextInput :=
  let phase := current.processState.state
  let input : EffectiveControlContextInput := {
    phase
    activeRunSensorMode := current.activeRunSensorMode
    processTransitionSequence := current.processState.transitionSequence
    runRevision := current.runRevision }
  if !isTemperatureControlledProcessState phase then some input
  else do
    let snapshot ← current.processRunSnapshot
    guard (validateProcessRunSnapshot snapshot && stateMatchesRunSnapshot phase snapshot)
    match snapshot.kind, current.activeProgramRun, current.activeManualRun with
    | .timed, some run, none =>
        guard (makeProcessRunSnapshot run.snapshot run.effectiveValues = some snapshot)
        return { input with
          effectiveFermentationTargetCelsius :=
            some run.effectiveValues.targetTemperatureCelsius
          completionMode := snapshot.completionMode
          completionCoolingTargetCelsius :=
            if phase = .cooling ∨ phase = .coolHolding then
              completionCoolingTarget run.snapshot.source
            else none }
    | .manualHolding, none, some plan =>
        guard (makeManualProcessRunSnapshot plan = some snapshot ∧
          plan.values.runId = current.activeRunId ∧
          current.activeRunSensorMode = some plan.values.sensorMode)
        return { input with
          manualRun := true
          manualTargetCelsius := some plan.values.targetTemperatureCelsius
          completionMode := snapshot.completionMode }
    | _, _, _ => none

def resolveEffectiveControlContext (current : RunCommandState) : EffectiveControlContext :=
  match projectEffectiveControlContextInput current with
  | none => {}
  | some input => input.resolve

end Fermentationsschrank

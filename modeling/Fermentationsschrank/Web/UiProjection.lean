import Fermentationsschrank.Control.ControlContext
import Fermentationsschrank.Network.NetworkConfigurationService
import Fermentationsschrank.Time.LocalTime

/-!
# Projection of the run

What the interfaces show of a run: its frozen source, its target and the time of its phase.
The time is counted within the phase, and whatever cannot be derived exactly is unknown.
-/

namespace Fermentationsschrank

inductive FermentationHomeMode
  | standby
  | activeRun
  | waiting
  | completed
  | restricted
  | recovery
  | unavailable
  deriving DecidableEq, Repr

inductive RunDetailRemainingKind
  | timed
  | unknown
  | unbounded
  | notApplicable
  deriving DecidableEq, Repr

structure RunDetailCompletion where
  mode : CompletionMode := .finishWithoutCooling
  coolingTargetCelsius : Option Binary64 := none
  holdDurationMinutes : Option UInt32 := none
  deriving DecidableEq, Repr

structure RunDetailTime where
  elapsedSeconds : Option UInt64 := none
  remainingSeconds : Option UInt64 := none
  remainingKind : RunDetailRemainingKind := .unknown
  deriving DecidableEq, Repr

structure FermentationRunDetail where
  sourceKind : Option ProgramSourceKind := none
  targetCelsius : Option Binary64 := none
  completion : Option RunDetailCompletion := none
  time : RunDetailTime := {}
  deriving DecidableEq, Repr

/-- The largest whole number that every reader of JSON takes exactly. -/
def kMaximumJsonSafeInteger : UInt64 := 9007199254740991

/-! ## Time of a phase -/

def phaseHasRunTime : ProcessState → Bool
  | .preheating | .waitingForProduct | .reachingTarget | .qualifyingTarget | .fermenting
  | .cooling | .coolHolding | .manualHolding => true
  | _ => false

/-- The time before this boot counts only when it is exact and tagged for this phase. -/
def priorPhaseSeconds (state : RunCommandState) : Option UInt64 :=
  match state.priorBootPhaseElapsed with
  | none => some 0
  | some tagged =>
    if tagged.taggedState ≠ state.processState.state ∨
        tagged.elapsed.upperBoundSeconds ≠ some tagged.elapsed.lowerBoundSeconds then none
    else some tagged.elapsed.lowerBoundSeconds.toUInt64

def phaseElapsedSeconds (state : RunCommandState) (now : Option UInt64) : Option UInt64 := do
  let now ← now
  if !phaseHasRunTime state.processState.state ∨ now < state.processState.stateEnteredAtMillis then
    none
  else
    let prior ← priorPhaseSeconds state
    let elapsed := (now - state.processState.stateEnteredAtMillis) / 1000 + prior
    if kMaximumJsonSafeInteger < elapsed then none else some elapsed

/-- The duration after which the process itself ends the phase. -/
def phaseDurationMinutes (state : RunCommandState) : Option UInt32 := do
  let snapshot ← state.processRunSnapshot
  match state.processState.state with
  | .fermenting => snapshot.fermentationDurationMinutes
  | .coolHolding =>
    if snapshot.completionMode = .coolAndHoldForDuration then snapshot.holdDurationMinutes
    else none
  | _ => none

def projectRunTime (state : RunCommandState) (now : Option UInt64) : RunDetailTime :=
  let phase := state.processState.state
  if phase = .completed ∨ phase = .standby then { remainingKind := .notApplicable }
  else
    let elapsedSeconds := phaseElapsedSeconds state now
    if phase = .manualHolding ∨ (phase = .coolHolding ∧
        state.processRunSnapshot.any (·.completionMode = .coolAndHoldUntilManualStop)) then
      { elapsedSeconds, remainingKind := .unbounded }
    else
      match phaseDurationMinutes state, elapsedSeconds with
      | some durationMinutes, some elapsed =>
        let total := durationMinutes.toUInt64 * 60
        { elapsedSeconds
          remainingSeconds := some (if elapsed < total then total - elapsed else 0)
          remainingKind := .timed }
      | _, _ => { elapsedSeconds }

/-! ## Detail of a run -/

structure FermentationHomeView where
  mode : FermentationHomeMode := .unavailable
  processState : ProcessState := .boot
  activeRunId : Bytes := []
  programName : Bytes := []
  runDetail : Option FermentationRunDetail := none
  deriving DecidableEq, Repr

def sourceCompletion : ProgramRunSource → ProgramCompletion
  | .stored document => document.program.completion
  | .manualTimed manual => manual.completion

def sourceName : ProgramRunSource → Bytes
  | .stored document => document.program.name
  | .manualTimed _ => []

def projectCompletion (completion : ProgramCompletion) : RunDetailCompletion where
  mode := completion.mode
  coolingTargetCelsius :=
    if completion.mode ≠ .finishWithoutCooling then completion.coolingTargetCelsius else none
  holdDurationMinutes :=
    if completion.mode = .coolAndHoldForDuration then completion.holdDurationMinutes else none

/-- The target that the control works with, when there is one. -/
def projectTarget (state : RunCommandState) : Option Binary64 :=
  let control := resolveEffectiveControlContext state
  if control.valid && control.target.valid && control.target.targetCelsius.isFinite then
    some control.target.targetCelsius
  else none

/-- The detail of a program run or of a manual run; without a run there is none. -/
def projectRunDetail (home : FermentationHomeView) (state : RunCommandState)
    (now : Option UInt64) : FermentationHomeView :=
  match state.activeProgramRun with
  | some run =>
    { home with
      programName := sourceName run.snapshot.source
      runDetail := some {
        sourceKind := some (programSourceKind run.snapshot.source)
        completion := some (projectCompletion (sourceCompletion run.snapshot.source))
        targetCelsius := projectTarget state
        time := projectRunTime state now } }
  | none =>
    match state.activeManualRun with
    | none => { home with programName := [] }
    | some _ =>
      { home with
        programName := []
        runDetail := some {
          targetCelsius := projectTarget state
          time := projectRunTime state now } }

/-- The part of the projection that names the run.  The mode follows from the lifecycle and the
recovery, which are not modelled here. -/
def projectHome (mode : FermentationHomeMode) (state : RunCommandState) (now : Option UInt64) :
    FermentationHomeView :=
  projectRunDetail { mode, processState := state.processState.state,
                     activeRunId := state.activeRunId } state now

end Fermentationsschrank

import Fermentationsschrank.Control.ActuatorEvaluation
import Fermentationsschrank.Run.RecoveryTime

/-!
# Switching windows

How a demand for heating or cooling becomes times at which the output is on.  A demand
works within windows of fixed length; each window attempts one pulse, and a demand of the
other direction has to be confirmed before it replaces a window.
-/

namespace Fermentationsschrank

open ControlNumber (lt le smaller clampQuote ofMillis roundHalfUp ofBinary64)

variable {K : Type} [ControlNumber K]

/-! ## Times -/

def deadlineReached (now since durationMillis : UInt64) : Bool :=
  if now < since then false else durationMillis ≤ now - since

def saturatingDeadline (start duration : UInt64) : UInt64 :=
  if maxUInt64 - start < duration then maxUInt64 else start + duration

def retainLaterDeadline (deadline : Option UInt64) (candidate : UInt64) : Option UInt64 :=
  if deadline.all (· < candidate) then some candidate else deadline

/-! ## Fans -/

namespace ActuatorFanState

def updateOuterFan (fans : ActuatorFanState) (direction : AbstractControlDirection)
    (now : UInt64) : ActuatorFanState :=
  if direction ≠ .idle then
    { fans with
      outerFanActive := true
      outerFanDeactivationRequestedAtMonotonicMillis := none }
  else if fans.outerFanActive &&
      fans.outerFanDeactivationRequestedAtMonotonicMillis.isSome &&
      fans.outerFanTeardownDeadlineMonotonicMillis.any (deadlineReached now 0) then
    { fans with
      outerFanActive := false
      outerFanTeardownDeadlineMonotonicMillis := none }
  else fans

/-- The inner fan is asked to stop once, and keeps the later of two deadlines. -/
def requestInnerFanStop (fans : ActuatorFanState) (parameters : ActuatorPlannerParameters)
    (now : UInt64) : ActuatorFanState :=
  if fans.innerFanActive && fans.innerFanDeactivationRequestedAtMonotonicMillis.isNone then
    { fans with
      innerFanDeactivationRequestedAtMonotonicMillis := some now
      innerFanTeardownDeadlineMonotonicMillis :=
        retainLaterDeadline fans.innerFanTeardownDeadlineMonotonicMillis
          (saturatingDeadline now parameters.innerFanPostRunMillis) }
  else fans

def stopInnerFan (fans : ActuatorFanState) (now : UInt64) : ActuatorFanState :=
  if fans.innerFanActive &&
      fans.innerFanTeardownDeadlineMonotonicMillis.any (deadlineReached now 0) then
    { fans with
      innerFanActive := false
      innerFanTeardownDeadlineMonotonicMillis := none }
  else fans

def updateInnerFan (fans : ActuatorFanState) (parameters : ActuatorPlannerParameters)
    (now : UInt64) (temperatureControlledPhase : Bool) : ActuatorFanState :=
  if temperatureControlledPhase then
    { fans with
      innerFanActive := true
      innerFanDeactivationRequestedAtMonotonicMillis := none }
  else (fans.requestInnerFanStop parameters now).stopInnerFan now

end ActuatorFanState

namespace ActuatorPlannerRuntimeState

variable (state : ActuatorPlannerRuntimeState K) (parameters : ActuatorPlannerParameters)

def updateFanState (now : UInt64) (temperatureControlledPhase : Bool) :
    ActuatorPlannerRuntimeState K :=
  { state with
    fans := (state.fans.updateOuterFan state.lastAppliedDirection now).updateInnerFan
      parameters now temperatureControlledPhase }

/-! ## Output -/

/-- The output has been on; its fan runs on from here. -/
def deactivated (now : UInt64) : ActuatorPlannerRuntimeState K :=
  { state with
    lastPhysicalDeactivationDirection := some state.lastAppliedDirection
    lastPhysicalDeactivationAtMonotonicMillis := some now
    currentOnPhaseStartedAtMonotonicMillis := none
    fans := { state.fans with
      outerFanActive := true
      outerFanDeactivationRequestedAtMonotonicMillis := some now
      outerFanTeardownDeadlineMonotonicMillis :=
        retainLaterDeadline state.fans.outerFanTeardownDeadlineMonotonicMillis
          (saturatingDeadline now parameters.outerFanPostRunMillis) } }

def activated (now : UInt64) : ActuatorPlannerRuntimeState K :=
  { state with
    currentOnPhaseStartedAtMonotonicMillis := some now
    fans := { state.fans with
      outerFanActive := true
      outerFanDeactivationRequestedAtMonotonicMillis := none } }

def setPhysicalDirection (next : AbstractControlDirection) (now : UInt64) :
    ActuatorPlannerRuntimeState K :=
  if state.lastAppliedDirection = next then state
  else
    let stopped := if state.lastAppliedDirection ≠ .idle then state.deactivated parameters now
      else state
    let started := if next ≠ .idle then stopped.activated now else stopped
    { started with lastAppliedDirection := next }

def emptyAccumulator : PulseAccumulator K := ⟨.idle, 0⟩

def clearPlanningState : ActuatorPlannerRuntimeState K :=
  { state with
    acceptedCommand := none
    activeWindow := none
    accumulator := emptyAccumulator
    counterDirection := {} }

def mergeFeedbackForDemand (command : AcceptedControlCommand K)
    (reason : ActuatorPlanReason) : ActuatorPlannerRuntimeState K :=
  { state with
    feedback := state.feedback.mergeFeedbackForDemand command.sequence reason }

/-! ## Results -/

def buildResult (status : ActuatorPlanStatus) (reason : ActuatorPlanReason)
    (admissionOutcome : ActuatorAdmissionOutcome) : ActuatorPlanTickResult where
  status := status
  reason := reason
  appliedDirection := state.lastAppliedDirection
  outerFanEnabled := state.fans.outerFanActive
  innerFanEnabled := state.fans.innerFanActive
  counterDirectionConfirming :=
    state.counterDirection.candidate.isSome && !state.counterDirection.confirmed
  admissionOutcome := admissionOutcome
  acceptedCommandSequence :=
    (state.acceptedCommand.filter (·.demandClass ≠ .noValidRequest)).map (·.sequence)
  watchdogFaultActive := state.latchedWatchdogFault.isSome

/-- A tick ends with its result and the state it leaves. -/
abbrev TickOutcome (K : Type) := ActuatorPlanTickResult × ActuatorPlannerRuntimeState K

def ended (status : ActuatorPlanStatus) (reason : ActuatorPlanReason)
    (admissionOutcome : ActuatorAdmissionOutcome) : TickOutcome K :=
  (state.buildResult status reason admissionOutcome, state)

/-- The demand stays unserved, or is served, for the given reason. -/
def endedForDemand (command : AcceptedControlCommand K) (status : ActuatorPlanStatus)
    (reason : ActuatorPlanReason) (admissionOutcome : ActuatorAdmissionOutcome) :
    TickOutcome K :=
  (state.mergeFeedbackForDemand command reason).ended status reason admissionOutcome

def rejectToIdle (now : UInt64) (admissionOutcome : ActuatorAdmissionOutcome)
    (status : ActuatorPlanStatus) (reason : ActuatorPlanReason) : TickOutcome K :=
  let stopped := (state.setPhysicalDirection parameters .idle now).clearPlanningState
  { stopped with feedback := stopped.feedback.rejectSubject }.ended status reason
    admissionOutcome

/-! ## Windows -/

/-- The deactivation is as far back as the minimum off time asks. -/
def minimumOffReached (atMillis : UInt64) : Bool :=
  state.lastPhysicalDeactivationAtMonotonicMillis.all
    (deadlineReached atMillis · parameters.minimumOffMillis)

def armingAllowed (direction : AbstractControlDirection) (atMillis : UInt64) : Bool :=
  match state.lastPhysicalDeactivationAtMonotonicMillis with
  | none => true
  | some deactivatedAt =>
      if state.lastPhysicalDeactivationDirection = some direction then
        deadlineReached atMillis deactivatedAt parameters.minimumOffMillis
      else
        deadlineReached atMillis deactivatedAt parameters.minimumOffMillis &&
          deadlineReached atMillis deactivatedAt parameters.polarityDeadTimeMillis

def creditAccumulator (direction : AbstractControlDirection) (quoteMillis : K) :
    ActuatorPlannerRuntimeState K :=
  let accumulatedMillis := if state.accumulator.direction = direction then
    state.accumulator.accumulatedMillis else 0
  { state with
    accumulator := ⟨direction, smaller (accumulatedMillis + quoteMillis)
      (ofMillis parameters.pulseAccumulatorCapMillis)⟩ }

/-- The time a quote asks for in one window. -/
def requestedOnMillis (parameters : ActuatorPlannerParameters) (timeQuote : K) : K :=
  clampQuote timeQuote * ofMillis parameters.switchingWindowMillis

def startFreshWindow (source : AcceptedControlCommand K) (startMonotonicMillis : UInt64) :
    ActuatorPlannerRuntimeState K :=
  let window : ActiveSwitchingWindow := {
    startMonotonicMillis
    direction := source.direction
    sourceRequestSequence := source.sequence }
  let requested := requestedOnMillis parameters source.timeQuote
  let minimumOn : K := ofMillis parameters.minimumOnMillis
  if le minimumOn requested then
    { state with activeWindow := some { window with
        scheduledOnMillis := min (roundHalfUp requested) parameters.switchingWindowMillis } }
  else if lt 0 requested then
    let credited := state.creditAccumulator parameters source.direction requested
    if le minimumOn credited.accumulator.accumulatedMillis then
      { credited with
        accumulator := { credited.accumulator with
          accumulatedMillis := credited.accumulator.accumulatedMillis - minimumOn }
        activeWindow := some { window with
          scheduledOnMillis := parameters.minimumOnMillis
          minimumPulseFromAccumulator := true } }
    else { credited with activeWindow := some window }
  else { state with activeWindow := some window }

/-- What a window asks of the output at a tick, with the attempt it records. -/
structure WindowPhysicalTick where
  active : Bool
  reason : ActuatorPlanReason
  window : ActiveSwitchingWindow

/-- The first attempt of a window is its only one. -/
def applyWindowPhysicalTick (window : ActiveSwitchingWindow) (now : UInt64) :
    WindowPhysicalTick :=
  let elapsedInWindow := now - window.startMonotonicMillis
  let attempted := { window with pulseStartAttempted := true }
  if window.scheduledOnMillis = 0 then ⟨false, .accumulatingBelowThreshold, window⟩
  else
    let naturallyActive := decide (elapsedInWindow < window.scheduledOnMillis)
    if !window.pulseStartAttempted then
      if !naturallyActive then ⟨false, .windowPulseMissed, attempted⟩
      else if !state.armingAllowed parameters window.direction window.startMonotonicMillis then
        ⟨false, if state.minimumOffReached parameters window.startMonotonicMillis then
            .polarityDeadTimeHeld else .minimumOffTimeHeld, attempted⟩
      else if window.scheduledOnMillis - elapsedInWindow < parameters.minimumOnMillis then
        ⟨false, .windowPulseMissed, attempted⟩
      else
        ⟨true, if window.minimumPulseFromAccumulator then .minimumPulseTriggered
            else .scheduledWithinWindow,
          { attempted with pulseStartedSuccessfully := true }⟩
    else if window.pulseStartedSuccessfully then
      ⟨naturallyActive, .scheduledWithinWindow, window⟩
    else ⟨false, .windowPulseMissed, window⟩

/-! ## Heating and cooling -/

def plannedDirection : AbstractControlDirection :=
  (state.activeWindow.map (·.direction)).getD .idle

/-- The direction a demand is compared with. -/
def referenceDirection : AbstractControlDirection :=
  if state.activeWindow.isSome then state.plannedDirection
  else if state.lastAppliedDirection ≠ .idle then state.lastAppliedDirection
  else state.lastPhysicalDeactivationDirection.getD .idle

/-- The window of another direction is given up together with its credit. -/
def dropWindow : ActuatorPlannerRuntimeState K :=
  { state with activeWindow := none, accumulator := emptyAccumulator }

/-- A window that has ended is followed by one of the same direction, or by none. -/
def advanceWindow (command : AcceptedControlCommand K) (now : UInt64) :
    ActuatorPlannerRuntimeState K :=
  match state.activeWindow with
  | none => state
  | some window =>
      let elapsed := now - window.startMonotonicMillis
      if parameters.switchingWindowMillis ≤ elapsed then
        let windowsElapsed := elapsed / parameters.switchingWindowMillis
        let rebasedStart := window.startMonotonicMillis +
          windowsElapsed * parameters.switchingWindowMillis
        if window.direction = command.direction then
          state.startFreshWindow parameters command rebasedStart
        else if state.lastAppliedDirection = window.direction then
          state.dropWindow.setPhysicalDirection parameters .idle now
        else state.dropWindow
      else state

def eligibleForCounterDirection (parameters : ActuatorPlannerParameters)
    (command : AcceptedControlCommand K) : Bool :=
  decide (command.demandClass = .normalDemand ∨
    command.demandClass = .airLimitReducedDemand) &&
  le (ofBinary64 parameters.counterDirectionConfirmationQuoteThreshold) command.timeQuote

/-- A demand against the current direction is confirmed by its duration. -/
def observeCounterDirection (reference : AbstractControlDirection)
    (command : AcceptedControlCommand K) (now : UInt64) : ActuatorPlannerRuntimeState K :=
  let desired := command.direction
  let tracked := state.counterDirection.candidate = some desired
  if eligibleForCounterDirection parameters command &&
      decide ((reference ≠ .idle ∧ reference ≠ desired) ∨ tracked) then
    let since := if tracked then state.counterDirection.observedSinceMonotonicMillis else now
    { state with counterDirection := {
        candidate := some desired
        observedSinceMonotonicMillis := since
        confirmed := deadlineReached now since
          parameters.counterDirectionConfirmationDurationMillis } }
  else { state with counterDirection := {} }

/-- The on-phase is as long as the minimum asks. -/
def minimumOnReached (now : UInt64) : Bool :=
  state.currentOnPhaseStartedAtMonotonicMillis.all
    (deadlineReached now · parameters.minimumOnMillis)

/-- The output follows its window; a window that is not active only switches its own
direction off. -/
def followWindow (tick : WindowPhysicalTick) (now : UInt64) :
    ActuatorPlannerRuntimeState K :=
  let stepped := { state with activeWindow := some tick.window }
  if tick.active then stepped.setPhysicalDirection parameters tick.window.direction now
  else if state.lastAppliedDirection = tick.window.direction then
    stepped.setPhysicalDirection parameters .idle now
  else stepped

/-- A window against the demand runs on under its own source until the change of
direction is confirmed and the minimum on time has passed. -/
def governOpposedWindow (window : ActiveSwitchingWindow)
    (command : AcceptedControlCommand K) (admissionOutcome : ActuatorAdmissionOutcome)
    (now : UInt64) : Except (TickOutcome K) (ActuatorPlannerRuntimeState K) :=
  let tick := state.applyWindowPhysicalTick parameters window now
  if state.counterDirection.confirmed then
    if state.lastAppliedDirection = window.direction then
      if !state.minimumOnReached parameters now then
        let held := { state with activeWindow := some tick.window }
        .error ((if tick.active then held.setPhysicalDirection parameters window.direction now
          else held).endedForDemand command .active .minimumOnTimeHeld admissionOutcome)
      else
        .error ((state.setPhysicalDirection parameters .idle now).dropWindow.endedForDemand
          command .idle .directionChangeApplied admissionOutcome)
    else .ok state.dropWindow
  else
    let followed := state.followWindow parameters tick now
    let on := decide (followed.lastAppliedDirection = window.direction)
    let withinMinimumOn := on && followed.counterDirection.confirmed &&
      !followed.minimumOnReached parameters now
    .error (followed.endedForDemand command (if on then .active else .idle)
      (if withinMinimumOn then .minimumOnTimeHeld else .counterDirectionConfirming)
      admissionOutcome)

/-- Without a window a demand opens one, unless it has to be confirmed or to wait. -/
def openWindow (reference : AbstractControlDirection) (command : AcceptedControlCommand K)
    (admissionOutcome : ActuatorAdmissionOutcome) (now : UInt64) :
    Except (TickOutcome K) (ActuatorPlannerRuntimeState K) :=
  let desired := command.direction
  let unserved (reason : ActuatorPlanReason) :=
    state.endedForDemand command .idle reason admissionOutcome
  if state.counterDirection.candidate = some desired then
    if !state.counterDirection.confirmed then .error (unserved .counterDirectionConfirming)
    else if !state.armingAllowed parameters desired now then
      .error (unserved (if state.minimumOffReached parameters now then .polarityDeadTimeHeld
        else .minimumOffTimeHeld))
    else
      .ok { state.startFreshWindow parameters command now with counterDirection := {} }
  else if reference ≠ .idle ∧ reference ≠ desired then
    .error (unserved .counterDirectionConfirming)
  else .ok (state.startFreshWindow parameters command now)

/-- The output under a window of the demanded direction. -/
def serveWindow (window : ActiveSwitchingWindow) (command : AcceptedControlCommand K)
    (admissionOutcome : ActuatorAdmissionOutcome) (now : UInt64) : TickOutcome K :=
  let foreign := decide (window.sourceRequestSequence ≠ command.sequence)
  let belowMinimum := lt (requestedOnMillis parameters command.timeQuote)
    (ofMillis parameters.minimumOnMillis)
  let tick := state.applyWindowPhysicalTick parameters window now
  let followed := state.followWindow parameters tick now
  followed.endedForDemand command
    (if followed.lastAppliedDirection = .idle then .idle else .active)
    (if foreign && belowMinimum then .accumulatingBelowThreshold else tick.reason)
    admissionOutcome

/-- The part of a demand after the window has been advanced and the counter direction
observed: which window it works with, if any. -/
def settleWindow (reference : AbstractControlDirection)
    (command : AcceptedControlCommand K) (admissionOutcome : ActuatorAdmissionOutcome)
    (now : UInt64) : Except (TickOutcome K) (ActuatorPlannerRuntimeState K) := do
  let settled ← match state.activeWindow with
    | some window =>
        if window.direction ≠ command.direction then
          state.governOpposedWindow parameters window command admissionOutcome now
        else .ok state
    | none => .ok state
  if settled.activeWindow.isNone then
    settled.openWindow parameters reference command admissionOutcome now
  else .ok settled

def evaluateHeatingCoolingDemand (command : AcceptedControlCommand K)
    (admissionOutcome : ActuatorAdmissionOutcome) (now : UInt64) : TickOutcome K :=
  let reference := state.referenceDirection
  let observed := (state.advanceWindow parameters command now).observeCounterDirection
    parameters reference command now
  match observed.settleWindow parameters reference command admissionOutcome now with
  | .error outcome => outcome
  | .ok settled =>
      match settled.activeWindow with
      | some window => settled.serveWindow parameters window command admissionOutcome now
      | none => settled.ended .idle .neutralIdle admissionOutcome

end ActuatorPlannerRuntimeState

end Fermentationsschrank

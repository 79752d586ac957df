import Fermentationsschrank.Control.PlannerTicks
import Fermentationsschrank.Core.Runs

/-!
# Steps of the switching windows

For the credit of the short pulses a planner does three things: it starts a window, it
gives up its credit, or it leaves window and credit as they are.
-/

namespace Fermentationsschrank

/-- A window apart from the attempts it records. -/
def ActiveSwitchingWindow.schedule (window : ActiveSwitchingWindow) : ActiveSwitchingWindow :=
  { window with pulseStartAttempted := false, pulseStartedSuccessfully := false }

inductive WindowEvent (K : Type)
  | started (source : AcceptedControlCommand K) (window : ActiveSwitchingWindow)
  | kept
  | reset

namespace ActuatorPlannerRuntimeState

variable {K : Type}

/-- The credit of a state, and the window it works with. -/
def account (state : ActuatorPlannerRuntimeState K) :
    PulseAccumulator K × Option ActiveSwitchingWindow :=
  (state.accumulator, state.activeWindow.map (·.schedule))

variable {state : ActuatorPlannerRuntimeState K}

@[simp]
theorem account_setPhysicalDirection {parameters : ActuatorPlannerParameters} {now : UInt64}
    {direction : AbstractControlDirection} :
    (state.setPhysicalDirection parameters direction now).account = state.account := by
  rw [setPhysicalDirection]
  split_ifs <;> rfl

@[simp]
theorem account_endedForDemand {command : AcceptedControlCommand K}
    {status : ActuatorPlanStatus} {reason : ActuatorPlanReason}
    {outcome : ActuatorAdmissionOutcome} :
    (state.endedForDemand command status reason outcome).2.account = state.account := rfl

variable [ControlNumber K]

/-- A window appears only by being started, and disappears only with the credit. -/
inductive WindowStep (parameters : ActuatorPlannerParameters)
    (state : ActuatorPlannerRuntimeState K) :
    WindowEvent K → ActuatorPlannerRuntimeState K → Prop
  | start {source : AcceptedControlCommand K} {time : UInt64} {window : ActiveSwitchingWindow}
      (hwindow : (state.startFreshWindow parameters source time).activeWindow = some window) :
      WindowStep parameters state (.started source window)
        (state.startFreshWindow parameters source time)
  | keep {next : ActuatorPlannerRuntimeState K} (hkept : next.account = state.account) :
      WindowStep parameters state .kept next
  | reset {next : ActuatorPlannerRuntimeState K}
      (hreset : next.account = (emptyAccumulator, none) ∨
        next.account = (emptyAccumulator, state.account.2)) :
      WindowStep parameters state .reset next

/-- The next state is reached by window steps. -/
def WindowStepped (parameters : ActuatorPlannerParameters)
    (state next : ActuatorPlannerRuntimeState K) : Prop :=
  ∃ events, Steps (WindowStep parameters) state events next

variable {middle next : ActuatorPlannerRuntimeState K}
  {parameters : ActuatorPlannerParameters} {command : AcceptedControlCommand K} {now : UInt64}
  {input : ActuatorPlanTickInput K} {admission : PhaseAOutcome K}

namespace WindowStepped

theorem refl : WindowStepped parameters state state := ⟨[], .start⟩

theorem trans (hfirst : WindowStepped parameters state middle)
    (hsecond : WindowStepped parameters middle next) : WindowStepped parameters state next := by
  obtain ⟨earlier, hearlier⟩ := hfirst
  obtain ⟨later, hlater⟩ := hsecond
  exact ⟨earlier ++ later, hearlier.append hlater⟩

theorem single {event : WindowEvent K} (hstep : WindowStep parameters state event next) :
    WindowStepped parameters state next := ⟨[event], .cons hstep .start⟩

theorem kept (h : next.account = state.account) : WindowStepped parameters state next :=
  single (.keep h)

theorem cleared (h : next.account = (emptyAccumulator, none) ∨
    next.account = (emptyAccumulator, state.account.2)) :
    WindowStepped parameters state next := single (.reset h)

theorem started {time : UInt64} :
    WindowStepped parameters state (state.startFreshWindow parameters command time) := by
  obtain ⟨window, hwindow⟩ :
      ∃ window, (state.startFreshWindow parameters command time).activeWindow = some window := by
    rw [startFreshWindow]
    simp only
    split
    · exact ⟨_, rfl⟩
    · split
      · split <;> exact ⟨_, rfl⟩
      · exact ⟨_, rfl⟩
  exact single (.start hwindow)

end WindowStepped

/-! ## Stages of a tick -/

@[simp]
theorem account_observeCounterDirection {reference : AbstractControlDirection} :
    (state.observeCounterDirection parameters reference command now).account =
      state.account := by
  rw [observeCounterDirection]
  simp only
  split <;> rfl

omit [ControlNumber K] in
/-- A tick of a window records its attempt at most. -/
theorem account_attempted {window : ActiveSwitchingWindow}
    (hwindow : state.activeWindow = some window) :
    ({ state with
        activeWindow := some (state.applyWindowPhysicalTick parameters window now).window } :
      ActuatorPlannerRuntimeState K).account = state.account := by
  have hschedule :
      (state.applyWindowPhysicalTick parameters window now).window.schedule =
        window.schedule := by
    rw [applyWindowPhysicalTick]
    simp only
    split_ifs <;> rfl
  rw [account, account, hwindow, Option.map_some, Option.map_some, hschedule]

omit [ControlNumber K] in
theorem account_followWindow {window : ActiveSwitchingWindow}
    (hwindow : state.activeWindow = some window) :
    (state.followWindow parameters (state.applyWindowPhysicalTick parameters window now)
      now).account = state.account := by
  rw [followWindow]
  split
  · rw [account_setPhysicalDirection]
    exact account_attempted hwindow
  · split
    · rw [account_setPhysicalDirection]
      exact account_attempted hwindow
    · exact account_attempted hwindow

theorem stepped_advanceWindow :
    WindowStepped parameters state (state.advanceWindow parameters command now) := by
  rw [advanceWindow]
  cases state.activeWindow with
  | none => exact .refl
  | some window =>
      simp only
      split
      · split
        · exact .started
        · split
          · refine .cleared (.inl ?_)
            rw [account_setPhysicalDirection]
            rfl
          · exact .cleared (.inl rfl)
      · exact .refl

/-- A stage that goes on and one that ends the tick both leave window steps. -/
def StageStepped (parameters : ActuatorPlannerParameters)
    (state : ActuatorPlannerRuntimeState K) :
    Except (TickOutcome K) (ActuatorPlannerRuntimeState K) → Prop
  | .error outcome => WindowStepped parameters state outcome.2
  | .ok settled => WindowStepped parameters state settled

theorem governOpposedWindow_stepped {window : ActiveSwitchingWindow}
    {outcome : ActuatorAdmissionOutcome} (hwindow : state.activeWindow = some window) :
    StageStepped parameters state
      (state.governOpposedWindow parameters window command outcome now) := by
  rw [governOpposedWindow]
  simp only
  split
  · split
    · split
      · refine .kept ?_
        rw [account_endedForDemand]
        split
        · rw [account_setPhysicalDirection]
          exact account_attempted hwindow
        · exact account_attempted hwindow
      · exact .cleared (.inl rfl)
    · exact .cleared (.inl rfl)
  · refine .kept ?_
    rw [account_endedForDemand]
    exact account_followWindow hwindow

theorem openWindow_stepped {reference : AbstractControlDirection}
    {outcome : ActuatorAdmissionOutcome} :
    StageStepped parameters state
      (state.openWindow parameters reference command outcome now) := by
  rw [openWindow]
  simp only
  split
  · split
    · exact .kept rfl
    · split
      · exact .kept rfl
      · exact WindowStepped.started.trans (.kept rfl)
  · split
    · exact .kept rfl
    · exact .started

theorem settleWindow_stepped {reference : AbstractControlDirection}
    {outcome : ActuatorAdmissionOutcome} :
    StageStepped parameters state
      (state.settleWindow parameters reference command outcome now) := by
  have hopen {middle : ActuatorPlannerRuntimeState K}
      (h : WindowStepped parameters state middle) :
      StageStepped parameters state
        (if middle.activeWindow.isNone then
          middle.openWindow parameters reference command outcome now
        else .ok middle) := by
    split
    · have hnext : StageStepped parameters middle
          (middle.openWindow parameters reference command outcome now) := openWindow_stepped
      revert hnext
      cases middle.openWindow parameters reference command outcome now with
      | error found => exact fun hnext => h.trans hnext
      | ok settled => exact fun hnext => h.trans hnext
    · exact h
  rw [settleWindow]
  cases hwindow : state.activeWindow with
  | none => exact hopen .refl
  | some window =>
      simp only
      split
      · have hgoverned : StageStepped parameters state
            (state.governOpposedWindow parameters window command outcome now) :=
          governOpposedWindow_stepped hwindow
        revert hgoverned
        cases state.governOpposedWindow parameters window command outcome now with
        | error found => exact id
        | ok settled => exact fun hgoverned => hopen hgoverned
      · exact hopen .refl

theorem stepped_evaluateHeatingCoolingDemand {outcome : ActuatorAdmissionOutcome} :
    WindowStepped parameters state
      (state.evaluateHeatingCoolingDemand parameters command outcome now).2 := by
  have hobserved : WindowStepped parameters state ((state.advanceWindow parameters command
      now).observeCounterDirection parameters state.referenceDirection command now) :=
    stepped_advanceWindow.trans (.kept account_observeCounterDirection)
  rw [evaluateHeatingCoolingDemand_eq, serveDemand]
  refine hobserved.trans ?_
  generalize (state.advanceWindow parameters command now).observeCounterDirection parameters
    state.referenceDirection command now = observed
  have hsettled : StageStepped parameters observed (observed.settleWindow parameters
      state.referenceDirection command outcome now) := settleWindow_stepped
  revert hsettled
  cases observed.settleWindow parameters state.referenceDirection command outcome now with
  | error found => exact id
  | ok settled =>
      intro hsettled
      refine WindowStepped.trans hsettled ?_
      cases hwindow : settled.activeWindow with
      | none => exact .kept (by simp only [hwindow]; rfl)
      | some window =>
          simp only [hwindow]
          exact .kept (account_followWindow hwindow)

/-! ## Calls -/

theorem account_runPhaseA :
    ((state.openWatchdogEpisode input).runPhaseA parameters input).2.account =
      state.account := by
  have hopened : (state.openWatchdogEpisode input).account = state.account := by
    rw [openWatchdogEpisode]
    split <;> rfl
  rw [runPhaseA, ← hopened]
  cases input.newEvaluation with
  | none => rfl
  | some evaluation =>
      simp only
      split
      · rfl
      · cases evaluation.controlRequest with
        | none => rfl
        | some request =>
            simp only [admitRequest]
            split
            · rfl
            · split
              · rfl
              · split <;> rfl

theorem stepped_planned : WindowStepped parameters state (state.planned admission) := by
  rw [planned]
  cases admission.candidate with
  | none => exact .refl
  | some candidate =>
      simp only [adoptCandidate]
      split
      · exact .cleared (.inr rfl)
      · exact .kept rfl

theorem stepped_runPhaseB :
    WindowStepped parameters state (state.runPhaseB parameters input admission).2 := by
  cases hrejection : state.rejection parameters input admission with
  | some rejected =>
      rw [runPhaseB, hrejection]
      exact .cleared (.inl rfl)
  | none =>
      rw [runPhaseB_of_passed hrejection]
      have hplanned : WindowStepped parameters state (state.planned admission) :=
        stepped_planned
      refine hplanned.trans ?_
      cases (state.planned admission).demand with
      | some command => exact stepped_evaluateHeatingCoolingDemand
      | none =>
          simp only [tearDown]
          split
          · exact .refl
          · exact .cleared (.inl rfl)

/-- A tick starts windows, keeps them or gives up their credit. -/
theorem stepped_tick : WindowStepped parameters state (state.tick parameters input).2 :=
  (WindowStepped.kept account_runPhaseA).trans (stepped_runPhaseB.trans (.kept rfl))

end ActuatorPlannerRuntimeState

end Fermentationsschrank

import Fermentationsschrank.Control.PlannerTicks
import Fermentationsschrank.Core.RunOn

/-!
# Fans of the planner

A tick switches the output once at most, so that its fans follow from the directions
before and after it alone.
-/

namespace Fermentationsschrank

/-! ## Directions and fans -/

/-- The output of a state with the fans that follow it. -/
structure FanDrive where
  direction : AbstractControlDirection
  fans : ActuatorFanState

namespace ActuatorFanState

/-- The output is switched off, and the outer fan runs on. -/
def runOn (fans : ActuatorFanState) (parameters : ActuatorPlannerParameters)
    (now : UInt64) : ActuatorFanState :=
  { fans with
    outerFanActive := true
    outerFanDeactivationRequestedAtMonotonicMillis := some now
    outerFanTeardownDeadlineMonotonicMillis :=
      retainLaterDeadline fans.outerFanTeardownDeadlineMonotonicMillis
        (saturatingDeadline now parameters.outerFanPostRunMillis) }

/-- The output is switched on, and the outer fan with it. -/
def runWith (fans : ActuatorFanState) : ActuatorFanState :=
  { fans with
    outerFanActive := true
    outerFanDeactivationRequestedAtMonotonicMillis := none }

end ActuatorFanState

namespace FanDrive

variable (drive : FanDrive) (parameters : ActuatorPlannerParameters)

def switch (next : AbstractControlDirection) (now : UInt64) : FanDrive :=
  if drive.direction = next then drive
  else
    let stopped := if drive.direction = .idle then drive.fans
      else drive.fans.runOn parameters now
    ⟨next, if next = .idle then stopped else stopped.runWith⟩

variable {drive parameters}

@[simp]
theorem direction_switch {next : AbstractControlDirection} {now : UInt64} :
    (drive.switch parameters next now).direction = next := by
  rw [switch]
  split
  · assumption
  · rfl

theorem switch_self {now : UInt64} :
    drive.switch parameters drive.direction now = drive := by
  rw [switch, if_pos rfl]

theorem switch_switch {next : AbstractControlDirection} {now : UInt64} :
    (drive.switch parameters next now).switch parameters next now =
      drive.switch parameters next now := by
  conv_lhs => rw [switch, if_pos direction_switch]

end FanDrive

namespace ActuatorPlannerRuntimeState

variable {K : Type} [ControlNumber K]
variable {state : ActuatorPlannerRuntimeState K} {parameters : ActuatorPlannerParameters}
variable {command : AcceptedControlCommand K} {now : UInt64}
variable {input : ActuatorPlanTickInput K} {admission : PhaseAOutcome K}

def drive (state : ActuatorPlannerRuntimeState K) : FanDrive :=
  ⟨state.lastAppliedDirection, state.fans⟩

omit [ControlNumber K] in
@[simp]
theorem drive_setPhysicalDirection {next : AbstractControlDirection} :
    (state.setPhysicalDirection parameters next now).drive =
      state.drive.switch parameters next now := by
  rw [setPhysicalDirection, FanDrive.switch]
  by_cases hsame : state.lastAppliedDirection = next
  · rw [if_pos hsame, if_pos (show state.drive.direction = next from hsame)]
  · rw [if_neg hsame, if_neg (show state.drive.direction ≠ next from hsame)]
    by_cases hidle : state.lastAppliedDirection = .idle
    · have hnext : next ≠ .idle := fun hnext => hsame (hidle.trans hnext.symm)
      simp [drive, hidle, hnext, activated, ActuatorFanState.runWith]
    · by_cases hnext : next = .idle
      · simp [drive, hidle, hnext, deactivated, ActuatorFanState.runOn]
      · simp [drive, hidle, hnext, activated, deactivated, ActuatorFanState.runWith,
          ActuatorFanState.runOn]

@[simp]
theorem drive_observeCounterDirection {reference : AbstractControlDirection} :
    (state.observeCounterDirection parameters reference command now).drive =
      state.drive := by
  rw [observeCounterDirection]
  simp only
  split <;> rfl

@[simp]
theorem drive_startFreshWindow {start : UInt64} :
    (state.startFreshWindow parameters command start).drive = state.drive := by
  rw [startFreshWindow]
  simp only
  split
  · rfl
  · split
    · split <;> rfl
    · rfl

omit [ControlNumber K] in
@[simp]
theorem drive_endedForDemand {status : ActuatorPlanStatus} {reason : ActuatorPlanReason}
    {outcome : ActuatorAdmissionOutcome} :
    (state.endedForDemand command status reason outcome).2.drive = state.drive := rfl

/-- The output was switched once, to the direction it ends in. -/
def Switched (parameters : ActuatorPlannerParameters) (now : UInt64)
    (before after : FanDrive) : Prop :=
  after = before.switch parameters after.direction now

theorem switched_refl {drive : FanDrive} : Switched parameters now drive drive :=
  FanDrive.switch_self.symm

theorem switched_switch {drive : FanDrive} {next : AbstractControlDirection} :
    Switched parameters now drive (drive.switch parameters next now) := by
  rw [Switched, FanDrive.direction_switch]

/-! ## Stages -/

omit [ControlNumber K] in
theorem switched_followWindow {tick : WindowPhysicalTick} :
    Switched parameters now state.drive (state.followWindow parameters tick now).drive := by
  rw [followWindow]
  split
  · rw [drive_setPhysicalDirection]
    exact switched_switch
  · split
    · rw [drive_setPhysicalDirection]
      exact switched_switch
    · exact switched_refl

/-- A window that is given up switches the output off at its boundary. -/
theorem drive_advanceWindow :
    (state.advanceWindow parameters command now).drive = state.drive ∨
      (state.advanceWindow parameters command now).drive =
          state.drive.switch parameters .idle now ∧
        (state.lastAppliedDirection ≠ .idle →
          (state.advanceWindow parameters command now).output.lastOffAt = some now) := by
  rw [advanceWindow]
  cases state.activeWindow with
  | none => exact .inl rfl
  | some window =>
      simp only
      split
      · split
        · exact .inl drive_startFreshWindow
        · split
          · refine .inr ⟨drive_setPhysicalDirection, fun hon => ?_⟩
            have hon : state.dropWindow.output.direction ≠ .idle := hon
            rw [output_setPhysicalDirection, PhysicalOutput.switch, if_neg hon]
            exact if_neg hon
          · exact .inl rfl
      · exact .inl rfl

/-- Where a stage leaves the output, as long as it does not end the tick. -/
def Holds (parameters : ActuatorPlannerParameters) (now : UInt64) (before : FanDrive) :
    Except (TickOutcome K) (ActuatorPlannerRuntimeState K) → Prop
  | .error outcome => Switched parameters now before outcome.2.drive
  | .ok settled => settled.drive = before

theorem governOpposedWindow_holds {window : ActiveSwitchingWindow}
    {outcome : ActuatorAdmissionOutcome} :
    Holds parameters now state.drive
      (state.governOpposedWindow parameters window command outcome now) := by
  rw [governOpposedWindow]
  simp only
  split
  · split
    · split
      · simp only [Holds, drive_endedForDemand]
        split
        · rw [drive_setPhysicalDirection]
          exact switched_switch
        · exact switched_refl
      · simp only [Holds, drive_endedForDemand]
        change Switched parameters now state.drive
          (state.setPhysicalDirection parameters .idle now).drive
        rw [drive_setPhysicalDirection]
        exact switched_switch
    · rfl
  · exact switched_followWindow

theorem openWindow_holds {reference : AbstractControlDirection}
    {outcome : ActuatorAdmissionOutcome} :
    Holds parameters now state.drive
      (state.openWindow parameters reference command outcome now) := by
  rw [openWindow]
  simp only
  split
  · split
    · exact switched_refl
    · split
      · exact switched_refl
      · exact drive_startFreshWindow
  · split
    · exact switched_refl
    · exact drive_startFreshWindow

theorem settleWindow_holds {reference : AbstractControlDirection}
    {outcome : ActuatorAdmissionOutcome} :
    Holds parameters now state.drive
      (state.settleWindow parameters reference command outcome now) := by
  have hopen {middle : ActuatorPlannerRuntimeState K} (h : middle.drive = state.drive) :
      Holds parameters now state.drive
        (if middle.activeWindow.isNone then
          middle.openWindow parameters reference command outcome now
        else .ok middle) := by
    split
    · rw [← h]
      exact openWindow_holds
    · exact h
  rw [settleWindow]
  cases state.activeWindow with
  | none => exact hopen rfl
  | some window =>
      simp only
      split
      · have hgoverned : Holds parameters now state.drive
            (state.governOpposedWindow parameters window command outcome now) :=
          governOpposedWindow_holds
        revert hgoverned
        cases state.governOpposedWindow parameters window command outcome now with
        | error found => exact id
        | ok settled => exact fun hgoverned => hopen hgoverned
      · exact hopen rfl

theorem switched_serveDemand {reference : AbstractControlDirection}
    {outcome : ActuatorAdmissionOutcome} :
    Switched parameters now state.drive
      (state.serveDemand parameters reference command outcome now).2.drive := by
  have hholds : Holds parameters now state.drive
      (state.settleWindow parameters reference command outcome now) := settleWindow_holds
  rw [serveDemand]
  revert hholds
  cases state.settleWindow parameters reference command outcome now with
  | error found => exact id
  | ok settled =>
      intro hsettled
      rw [← show settled.drive = state.drive from hsettled]
      cases hwindow : settled.activeWindow with
      | none =>
          simp only [hwindow]
          exact switched_refl
      | some window =>
          simp only [hwindow]
          exact switched_followWindow

/-- A demand that is switched off at a boundary is not switched on again in its tick. -/
theorem switched_evaluateHeatingCoolingDemand {outcome : ActuatorAdmissionOutcome}
    (hvalid : classifyActuatorPlannerParameters parameters = .valid)
    (hsound : state.output.Sound now) (hsettled : state.output.Settled)
    (hdirection : command.direction ≠ .idle) :
    Switched parameters now state.drive
      (state.evaluateHeatingCoolingDemand parameters command outcome now).2.drive := by
  have hadvanced : Advanced parameters command.direction now state.output
      ((state.advanceWindow parameters command now).observeCounterDirection parameters
        state.referenceDirection command now).output :=
    observed_advanced hvalid hsound hsettled hdirection
  rw [evaluateHeatingCoolingDemand_eq]
  generalize hobserved : (state.advanceWindow parameters command now).observeCounterDirection
    parameters state.referenceDirection command now = observed at hadvanced
  have hdrive : observed.drive = (state.advanceWindow parameters command now).drive := by
    rw [← hobserved, drive_observeCounterDirection]
  have houtput : observed.output = (state.advanceWindow parameters command now).output := by
    rw [← hobserved, output_observeCounterDirection]
  have hserved : Switched parameters now observed.drive
      (observed.serveDemand parameters state.referenceDirection command outcome now).2.drive :=
    switched_serveDemand
  rcases (drive_advanceWindow : (state.advanceWindow parameters command now).drive =
    state.drive ∨ _) with hsame | ⟨hstopped, hoffAt⟩
  · rwa [hdrive, hsame] at hserved
  by_cases hidle : state.lastAppliedDirection = .idle
  · have hsame : state.drive.switch parameters .idle now = state.drive := by
      rw [← show state.drive.direction = .idle from hidle, FanDrive.switch_self]
    rwa [hdrive, hstopped, hsame] at hserved
  have hstage : Stage parameters now observed.output (observed.serveDemand parameters
      state.referenceDirection command outcome now).2.output :=
    serveDemand_stage hvalid hadvanced.sound hadvanced.fits hadvanced.opposed hdirection
  have hrested : observed.output.direction = .idle := by
    change observed.drive.direction = .idle
    rw [hdrive, hstopped, FanDrive.direction_switch]
  have hend : (observed.serveDemand parameters state.referenceDirection command outcome
      now).2.drive.direction = .idle := by
    by_contra hstarted
    have hoff := UInt64.lt_iff_toNat_lt.mp (window_of_valid hvalid).2.2
    have hagain := (hstage.step.rested hrested hstarted now
      (houtput ▸ hoffAt hidle)).1
    rw [UInt64.toNat_zero] at hoff
    omega
  rw [Switched, hend, hdrive, hstopped, FanDrive.switch_switch] at hserved
  rw [Switched, hend, hserved]

/-! ## Calls -/

omit [ControlNumber K] in
theorem drive_openWatchdogEpisode :
    (state.openWatchdogEpisode input).drive = state.drive := by
  rw [openWatchdogEpisode]
  split <;> rfl

theorem drive_runPhaseA : (state.runPhaseA parameters input).2.drive = state.drive := by
  rw [runPhaseA]
  cases input.newEvaluation with
  | none => rfl
  | some evaluation =>
      simp only
      split
      · rfl
      · cases evaluation.controlRequest with
        | none => rfl
        | some request =>
            simp only [admitRequest]
            split
            · rfl
            · split
              · rfl
              · split <;> rfl

theorem drive_planned : (state.planned admission).drive = state.drive := by
  rw [planned]
  cases admission.candidate with
  | none => rfl
  | some candidate => rfl

theorem switched_rejectToIdle {outcome : ActuatorAdmissionOutcome}
    {status : ActuatorPlanStatus} {reason : ActuatorPlanReason} :
    Switched parameters now state.drive
      (state.rejectToIdle parameters now outcome status reason).2.drive := by
  change Switched parameters now state.drive
    (state.setPhysicalDirection parameters .idle now).drive
  rw [drive_setPhysicalDirection]
  exact switched_switch

theorem switched_tearDown {outcome : ActuatorAdmissionOutcome} :
    Switched parameters now state.drive (state.tearDown parameters outcome now).2.drive := by
  rw [tearDown]
  split
  · exact switched_refl
  · change Switched parameters now state.drive
      (state.setPhysicalDirection parameters .idle now).drive
    rw [drive_setPhysicalDirection]
    exact switched_switch

theorem switched_runPhaseB (hsound : state.output.Sound input.nowMonotonicMillis)
    (hsettled : state.output.Settled) :
    Switched parameters input.nowMonotonicMillis state.drive
      (state.runPhaseB parameters input admission).2.drive := by
  rcases @rejection_cases K state parameters input admission with
    ⟨status, reason, hrejected, -⟩ | ⟨hpassed, -, -, hvalid, -⟩
  · have hlatched : (state.latchTrippedWatchdog reason input.nowMonotonicMillis).drive =
        state.drive := by
      rw [latchTrippedWatchdog]
      split <;> rfl
    rw [runPhaseB, hrejected, ← hlatched]
    exact switched_rejectToIdle
  · rw [runPhaseB_of_passed hpassed]
    have houtput : (state.planned admission).output = state.output := output_planned
    rw [← houtput] at hsound hsettled
    rw [← @drive_planned K _ state admission]
    cases hcommand : (state.planned admission).demand with
    | some command =>
        exact switched_evaluateHeatingCoolingDemand hvalid hsound hsettled
          (by simpa using (Option.filter_eq_some_iff.mp hcommand).2)
    | none => exact switched_tearDown

end ActuatorPlannerRuntimeState

/-- The fans are updated last. -/
def FanDrive.settled (drive : FanDrive) (parameters : ActuatorPlannerParameters)
    (now : UInt64) (temperatureControlledPhase : Bool) : FanDrive :=
  ⟨drive.direction, (drive.fans.updateOuterFan drive.direction now).updateInnerFan parameters
    now temperatureControlledPhase⟩

namespace ActuatorPlannerRuntimeState

variable {K : Type} [ControlNumber K]
variable {state : ActuatorPlannerRuntimeState K} {parameters : ActuatorPlannerParameters}
variable {now : UInt64} {input : ActuatorPlanTickInput K}

theorem tick_drive (hsound : state.output.Sound input.nowMonotonicMillis)
    (hsettled : state.output.Settled) :
    (state.tick parameters input).2.drive =
      (state.drive.switch parameters (state.tick parameters input).2.lastAppliedDirection
        input.nowMonotonicMillis).settled parameters input.nowMonotonicMillis
          input.temperatureControlledPhase := by
  have houtput : ((state.openWatchdogEpisode input).runPhaseA parameters input).2.output =
      state.output := by
    rw [output_runPhaseA, output_openWatchdogEpisode]
  have hdrive : ((state.openWatchdogEpisode input).runPhaseA parameters input).2.drive =
      state.drive := by
    rw [drive_runPhaseA, drive_openWatchdogEpisode]
  rw [← houtput] at hsound hsettled
  have hswitched : Switched parameters input.nowMonotonicMillis _
      (((state.openWatchdogEpisode input).runPhaseA parameters input).2.runPhaseB parameters
        input ((state.openWatchdogEpisode input).runPhaseA parameters input).1).2.drive :=
    switched_runPhaseB hsound hsettled
  rw [hdrive] at hswitched
  exact congrArg (FanDrive.settled · parameters input.nowMonotonicMillis
    input.temperatureControlledPhase) hswitched

/-- The fans after a stop: the inner fan is asked to stop before the fans are updated. -/
theorem forceStop_drive {episode : ActuatorFeedbackEpisodeAtStop} :
    (state.forceStop parameters now episode).2.drive =
      FanDrive.settled ⟨.idle, (state.drive.switch parameters .idle now).fans.requestInnerFanStop
        parameters now⟩ parameters now false := by
  rw [← @drive_setPhysicalDirection K state parameters now .idle]
  have hidle : (state.setPhysicalDirection parameters .idle now).lastAppliedDirection = .idle :=
    congrArg FanDrive.direction drive_setPhysicalDirection |>.trans FanDrive.direction_switch
  change FanDrive.settled ⟨(state.setPhysicalDirection parameters .idle
    now).lastAppliedDirection, _⟩ parameters now false = _
  rw [hidle]
  rfl

end ActuatorPlannerRuntimeState

/-! ## The fans as drives that run on -/

theorem map_retainLaterDeadline {deadline : Option UInt64} {candidate : UInt64} :
    (retainLaterDeadline deadline candidate).map UInt64.toNat =
      some ((deadline.map UInt64.toNat).elim candidate.toNat (max · candidate.toNat)) := by
  cases deadline with
  | none => rfl
  | some earlier =>
      rw [retainLaterDeadline]
      by_cases hlater : earlier < candidate
      · rw [if_pos (by simpa using hlater)]
        have hle := (UInt64.lt_iff_toNat_lt.mp hlater).le
        exact congrArg some (max_eq_right hle).symm
      · rw [if_neg (by simpa using hlater)]
        have hle := UInt64.le_iff_toNat_le.mp (UInt64.not_lt.mp hlater)
        exact congrArg some (max_eq_left hle).symm

namespace ActuatorFanState

variable {fans : ActuatorFanState} {parameters : ActuatorPlannerParameters} {now : UInt64}
variable {direction : AbstractControlDirection}

def outer (fans : ActuatorFanState) : RunOn ℕ where
  active := fans.outerFanActive
  asked := fans.outerFanDeactivationRequestedAtMonotonicMillis.isSome
  deadline := fans.outerFanTeardownDeadlineMonotonicMillis.map UInt64.toNat

def inner (fans : ActuatorFanState) : RunOn ℕ where
  active := fans.innerFanActive
  asked := fans.innerFanDeactivationRequestedAtMonotonicMillis.isSome
  deadline := fans.innerFanTeardownDeadlineMonotonicMillis.map UInt64.toNat

@[simp]
theorem outer_runOn : (fans.runOn parameters now).outer =
    fans.outer.ask (saturatingDeadline now parameters.outerFanPostRunMillis).toNat := by
  rw [RunOn.ask, outer, runOn, map_retainLaterDeadline]
  rfl

@[simp]
theorem outer_runWith : fans.runWith.outer = fans.outer.start := rfl

@[simp]
theorem inner_runOn : (fans.runOn parameters now).inner = fans.inner := rfl

@[simp]
theorem inner_runWith : fans.runWith.inner = fans.inner := rfl

/-- A deadline that is reached, as a number. -/
theorem any_deadlineReached {deadline : Option UInt64} :
    deadline.any (deadlineReached now 0) = (deadline.map UInt64.toNat).any (· ≤ now.toNat) := by
  cases deadline with
  | none => rfl
  | some found =>
      rw [Option.any_some, Option.map_some, Option.any_some, Bool.eq_iff_iff,
        deadlineReached_iff, UInt64.toNat_zero, Nat.zero_add, decide_eq_true_iff]

theorem outer_updateOuterFan : (fans.updateOuterFan direction now).outer =
    if direction ≠ .idle then fans.outer.start else fans.outer.expire now.toNat := by
  rw [updateOuterFan]
  by_cases hon : direction ≠ .idle
  · rw [if_pos hon, if_pos hon]
    rfl
  · rw [if_neg hon, if_neg hon, RunOn.expire, any_deadlineReached, Bool.and_assoc]
    simp only [Bool.and_eq_true]
    split
    · rename_i hexpired
      exact (if_pos hexpired).symm
    · rename_i hruns
      exact (if_neg hruns).symm

theorem inner_updateOuterFan : (fans.updateOuterFan direction now).inner = fans.inner := by
  rw [updateOuterFan]
  split
  · rfl
  · split <;> rfl

theorem outer_requestInnerFanStop :
    (fans.requestInnerFanStop parameters now).outer = fans.outer := by
  rw [requestInnerFanStop]
  split <;> rfl

/-- A fan that runs and was not asked to stop is asked now. -/
theorem inner_requestInnerFanStop : (fans.requestInnerFanStop parameters now).inner =
    if fans.inner.active = true ∧ fans.inner.asked = false then
      fans.inner.ask (saturatingDeadline now parameters.innerFanPostRunMillis).toNat
    else fans.inner := by
  rw [requestInnerFanStop]
  by_cases hstop : fans.inner.active = true ∧ fans.inner.asked = false
  · have hactive : fans.innerFanActive = true := hstop.1
    rw [if_pos hstop, if_pos (by simpa [inner] using hstop), RunOn.ask, inner, inner,
      map_retainLaterDeadline, hactive]
    rfl
  · rw [if_neg hstop, if_neg (by simpa [inner] using hstop)]

theorem outer_updateInnerFan {phase : Bool} :
    (fans.updateInnerFan parameters now phase).outer = fans.outer := by
  rw [updateInnerFan]
  split
  · rfl
  · rw [stopInnerFan]
    split
    · exact outer_requestInnerFanStop
    · exact outer_requestInnerFanStop

theorem inner_updateInnerFan_controlled :
    (fans.updateInnerFan parameters now true).inner = fans.inner.start := rfl

theorem inner_stopInnerFan (hasked : fans.inner.active = true → fans.inner.asked = true) :
    (fans.stopInnerFan now).inner = fans.inner.expire now.toNat := by
  rw [stopInnerFan, RunOn.expire, any_deadlineReached]
  by_cases hactive : fans.innerFanActive = true
  · have hasked := hasked hactive
    by_cases hreached : ((fans.innerFanTeardownDeadlineMonotonicMillis.map UInt64.toNat).any
        (· ≤ now.toNat)) = true
    · rw [if_pos (by rw [hactive, hreached]; rfl), if_pos ⟨hactive, hasked, hreached⟩]
      rfl
    · rw [if_neg (by simpa [hactive] using hreached), if_neg fun hexpired => hreached hexpired.2.2]
  · rw [if_neg (by simp [hactive]), if_neg fun hexpired => hactive hexpired.1]

/-- The inner fan outside of a controlled phase: asked once, it runs on to its deadline. -/
theorem inner_updateInnerFan_released (hasked : (fans.requestInnerFanStop parameters
      now).inner.active = true → (fans.requestInnerFanStop parameters now).inner.asked = true) :
    (fans.updateInnerFan parameters now false).inner =
      (fans.requestInnerFanStop parameters now).inner.expire now.toNat :=
  inner_stopInnerFan hasked

theorem inner_requestInnerFanStop_congr {other : ActuatorFanState}
    (h : fans.inner = other.inner) : (fans.requestInnerFanStop parameters now).inner =
      (other.requestInnerFanStop parameters now).inner := by
  rw [inner_requestInnerFanStop, inner_requestInnerFanStop, h]

theorem inner_asked_of_request
    (h : (fans.requestInnerFanStop parameters now).inner.active = true) :
    (fans.requestInnerFanStop parameters now).inner.asked = true := by
  rw [inner_requestInnerFanStop] at h ⊢
  by_cases hstop : fans.inner.active = true ∧ fans.inner.asked = false
  · rw [if_pos hstop]
    rfl
  · rw [if_neg hstop] at h ⊢
    cases hasked : fans.inner.asked with
    | true => rfl
    | false => exact absurd ⟨h, hasked⟩ hstop

/-- A second request finds the first one. -/
theorem inner_requestInnerFanStop_twice :
    ((fans.requestInnerFanStop parameters now).requestInnerFanStop parameters now).inner =
      (fans.requestInnerFanStop parameters now).inner := by
  rw [inner_requestInnerFanStop, if_neg]
  exact fun hstop => nomatch (inner_asked_of_request hstop.1).symm.trans hstop.2

end ActuatorFanState

namespace FanDrive

variable {drive : FanDrive} {parameters : ActuatorPlannerParameters} {now : UInt64}
variable {next : AbstractControlDirection}

theorem outer_switch : (drive.switch parameters next now).fans.outer =
    if drive.direction = next then drive.fans.outer
    else
      let stopped := if drive.direction = .idle then drive.fans.outer
        else drive.fans.outer.ask
          (saturatingDeadline now parameters.outerFanPostRunMillis).toNat
      if next = .idle then stopped else stopped.start := by
  rw [switch]
  split
  · rfl
  · simp only
    by_cases hidle : drive.direction = .idle
    · rw [if_pos hidle, if_pos hidle]
      split <;> rfl
    · rw [if_neg hidle, if_neg hidle, ← ActuatorFanState.outer_runOn]
      split <;> rfl

theorem inner_switch : (drive.switch parameters next now).fans.inner = drive.fans.inner := by
  rw [switch]
  split
  · rfl
  · simp only
    split <;> split <;> rfl

theorem outer_settled {phase : Bool} : (drive.settled parameters now phase).fans.outer =
    if drive.direction ≠ .idle then drive.fans.outer.start
    else drive.fans.outer.expire now.toNat := by
  rw [settled, ActuatorFanState.outer_updateInnerFan, ActuatorFanState.outer_updateOuterFan]

theorem inner_settled_controlled :
    (drive.settled parameters now true).fans.inner = drive.fans.inner.start := by
  rw [settled, ActuatorFanState.inner_updateInnerFan_controlled,
    ActuatorFanState.inner_updateOuterFan]

theorem inner_settled_released : (drive.settled parameters now false).fans.inner =
    (drive.fans.requestInnerFanStop parameters now).inner.expire now.toNat := by
  rw [settled, ActuatorFanState.inner_updateInnerFan_released
    ActuatorFanState.inner_asked_of_request, ActuatorFanState.inner_requestInnerFanStop_congr
      ActuatorFanState.inner_updateOuterFan]

end FanDrive

/-! ## Results -/

namespace ActuatorPlannerRuntimeState

variable {K : Type} [ControlNumber K]
variable {state : ActuatorPlannerRuntimeState K} {parameters : ActuatorPlannerParameters}
variable {command : AcceptedControlCommand K} {now : UInt64}
variable {input : ActuatorPlanTickInput K} {admission : PhaseAOutcome K}

/-- The result names the direction its state is left in. -/
def Reported (outcome : TickOutcome K) : Prop :=
  outcome.1.appliedDirection = outcome.2.lastAppliedDirection

/-- A stage that ends the tick reports. -/
def Reports : Except (TickOutcome K) (ActuatorPlannerRuntimeState K) → Prop
  | .error outcome => Reported outcome
  | .ok _ => True

theorem governOpposedWindow_reports {window : ActiveSwitchingWindow}
    {outcome : ActuatorAdmissionOutcome} :
    Reports (state.governOpposedWindow parameters window command outcome now) := by
  rw [governOpposedWindow]
  simp only
  split
  · split
    · split <;> rfl
    · trivial
  · rfl

theorem openWindow_reports {reference : AbstractControlDirection}
    {outcome : ActuatorAdmissionOutcome} :
    Reports (state.openWindow parameters reference command outcome now) := by
  rw [openWindow]
  simp only
  split
  · split
    · rfl
    · split
      · rfl
      · trivial
  · split
    · rfl
    · trivial

theorem settleWindow_reports {reference : AbstractControlDirection}
    {outcome : ActuatorAdmissionOutcome} :
    Reports (state.settleWindow parameters reference command outcome now) := by
  have hopen (middle : ActuatorPlannerRuntimeState K) :
      Reports (if middle.activeWindow.isNone then
        middle.openWindow parameters reference command outcome now else .ok middle) := by
    split
    · exact openWindow_reports
    · trivial
  rw [settleWindow]
  cases state.activeWindow with
  | none => exact hopen state
  | some window =>
      simp only
      split
      · have hgoverned : Reports
            (state.governOpposedWindow parameters window command outcome now) :=
          governOpposedWindow_reports
        revert hgoverned
        cases state.governOpposedWindow parameters window command outcome now with
        | error found => exact id
        | ok settled => exact fun _ => hopen settled
      · exact hopen state

theorem serveDemand_reported {reference : AbstractControlDirection}
    {outcome : ActuatorAdmissionOutcome} :
    Reported (state.serveDemand parameters reference command outcome now) := by
  have hreports : Reports (state.settleWindow parameters reference command outcome now) :=
    settleWindow_reports
  rw [serveDemand]
  revert hreports
  cases state.settleWindow parameters reference command outcome now with
  | error found => exact id
  | ok settled =>
      intro _
      simp only
      split <;> rfl

theorem tearDown_reported {outcome : ActuatorAdmissionOutcome} :
    Reported (state.tearDown parameters outcome now) := by
  rw [tearDown]
  split <;> rfl

theorem runPhaseB_reported : Reported (state.runPhaseB parameters input admission) := by
  cases hrejection : state.rejection parameters input admission with
  | some rejected =>
      rw [runPhaseB, hrejection]
      rfl
  | none =>
      rw [runPhaseB_of_passed hrejection]
      cases (state.planned admission).demand with
      | some command =>
          simp only [evaluateHeatingCoolingDemand_eq]
          exact serveDemand_reported
      | none => exact tearDown_reported

theorem tick_reported : Reported (state.tick parameters input) := runPhaseB_reported

end ActuatorPlannerRuntimeState

end Fermentationsschrank

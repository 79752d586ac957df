import Fermentationsschrank.Control.WindowSteps
import Fermentationsschrank.Core.Balances
import Fermentationsschrank.Guarantees.SwitchingTimes
import Mathlib

/-!
# Delivered time

Requests that are too short for a pulse are banked until they make up one.  Over all the
windows since the credit was given up, no more time is scheduled than was requested, apart
from the rounding of each window.
-/

namespace Fermentationsschrank

/-! ## What a window is accounted for -/

namespace WindowEvent

section

variable {K : Type} [ControlNumber K]
variable (parameters : ActuatorPlannerParameters)

def starts : WindowEvent K → Bool
  | .started _ _ => true
  | .kept | .reset => false

open ActuatorPlannerRuntimeState in
def requested : WindowEvent K → K
  | .started source _ => requestedOnMillis parameters source.timeQuote
  | .kept | .reset => 0

/-- A request that is too short for a pulse of its own. -/
def credited (event : WindowEvent K) : K :=
  if ControlNumber.lt (event.requested parameters)
    (ControlNumber.ofMillis parameters.minimumOnMillis) then event.requested parameters else 0

def scheduled : WindowEvent K → K
  | .started _ window => ControlNumber.ofMillis window.scheduledOnMillis
  | .kept | .reset => 0

/-- The pulse of a started window is none, or one that the window has room for. -/
def Fits : WindowEvent K → Prop
  | .started _ window => window.scheduledOnMillis = 0 ∨
      parameters.minimumOnMillis ≤ window.scheduledOnMillis ∧
        window.scheduledOnMillis ≤ parameters.switchingWindowMillis
  | .kept | .reset => True

/-- The pulse that is paid for by earlier requests. -/
def pulsed : WindowEvent K → K
  | .started _ window => if window.minimumPulseFromAccumulator then
      ControlNumber.ofMillis parameters.minimumOnMillis else 0
  | .kept | .reset => 0

end

end WindowEvent

namespace ActuatorPlannerRuntimeState

/-- The credit that belongs to a direction. -/
def banked {K : Type} [Zero K] (direction : AbstractControlDirection)
    (state : ActuatorPlannerRuntimeState K) : K :=
  if state.accumulator.direction = direction then state.accumulator.accumulatedMillis else 0

/-- The credit of a state, whatever its direction. -/
def saved {K : Type} (state : ActuatorPlannerRuntimeState K) : K :=
  state.accumulator.accumulatedMillis

/-! ## Starting a window -/

theorem pulses_of_valid {parameters : ActuatorPlannerParameters}
    (h : classifyActuatorPlannerParameters parameters = .valid) :
    0 < parameters.minimumOnMillis.toNat ∧
      parameters.minimumOnMillis.toNat ≤ parameters.switchingWindowMillis.toNat ∧
      parameters.minimumOnMillis.toNat ≤ parameters.pulseAccumulatorCapMillis.toNat := by
  rw [classifyActuatorPlannerParameters] at h
  split at h
  · cases h
  · split at h
    · rename_i hvalid
      obtain ⟨-, hpositive, hwindow, -, -, hcap, -⟩ := hvalid
      exact ⟨UInt64.lt_iff_toNat_lt.mp hpositive, UInt64.le_iff_toNat_le.mp hwindow,
        UInt64.le_iff_toNat_le.mp hcap⟩
    · cases h

section Exact

variable {K : Type} [Field K] [LinearOrder K] [IsStrictOrderedRing K] [FloorRing K]
variable {state next first last : ActuatorPlannerRuntimeState K}
  {parameters : ActuatorPlannerParameters} {source : AcceptedControlCommand K}
  {time : UInt64} {window : ActiveSwitchingWindow} {event : WindowEvent K}
  {events : List (WindowEvent K)} {direction : AbstractControlDirection}

/-- The bank of the short requests. -/
def pulseBank (h : classifyActuatorPlannerParameters parameters = .valid) : Bank K where
  unit := parameters.minimumOnMillis.toNat
  cap := parameters.pulseAccumulatorCapMillis.toNat
  unit_pos := Nat.cast_pos.mpr (pulses_of_valid h).1
  unit_le_cap := Nat.cast_le.mpr (pulses_of_valid h).2.2

theorem requestedOnMillis_bounds {quote : K} : 0 ≤ requestedOnMillis parameters quote ∧
    requestedOnMillis parameters quote ≤ parameters.switchingWindowMillis.toNat := by
  have hquote : 0 ≤ ControlNumber.clampQuote quote ∧ ControlNumber.clampQuote quote ≤ 1 := by
    rw [ControlNumber.clampQuote]
    simp only [exact_lt, decide_eq_true_eq]
    split
    · exact ⟨le_rfl, zero_le_one⟩
    · split
      · exact ⟨zero_le_one, le_rfl⟩
      · rename_i hlow hhigh
        exact ⟨not_lt.mp hlow, not_lt.mp hhigh⟩
  have hlength : (0 : K) ≤ parameters.switchingWindowMillis.toNat := Nat.cast_nonneg _
  exact ⟨mul_nonneg hquote.1 hlength, mul_le_of_le_one_left hlength hquote.2⟩

/-- Rounding to the nearest millisecond adds half of one at most. -/
theorem toNat_roundHalfUp {value : K} {limit : UInt64} (hvalue : 0 ≤ value)
    (hlimit : value ≤ limit.toNat) :
    ((ControlNumber.roundHalfUp value).toNat : ℤ) = ⌊value + 1 / 2⌋ ∧
      (ControlNumber.roundHalfUp value).toNat ≤ limit.toNat := by
  have hfloor : 0 ≤ ⌊value + 1 / 2⌋ := Int.floor_nonneg.mpr (by linarith)
  have hbelow : ⌊value + 1 / 2⌋ < (limit.toNat : ℤ) + 1 := by
    rw [Int.floor_lt]
    push_cast
    linarith
  have hround : (ControlNumber.roundHalfUp value).toNat = ⌊value + 1 / 2⌋.toNat := by
    change (UInt64.ofNat ⌊value + 1 / 2⌋.toNat).toNat = _
    rw [UInt64.toNat_ofNat', Nat.mod_eq_of_lt]
    have hlimit := limit.toNat_lt
    omega
  rw [hround]
  omega

/-- What a started window does with its request. -/
inductive Opening (hvalid : classifyActuatorPlannerParameters parameters = .valid)
    (state : ActuatorPlannerRuntimeState K) (source : AcceptedControlCommand K)
    (window : ActiveSwitchingWindow) (accumulator : PulseAccumulator K) : Prop
  | rounded (hlong : (pulseBank hvalid).unit ≤ requestedOnMillis parameters source.timeQuote)
      (hscheduled : (window.scheduledOnMillis.toNat : ℤ) =
        ⌊requestedOnMillis parameters source.timeQuote + 1 / 2⌋)
      (hfits : window.scheduledOnMillis ≤ parameters.switchingWindowMillis)
      (hrounded : window.minimumPulseFromAccumulator = false)
      (hkept : accumulator = state.accumulator)
  | deposited (hpositive : 0 < requestedOnMillis parameters source.timeQuote)
      (hshort : requestedOnMillis parameters source.timeQuote < (pulseBank hvalid).unit)
      (hscheduled : window.scheduledOnMillis =
        if window.minimumPulseFromAccumulator then parameters.minimumOnMillis else 0)
      (hpaid : (if window.minimumPulseFromAccumulator then (pulseBank hvalid).unit else 0) =
        ((pulseBank hvalid).deposit (state.banked source.direction)
          (requestedOnMillis parameters source.timeQuote)).1)
      (hbanked : accumulator = ⟨source.direction, ((pulseBank hvalid).deposit
        (state.banked source.direction) (requestedOnMillis parameters source.timeQuote)).2⟩)
  | empty (hnone : requestedOnMillis parameters source.timeQuote = 0)
      (hscheduled : window.scheduledOnMillis = 0)
      (hunpaid : window.minimumPulseFromAccumulator = false)
      (hkept : accumulator = state.accumulator)

theorem startFreshWindow_opening (hvalid : classifyActuatorPlannerParameters parameters = .valid)
    (hwindow : (state.startFreshWindow parameters source time).activeWindow = some window) :
    Opening hvalid state source window
      (state.startFreshWindow parameters source time).accumulator := by
  obtain ⟨hlow, hhigh⟩ := @requestedOnMillis_bounds K _ _ _ _ parameters source.timeQuote
  rw [startFreshWindow] at hwindow ⊢
  simp only [exact_le, exact_lt, decide_eq_true_eq] at hwindow ⊢
  split at hwindow
  · rename_i hlong
    rw [if_pos hlong]
    obtain ⟨hround, hfits⟩ := toNat_roundHalfUp hlow hhigh
    have hmin : min (ControlNumber.roundHalfUp (requestedOnMillis parameters source.timeQuote))
        parameters.switchingWindowMillis =
          ControlNumber.roundHalfUp (requestedOnMillis parameters source.timeQuote) :=
      if_pos (UInt64.le_iff_toNat_le.mpr hfits)
    cases hwindow
    refine .rounded hlong ?_ ?_ rfl rfl
    · rw [hmin, hround]
    · rw [hmin]
      exact UInt64.le_iff_toNat_le.mpr hfits
  · rename_i hshort
    rw [if_neg hshort]
    split at hwindow
    · rename_i hpositive
      rw [if_pos hpositive]
      have hcredit : (state.creditAccumulator parameters source.direction
          (requestedOnMillis parameters source.timeQuote)).accumulator =
            ⟨source.direction, (pulseBank hvalid).credit (state.banked source.direction)
              (requestedOnMillis parameters source.timeQuote)⟩ := by
        rw [creditAccumulator, exact_smaller]
        rfl
      rw [hcredit] at hwindow ⊢
      split at hwindow
      · rename_i hpaid
        have hdeposit := @Bank.deposit_of_paid K _ _ (pulseBank hvalid) _ _ hpaid
        rw [if_pos hpaid]
        cases hwindow
        refine .deposited hpositive (not_le.mp hshort) rfl ?_ ?_
        · rw [hdeposit]
          rfl
        · rw [hdeposit]
          rfl
      · rename_i hheld
        have hdeposit := @Bank.deposit_of_held K _ _ (pulseBank hvalid) _ _ hheld
        rw [if_neg hheld]
        cases hwindow
        refine .deposited hpositive (not_le.mp hshort) rfl ?_ ?_
        · rw [hdeposit]
          rfl
        · rw [hdeposit]
    · rename_i hnone
      rw [if_neg hnone]
      cases hwindow
      exact .empty (le_antisymm (not_lt.mp hnone) hlow) rfl rfl rfl

/-! ## Accounts -/

theorem Opening.sound {hvalid : classifyActuatorPlannerParameters parameters = .valid}
    {accumulator : PulseAccumulator K} (h : Opening hvalid state source window accumulator)
    (hsound : (pulseBank hvalid).Sound state.accumulator.accumulatedMillis) :
    (pulseBank hvalid).Sound accumulator.accumulatedMillis := by
  have hbanked : (pulseBank hvalid).Sound (state.banked source.direction) := by
    rw [banked]
    split
    · exact hsound
    · exact Bank.sound_zero
  cases h with
  | rounded _ _ _ _ hkept =>
      rw [hkept]
      exact hsound
  | deposited hpositive hshort _ _ hdeposited =>
      rw [hdeposited]
      exact Bank.sound_deposit hbanked hpositive.le hshort
  | empty _ _ _ hkept =>
      rw [hkept]
      exact hsound

/-- The pulse of a window is at least as long as the minimum, and fits into it. -/
theorem Opening.scheduled {hvalid : classifyActuatorPlannerParameters parameters = .valid}
    {accumulator : PulseAccumulator K} (h : Opening hvalid state source window accumulator) :
    window.scheduledOnMillis = 0 ∨
      parameters.minimumOnMillis ≤ window.scheduledOnMillis ∧
        window.scheduledOnMillis ≤ parameters.switchingWindowMillis := by
  cases h with
  | rounded hlong hscheduled hfits _ _ =>
      refine .inr ⟨UInt64.le_iff_toNat_le.mpr ?_, hfits⟩
      have hlong : (parameters.minimumOnMillis.toNat : K) ≤
          requestedOnMillis parameters source.timeQuote := hlong
      have hfloor : (parameters.minimumOnMillis.toNat : ℤ) ≤
          ⌊requestedOnMillis parameters source.timeQuote + 1 / 2⌋ := by
        rw [Int.le_floor, Int.cast_natCast]
        linarith
      omega
  | deposited _ _ hscheduled _ _ =>
      rw [hscheduled]
      split
      · exact .inr ⟨UInt64.le_refl _,
          UInt64.le_iff_toNat_le.mpr (pulses_of_valid hvalid).2.1⟩
      · exact .inl rfl
  | empty _ hscheduled _ _ => exact .inl hscheduled

/-- Less than a minimum pulse is banked. -/
def Saving (hvalid : classifyActuatorPlannerParameters parameters = .valid)
    (state : ActuatorPlannerRuntimeState K) : Prop := (pulseBank hvalid).Sound state.saved

theorem Saving.banked_le {hvalid : classifyActuatorPlannerParameters parameters = .valid}
    (h : Saving hvalid state) : state.banked direction ≤ state.saved := by
  rw [banked]
  split
  · exact le_rfl
  · exact h.1

/-- What a window pays and leaves in the bank was there or is credited by its request. -/
theorem Opening.pulsed_le {hvalid : classifyActuatorPlannerParameters parameters = .valid}
    (h : Opening hvalid state source window next.accumulator) (hsaving : Saving hvalid state) :
    (WindowEvent.started source window).pulsed parameters + next.saved ≤
      state.saved + (WindowEvent.started source window).credited parameters := by
  change (if window.minimumPulseFromAccumulator then (pulseBank hvalid).unit else 0) + _ ≤
    _ + if decide (requestedOnMillis parameters source.timeQuote < (pulseBank hvalid).unit) then
      requestedOnMillis parameters source.timeQuote else 0
  simp only [decide_eq_true_eq]
  cases h with
  | rounded hlong _ _ hrounded hkept =>
      rw [hrounded, if_neg (not_lt.mpr hlong), saved, hkept]
      simp [saved]
  | deposited _ hshort _ hpaid hdeposited =>
      rw [if_pos hshort, hpaid, saved, hdeposited]
      exact Bank.deposit_le.trans (add_le_add_left hsaving.banked_le _)
  | empty hnone _ hunpaid hkept =>
      rw [hunpaid, hnone, saved, hkept]
      simp [saved]

local instance atLeastTwoHalves : Nat.AtLeastTwo 2 := inferInstance

/-- What an event may schedule: its request, and the rounding of its window. -/
def allowance (parameters : ActuatorPlannerParameters) (event : WindowEvent K) : K :=
  event.requested parameters + if event.starts then 1 / 2 else 0

/-- A window schedules what it is asked for, or what the bank pays, and rounds it. -/
theorem Opening.scheduled_le {hvalid : classifyActuatorPlannerParameters parameters = .valid}
    (h : Opening hvalid state source window next.accumulator) (hsaving : Saving hvalid state) :
    (WindowEvent.started source window).scheduled + next.saved ≤
      state.saved + allowance parameters (.started source window) := by
  change (window.scheduledOnMillis.toNat : K) + _ ≤
    _ + (requestedOnMillis parameters source.timeQuote + 1 / 2)
  cases h with
  | rounded _ hscheduled _ _ hkept =>
      have hfloor := Int.floor_le (requestedOnMillis parameters source.timeQuote + 1 / 2)
      rw [← hscheduled, Int.cast_natCast] at hfloor
      have hsaved : next.saved = state.saved := by rw [saved, saved, hkept]
      linarith
  | deposited _ _ hscheduled hpaid hdeposited =>
      have hpulse : (window.scheduledOnMillis.toNat : K) =
          if window.minimumPulseFromAccumulator then (pulseBank hvalid).unit else 0 := by
        rw [hscheduled]
        split
        · rfl
        · exact Nat.cast_zero
      have hle := @Bank.deposit_le K _ _ (pulseBank hvalid) (state.banked source.direction)
        (requestedOnMillis parameters source.timeQuote)
      have hbanked := @Saving.banked_le K _ _ _ _ state parameters source.direction hvalid hsaving
      rw [hpulse, hpaid, saved, hdeposited]
      linarith
  | empty hnone hscheduled _ hkept =>
      have hsaved : next.saved = state.saved := by rw [saved, saved, hkept]
      rw [hnone, hscheduled, hsaved, UInt64.toNat_zero, Nat.cast_zero]
      linarith

theorem Saving.step {hvalid : classifyActuatorPlannerParameters parameters = .valid}
    (h : Saving hvalid state) (hstep : WindowStep parameters state event next) :
    Saving hvalid next := by
  have hempty {window : Option ActiveSwitchingWindow}
      (hreset : next.account = (emptyAccumulator, window)) : Saving hvalid next := by
    have haccumulator : next.accumulator = emptyAccumulator := congrArg Prod.fst hreset
    rw [Saving, saved, haccumulator]
    exact Bank.sound_zero
  cases hstep with
  | start hwindow => exact (startFreshWindow_opening hvalid hwindow).sound h
  | keep hkept =>
      have haccumulator : next.accumulator = state.accumulator := congrArg Prod.fst hkept
      rw [Saving, saved, haccumulator]
      exact h
  | reset hreset => exact hreset.elim hempty hempty

/-- What a started window keeps within its balance, every step does: giving up credit only
loses it. -/
theorem Saving.balances {hvalid : classifyActuatorPlannerParameters parameters = .valid}
    {spend gain : WindowEvent K → K} (h : Saving hvalid state)
    (hstep : WindowStep parameters state event next)
    (hstarted : ∀ {source window}, Opening hvalid state source window next.accumulator →
      spend (.started source window) + next.saved ≤ state.saved + gain (.started source window))
    (hkept : spend .kept = 0 ∧ gain .kept = 0) (hreset : spend .reset = 0 ∧ gain .reset = 0) :
    spend event + next.saved ≤ state.saved + gain event := by
  cases hstep with
  | start hwindow => exact hstarted (startFreshWindow_opening hvalid hwindow)
  | keep hsame =>
      have hsaved : next.saved = state.saved :=
        congrArg (fun account => account.1.accumulatedMillis) hsame
      rw [hkept.1, hkept.2, zero_add, add_zero, hsaved]
  | reset hcleared =>
      have hsaved : next.saved = 0 := by
        rcases hcleared with hcleared | hcleared
        · exact congrArg (fun account => account.1.accumulatedMillis) hcleared
        · exact congrArg (fun account => account.1.accumulatedMillis) hcleared
      rw [hreset.1, hreset.2, zero_add, add_zero, hsaved]
      exact h.1

omit [IsStrictOrderedRing K] in
theorem sum_map_allowance : (events.map (allowance parameters)).sum =
    (events.map (WindowEvent.requested parameters)).sum +
      events.countP WindowEvent.starts / (2 : K) := by
  induction events with
  | nil => simp
  | cons event rest ih =>
      rw [List.map_cons, List.sum_cons, ih, List.map_cons, List.sum_cons, List.countP_cons,
        allowance]
      split
      · push_cast
        ring
      · push_cast
        ring

/-! ## Runs -/

/-- What holds of the windows between two states: what they pay was credited or saved, and
what they schedule was requested or saved, apart from half a millisecond for each. -/
structure Delivers (parameters : ActuatorPlannerParameters)
    (first : ActuatorPlannerRuntimeState K) (events : List (WindowEvent K))
    (last : ActuatorPlannerRuntimeState K) : Prop where
  scheduled : ∀ event ∈ events, event.Fits parameters
  nonnegative : 0 ≤ last.saved
  capped : last.saved ≤ parameters.pulseAccumulatorCapMillis.toNat
  short : last.saved < parameters.minimumOnMillis.toNat
  paid : (events.map (WindowEvent.pulsed parameters)).sum + last.saved ≤
    first.saved + (events.map (WindowEvent.credited parameters)).sum
  delivered : (events.map WindowEvent.scheduled).sum + last.saved ≤
    first.saved + ((events.map (WindowEvent.requested parameters)).sum +
      events.countP WindowEvent.starts / 2)

theorem steps_deliver (hvalid : classifyActuatorPlannerParameters parameters = .valid)
    (hrun : Steps (WindowStep parameters) first events last) (hfirst : Saving hvalid first) :
    Delivers parameters first events last := by
  have hlast : Saving hvalid last := hrun.invariant hfirst Saving.step
  refine ⟨?_, hlast.1, hlast.lt_cap.le, hlast.2, ?_, ?_⟩
  · refine hrun.forall_label hfirst Saving.step fun _ hstep => ?_
    cases hstep with
    | start hwindow => exact (startFreshWindow_opening hvalid hwindow).scheduled
    | keep => trivial
    | reset => trivial
  · refine hrun.balanced hfirst (fun _ _ => trivial) Saving.step fun hsaving _ hstep => ?_
    refine hsaving.balances hstep (fun hopening => hopening.pulsed_le hsaving) ?_ ?_
    all_goals exact ⟨rfl, by simp [WindowEvent.credited, WindowEvent.requested]⟩
  · rw [← sum_map_allowance]
    refine hrun.balanced hfirst (fun _ _ => trivial) Saving.step fun hsaving _ hstep => ?_
    refine hsaving.balances hstep (fun hopening => hopening.scheduled_le hsaving) ?_ ?_
    all_goals exact ⟨rfl, by simp [allowance, WindowEvent.starts, WindowEvent.requested]⟩

/-- In every run of windows that begins without credit, and so after every reset, what is
paid out of the credit and what is left of it was credited since, and no more time is
scheduled than was requested, apart from half a millisecond for each window. -/
theorem windows_deliver (hvalid : classifyActuatorPlannerParameters parameters = .valid)
    {start : ActuatorPlannerRuntimeState K} {earlier : List (WindowEvent K)}
    (hempty : start.accumulator = emptyAccumulator)
    (hbefore : Steps (WindowStep parameters) start earlier first)
    (hrun : Steps (WindowStep parameters) first events last) :
    Delivers parameters first events last ∧
      (first.accumulator = emptyAccumulator →
        (events.map (WindowEvent.pulsed parameters)).sum + last.saved ≤
            (events.map (WindowEvent.credited parameters)).sum ∧
          (events.map WindowEvent.scheduled).sum ≤
            (events.map (WindowEvent.requested parameters)).sum +
              events.countP WindowEvent.starts / 2) := by
  have hstart : Saving hvalid start := by
    rw [Saving, saved, hempty]
    exact Bank.sound_zero
  have hdelivers := steps_deliver hvalid hrun (hbefore.invariant hstart Saving.step)
  refine ⟨hdelivers, fun hreset => ?_⟩
  have hnone : first.saved = 0 := congrArg PulseAccumulator.accumulatedMillis hreset
  have hpaid := hdelivers.paid
  have hdelivered := hdelivers.delivered
  have hlast := hdelivers.nonnegative
  rw [hnone, zero_add] at hpaid hdelivered
  exact ⟨hpaid, by linarith⟩

end Exact

/-! ## Two short requests -/

/-- Three tenths of a window. -/
def shortCommand : AcceptedControlCommand ℚ where
  sequence := 1
  direction := .heating
  timeQuote := 3 / 10
  demandClass := .normalDemand
  contextAtAcceptance := {}

def unsavedState : ActuatorPlannerRuntimeState ℚ := { accumulator := emptyAccumulator }

def savingState : ActuatorPlannerRuntimeState ℚ :=
  unsavedState.startFreshWindow (windowedParameters 100) shortCommand 0

/-- The first request is saved, the second one pays for a pulse of 50 ms. -/
def shortEvents : List (WindowEvent ℚ) :=
  [.started shortCommand {
      startMonotonicMillis := 0
      direction := .heating
      sourceRequestSequence := 1 },
    .started shortCommand {
      startMonotonicMillis := 100
      direction := .heating
      scheduledOnMillis := 50
      minimumPulseFromAccumulator := true
      sourceRequestSequence := 1 }]

def paidState : ActuatorPlannerRuntimeState ℚ :=
  savingState.startFreshWindow (windowedParameters 100) shortCommand 100

set_option maxRecDepth 1000000 in
theorem short_run :
    Steps (WindowStep (windowedParameters 100)) unsavedState shortEvents paidState :=
  .cons (.start (by decide +kernel)) (.cons (.start (by decide +kernel)) .start)

theorem short_requests_deliver :
    Delivers (windowedParameters 100) unsavedState shortEvents paidState ∧
      (unsavedState.accumulator = emptyAccumulator →
        (shortEvents.map (WindowEvent.pulsed (windowedParameters 100))).sum + paidState.saved ≤
            (shortEvents.map (WindowEvent.credited (windowedParameters 100))).sum ∧
          (shortEvents.map WindowEvent.scheduled).sum ≤
            (shortEvents.map (WindowEvent.requested (windowedParameters 100))).sum +
              shortEvents.countP WindowEvent.starts / 2) :=
  windows_deliver (by decide) rfl .start short_run

end ActuatorPlannerRuntimeState

/-! ## The planner -/

/-- A call of the planner takes window steps under the parameters it is bound to. -/
theorem PlannerStep.windowStepped {K : Type} [ControlNumber K] {device next : ClockedPlanner K}
    {event : PlannerEvent K} (hstep : PlannerStep device event next) :
    ActuatorPlannerRuntimeState.WindowStepped device.planner.parameters device.planner.state
      next.planner.state := by
  obtain @⟨call, now, -, -⟩ := hstep
  cases call with
  | tick input => exact ActuatorPlannerRuntimeState.stepped_tick
  | forceStop time episode => exact .cleared (.inl rfl)
  | beginRun parameters => exact .kept (congrArg _ ActuatorPlanner.state_beginRun)
  | endRun => exact .refl
  | closeFeedbackEpisodeForOutstandingEvaluation => exact .kept rfl
  | takeFeedbackUpdate =>
      obtain ⟨feedback, hfeedback⟩ := @ActuatorPlanner.state_takeFeedbackUpdate K device.planner
      refine .kept ?_
      exact congrArg (fun planner => planner.state.account) hfeedback
  | applyExternalWatchdogFaultReset => exact .kept rfl

/-- So does every run of calls under the same parameters. -/
theorem PlannerStep.windowStepped_run {K : Type} [ControlNumber K]
    {first last : ClockedPlanner K} {events : List (PlannerEvent K)}
    {parameters : ActuatorPlannerParameters} (hrun : Steps PlannerStep first events last)
    (hbound : ∀ event ∈ events, event.before.parameters = parameters) :
    ActuatorPlannerRuntimeState.WindowStepped parameters first.planner.state
      last.planner.state := by
  induction hrun with
  | start => exact .refl
  | @step labels middle event last hrun hlast ih =>
      have hearlier := ih fun event hevent => hbound event (List.mem_append_left _ hevent)
      have hevent := hbound event (List.mem_append_right _ List.mem_cons_self)
      have hstepped := hlast.windowStepped
      have hbefore : event.before = middle.planner := by
        cases hlast
        rfl
      rw [← hbefore, hevent, hbefore] at hstepped
      exact hearlier.trans hstepped

/-- A planner without credit delivers what is requested of it, as long as its parameters
stay. -/
theorem PlannerStep.delivers {K : Type} [Field K] [LinearOrder K] [IsStrictOrderedRing K]
    [FloorRing K] {first last : ClockedPlanner K} {events : List (PlannerEvent K)}
    {parameters : ActuatorPlannerParameters} (hrun : Steps PlannerStep first events last)
    (hvalid : classifyActuatorPlannerParameters parameters = .valid)
    (hbound : ∀ event ∈ events, event.before.parameters = parameters)
    (hempty : first.planner.state.accumulator = ActuatorPlannerRuntimeState.emptyAccumulator) :
    ∃ windows, Steps (ActuatorPlannerRuntimeState.WindowStep parameters) first.planner.state
        windows last.planner.state ∧
      ActuatorPlannerRuntimeState.Delivers parameters first.planner.state windows
        last.planner.state := by
  obtain ⟨windows, hwindows⟩ := PlannerStep.windowStepped_run hrun hbound
  refine ⟨windows, hwindows, ActuatorPlannerRuntimeState.steps_deliver hvalid hwindows ?_⟩
  rw [ActuatorPlannerRuntimeState.Saving, ActuatorPlannerRuntimeState.saved, hempty]
  exact Bank.sound_zero

end Fermentationsschrank

import Fermentationsschrank.Control.PlannerOutput

/-!
# Stages of a tick

Each function of the planner that touches the output, as a stage in the sense of
`OutputStep`.
-/

namespace Fermentationsschrank

variable {K : Type} [ControlNumber K]

theorem toNat_min_le_right {left right : UInt64} :
    (min left right).toNat ≤ right.toNat := by
  rw [show min left right = if left ≤ right then left else right from rfl]
  split
  · exact UInt64.le_iff_toNat_le.mp ‹_›
  · exact le_rfl

/-- What valid parameters say about the windows. -/
theorem window_of_valid {parameters : ActuatorPlannerParameters}
    (h : classifyActuatorPlannerParameters parameters = .valid) :
    0 < parameters.switchingWindowMillis ∧
      parameters.minimumOnMillis ≤ parameters.switchingWindowMillis ∧
      0 < parameters.minimumOffMillis := by
  rw [classifyActuatorPlannerParameters] at h
  split at h
  · cases h
  · split at h
    · rename_i hvalid
      exact ⟨hvalid.1, hvalid.2.2.1, hvalid.2.2.2.1⟩
    · cases h

namespace ActuatorPlannerRuntimeState

variable {state : ActuatorPlannerRuntimeState K} {parameters : ActuatorPlannerParameters}
variable {command : AcceptedControlCommand K} {now : UInt64}
variable {window : ActiveSwitchingWindow}

/-! ## The output of a state -/

def output (state : ActuatorPlannerRuntimeState K) : PhysicalOutput where
  window := state.activeWindow
  direction := state.lastAppliedDirection
  onSince := state.currentOnPhaseStartedAtMonotonicMillis
  lastOffDirection := state.lastPhysicalDeactivationDirection
  lastOffAt := state.lastPhysicalDeactivationAtMonotonicMillis

omit [ControlNumber K] in
@[simp]
theorem output_setPhysicalDirection {next : AbstractControlDirection} :
    (state.setPhysicalDirection parameters next now).output =
      state.output.switch next now := by
  rw [setPhysicalDirection, PhysicalOutput.switch]
  by_cases hsame : state.lastAppliedDirection = next
  · rw [if_pos hsame, if_pos (show state.output.direction = next from hsame)]
  · rw [if_neg hsame, if_neg (show state.output.direction ≠ next from hsame)]
    by_cases hidle : state.lastAppliedDirection = .idle
    · have hnext : next ≠ .idle := fun hnext => hsame (hidle.trans hnext.symm)
      simp [output, hidle, hnext, activated]
    · by_cases hnext : next = .idle
      · simp [output, hidle, hnext, deactivated]
      · simp [output, hidle, hnext, activated, deactivated]

omit [ControlNumber K] in
theorem output_activeWindow {next : Option ActiveSwitchingWindow} :
    ({ state with activeWindow := next } : ActuatorPlannerRuntimeState K).output =
      state.output.withWindow next := rfl

omit [ControlNumber K] in
@[simp]
theorem output_updateFanState {phase : Bool} :
    (state.updateFanState parameters now phase).output = state.output := rfl

@[simp]
theorem output_clearPlanningState :
    state.clearPlanningState.output = state.output.withWindow none := rfl

omit [ControlNumber K] in
@[simp]
theorem output_mergeFeedbackForDemand {reason : ActuatorPlanReason} :
    (state.mergeFeedbackForDemand command reason).output = state.output := rfl

@[simp]
theorem output_dropWindow :
    state.dropWindow.output = state.output.withWindow none := rfl

omit [ControlNumber K] in
@[simp]
theorem output_endedForDemand {status : ActuatorPlanStatus} {reason : ActuatorPlanReason}
    {admission : ActuatorAdmissionOutcome} :
    (state.endedForDemand command status reason admission).2.output = state.output := rfl

@[simp]
theorem output_observeCounterDirection {reference : AbstractControlDirection} :
    (state.observeCounterDirection parameters reference command now).output =
      state.output := by
  rw [observeCounterDirection]
  simp only
  split <;> rfl

omit [ControlNumber K] in
theorem armingAllowed_iff {direction : AbstractControlDirection} {time : UInt64} :
    state.armingAllowed parameters direction time = true ↔
      state.output.Rested parameters direction time.toNat := by
  rw [armingAllowed, PhysicalOutput.Rested]
  cases hoff : state.lastPhysicalDeactivationAtMonotonicMillis with
  | none => simp [output, hoff]
  | some offAt =>
      by_cases hsame : state.lastPhysicalDeactivationDirection = some direction
      · simp [output, hoff, hsame, deadlineReached_iff]
      · simp [output, hoff, hsame, deadlineReached_iff]

/-! ## A fresh window -/

/-- A fresh window waits for its first attempt, and its pulse fits into it. -/
structure Opens (parameters : ActuatorPlannerParameters)
    (command : AcceptedControlCommand K) (start : UInt64) (window : ActiveSwitchingWindow) :
    Prop where
  start : window.startMonotonicMillis = start
  direction : window.direction = command.direction
  waiting : window.pulseStartAttempted = false
  pending : window.pulseStartedSuccessfully = false
  fits : window.scheduledOnMillis.toNat ≤ parameters.switchingWindowMillis.toNat

theorem output_startFreshWindow {start : UInt64}
    (hvalid : parameters.minimumOnMillis ≤ parameters.switchingWindowMillis) :
    ∃ window, Opens parameters command start window ∧
      (state.startFreshWindow parameters command start).output =
        state.output.withWindow (some window) := by
  have hfits := UInt64.le_iff_toNat_le.mp hvalid
  rw [startFreshWindow]
  simp only
  split
  · refine ⟨_, ⟨rfl, rfl, rfl, rfl, ?_⟩, rfl⟩
    exact toNat_min_le_right
  · split
    · split
      · exact ⟨_, ⟨rfl, rfl, rfl, rfl, hfits⟩, rfl⟩
      · exact ⟨_, ⟨rfl, rfl, rfl, rfl, Nat.zero_le _⟩, rfl⟩
    · exact ⟨_, ⟨rfl, rfl, rfl, rfl, Nat.zero_le _⟩, rfl⟩

/-! ## A tick of a window -/

/-- How a window answers a tick. -/
inductive WindowAnswers (state : ActuatorPlannerRuntimeState K)
    (parameters : ActuatorPlannerParameters) (window : ActiveSwitchingWindow)
    (now : UInt64) : WindowPhysicalTick → Prop
  | empty {reason} (hnone : window.scheduledOnMillis = 0) :
      WindowAnswers state parameters window now ⟨false, reason, window⟩
  | missed {reason} (hsome : window.scheduledOnMillis ≠ 0)
      (hwaiting : window.pulseStartAttempted = false) :
      WindowAnswers state parameters window now
        ⟨false, reason, { window with pulseStartAttempted := true }⟩
  | starts {reason} (hsome : window.scheduledOnMillis ≠ 0)
      (hwaiting : window.pulseStartAttempted = false)
      (harmed : state.armingAllowed parameters window.direction
        window.startMonotonicMillis = true)
      (hlong : now.toNat + parameters.minimumOnMillis.toNat ≤ window.naturalEnd) :
      WindowAnswers state parameters window now ⟨true, reason, { window with
        pulseStartAttempted := true
        pulseStartedSuccessfully := true }⟩
  | runs {reason} (hattempted : window.pulseStartAttempted = true)
      (hstarted : window.pulseStartedSuccessfully = true)
      (hbefore : now.toNat < window.naturalEnd) :
      WindowAnswers state parameters window now ⟨true, reason, window⟩
  | ended {reason} (hattempted : window.pulseStartAttempted = true)
      (hover : window.pulseStartedSuccessfully = true → window.naturalEnd ≤ now.toNat) :
      WindowAnswers state parameters window now ⟨false, reason, window⟩

omit [ControlNumber K] in
theorem applyWindowPhysicalTick_answers
    (hstart : window.startMonotonicMillis.toNat ≤ now.toNat) :
    WindowAnswers state parameters window now
      (state.applyWindowPhysicalTick parameters window now) := by
  have helapsed := toNat_elapsed hstart
  rw [applyWindowPhysicalTick]
  simp only
  split
  · rename_i hnone
    exact .empty hnone
  rename_i hsome
  split
  · rename_i hwaiting
    rw [Bool.not_eq_true'] at hwaiting
    split
    · exact .missed hsome hwaiting
    rename_i hactive
    split
    · exact .missed hsome hwaiting
    rename_i harmed
    split
    · exact .missed hsome hwaiting
    rename_i hremaining
    rw [Bool.not_eq_true, Bool.not_eq_false', decide_eq_true_eq, UInt64.lt_iff_toNat_lt,
      helapsed] at hactive
    rw [Bool.not_eq_true, Bool.not_eq_false'] at harmed
    rw [UInt64.lt_iff_toNat_lt, toNat_elapsed (by omega), helapsed] at hremaining
    refine .starts hsome hwaiting harmed ?_
    rw [ActiveSwitchingWindow.naturalEnd]
    omega
  · rename_i hattempted
    rw [Bool.not_eq_true, Bool.not_eq_false'] at hattempted
    split
    · rename_i hstarted
      by_cases hbefore : now.toNat < window.naturalEnd
      · have hactive : now - window.startMonotonicMillis < window.scheduledOnMillis := by
          rw [UInt64.lt_iff_toNat_lt, helapsed]
          rw [ActiveSwitchingWindow.naturalEnd] at hbefore
          omega
        rw [decide_eq_true hactive]
        exact .runs hattempted hstarted hbefore
      · have hpassive : ¬now - window.startMonotonicMillis < window.scheduledOnMillis := by
          rw [UInt64.lt_iff_toNat_lt, helapsed]
          rw [ActiveSwitchingWindow.naturalEnd] at hbefore
          omega
        rw [decide_eq_false hpassive]
        exact .ended hattempted fun _ => not_lt.mp hbefore
    · rename_i hfailed
      exact .ended hattempted fun hstarted => absurd hstarted hfailed

/-! ## The output follows its window -/

omit [ControlNumber K] in
theorem output_followWindow_active {tick : WindowPhysicalTick} (h : tick.active = true) :
    (state.followWindow parameters tick now).output =
      (state.output.switch tick.window.direction now).withWindow (some tick.window) := by
  rw [followWindow, if_pos h, output_setPhysicalDirection, output_activeWindow,
    PhysicalOutput.switch_withWindow]

omit [ControlNumber K] in
theorem output_followWindow_passive {tick : WindowPhysicalTick} (h : tick.active = false)
    (hdirection : state.lastAppliedDirection = .idle ∨
      state.lastAppliedDirection = tick.window.direction) :
    (state.followWindow parameters tick now).output =
      (state.output.switch .idle now).withWindow (some tick.window) := by
  rw [followWindow, if_neg (by simp [h])]
  split
  · rw [output_setPhysicalDirection, output_activeWindow,
      PhysicalOutput.switch_withWindow]
  · rename_i hother
    have hidle : state.output.direction = .idle := hdirection.resolve_right hother
    rw [← hidle, PhysicalOutput.switch_self]
    rfl

omit [ControlNumber K] in
theorem stage_followWindow (hsound : state.output.Sound now)
    (hwindow : state.activeWindow = some window) (hfits : state.output.Fits parameters) :
    Stage parameters now state.output
      (state.followWindow parameters (state.applyWindowPhysicalTick parameters window now)
        now).output := by
  have hstart := hsound.started window hwindow
  have hanswers : WindowAnswers state parameters window now _ :=
    applyWindowPhysicalTick_answers hstart
  generalize state.applyWindowPhysicalTick parameters window now = tick at hanswers
  -- An output that is on belongs to this window, whose guarantee reaches the present.
  have hguaranteed (hon : state.output.direction ≠ .idle)
      (h : state.output.Guaranteed parameters) := h hon window
  have hside := hsound.idle_or_windowed hwindow
  have hbegun := hsound.begun window hwindow
  cases hanswers with
  | @empty reason hnone =>
      rw [output_followWindow_passive rfl hside]
      have hover : window.naturalEnd ≤ now.toNat := by
        rw [ActiveSwitchingWindow.naturalEnd, hnone]
        simpa using hstart
      exact Stage.passive hsound hwindow rfl rfl (fun _ => hnone) hbegun (fun _ => hover)
        fun hon h on hsince => (hguaranteed hon h on hwindow hsince).1.trans hover
  | @missed reason hsome hwaiting =>
      rw [output_followWindow_passive rfl hside]
      have hpending (hstarted : window.pulseStartedSuccessfully = true) : False := by
        have hattempted := hbegun hstarted
        rw [hwaiting] at hattempted
        cases hattempted
      exact Stage.passive hsound hwindow rfl rfl nofun (fun _ => rfl)
        (fun hstarted => (hpending hstarted).elim)
        fun hon h on hsince => ((hguaranteed hon h on hwindow hsince).2.2 hwaiting).trans hstart
  | @starts reason hsome hwaiting harmed hlong =>
      rw [output_followWindow_active rfl]
      refine Stage.active hsound hwindow rfl rfl rfl rfl
        (fun _ => (armingAllowed_iff.mp harmed).mono hstart) fun h hon next on hnext hsince => ?_
      cases hnext
      refine ⟨?_, hfits window hwindow hwaiting, nofun⟩
      by_cases hidle : state.output.direction = .idle
      · have hnow : on = now := by
          rw [PhysicalOutput.onSince_withWindow,
            PhysicalOutput.onSince_switch_on hidle (hsound.directed window hwindow)] at hsince
          exact (Option.some.inj hsince).symm
        rw [hnow]
        exact hlong
      · rw [PhysicalOutput.onSince_withWindow, ← hside.resolve_left hidle,
          PhysicalOutput.switch_self] at hsince
        exact (hguaranteed hidle h on hwindow hsince).1
  | @runs reason hattempted hstarted hbefore =>
      rw [output_followWindow_active rfl]
      have hon : state.output.direction ≠ .idle := fun hidle =>
        absurd (hsound.rested hidle window hwindow hstarted) (not_le.mpr hbefore)
      have hsame := hside.resolve_left hon
      refine Stage.active hsound hwindow rfl rfl hattempted hstarted
        (fun hidle => absurd hidle hon) fun h _ next on hnext hsince => ?_
      cases hnext
      rw [PhysicalOutput.onSince_withWindow, ← hsame, PhysicalOutput.switch_self] at hsince
      exact hguaranteed hon h on hwindow hsince
  | @ended reason hattempted hover =>
      rw [output_followWindow_passive rfl hside]
      refine Stage.passive hsound hwindow rfl rfl
        (fun hwaiting => by rw [hattempted] at hwaiting; cases hwaiting) hbegun hover
        fun hon h on hsince => ?_
      obtain ⟨found, _, hfound, -, -, hpulse⟩ := hsound.windowed hon
      obtain rfl : window = found := Option.some.inj (hwindow.symm.trans hfound)
      have hstarted := hpulse.resolve_right (by simp [hattempted])
      exact (hguaranteed hon h on hwindow hsince).1.trans (hover hstarted)

/-! ## The stages of a demand -/

/-- Up to the service of the window a pulse may wait in a window of the demand. -/
structure Advanced (parameters : ActuatorPlannerParameters)
    (desired : AbstractControlDirection) (now : UInt64) (before after : PhysicalOutput) :
    Prop where
  step : OutputStep parameters now before after
  still : before.direction = .idle → after.direction = .idle
  sound : after.Sound now
  fits : after.Fits parameters
  opposed : ∀ window, after.window = some window → window.direction ≠ desired →
    window.pulseStartAttempted = false → window.scheduledOnMillis = 0

theorem Advanced.refl {output : PhysicalOutput} {desired : AbstractControlDirection}
    (hsound : output.Sound now) (hsettled : output.Settled) :
    Advanced parameters desired now output output where
  step := .refl
  still := id
  sound := hsound
  fits := hsettled.fits
  opposed window hwindow _ := hsettled window hwindow

/-- An output without a window is off. -/
theorem Advanced.dropped {output : PhysicalOutput} {desired : AbstractControlDirection}
    (hlong : output.direction ≠ .idle → output.Guaranteed parameters → ∀ on,
      output.onSince = some on →
        on.toNat + parameters.minimumOnMillis.toNat ≤ now.toNat) :
    Advanced parameters desired now output ((output.switch .idle now).withWindow none) where
  step := by
    by_cases hidle : output.direction = .idle
    · rw [← hidle, PhysicalOutput.switch_self]
      exact OutputStep.keeps fun _ hon => absurd hidle hon
    · exact OutputStep.stops hidle (hlong hidle)
  still _ := PhysicalOutput.direction_switch
  sound := {
    windowed := fun hon => absurd PhysicalOutput.direction_switch hon
    directed := nofun
    started := nofun
    begun := nofun
    rested := nofun }
  fits := nofun
  opposed := nofun

omit [ControlNumber K] in
/-- A fresh window under an output that is off, or on for the minimum on time. -/
theorem Advanced.opened {output : PhysicalOutput} {start : UInt64}
    (hsound : output.Sound now) (hdirection : command.direction ≠ .idle)
    (hopens : Opens parameters command start window) (hstart : start.toNat ≤ now.toNat)
    (hsame : output.direction ≠ .idle → output.direction = command.direction)
    (hlong : output.direction ≠ .idle → output.Guaranteed parameters → ∀ on,
      output.onSince = some on →
        on.toNat + parameters.minimumOnMillis.toNat ≤ start.toNat) :
    Advanced parameters command.direction now output (output.withWindow (some window)) where
  step := by
    refine OutputStep.keeps fun h hon next on hnext hsince => ?_
    cases hnext
    have hreached := hlong hon h on hsince
    rw [ActiveSwitchingWindow.naturalEnd, hopens.start]
    exact ⟨by omega, hopens.fits, fun _ => hreached⟩
  still := id
  sound := {
    windowed := fun hon => by
      obtain ⟨_, on, -, -, hsince, -⟩ := hsound.windowed hon
      exact ⟨window, on, rfl, hopens.direction.trans (hsame hon).symm, hsince,
        .inr hopens.waiting⟩
    directed := by
      rintro _ ⟨⟩
      rw [hopens.direction]
      exact hdirection
    started := by
      rintro _ ⟨⟩
      rw [hopens.start]
      exact hstart
    begun := by
      rintro _ ⟨⟩ hstarted
      rw [hopens.pending] at hstarted
      cases hstarted
    rested := by
      rintro - _ ⟨⟩ hstarted
      rw [hopens.pending] at hstarted
      cases hstarted }
  fits := by
    rintro _ ⟨⟩ -
    exact hopens.fits
  opposed := by
    rintro _ ⟨⟩ hother
    exact absurd hopens.direction hother

theorem output_dropped (hsound : state.output.Sound now)
    (hwindow : state.activeWindow = some window)
    (hother : state.lastAppliedDirection ≠ window.direction) :
    state.dropWindow.output = (state.output.switch .idle now).withWindow none := by
  have hidle : state.output.direction = .idle :=
    (hsound.idle_or_windowed hwindow).resolve_right hother
  rw [output_dropWindow, ← hidle, PhysicalOutput.switch_self]

theorem advanceWindow_advanced
    (hvalid : classifyActuatorPlannerParameters parameters = .valid)
    (hsound : state.output.Sound now) (hsettled : state.output.Settled)
    (hdirection : command.direction ≠ .idle) :
    Advanced parameters command.direction now state.output
      (state.advanceWindow parameters command now).output := by
  obtain ⟨hlength, hfits, -⟩ := window_of_valid hvalid
  have hlength := UInt64.lt_iff_toNat_lt.mp hlength
  rw [advanceWindow]
  cases hwindow : state.activeWindow with
  | none => exact .refl hsound hsettled
  | some window =>
      simp only
      have hstart := hsound.started window hwindow
      split
      · rename_i hended
        have hended := UInt64.le_iff_toNat_le.mp hended
        rw [toNat_elapsed hstart] at hended
        -- The pulse of the old window was over before the boundary.
        have hover (hon : state.output.direction ≠ .idle)
            (h : state.output.Guaranteed parameters) (on : UInt64)
            (hsince : state.output.onSince = some on) :
            on.toNat + parameters.minimumOnMillis.toNat ≤
              window.startMonotonicMillis.toNat +
                parameters.switchingWindowMillis.toNat := by
          obtain ⟨hnatural, hscheduled, -⟩ := h hon window on hwindow hsince
          rw [ActiveSwitchingWindow.naturalEnd] at hnatural
          omega
        split
        · rename_i hsame
          have hrebased := @toNat_rebasedStart _ _ parameters.switchingWindowMillis hstart
          have hone : 1 ≤ (now.toNat - window.startMonotonicMillis.toNat) /
              parameters.switchingWindowMillis.toNat :=
            (Nat.one_le_div_iff hlength).mpr hended
          have hlow := Nat.mul_le_mul_right parameters.switchingWindowMillis.toNat hone
          have hhigh := Nat.div_mul_le_self
            (now.toNat - window.startMonotonicMillis.toNat)
            parameters.switchingWindowMillis.toNat
          obtain ⟨fresh, hopens, hfresh⟩ := @output_startFreshWindow K _ state _ command
            (window.startMonotonicMillis + (now - window.startMonotonicMillis) /
              parameters.switchingWindowMillis * parameters.switchingWindowMillis) hfits
          rw [hfresh]
          refine .opened hsound hdirection hopens (by omega) (fun hon => ?_)
            fun hon h on hsince => (hover hon h on hsince).trans (by omega)
          exact ((hsound.idle_or_windowed hwindow).resolve_left hon).trans hsame
        · split
          · rw [output_setPhysicalDirection, output_dropWindow,
              PhysicalOutput.switch_withWindow]
            exact .dropped fun hon h on hsince => (hover hon h on hsince).trans (by omega)
          · rename_i hother
            rw [output_dropped hsound hwindow hother]
            exact .dropped fun hon h on hsince => (hover hon h on hsince).trans (by omega)
      · exact .refl hsound hsettled

theorem Advanced.trans {before middle after : PhysicalOutput}
    {desired : AbstractControlDirection} (hoff : 0 < parameters.minimumOffMillis)
    (hfirst : Advanced parameters desired now before middle)
    (hsecond : Advanced parameters desired now middle after) :
    Advanced parameters desired now before after where
  step := hfirst.step.trans hoff hsecond.step hfirst.still
  still := hsecond.still ∘ hfirst.still
  sound := hsecond.sound
  fits := hsecond.fits
  opposed := hsecond.opposed

theorem Advanced.stage {before middle after : PhysicalOutput}
    {desired : AbstractControlDirection} (hoff : 0 < parameters.minimumOffMillis)
    (hfirst : Advanced parameters desired now before middle)
    (hsecond : Stage parameters now middle after) : Stage parameters now before after where
  step := hfirst.step.trans hoff hsecond.step hfirst.still
  sound := hsecond.sound
  settled := hsecond.settled

omit [ControlNumber K] in
theorem long_of_minimumOnReached (h : state.minimumOnReached parameters now = true)
    (on : UInt64) (hsince : state.output.onSince = some on) :
    on.toNat + parameters.minimumOnMillis.toNat ≤ now.toNat := by
  have hsince : state.currentOnPhaseStartedAtMonotonicMillis = some on := hsince
  rw [minimumOnReached, hsince] at h
  exact deadlineReached_iff.mp h

/-- The stage of a demand either ends the tick or leaves the window to be served. -/
def Settles (parameters : ActuatorPlannerParameters) (desired : AbstractControlDirection)
    (now : UInt64) (before : PhysicalOutput) :
    Except (TickOutcome K) (ActuatorPlannerRuntimeState K) → Prop
  | .error outcome => Stage parameters now before outcome.2.output
  | .ok settled => Advanced parameters desired now before settled.output

omit [ControlNumber K] in
/-- An empty window that is asked while its output is held stays as it is. -/
theorem held_output (hsound : state.output.Sound now)
    (hwindow : state.activeWindow = some window)
    (hempty : window.pulseStartAttempted = false → window.scheduledOnMillis = 0) :
    state.output.withWindow
      (some (state.applyWindowPhysicalTick parameters window now).window) =
        state.output := by
  have hsame : state.output.withWindow (some window) = state.output := by
    rw [← hwindow]
    rfl
  have hanswers : WindowAnswers state parameters window now _ :=
    applyWindowPhysicalTick_answers (hsound.started window hwindow)
  generalize state.applyWindowPhysicalTick parameters window now = tick at hanswers ⊢
  cases hanswers with
  | empty | runs | ended => exact hsame
  | missed hsome hwaiting => exact absurd (hempty hwaiting) hsome
  | starts hsome hwaiting => exact absurd (hempty hwaiting) hsome

omit [ControlNumber K] in
/-- An output in the direction of its window is held by switching it to that direction. -/
theorem output_held {tick : WindowPhysicalTick}
    (hon : state.lastAppliedDirection = window.direction) :
    (if tick.active then
      ({ state with activeWindow := some tick.window } : ActuatorPlannerRuntimeState K)
        |>.setPhysicalDirection parameters window.direction now
    else { state with activeWindow := some tick.window }).output =
      state.output.withWindow (some tick.window) := by
  split
  · rw [output_setPhysicalDirection, output_activeWindow, ← hon]
    exact PhysicalOutput.switch_self
  · rfl

theorem governOpposedWindow_settles {desired : AbstractControlDirection}
    {admission : ActuatorAdmissionOutcome} (hsound : state.output.Sound now)
    (hfits : state.output.Fits parameters) (hwindow : state.activeWindow = some window)
    (hempty : window.pulseStartAttempted = false → window.scheduledOnMillis = 0) :
    Settles parameters desired now state.output
      (state.governOpposedWindow parameters window command admission now) := by
  rw [governOpposedWindow]
  simp only
  split
  · split
    · rename_i hon
      split
      · simp only [Settles, output_endedForDemand]
        rw [output_held hon, held_output hsound hwindow hempty]
        refine ⟨.refl, hsound, fun found hfound => ?_⟩
        obtain rfl : window = found := Option.some.inj (hwindow.symm.trans hfound)
        exact hempty
      · rename_i hreached
        rw [Bool.not_eq_true', Bool.not_eq_false] at hreached
        have hdropped : Advanced parameters desired now state.output _ :=
          .dropped fun _ _ => long_of_minimumOnReached hreached
        simp only [Settles, output_endedForDemand, output_dropWindow,
          output_setPhysicalDirection]
        exact ⟨hdropped.step, hdropped.sound, nofun⟩
    · rename_i hother
      simp only [Settles]
      rw [output_dropped hsound hwindow hother]
      have hidle : state.output.direction = .idle :=
        (hsound.idle_or_windowed hwindow).resolve_right hother
      exact .dropped fun hon => absurd hidle hon
  · exact stage_followWindow hsound hwindow hfits

theorem openWindow_settles {reference : AbstractControlDirection}
    {admission : ActuatorAdmissionOutcome}
    (hvalid : classifyActuatorPlannerParameters parameters = .valid)
    (hsound : state.output.Sound now) (hnone : state.activeWindow = none)
    (hdirection : command.direction ≠ .idle) :
    Settles parameters command.direction now state.output
      (state.openWindow parameters reference command admission now) := by
  obtain ⟨-, hfits, -⟩ := window_of_valid hvalid
  have hidle : state.output.direction = .idle := hsound.idle_of_none hnone
  have hrefused : Stage parameters now state.output state.output :=
    ⟨.refl, hsound, fun window hwindow => by
      rw [show state.output.window = none from hnone] at hwindow
      cases hwindow⟩
  obtain ⟨fresh, hopens, hfresh⟩ :=
    @output_startFreshWindow K _ state parameters command now hfits
  have hopened : Advanced parameters command.direction now state.output
      (state.startFreshWindow parameters command now).output := by
    rw [hfresh]
    exact .opened hsound hdirection hopens le_rfl (fun hon => absurd hidle hon)
      fun hon => absurd hidle hon
  rw [openWindow]
  simp only
  split
  · split
    · exact hrefused
    · split
      · exact hrefused
      · exact hopened
  · split
    · exact hrefused
    · exact hopened

theorem settleWindow_settles {reference : AbstractControlDirection}
    {admission : ActuatorAdmissionOutcome}
    (hvalid : classifyActuatorPlannerParameters parameters = .valid)
    (hsound : state.output.Sound now) (hfits : state.output.Fits parameters)
    (hopposed : ∀ window, state.output.window = some window →
      window.direction ≠ command.direction →
      window.pulseStartAttempted = false → window.scheduledOnMillis = 0)
    (hdirection : command.direction ≠ .idle) :
    Settles parameters command.direction now state.output
      (state.settleWindow parameters reference command admission now) := by
  obtain ⟨-, -, hoff⟩ := window_of_valid hvalid
  have hopen {middle : ActuatorPlannerRuntimeState K}
      (h : Advanced parameters command.direction now state.output middle.output) :
      Settles parameters command.direction now state.output
        (if middle.activeWindow.isNone then
          middle.openWindow parameters reference command admission now
        else .ok middle) := by
    split
    · rename_i hnone
      have hnext : Settles parameters _ now _
          (middle.openWindow parameters reference command admission now) :=
        openWindow_settles hvalid h.sound (Option.isNone_iff_eq_none.mp hnone) hdirection
      revert hnext
      cases middle.openWindow parameters reference command admission now with
      | error outcome => exact fun hnext => h.stage hoff hnext
      | ok settled => exact fun hnext => h.trans hoff hnext
    · exact h
  have hrefl : Advanced parameters command.direction now state.output state.output :=
    ⟨.refl, id, hsound, hfits, hopposed⟩
  rw [settleWindow]
  cases hwindow : state.activeWindow with
  | none => exact hopen hrefl
  | some window =>
      simp only
      split
      · rename_i hother
        have hgoverned : Settles parameters command.direction now _
            (state.governOpposedWindow parameters window command admission now) :=
          governOpposedWindow_settles hsound hfits hwindow (hopposed window hwindow hother)
        revert hgoverned
        cases state.governOpposedWindow parameters window command admission now with
        | error outcome => exact id
        | ok settled => exact fun hgoverned => hopen hgoverned
      · exact hopen hrefl

/-- What a demand does once its window has been advanced. -/
def serveDemand (state : ActuatorPlannerRuntimeState K) (parameters : ActuatorPlannerParameters)
    (reference : AbstractControlDirection) (command : AcceptedControlCommand K)
    (admission : ActuatorAdmissionOutcome) (now : UInt64) : TickOutcome K :=
  match state.settleWindow parameters reference command admission now with
  | .error outcome => outcome
  | .ok settled =>
      match settled.activeWindow with
      | some window => settled.serveWindow parameters window command admission now
      | none => settled.ended .idle .neutralIdle admission

theorem evaluateHeatingCoolingDemand_eq {admission : ActuatorAdmissionOutcome} :
    state.evaluateHeatingCoolingDemand parameters command admission now =
      ((state.advanceWindow parameters command now).observeCounterDirection parameters
        state.referenceDirection command now).serveDemand parameters state.referenceDirection
          command admission now := rfl

theorem serveDemand_stage {reference : AbstractControlDirection}
    {admission : ActuatorAdmissionOutcome}
    (hvalid : classifyActuatorPlannerParameters parameters = .valid)
    (hsound : state.output.Sound now) (hfits : state.output.Fits parameters)
    (hopposed : ∀ window, state.output.window = some window →
      window.direction ≠ command.direction →
      window.pulseStartAttempted = false → window.scheduledOnMillis = 0)
    (hdirection : command.direction ≠ .idle) :
    Stage parameters now state.output
      (state.serveDemand parameters reference command admission now).2.output := by
  obtain ⟨-, -, hoff⟩ := window_of_valid hvalid
  have hsettles : Settles parameters _ now _
      (state.settleWindow parameters reference command admission now) :=
    settleWindow_settles hvalid hsound hfits hopposed hdirection
  rw [serveDemand]
  revert hsettles
  cases state.settleWindow parameters reference command admission now with
  | error outcome => exact id
  | ok settled =>
      intro hserved
      cases hwindow : settled.activeWindow with
      | none =>
          simp only [hwindow]
          refine ⟨hserved.step, hserved.sound, fun window hsome => ?_⟩
          cases hwindow.symm.trans hsome
      | some window =>
          simp only [hwindow]
          exact hserved.stage hoff (stage_followWindow hserved.sound hwindow hserved.fits)

theorem observed_advanced {reference : AbstractControlDirection}
    (hvalid : classifyActuatorPlannerParameters parameters = .valid)
    (hsound : state.output.Sound now) (hsettled : state.output.Settled)
    (hdirection : command.direction ≠ .idle) :
    Advanced parameters command.direction now state.output
      ((state.advanceWindow parameters command now).observeCounterDirection parameters
        reference command now).output := by
  rw [output_observeCounterDirection]
  exact advanceWindow_advanced hvalid hsound hsettled hdirection

theorem evaluateHeatingCoolingDemand_stage {admission : ActuatorAdmissionOutcome}
    (hvalid : classifyActuatorPlannerParameters parameters = .valid)
    (hsound : state.output.Sound now) (hsettled : state.output.Settled)
    (hdirection : command.direction ≠ .idle) :
    Stage parameters now state.output
      (state.evaluateHeatingCoolingDemand parameters command admission now).2.output := by
  obtain ⟨-, -, hoff⟩ := window_of_valid hvalid
  have hadvanced : Advanced parameters command.direction now state.output
      ((state.advanceWindow parameters command now).observeCounterDirection parameters
        state.referenceDirection command now).output :=
    observed_advanced hvalid hsound hsettled hdirection
  rw [evaluateHeatingCoolingDemand_eq]
  exact hadvanced.stage hoff (serveDemand_stage hvalid hadvanced.sound hadvanced.fits
    hadvanced.opposed hdirection)

end ActuatorPlannerRuntimeState

end Fermentationsschrank

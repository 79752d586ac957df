import Fermentationsschrank.Control.ActuatorPlanner

/-!
# What a tick does to the output

The output of the planner is its direction, the window it follows and the times it was
last switched at.  A tick that is not rejected takes the output through stages; each of
them keeps the direction, ends an on-phase that has been long enough, or starts one after
a rest that has been long enough.
-/

namespace Fermentationsschrank

/-! ## Times as numbers -/

theorem deadlineReached_iff {now since duration : UInt64} :
    deadlineReached now since duration = true ↔
      since.toNat + duration.toNat ≤ now.toNat := by
  rw [deadlineReached]
  split
  · rename_i hbefore
    have hbefore := UInt64.lt_iff_toNat_lt.mp hbefore
    simp only [Bool.false_eq_true, false_iff, not_le]
    omega
  · rename_i hbefore
    have hafter : since ≤ now := UInt64.not_lt.mp hbefore
    have hle := UInt64.le_iff_toNat_le.mp hafter
    rw [decide_eq_true_eq, UInt64.le_iff_toNat_le, UInt64.toNat_sub_of_le _ _ hafter]
    omega

theorem toNat_elapsed {now since : UInt64} (h : since.toNat ≤ now.toNat) :
    (now - since).toNat = now.toNat - since.toNat :=
  UInt64.toNat_sub_of_le _ _ (UInt64.le_iff_toNat_le.mpr h)

/-- The last window boundary before `now`. -/
theorem toNat_rebasedStart {start now length : UInt64} (h : start.toNat ≤ now.toNat) :
    (start + (now - start) / length * length).toNat =
      start.toNat + (now.toNat - start.toNat) / length.toNat * length.toNat := by
  have hdiv := Nat.div_mul_le_self (now.toNat - start.toNat) length.toNat
  have hnow := now.toNat_lt
  have hmul : ((now - start) / length * length).toNat =
      (now.toNat - start.toNat) / length.toNat * length.toNat := by
    rw [UInt64.toNat_mul, UInt64.toNat_div, toNat_elapsed h, Nat.mod_eq_of_lt (by omega)]
  rw [UInt64.toNat_add, hmul, Nat.mod_eq_of_lt (by omega)]

/-! ## The output -/

structure PhysicalOutput where
  window : Option ActiveSwitchingWindow
  direction : AbstractControlDirection
  onSince : Option UInt64
  lastOffDirection : Option AbstractControlDirection
  lastOffAt : Option UInt64

/-- The time at which the pulse of the window ends by itself. -/
def ActiveSwitchingWindow.naturalEnd (window : ActiveSwitchingWindow) : ℕ :=
  window.startMonotonicMillis.toNat + window.scheduledOnMillis.toNat

namespace PhysicalOutput

variable (output : PhysicalOutput) (parameters : ActuatorPlannerParameters)

def switch (next : AbstractControlDirection) (now : UInt64) : PhysicalOutput :=
  if output.direction = next then output
  else { output with
    direction := next
    onSince := if next = .idle then none else some now
    lastOffDirection := if output.direction = .idle then output.lastOffDirection
      else some output.direction
    lastOffAt := if output.direction = .idle then output.lastOffAt else some now }

def withWindow (window : Option ActiveSwitchingWindow) : PhysicalOutput :=
  { output with window }

/-- The direction may be switched on again. -/
def Rested (direction : AbstractControlDirection) (time : ℕ) : Prop :=
  ∀ offAt, output.lastOffAt = some offAt →
    offAt.toNat + parameters.minimumOffMillis.toNat ≤ time ∧
    (output.lastOffDirection ≠ some direction →
      offAt.toNat + parameters.polarityDeadTimeMillis.toNat ≤ time)

/-- An output that is on belongs to a window of its direction, and the pulse of a
window that has stopped is over. -/
structure Sound (now : UInt64) : Prop where
  windowed : output.direction ≠ .idle → ∃ window on, output.window = some window ∧
    window.direction = output.direction ∧ output.onSince = some on ∧
    (window.pulseStartedSuccessfully = true ∨ window.pulseStartAttempted = false)
  directed : ∀ window, output.window = some window → window.direction ≠ .idle
  started : ∀ window, output.window = some window →
    window.startMonotonicMillis.toNat ≤ now.toNat
  begun : ∀ window, output.window = some window →
    window.pulseStartedSuccessfully = true → window.pulseStartAttempted = true
  rested : output.direction = .idle → ∀ window, output.window = some window →
    window.pulseStartedSuccessfully = true → window.naturalEnd ≤ now.toNat

/-- No pulse waits for its first attempt. -/
def Settled : Prop :=
  ∀ window, output.window = some window → window.pulseStartAttempted = false →
    window.scheduledOnMillis = 0

/-- A pulse that waits for its first attempt fits into its window. -/
def Fits : Prop :=
  ∀ window, output.window = some window → window.pulseStartAttempted = false →
    window.scheduledOnMillis.toNat ≤ parameters.switchingWindowMillis.toNat

/-- The window keeps the output on for the minimum on time. -/
def Guaranteed : Prop :=
  output.direction ≠ .idle → ∀ window on, output.window = some window →
    output.onSince = some on →
    on.toNat + parameters.minimumOnMillis.toNat ≤ window.naturalEnd ∧
    window.scheduledOnMillis.toNat ≤ parameters.switchingWindowMillis.toNat ∧
    (window.pulseStartAttempted = false →
      on.toNat + parameters.minimumOnMillis.toNat ≤ window.startMonotonicMillis.toNat)

variable {output parameters}

@[simp]
theorem direction_switch {next : AbstractControlDirection} {now : UInt64} :
    (output.switch next now).direction = next := by
  rw [switch]
  split
  · assumption
  · rfl

@[simp]
theorem window_switch {next : AbstractControlDirection} {now : UInt64} :
    (output.switch next now).window = output.window := by
  rw [switch]
  split <;> rfl

@[simp]
theorem direction_withWindow {window : Option ActiveSwitchingWindow} :
    (output.withWindow window).direction = output.direction := rfl

@[simp]
theorem window_withWindow {window : Option ActiveSwitchingWindow} :
    (output.withWindow window).window = window := rfl

@[simp]
theorem onSince_withWindow {window : Option ActiveSwitchingWindow} :
    (output.withWindow window).onSince = output.onSince := rfl

theorem switch_withWindow {window : Option ActiveSwitchingWindow}
    {next : AbstractControlDirection} {now : UInt64} :
    (output.withWindow window).switch next now =
      (output.switch next now).withWindow window := by
  rw [switch, switch, direction_withWindow]
  split <;> rfl

theorem onSince_switch_on {next : AbstractControlDirection} {now : UInt64}
    (hidle : output.direction = .idle) (hnext : next ≠ .idle) :
    (output.switch next now).onSince = some now := by
  rw [switch, if_neg fun hsame => hnext (hsame.symm.trans hidle)]
  exact if_neg hnext

theorem switch_self {now : UInt64} : output.switch output.direction now = output := by
  rw [switch, if_pos rfl]

theorem Sound.mono {earlier later : UInt64} (h : output.Sound earlier)
    (hle : earlier.toNat ≤ later.toNat) : output.Sound later where
  windowed := h.windowed
  directed := h.directed
  started window hwindow := (h.started window hwindow).trans hle
  begun := h.begun
  rested hidle window hwindow hstarted :=
    (h.rested hidle window hwindow hstarted).trans hle

theorem Settled.fits (h : output.Settled) : output.Fits parameters := by
  intro window hwindow hwaiting
  rw [h window hwindow hwaiting]
  exact Nat.zero_le _

theorem Rested.mono {direction : AbstractControlDirection} {earlier later : ℕ}
    (h : output.Rested parameters direction earlier) (hle : earlier ≤ later) :
    output.Rested parameters direction later := fun offAt hoffAt =>
  ⟨(h offAt hoffAt).1.trans hle, fun hother => ((h offAt hoffAt).2 hother).trans hle⟩

/-- Without a window the output is off. -/
theorem Sound.idle_of_none {now : UInt64} (h : output.Sound now)
    (hnone : output.window = none) : output.direction = .idle := by
  by_contra hon
  obtain ⟨window, on, hwindow, -⟩ := h.windowed hon
  simp [hnone] at hwindow

/-- The output is off or in the direction of its window. -/
theorem Sound.idle_or_windowed {now : UInt64} (h : output.Sound now)
    {window : ActiveSwitchingWindow} (hwindow : output.window = some window) :
    output.direction = .idle ∨ output.direction = window.direction := by
  by_cases hidle : output.direction = .idle
  · exact .inl hidle
  · obtain ⟨found, on, hfound, hdirection, -⟩ := h.windowed hidle
    rw [hwindow, Option.some.injEq] at hfound
    exact .inr (by rw [hfound, hdirection])

end PhysicalOutput

/-- What a stage does to the output at `now`. -/
structure OutputStep (parameters : ActuatorPlannerParameters) (now : UInt64)
    (before after : PhysicalOutput) : Prop where
  switched : ∃ window, after = (before.switch after.direction now).withWindow window
  straight : before.direction ≠ .idle →
    after.direction = before.direction ∨ after.direction = .idle
  rested : before.direction = .idle → after.direction ≠ .idle →
    before.Rested parameters after.direction now.toNat
  long : before.direction ≠ .idle → after.direction = .idle →
    before.Guaranteed parameters → ∀ on, before.onSince = some on →
    on.toNat + parameters.minimumOnMillis.toNat ≤ now.toNat
  guaranteed : before.Guaranteed parameters → after.Guaranteed parameters

namespace OutputStep

variable {parameters : ActuatorPlannerParameters} {now : UInt64}
variable {before middle after : PhysicalOutput}

/-- Only the window changes. -/
theorem keeps {window : Option ActiveSwitchingWindow}
    (hguaranteed : before.Guaranteed parameters →
      (before.withWindow window).Guaranteed parameters) :
    OutputStep parameters now before (before.withWindow window) where
  switched := ⟨window, by rw [PhysicalOutput.direction_withWindow, PhysicalOutput.switch_self]⟩
  straight _ := .inl rfl
  rested hidle hon := absurd hidle hon
  long hon hidle := absurd hidle hon
  guaranteed := hguaranteed

theorem refl : OutputStep parameters now before before :=
  keeps (fun h => h : before.Guaranteed parameters →
    (before.withWindow before.window).Guaranteed parameters)

/-- The output is switched off. -/
theorem stops {window : Option ActiveSwitchingWindow} (hon : before.direction ≠ .idle)
    (hlong : before.Guaranteed parameters → ∀ on, before.onSince = some on →
      on.toNat + parameters.minimumOnMillis.toNat ≤ now.toNat) :
    OutputStep parameters now before ((before.switch .idle now).withWindow window) where
  switched := ⟨window, by
    rw [PhysicalOutput.direction_withWindow, PhysicalOutput.direction_switch]⟩
  straight _ := .inr PhysicalOutput.direction_switch
  rested hidle := absurd hidle hon
  long _ _ := hlong
  guaranteed _ hafter := absurd PhysicalOutput.direction_switch hafter

/-- After a stop nothing starts at the same time, so that stages compose. -/
theorem trans (hoff : 0 < parameters.minimumOffMillis)
    (hfirst : OutputStep parameters now before middle)
    (hsecond : OutputStep parameters now middle after)
    (hstill : before.direction = .idle → middle.direction = .idle) :
    OutputStep parameters now before after := by
  have hoff : 0 < parameters.minimumOffMillis.toNat := UInt64.lt_iff_toNat_lt.mp hoff
  obtain ⟨first, hmiddle⟩ := hfirst.switched
  obtain ⟨second, hafter⟩ := hsecond.switched
  by_cases hsame : middle.direction = before.direction
  · have hkept : middle = before.withWindow first := by
      rw [hmiddle, hsame, PhysicalOutput.switch_self]
    have honSince : middle.onSince = before.onSince := by
      rw [hkept, PhysicalOutput.onSince_withWindow]
    refine ⟨⟨second, ?_⟩, ?_, ?_, ?_, fun h => hsecond.guaranteed (hfirst.guaranteed h)⟩
    · rw [hkept, PhysicalOutput.switch_withWindow] at hafter
      exact hafter
    · rw [← hsame]
      exact hsecond.straight
    · intro hidle hon offAt hoffAt
      have hrested := hsecond.rested (hsame.trans hidle) hon offAt (by rw [hkept]; exact hoffAt)
      rw [hkept] at hrested
      exact hrested
    · intro hon hidle hguaranteed on hon'
      exact hsecond.long (hsame ▸ hon) hidle (hfirst.guaranteed hguaranteed) on
        (honSince.trans hon')
  · have hon : before.direction ≠ .idle := fun hidle =>
      hsame ((hstill hidle).trans hidle.symm)
    have hstopped : middle.direction = .idle := (hfirst.straight hon).resolve_left hsame
    have hoffAt : middle.lastOffAt = some now := by
      rw [hmiddle, hstopped]
      simp [PhysicalOutput.switch, PhysicalOutput.withWindow, hon]
    have hidle : after.direction = .idle := by
      by_contra hstarted
      have := (hsecond.rested hstopped hstarted now hoffAt).1
      omega
    refine ⟨⟨second, ?_⟩, fun _ => .inr hidle, fun h => absurd h hon,
      fun _ _ => hfirst.long hon hstopped, fun _ h => absurd hidle h⟩
    rw [hidle, ← hstopped, PhysicalOutput.switch_self] at hafter
    rw [hidle, ← hstopped, hafter]
    exact congrArg (·.withWindow second) hmiddle

end OutputStep

/-! ## Stages -/

section Stages

variable {parameters : ActuatorPlannerParameters} {now : UInt64}
variable {output : PhysicalOutput} {window : ActiveSwitchingWindow}

/-- A stage that leaves a sound output without a waiting pulse. -/
structure Stage (parameters : ActuatorPlannerParameters) (now : UInt64)
    (before after : PhysicalOutput) : Prop where
  step : OutputStep parameters now before after
  sound : after.Sound now
  settled : after.Settled

/-- The output is switched off, or was off, while the window keeps its place. -/
theorem Stage.passive (hsound : output.Sound now)
    (hwindow : output.window = some window) {next : ActiveSwitchingWindow}
    (hdirection : next.direction = window.direction)
    (hstart : next.startMonotonicMillis = window.startMonotonicMillis)
    (hsettled : next.pulseStartAttempted = false → next.scheduledOnMillis = 0)
    (hbegun : next.pulseStartedSuccessfully = true → next.pulseStartAttempted = true)
    (hover : next.pulseStartedSuccessfully = true → next.naturalEnd ≤ now.toNat)
    (hlong : output.direction ≠ .idle → output.Guaranteed parameters →
      ∀ on, output.onSince = some on →
        on.toNat + parameters.minimumOnMillis.toNat ≤ now.toNat) :
    Stage parameters now output
      ((output.switch .idle now).withWindow (some next)) where
  step := by
    by_cases hidle : output.direction = .idle
    · rw [← hidle, PhysicalOutput.switch_self]
      exact OutputStep.keeps fun _ hon => absurd hidle hon
    · exact OutputStep.stops hidle (hlong hidle)
  sound := {
    windowed := fun hon => absurd PhysicalOutput.direction_switch hon
    directed := by
      rintro _ ⟨⟩
      rw [hdirection]
      exact hsound.directed window hwindow
    started := by
      rintro _ ⟨⟩
      rw [hstart]
      exact hsound.started window hwindow
    begun := by
      rintro _ ⟨⟩
      exact hbegun
    rested := by
      rintro - _ ⟨⟩
      exact hover }
  settled := by
    rintro _ ⟨⟩
    exact hsettled

/-- The output is on in the direction of its window, whose pulse has begun. -/
theorem Stage.active (hsound : output.Sound now)
    (hwindow : output.window = some window) {next : ActiveSwitchingWindow}
    (hdirection : next.direction = window.direction)
    (hstart : next.startMonotonicMillis = window.startMonotonicMillis)
    (hattempted : next.pulseStartAttempted = true)
    (hstarted : next.pulseStartedSuccessfully = true)
    (hrested : output.direction = .idle →
      output.Rested parameters window.direction now.toNat)
    (hguaranteed : output.Guaranteed parameters →
      ((output.switch window.direction now).withWindow (some next)).Guaranteed
        parameters) :
    Stage parameters now output
      ((output.switch window.direction now).withWindow (some next)) := by
  have hon : window.direction ≠ .idle := hsound.directed window hwindow
  have hswitched : ((output.switch window.direction now).withWindow (some next)).direction =
      window.direction := PhysicalOutput.direction_switch
  refine ⟨⟨⟨some next, by rw [hswitched]⟩, ?_, ?_, ?_, hguaranteed⟩, ?_, ?_⟩
  · intro hbefore
    exact .inl (hswitched.trans
      ((hsound.idle_or_windowed hwindow).resolve_left hbefore).symm)
  · intro hidle _
    rw [hswitched]
    exact hrested hidle
  · exact fun _ hidle => absurd (hswitched.symm.trans hidle) hon
  · refine ⟨fun _ => ?_, ?_, ?_, ?_, fun hidle => absurd (hswitched.symm.trans hidle) hon⟩
    · obtain ⟨on, hsince⟩ : ∃ on,
          (output.switch window.direction now).onSince = some on := by
        rcases hsound.idle_or_windowed hwindow with hidle | hsame
        · exact ⟨now, PhysicalOutput.onSince_switch_on hidle hon⟩
        · obtain ⟨_, on, -, -, hsince, -⟩ := hsound.windowed (hsame ▸ hon)
          exact ⟨on, by rw [← hsame, PhysicalOutput.switch_self, hsince]⟩
      exact ⟨next, on, rfl, hdirection.trans hswitched.symm, hsince, .inl hstarted⟩
    · rintro _ ⟨⟩
      rw [hdirection]
      exact hon
    · rintro _ ⟨⟩
      rw [hstart]
      exact hsound.started window hwindow
    · rintro _ ⟨⟩ -
      exact hattempted
  · rintro _ ⟨⟩ hwaiting
    rw [hattempted] at hwaiting
    cases hwaiting

end Stages

end Fermentationsschrank

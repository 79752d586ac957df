import Fermentationsschrank.Guarantees.PlannerRuns

/-!
# Times between switchings

An observer notes when the output was switched on and off.  In every run the output
rests long enough before it is switched on and stays on long enough before a tick that
is not rejected switches it off.
-/

namespace Fermentationsschrank

variable {K : Type} [ControlNumber K]

/-- What an observer notes of the output: since when it is on, what was switched off last
and when, and whether a run was begun while it is on. -/
structure SwitchRecord where
  onSince : Option UInt64 := none
  lastOff : Option (AbstractControlDirection × UInt64) := none
  begun : Bool := false

def SwitchRecord.observe (record : SwitchRecord) (event : PlannerEvent K) : SwitchRecord :=
  if event.is = event.was then { record with begun := record.begun || event.beginsRun }
  else if event.is = .idle then { lastOff := some (event.was, event.now) }
  else { record with onSince := some event.now, begun := false }

/-- What the times of the switchings promise of an event. -/
structure PlannerEvent.TimingSafe (record : SwitchRecord) (event : PlannerEvent K) :
    Prop where
  straight : event.was ≠ .idle → event.is = event.was ∨ event.is = .idle
  rested : event.was = .idle → event.is ≠ .idle →
    ∀ direction offAt, record.lastOff = some (direction, offAt) →
      offAt.toNat + event.before.parameters.minimumOffMillis.toNat ≤ event.now.toNat ∧
      (direction ≠ event.is →
        offAt.toNat + event.before.parameters.polarityDeadTimeMillis.toNat ≤
          event.now.toNat)
  long : event.was ≠ .idle → event.is = .idle →
    event.stopsAtOnce = true ∨ record.begun = true ∨
      ∃ on, record.onSince = some on ∧
        on.toNat + event.before.parameters.minimumOnMillis.toNat ≤ event.now.toNat
  windowed : event.is ≠ .idle →
    ∃ window, event.after.state.activeWindow = some window ∧ window.direction = event.is

namespace SwitchRecord

variable {record : SwitchRecord}

/-- The record repeats the times the output keeps. -/
structure Matches (record : SwitchRecord) (output : PhysicalOutput) : Prop where
  onSince : output.onSince = record.onSince
  lastOffDirection : output.lastOffDirection = record.lastOff.map Prod.fst
  lastOffAt : output.lastOffAt = record.lastOff.map Prod.snd

/-- What the observer knows of the planner. -/
structure Knows (device : ClockedPlanner K) (record : SwitchRecord) : Prop where
  sound : device.planner.state.output.Sound device.clock
  settled : device.planner.state.output.Settled
  times : record.Matches device.planner.state.output
  promised : record.begun = false →
    classifyActuatorPlannerParameters device.planner.parameters = .valid →
    device.planner.state.output.Guaranteed device.planner.parameters

omit [ControlNumber K] in
/-- The observer notes every switching. -/
theorem Matches.observe {event : PlannerEvent K} {window : Option ActiveSwitchingWindow}
    (hmatches : record.Matches event.before.state.output)
    (hstraight : event.was ≠ .idle → event.is = event.was ∨ event.is = .idle)
    (hswitched : event.after.state.output =
      (event.before.state.output.switch event.is event.now).withWindow window) :
    (record.observe event).Matches event.after.state.output := by
  have hwas : event.before.state.output.direction = event.was := rfl
  rw [hswitched, SwitchRecord.observe, PhysicalOutput.switch, hwas]
  by_cases hsame : event.is = event.was
  · rw [if_pos hsame, if_pos hsame.symm]
    exact ⟨hmatches.onSince, hmatches.lastOffDirection, hmatches.lastOffAt⟩
  · rw [if_neg hsame, if_neg (Ne.symm hsame)]
    by_cases hon : event.was = .idle
    · have his : event.is ≠ .idle := fun hidle => hsame (hidle.trans hon.symm)
      rw [if_pos hon, if_pos hon, if_neg his, if_neg his]
      exact ⟨rfl, hmatches.lastOffDirection, hmatches.lastOffAt⟩
    · have his : event.is = .idle := (hstraight hon).resolve_left hsame
      rw [if_neg hon, if_neg hon, if_pos his, if_pos his]
      exact ⟨rfl, rfl, rfl⟩

omit [ControlNumber K] in
/-- A stop at once switches the output off at its time. -/
theorem Matches.stopped {event : PlannerEvent K}
    (hmatches : record.Matches event.before.state.output)
    (hstopped : event.after.state.output =
      (event.before.state.output.switch .idle event.now).withWindow none) :
    event.is = .idle ∧ (record.observe event).Matches event.after.state.output := by
  have hidle : event.is = .idle := by
    rw [PlannerEvent.is]
    exact (congrArg PhysicalOutput.direction hstopped).trans PhysicalOutput.direction_switch
  rw [← hidle] at hstopped
  exact ⟨hidle, hmatches.observe (fun _ => .inr hidle) hstopped⟩

end SwitchRecord

/-- An output without a window is off and keeps the promise of any parameters. -/
theorem PhysicalOutput.Sound.stopped {output : PhysicalOutput} {now : UInt64} :
    ((output.switch .idle now).withWindow none).Sound now where
  windowed hon := absurd PhysicalOutput.direction_switch hon
  directed := nofun
  started := nofun
  begun := nofun
  rested _ := nofun

namespace SwitchRecord.Knows

variable {device : ClockedPlanner K} {record : SwitchRecord}

/-! ## The calls -/

/-- A call that keeps the output: nothing is switched. -/
theorem kept {event : PlannerEvent K} (h : Knows device record)
    (hbefore : event.before = device.planner)
    (hlater : device.clock ≤ event.now)
    (houtput : event.after.state.output = event.before.state.output)
    (hparameters : event.beginsRun = true ∨
      event.after.parameters = event.before.parameters ∨
      classifyActuatorPlannerParameters event.after.parameters ≠ .valid) :
    event.TimingSafe record ∧ Knows ⟨event.after, event.now⟩ (record.observe event) := by
  have hsame : event.is = event.was := congrArg PhysicalOutput.direction houtput
  have hsound : event.after.state.output.Sound event.now := by
    rw [houtput, hbefore]
    exact h.sound.mono (UInt64.le_iff_toNat_le.mp hlater)
  refine ⟨⟨fun _ => .inl hsame, fun hidle hon => absurd (hsame.trans hidle) hon,
    fun hon hidle => absurd (hsame.symm.trans hidle) hon, fun hon => ?_⟩, hsound, ?_, ?_, ?_⟩
  · obtain ⟨window, -, hwindow, hdirection, -⟩ := hsound.windowed hon
    exact ⟨window, hwindow, hdirection⟩
  · rw [houtput, hbefore]
    exact h.settled
  · have hswitched : event.after.state.output = (event.before.state.output.switch event.is
        event.now).withWindow event.before.state.output.window := by
      have hwas : event.before.state.output.direction = event.was := rfl
      rw [houtput, hsame, ← hwas, PhysicalOutput.switch_self]
      rfl
    exact Matches.observe (hbefore ▸ h.times) (fun _ => .inl hsame) hswitched
  · rw [SwitchRecord.observe, if_pos hsame]
    intro hbegun hvalid
    rw [Bool.or_eq_false_iff] at hbegun
    rcases hparameters with hbegins | hsame | hinvalid
    · rw [hbegins] at hbegun
      cases hbegun.2
    · rw [hsame, hbefore] at hvalid ⊢
      rw [houtput, hbefore]
      exact h.promised hbegun.1 hvalid
    · exact absurd hvalid hinvalid

/-- A call that stops at once. -/
theorem stopped {event : PlannerEvent K} (h : Knows device record)
    (hbefore : event.before = device.planner) (hstops : event.stopsAtOnce = true)
    (houtput : event.after.state.output =
      (event.before.state.output.switch .idle event.now).withWindow none) :
    event.TimingSafe record ∧ Knows ⟨event.after, event.now⟩ (record.observe event) := by
  obtain ⟨hidle, htimes⟩ := Matches.stopped (hbefore ▸ h.times) houtput
  refine ⟨⟨fun _ => .inr hidle, fun _ hon => absurd hidle hon, fun _ _ => .inl hstops,
    fun hon => absurd hidle hon⟩, ?_, ?_, htimes, fun _ _ hon => absurd hidle hon⟩
  · rw [houtput]
    exact PhysicalOutput.Sound.stopped
  · rw [houtput]
    exact nofun

/-- A tick that is not rejected is a stage of the output. -/
theorem planned {event : PlannerEvent K} (h : Knows device record)
    (hbefore : event.before = device.planner)
    (hparameters : event.after.parameters = event.before.parameters)
    (hvalid : classifyActuatorPlannerParameters event.before.parameters = .valid)
    (hstage : Stage event.before.parameters event.now event.before.state.output
      event.after.state.output) :
    event.TimingSafe record ∧ Knows ⟨event.after, event.now⟩ (record.observe event) := by
  obtain ⟨hstep, hsound, hsettled⟩ := hstage
  have htimes : record.Matches event.before.state.output := hbefore ▸ h.times
  have hpromised : record.begun = false →
      event.before.state.output.Guaranteed event.before.parameters := fun hbegun =>
    hbefore ▸ h.promised hbegun (hbefore ▸ hvalid)
  obtain ⟨window, hswitched⟩ := hstep.switched
  refine ⟨⟨hstep.straight, ?_, ?_, ?_⟩, hsound, hsettled,
    htimes.observe hstep.straight hswitched, ?_⟩
  · intro hidle hon direction offAt hoff
    have hoffAt : event.before.state.output.lastOffAt = some offAt := by
      rw [htimes.lastOffAt, hoff, Option.map_some]
    have hoffDirection : event.before.state.output.lastOffDirection = some direction := by
      rw [htimes.lastOffDirection, hoff, Option.map_some]
    obtain ⟨hrested, hdead⟩ := hstep.rested hidle hon offAt hoffAt
    refine ⟨hrested, fun hother => hdead ?_⟩
    rw [hoffDirection]
    exact fun hsame => hother (Option.some.inj hsame)
  · intro hon hidle
    refine .inr ?_
    by_cases hbegun : record.begun = true
    · exact .inl hbegun
    · obtain ⟨-, on, -, -, hsince, -⟩ := (hbefore ▸ h.sound).windowed hon
      refine .inr ⟨on, htimes.onSince ▸ hsince, ?_⟩
      exact hstep.long hon hidle (hpromised (Bool.eq_false_iff.mpr hbegun)) on hsince
  · intro hon
    obtain ⟨window, -, hwindow, hdirection, -⟩ := hsound.windowed hon
    exact ⟨window, hwindow, hdirection⟩
  · intro hbegun _
    rw [hparameters]
    by_cases hidle : event.was = .idle
    · exact hstep.guaranteed fun hon => absurd hidle hon
    · by_cases hsame : event.is = event.was
      · rw [SwitchRecord.observe, if_pos hsame, Bool.or_eq_false_iff] at hbegun
        exact hstep.guaranteed (hpromised hbegun.1)
      · exact fun hon => absurd ((hstep.straight hidle).resolve_left hsame) hon

/-- Every call keeps what the observer knows, and its switching is timely. -/
theorem step {event : PlannerEvent K} {next : ClockedPlanner K} (h : Knows device record)
    (hstep : PlannerStep device event next) :
    event.TimingSafe record ∧ Knows next (record.observe event) := by
  obtain @⟨call, now, hat, hlater⟩ := hstep
  cases call with
  | tick input =>
      cases hat
      have hsound := h.sound.mono (UInt64.le_iff_toNat_le.mp hlater)
      cases ActuatorPlannerRuntimeState.tick_effect hsound h.settled with
      | rejected hreason houtput => exact h.stopped rfl hreason houtput
      | stage hvalid hstage => exact h.planned rfl rfl hvalid hstage
  | forceStop time episode =>
      cases hat
      exact h.stopped rfl rfl ActuatorPlannerRuntimeState.output_forceStop
  | beginRun parameters =>
      exact h.kept rfl hlater (congrArg _ ActuatorPlanner.state_beginRun)
        ActuatorPlanner.beginRun_binds
  | endRun => exact h.kept rfl hlater rfl (.inr ActuatorPlanner.parameters_endRun)
  | closeFeedbackEpisodeForOutstandingEvaluation =>
      exact h.kept rfl hlater rfl (.inr (.inl rfl))
  | takeFeedbackUpdate =>
      refine h.kept rfl hlater ?_ (.inr (.inl ?_))
      · simp only [ActuatorPlanner.perform, ActuatorPlanner.takeFeedbackUpdate]
        split <;> rfl
      · simp only [ActuatorPlanner.perform, ActuatorPlanner.takeFeedbackUpdate]
        split <;> rfl
  | applyExternalWatchdogFaultReset => exact h.kept rfl hlater rfl (.inr (.inl rfl))

/-- Nothing was switched before the first call. -/
theorem first {planner : ActuatorPlanner K} (hfresh : planner.Fresh) {clock : UInt64} :
    Knows ⟨planner, clock⟩ {} := by
  have houtput : planner.state.output = ⟨none, .idle, none, none, none⟩ := by
    rcases hfresh with rfl | ⟨parameters, rfl⟩ <;> rfl
  refine ⟨?_, ?_, ?_, fun _ _ => ?_⟩
  · rw [houtput]
    exact ⟨fun hon => absurd rfl hon, nofun, nofun, nofun, fun _ => nofun⟩
  · rw [houtput]
    exact nofun
  · rw [houtput]
    exact ⟨rfl, rfl, rfl⟩
  · rw [houtput]
    exact fun hon => absurd rfl hon

end SwitchRecord.Knows

/-! ## Runs -/

/-- In every run of the planner every switching is timely. -/
theorem switchings_timely {planner : ActuatorPlanner K} (hfresh : planner.Fresh)
    {clock : UInt64} {events : List (PlannerEvent K)} {last : ClockedPlanner K}
    (hrun : Steps PlannerStep ⟨planner, clock⟩ events last)
    (earlier : List (PlannerEvent K)) (event : PlannerEvent K)
    (later : List (PlannerEvent K)) (hsplit : events = earlier ++ event :: later) :
    event.TimingSafe (earlier.foldl SwitchRecord.observe {}) :=
  (hrun.observed (SwitchRecord.Knows.first hfresh) fun h hstep => h.step hstep).2
    earlier event later hsplit

/-! ## A run that is begun while the output is on -/

section Rebound

/-- A demand for heating under the sensor of the air. -/
def heatingDemand (sequence createdAt : UInt64) (quote : ℚ) : TemperatureControlResult ℚ where
  status := .demand
  reason := .none
  airLimitState := .notApplied
  direction := .heating
  timeQuote := quote
  rawProportionalQuote := quote
  integralContributionQuote := 0
  unboundedQuote := quote
  maximumLimitedQuote := quote
  controlRequest := some ⟨⟨sequence, createdAt⟩, {}, .heating, quote⟩

/-- A tick of a controlled phase under an open gate. -/
def demandTick (now sequence : UInt64) (quote : ℚ) : PlannerCall ℚ :=
  .tick {
    nowMonotonicMillis := now
    newEvaluation := some (heatingDemand sequence now quote)
    temperatureControlledPhase := true
    safetyGate := .allowed }

def windowedParameters (switchingWindowMillis : UInt64) : ActuatorPlannerParameters where
  switchingWindowMillis := switchingWindowMillis
  minimumOnMillis := 50
  minimumOffMillis := 10
  polarityDeadTimeMillis := 20
  pulseAccumulatorCapMillis := 100
  counterDirectionConfirmationQuoteThreshold := fullQuote
  counterDirectionConfirmationDurationMillis := 10
  requestWatchdogMillis := 1000
  outerFanPostRunMillis := 10
  innerFanPostRunMillis := 10

/-- The pulse of the second window begins at 129, and another run is begun at 130. -/
def reboundCalls : List (PlannerCall ℚ × UInt64) :=
  [(.beginRun (windowedParameters 100), 0),
    (demandTick 0 1 (1 / 100), 0),
    (demandTick 129 2 (8 / 10), 129),
    (.endRun, 130),
    (.beginRun (windowedParameters 50), 130),
    (demandTick 151 3 (1 / 100), 151)]

def reboundEvents : List (PlannerEvent ℚ) :=
  (⟨.unconfigured, 0⟩ : ClockedPlanner ℚ).events reboundCalls

theorem rebound_run : Steps PlannerStep ⟨.unconfigured, 0⟩ reboundEvents
    ((⟨.unconfigured, 0⟩ : ClockedPlanner ℚ).after reboundCalls) :=
  ClockedPlanner.steps_events (by decide)

/-- The promise for the time on, whether or not a run was begun meanwhile. -/
def PlannerEvent.LongEnough (record : SwitchRecord) (event : PlannerEvent K) : Prop :=
  event.was ≠ .idle → event.is = .idle →
    event.stopsAtOnce = true ∨
      ∃ on, record.onSince = some on ∧
        on.toNat + event.before.parameters.minimumOnMillis.toNat ≤ event.now.toNat

set_option maxRecDepth 1000000 in
theorem first_pulse_timely :
    (reboundEvents[2].was = .idle ∧ reboundEvents[2].is = .heating) ∧
    reboundEvents[2].TimingSafe ((reboundEvents.take 2).foldl SwitchRecord.observe {}) :=
  ⟨by decide +kernel, switchings_timely (.inl rfl) rebound_run (reboundEvents.take 2)
    reboundEvents[2] (reboundEvents.drop 3) rfl⟩

set_option maxRecDepth 1000000 in
/-- The run begun at 130 ends the pulse of 129 at 151, before either minimum on time. -/
theorem rebound_pulse_short :
    ¬ ∀ (planner : ActuatorPlanner ℚ) (clock : UInt64) (events : List (PlannerEvent ℚ))
      (last : ClockedPlanner ℚ), planner.Fresh →
      Steps PlannerStep ⟨planner, clock⟩ events last →
      ∀ earlier event later, events = earlier ++ event :: later →
        event.LongEnough (earlier.foldl SwitchRecord.observe {}) := by
  intro h
  have hlong := h _ _ _ _ (.inl rfl) rebound_run (reboundEvents.take 5) reboundEvents[5] []
    rfl (by decide +kernel) (by decide +kernel)
  have hstops : reboundEvents[5].stopsAtOnce = false := by decide +kernel
  have hsince : ((reboundEvents.take 5).foldl SwitchRecord.observe {}).onSince = some 129 := by
    decide +kernel
  rw [hstops, hsince] at hlong
  obtain ⟨on, hon, hlong⟩ := hlong.resolve_left Bool.false_ne_true
  cases hon
  exact absurd hlong (by decide +kernel)

end Rebound

end Fermentationsschrank

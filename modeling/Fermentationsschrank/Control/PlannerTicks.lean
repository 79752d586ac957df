import Fermentationsschrank.Control.PlannerStages

/-!
# Ticks and stops

A tick is rejected, which switches the output off at once, or it is a stage of the
output.  A stop switches the output off as a rejection does.
-/

namespace Fermentationsschrank

variable {K : Type} [ControlNumber K]

/-- The reasons of a tick that was rejected. -/
def ActuatorPlanReason.rejects : ActuatorPlanReason → Bool
  | .malformedInput | .noCommissioning | .invalidConfiguration | .timeInvalid
  | .safetyGateUnresolved | .externalSafetyOverride | .requestWatchdogFaultLatched
  | .staleRequestWatchdog | .noValidRequest | .staleRequestContext => true
  | _ => false

namespace ActuatorPlannerRuntimeState

variable {state : ActuatorPlannerRuntimeState K} {parameters : ActuatorPlannerParameters}
variable {input : ActuatorPlanTickInput K} {admission : PhaseAOutcome K} {now : UInt64}

/-! ## The output outside the stages -/

omit [ControlNumber K] in
@[simp]
theorem output_openWatchdogEpisode :
    (state.openWatchdogEpisode input).output = state.output := by
  rw [openWatchdogEpisode]
  split <;> rfl

@[simp]
theorem output_runPhaseA : (state.runPhaseA parameters input).2.output = state.output := by
  rw [runPhaseA]
  cases input.newEvaluation with
  | none => rfl
  | some evaluation =>
      simp only
      split
      · rfl
      · cases evaluation.controlRequest with
        | none => rfl
        | some request =>
            simp only [admitRequest]
            split
            · rfl
            · split
              · rfl
              · split <;> rfl

omit [ControlNumber K] in
@[simp]
theorem output_latchTrippedWatchdog {reason : ActuatorPlanReason} :
    (state.latchTrippedWatchdog reason now).output = state.output := by
  rw [latchTrippedWatchdog]
  split <;> rfl

theorem output_rejectToIdle {outcome : ActuatorAdmissionOutcome}
    {status : ActuatorPlanStatus} {reason : ActuatorPlanReason} :
    (state.rejectToIdle parameters now outcome status reason).2.output =
      (state.output.switch .idle now).withWindow none := by
  rw [← @output_setPhysicalDirection K state parameters now .idle]
  rfl

/-! ## Rejected ticks -/

omit [ControlNumber K] in
/-- A rejection names one of the ten reasons, and a tick that is not rejected has passed
every check. -/
theorem rejection_cases :
    (∃ status reason, state.rejection parameters input admission = some (status, reason) ∧
      reason.rejects = true) ∨
    state.rejection parameters input admission = none ∧
      admission.admissionOutcome ≠ .malformedCandidate ∧
      isStructurallyValidContext input.currentCanonicalContext = true ∧
      classifyActuatorPlannerParameters parameters = .valid ∧
      input.safetyGate = .allowed ∧ state.latchedWatchdogFault = none ∧
      state.runningWatchdogTripped parameters input = false ∧
      (∀ candidate, admission.candidate = some candidate →
        candidate.demandClass ≠ .noValidRequest) ∧
      state.heldContextStale input admission = false := by
  rw [rejection]
  split
  · exact .inl ⟨_, _, rfl, rfl⟩
  rename_i hmalformed
  split
  · exact .inl ⟨_, _, rfl, rfl⟩
  rename_i hconfigured
  split
  · exact .inl ⟨_, _, rfl, rfl⟩
  rename_i hvalid
  split
  · exact .inl ⟨_, _, rfl, rfl⟩
  rename_i hresolved
  split
  · exact .inl ⟨_, _, rfl, rfl⟩
  rename_i hstopped
  split
  · exact .inl ⟨_, _, rfl, rfl⟩
  rename_i hlatched
  split
  · exact .inl ⟨_, _, rfl, rfl⟩
  rename_i htripped
  split
  · exact .inl ⟨_, _, rfl, rfl⟩
  rename_i hrequest
  split
  · exact .inl ⟨_, _, rfl, rfl⟩
  rename_i hcontext
  split
  · exact .inl ⟨_, _, rfl, rfl⟩
  obtain ⟨hwell, hlisted, hrole⟩ := not_or.mp hmalformed |>.imp_right not_or.mp
  refine .inr ⟨rfl, hwell, by simpa using hrole, ?_, ?_, ?_, by simpa using htripped, ?_,
    by simpa using hcontext⟩
  · cases hclass : classifyActuatorPlannerParameters parameters with
    | unconfigured => exact absurd hclass hconfigured
    | valid => rfl
    | invalid => exact absurd hclass hvalid
  · cases hgate : input.safetyGate with
    | unresolved => exact absurd hgate hresolved
    | allowed => rfl
    | immediateStop => exact absurd hgate hstopped
    | unlisted => exact absurd hgate hlisted
  · simpa using hlatched
  · intro candidate hcandidate hnone
    simp [hcandidate, hnone] at hrequest

/-! ## Ticks -/

/-- The command a tick plans with once it is not rejected. -/
def planned (state : ActuatorPlannerRuntimeState K) (admission : PhaseAOutcome K) :
    ActuatorPlannerRuntimeState K :=
  match admission.candidate with
  | some candidate => state.adoptCandidate candidate
  | none => state

/-- The accepted command when it asks for a direction. -/
def demand (state : ActuatorPlannerRuntimeState K) : Option (AcceptedControlCommand K) :=
  state.acceptedCommand.filter (·.direction ≠ .idle)

/-- A tick that is not rejected serves the demand, or drives what is on down. -/
theorem runPhaseB_of_passed (hpassed : state.rejection parameters input admission = none) :
    state.runPhaseB parameters input admission =
      match (state.planned admission).demand with
      | some command => (state.planned admission).evaluateHeatingCoolingDemand parameters
          command admission.admissionOutcome input.nowMonotonicMillis
      | none => (state.planned admission).tearDown parameters admission.admissionOutcome
          input.nowMonotonicMillis := by
  rw [runPhaseB, hpassed]
  rfl

theorem output_planned : (state.planned admission).output = state.output := by
  rw [planned]
  cases admission.candidate with
  | none => rfl
  | some candidate => rfl

theorem tearDown_stage {outcome : ActuatorAdmissionOutcome} (hsound : state.output.Sound now)
    (hsettled : state.output.Settled) :
    Stage parameters now state.output (state.tearDown parameters outcome now).2.output := by
  rw [tearDown]
  split
  · exact ⟨.refl, hsound, hsettled⟩
  · rename_i hdone
    have hdropped : Advanced parameters .idle now state.output _ :=
      .dropped fun hon _ => long_of_minimumOnReached (by
        simpa using not_and.mp hdone hon)
    change Stage parameters now state.output
      (state.setPhysicalDirection parameters .idle now).clearPlanningState.output
    rw [output_clearPlanningState, output_setPhysicalDirection]
    exact ⟨hdropped.step, hdropped.sound, nofun⟩

/-- What a tick does: it rejects, or it plans with its command. -/
inductive TickEffect (state : ActuatorPlannerRuntimeState K)
    (parameters : ActuatorPlannerParameters) (input : ActuatorPlanTickInput K)
    (outcome : TickOutcome K) : Prop
  | rejected (hreason : outcome.1.reason.rejects = true)
      (houtput : outcome.2.output =
        (state.output.switch .idle input.nowMonotonicMillis).withWindow none)
  | stage (hvalid : classifyActuatorPlannerParameters parameters = .valid)
      (hstage : Stage parameters input.nowMonotonicMillis state.output outcome.2.output)

theorem runPhaseB_effect (hsound : state.output.Sound input.nowMonotonicMillis)
    (hsettled : state.output.Settled) :
    TickEffect state parameters input (state.runPhaseB parameters input admission) := by
  rw [runPhaseB]
  rcases @rejection_cases K state parameters input admission with
    ⟨status, reason, hrejected, hreason⟩ | ⟨hpassed, -, -, hvalid, -⟩
  · simp only [hrejected]
    refine .rejected hreason ?_
    rw [output_rejectToIdle, output_latchTrippedWatchdog]
  · simp only [hpassed]
    refine .stage hvalid ?_
    have houtput : (state.planned admission).output = state.output := output_planned
    rw [← houtput] at hsound hsettled ⊢
    change Stage parameters _ _ (match (state.planned admission).demand with
      | some command => (state.planned admission).evaluateHeatingCoolingDemand parameters
          command admission.admissionOutcome input.nowMonotonicMillis
      | none => (state.planned admission).tearDown parameters admission.admissionOutcome
          input.nowMonotonicMillis).2.output
    cases hcommand : (state.planned admission).demand with
    | some command =>
        exact evaluateHeatingCoolingDemand_stage hvalid hsound hsettled
          (by simpa using (Option.filter_eq_some_iff.mp hcommand).2)
    | none => exact tearDown_stage hsound hsettled

theorem tick_effect (hsound : state.output.Sound input.nowMonotonicMillis)
    (hsettled : state.output.Settled) :
    TickEffect state parameters input (state.tick parameters input) := by
  have houtput : ((state.openWatchdogEpisode input).runPhaseA parameters input).2.output =
      state.output := by
    rw [output_runPhaseA, output_openWatchdogEpisode]
  rw [← houtput] at hsound hsettled
  have heffect : TickEffect _ parameters input
      (((state.openWatchdogEpisode input).runPhaseA parameters input).2.runPhaseB parameters
        input ((state.openWatchdogEpisode input).runPhaseA parameters input).1) :=
    runPhaseB_effect hsound hsettled
  cases heffect with
  | rejected hreason hswitched =>
      rw [houtput] at hswitched
      exact .rejected hreason hswitched
  | stage hvalid hstage =>
      rw [houtput] at hstage
      exact .stage hvalid hstage

theorem output_forceStop {episode : ActuatorFeedbackEpisodeAtStop} :
    (state.forceStop parameters now episode).2.output =
      (state.output.switch .idle now).withWindow none := by
  rw [← @output_setPhysicalDirection K state parameters now .idle]
  rfl

end ActuatorPlannerRuntimeState

end Fermentationsschrank

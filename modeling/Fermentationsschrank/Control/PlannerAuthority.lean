import Fermentationsschrank.Control.PlannerTicks

/-!
# Admission and the output

The command a tick works for, the watermark, the watchdog and the open feedback are
decided by its admission.  Serving a demand leaves them, except that it records the
feedback of its own command.
-/

namespace Fermentationsschrank

variable {K : Type} [ControlNumber K]

/-- What admits a request and what is owed to it. -/
structure RequestAuthority (K : Type) where
  acceptedCommand : Option (AcceptedControlCommand K)
  lastObservedSequenceHighWatermark : Option UInt64
  lastNewRequestAcceptedAtMonotonicMillis : Option UInt64
  watchdogEpisodeStartedAtMonotonicMillis : Option UInt64
  latchedWatchdogFault : Option ActuatorWatchdogFaultEvidence
  feedback : FeedbackEpisode

namespace ActuatorPlannerRuntimeState

variable {state : ActuatorPlannerRuntimeState K} {parameters : ActuatorPlannerParameters}
variable {command : AcceptedControlCommand K} {window : ActiveSwitchingWindow}
variable {now : UInt64} {admission : ActuatorAdmissionOutcome}

def authority (state : ActuatorPlannerRuntimeState K) : RequestAuthority K where
  acceptedCommand := state.acceptedCommand
  lastObservedSequenceHighWatermark := state.lastObservedSequenceHighWatermark
  lastNewRequestAcceptedAtMonotonicMillis := state.lastNewRequestAcceptedAtMonotonicMillis
  watchdogEpisodeStartedAtMonotonicMillis := state.watchdogEpisodeStartedAtMonotonicMillis
  latchedWatchdogFault := state.latchedWatchdogFault
  feedback := state.feedback

/-! ## Steps of the output -/

omit [ControlNumber K] in
@[simp]
theorem authority_setPhysicalDirection {next : AbstractControlDirection} :
    (state.setPhysicalDirection parameters next now).authority = state.authority := by
  rw [setPhysicalDirection]
  split
  · rfl
  · simp only
    split <;> split <;> rfl

omit [ControlNumber K] in
@[simp]
theorem authority_activeWindow {next : Option ActiveSwitchingWindow} :
    ({ state with activeWindow := next } : ActuatorPlannerRuntimeState K).authority =
      state.authority := rfl

@[simp]
theorem authority_dropWindow : state.dropWindow.authority = state.authority := rfl

@[simp]
theorem authority_startFreshWindow {start : UInt64} :
    (state.startFreshWindow parameters command start).authority = state.authority := by
  rw [startFreshWindow]
  simp only
  split
  · rfl
  · split
    · split <;> rfl
    · rfl

@[simp]
theorem authority_advanceWindow :
    (state.advanceWindow parameters command now).authority = state.authority := by
  rw [advanceWindow]
  cases state.activeWindow with
  | none => rfl
  | some window =>
      simp only
      split
      · split
        · exact authority_startFreshWindow
        · split
          · exact authority_setPhysicalDirection
          · rfl
      · rfl

@[simp]
theorem authority_observeCounterDirection {reference : AbstractControlDirection} :
    (state.observeCounterDirection parameters reference command now).authority =
      state.authority := by
  rw [observeCounterDirection]
  simp only
  split <;> rfl

omit [ControlNumber K] in
@[simp]
theorem authority_followWindow {tick : WindowPhysicalTick} :
    (state.followWindow parameters tick now).authority = state.authority := by
  rw [followWindow]
  split
  · exact authority_setPhysicalDirection
  · split
    · exact authority_setPhysicalDirection
    · rfl

/-! ## Serving a demand -/

/-- A demand is answered for a reason of its own, which is recorded as its feedback. -/
structure Serves (state : ActuatorPlannerRuntimeState K)
    (command : AcceptedControlCommand K) (outcome : TickOutcome K) : Prop where
  answered : outcome.1.reason.rejects = false
  authority : outcome.2.authority = state.authority ∨
    ∃ reason, outcome.2.authority = (state.mergeFeedbackForDemand command reason).authority

/-- What serving a demand leaves before it ends. -/
def Continues (state : ActuatorPlannerRuntimeState K) (command : AcceptedControlCommand K) :
    Except (TickOutcome K) (ActuatorPlannerRuntimeState K) → Prop
  | .error outcome => state.Serves command outcome
  | .ok next => next.authority = state.authority

omit [ControlNumber K] in
theorem mergeFeedbackForDemand_authority {next : ActuatorPlannerRuntimeState K}
    {reason : ActuatorPlanReason} (h : next.authority = state.authority) :
    (next.mergeFeedbackForDemand command reason).authority =
      (state.mergeFeedbackForDemand command reason).authority := by
  have hfeedback : next.feedback = state.feedback := congrArg RequestAuthority.feedback h
  calc
    (next.mergeFeedbackForDemand command reason).authority =
        { next.authority with
          feedback := next.feedback.mergeFeedbackForDemand command.sequence reason } := rfl
    _ = { state.authority with
          feedback := state.feedback.mergeFeedbackForDemand command.sequence reason } := by
      rw [h, hfeedback]

omit [ControlNumber K] in
theorem serves_endedForDemand {next : ActuatorPlannerRuntimeState K}
    {status : ActuatorPlanStatus} {reason : ActuatorPlanReason}
    (hauthority : next.authority = state.authority) (hreason : reason.rejects = false) :
    state.Serves command (next.endedForDemand command status reason admission) :=
  ⟨hreason, .inr ⟨reason, mergeFeedbackForDemand_authority hauthority⟩⟩

omit [ControlNumber K] in
theorem applyWindowPhysicalTick_reason :
    (state.applyWindowPhysicalTick parameters window now).reason.rejects = false := by
  rw [applyWindowPhysicalTick]
  simp only
  repeat' split
  all_goals rfl

theorem governOpposedWindow_continues :
    state.Continues command
      (state.governOpposedWindow parameters window command admission now) := by
  rw [governOpposedWindow]
  simp only
  split
  · split
    · split
      · refine serves_endedForDemand ?_ rfl
        split
        · exact authority_setPhysicalDirection
        · rfl
      · refine serves_endedForDemand ?_ rfl
        rw [authority_dropWindow, authority_setPhysicalDirection]
    · rfl
  · refine serves_endedForDemand authority_followWindow ?_
    split <;> rfl

theorem openWindow_continues {reference : AbstractControlDirection} :
    state.Continues command
      (state.openWindow parameters reference command admission now) := by
  rw [openWindow]
  simp only
  split
  · split
    · exact serves_endedForDemand rfl rfl
    · split
      · refine serves_endedForDemand rfl ?_
        split <;> rfl
      · exact (authority_startFreshWindow :
          (state.startFreshWindow parameters command now).authority = state.authority)
  · split
    · exact serves_endedForDemand rfl rfl
    · exact authority_startFreshWindow

theorem serves_serveWindow :
    state.Serves command (state.serveWindow parameters window command admission now) := by
  rw [serveWindow]
  refine serves_endedForDemand authority_followWindow ?_
  split
  · rfl
  · exact applyWindowPhysicalTick_reason

omit [ControlNumber K] in
/-- Serving a demand goes on from a state with the same authority. -/
theorem Serves.of_authority {middle : ActuatorPlannerRuntimeState K}
    {outcome : TickOutcome K} (h : middle.Serves command outcome)
    (hauthority : middle.authority = state.authority) : state.Serves command outcome := by
  refine ⟨h.answered, ?_⟩
  rcases h.authority with hsame | ⟨reason, hmerged⟩
  · exact .inl (hsame.trans hauthority)
  · exact .inr ⟨reason, hmerged.trans (mergeFeedbackForDemand_authority hauthority)⟩

omit [ControlNumber K] in
theorem Continues.of_authority {middle : ActuatorPlannerRuntimeState K}
    {outcome : Except (TickOutcome K) (ActuatorPlannerRuntimeState K)}
    (h : middle.Continues command outcome)
    (hauthority : middle.authority = state.authority) :
    state.Continues command outcome := by
  cases outcome with
  | error outcome => exact Serves.of_authority h hauthority
  | ok next => exact Eq.trans h hauthority

theorem settleWindow_continues {reference : AbstractControlDirection} :
    state.Continues command
      (state.settleWindow parameters reference command admission now) := by
  have hopen {middle : ActuatorPlannerRuntimeState K}
      (h : middle.authority = state.authority) :
      state.Continues command
        (if middle.activeWindow.isNone then
          middle.openWindow parameters reference command admission now
        else .ok middle) := by
    split
    · exact openWindow_continues.of_authority h
    · exact h
  rw [settleWindow]
  cases state.activeWindow with
  | none => exact hopen rfl
  | some window =>
      simp only
      split
      · have hgoverned : state.Continues command
            (state.governOpposedWindow parameters window command admission now) :=
          governOpposedWindow_continues
        revert hgoverned
        cases state.governOpposedWindow parameters window command admission now with
        | error outcome => exact id
        | ok settled => exact fun hgoverned => hopen hgoverned
      · exact hopen rfl

theorem serves_evaluateHeatingCoolingDemand :
    state.Serves command
      (state.evaluateHeatingCoolingDemand parameters command admission now) := by
  rw [evaluateHeatingCoolingDemand]
  generalize hobserved : (state.advanceWindow parameters command now).observeCounterDirection
    parameters state.referenceDirection command now = observed
  have hauthority : observed.authority = state.authority := by
    rw [← hobserved, authority_observeCounterDirection, authority_advanceWindow]
  have hsettled : state.Continues command
      (observed.settleWindow parameters state.referenceDirection command admission now) :=
    settleWindow_continues.of_authority hauthority
  revert hsettled
  cases observed.settleWindow parameters state.referenceDirection command admission now with
  | error outcome => exact id
  | ok settled =>
      intro hsettled
      cases hwindow : settled.activeWindow with
      | none =>
          simp only [hwindow]
          exact ⟨rfl, .inl hsettled⟩
      | some window =>
          simp only [hwindow]
          exact serves_serveWindow.of_authority hsettled

/-! ## Admission -/

/-- The evaluation and the context it arrives in are well formed. -/
def wellFormed (input : ActuatorPlanTickInput K)
    (evaluation : TemperatureControlResult K) : Bool :=
  isStructurallyValidEvaluation evaluation &&
    isStructurallyValidContext input.currentCanonicalContext

/-- The request arrives before its deadline and in the context it was made for. -/
def arrivesInTime (parameters : ActuatorPlannerParameters) (input : ActuatorPlanTickInput K)
    (request : ControlRequest K) : Bool :=
  !deadlineReached input.nowMonotonicMillis request.identity.createdAtMonotonicMillis
    parameters.requestWatchdogMillis &&
  decide (request.context = input.currentCanonicalContext)

/-- What phase A does with each kind of evaluation. -/
inductive Admission (state : ActuatorPlannerRuntimeState K)
    (parameters : ActuatorPlannerParameters) (input : ActuatorPlanTickInput K) :
    PhaseAOutcome K × ActuatorPlannerRuntimeState K → Prop
  | noCandidate (hnone : input.newEvaluation = none) :
      Admission state parameters input ({}, state)
  | malformed {evaluation} (hsome : input.newEvaluation = some evaluation)
      (hmalformed : wellFormed input evaluation = false) :
      Admission state parameters input ({ admissionOutcome := .malformedCandidate },
        { state with feedback := state.feedback.endEpisode })
  | requestless {evaluation} (hsome : input.newEvaluation = some evaluation)
      (hwell : wellFormed input evaluation = true)
      (hrequest : evaluation.controlRequest = none) :
      Admission state parameters input
        ({ admissionOutcome := admittedUnder input.safetyGate
           candidate := some (requestlessCommand input.currentCanonicalContext) },
          { state with
            feedback := state.feedback.endEpisode
            lastNewRequestAcceptedAtMonotonicMillis := some input.nowMonotonicMillis })
  | replayed {evaluation request} (hsome : input.newEvaluation = some evaluation)
      (hwell : wellFormed input evaluation = true)
      (hrequest : evaluation.controlRequest = some request)
      (hold : state.lastObservedSequenceHighWatermark.any
        (request.identity.sequence ≤ ·) = true) :
      Admission state parameters input
        ({ admissionOutcome := .duplicateOrOldSequence }, state)
  | stale {evaluation request outcome} (hsome : input.newEvaluation = some evaluation)
      (hwell : wellFormed input evaluation = true)
      (hrequest : evaluation.controlRequest = some request)
      (hnew : state.lastObservedSequenceHighWatermark.any
        (request.identity.sequence ≤ ·) = false)
      (hstale : arrivesInTime parameters input request = false)
      (houtcome : outcome ≠ .malformedCandidate) :
      Admission state parameters input ({ admissionOutcome := outcome },
        state.observeStale request.identity.sequence
          (isActiveDemand (classifyActuatorDemand evaluation)))
  | fresh {evaluation request} (hsome : input.newEvaluation = some evaluation)
      (hwell : wellFormed input evaluation = true)
      (hrequest : evaluation.controlRequest = some request)
      (hnew : state.lastObservedSequenceHighWatermark.any
        (request.identity.sequence ≤ ·) = false)
      (hintime : arrivesInTime parameters input request = true) :
      Admission state parameters input
        ({ admissionOutcome := admittedUnder input.safetyGate
           candidate := some (commandOf request (classifyActuatorDemand evaluation)) },
          state.observeFresh request.identity.sequence
            (isActiveDemand (classifyActuatorDemand evaluation)) input.nowMonotonicMillis)

theorem runPhaseA_admission {input : ActuatorPlanTickInput K} :
    state.Admission parameters input (state.runPhaseA parameters input) := by
  rw [runPhaseA]
  cases hsome : input.newEvaluation with
  | none => exact .noCandidate hsome
  | some evaluation =>
      simp only
      split
      · rename_i hmalformed
        exact .malformed hsome (by simpa [wellFormed, imp_iff_not_or] using hmalformed)
      · rename_i hwell
        have hwell : wellFormed input evaluation = true := by simpa [wellFormed] using hwell
        cases hrequest : evaluation.controlRequest with
        | none => exact .requestless hsome hwell hrequest
        | some request =>
            simp only [admitRequest]
            split
            · rename_i hold
              exact .replayed hsome hwell hrequest hold
            · rename_i hnew
              have hnew := Bool.eq_false_iff.mpr hnew
              split
              · rename_i hlate
                exact .stale hsome hwell hrequest hnew (by simp [arrivesInTime, hlate])
                  (by rintro ⟨⟩)
              · rename_i hearly
                split
                · rename_i hother
                  exact .stale hsome hwell hrequest hnew (by simp [arrivesInTime, hother])
                    (by rintro ⟨⟩)
                · rename_i hsame
                  refine .fresh hsome hwell hrequest hnew ?_
                  simp only [not_not] at hsame
                  simp [arrivesInTime, hearly, hsame]

/-! ## Decision -/

/-- What phase B does with the admitted state. -/
inductive Decision (state : ActuatorPlannerRuntimeState K)
    (parameters : ActuatorPlannerParameters) (input : ActuatorPlanTickInput K)
    (admission : PhaseAOutcome K) (outcome : TickOutcome K) : Prop
  | rejected {status}
      (hrejection : state.rejection parameters input admission =
        some (status, outcome.1.reason))
      (hidle : outcome.2.lastAppliedDirection = .idle)
      (hauthority : outcome.2.authority =
        { (state.latchTrippedWatchdog outcome.1.reason
            input.nowMonotonicMillis).authority with
          acceptedCommand := none
          feedback := state.feedback.rejectSubject })
  | tornDown (hpassed : state.rejection parameters input admission = none)
      (hanswered : outcome.1.reason.rejects = false)
      (hidle : outcome.2.lastAppliedDirection = .idle)
      (hauthority : outcome.2.authority =
        { (state.planned admission).authority with acceptedCommand := none })
  | held (hpassed : state.rejection parameters input admission = none)
      (hanswered : outcome.1.reason.rejects = false)
      (hdirection : outcome.2.lastAppliedDirection = state.lastAppliedDirection)
      (hauthority : outcome.2.authority = (state.planned admission).authority)
  | served {accepted} (hpassed : state.rejection parameters input admission = none)
      (hdemand : (state.planned admission).demand = some accepted)
      (hserves : (state.planned admission).Serves accepted outcome)

theorem authority_planned {admission : PhaseAOutcome K} :
    (state.planned admission).authority =
      { state.authority with
        acceptedCommand := admission.candidate.or state.acceptedCommand } := by
  rw [planned]
  cases admission.candidate <;> rfl

omit [ControlNumber K] in
theorem authority_latchTrippedWatchdog {reason : ActuatorPlanReason} {now : UInt64} :
    (state.latchTrippedWatchdog reason now).authority =
      { state.authority with
        latchedWatchdogFault := if reason = .staleRequestWatchdog then
            some ⟨now, state.lastObservedSequenceHighWatermark.getD 0⟩
          else state.latchedWatchdogFault } := by
  rw [latchTrippedWatchdog]
  split <;> rfl

/-- A rejection gives up the command and sharpens the open episode. -/
theorem authority_rejectToIdle {outcome : ActuatorAdmissionOutcome}
    {status : ActuatorPlanStatus} {reason : ActuatorPlanReason} :
    (state.rejectToIdle parameters now outcome status reason).2.authority =
      { state.authority with
        acceptedCommand := none
        feedback := state.feedback.rejectSubject } := by
  have hstopped : (state.setPhysicalDirection parameters .idle now).authority =
      state.authority := authority_setPhysicalDirection
  have hfeedback : (state.setPhysicalDirection parameters .idle now).feedback =
      state.feedback := congrArg RequestAuthority.feedback hstopped
  calc
    (state.rejectToIdle parameters now outcome status reason).2.authority =
        { (state.setPhysicalDirection parameters .idle now).authority with
          acceptedCommand := none
          feedback :=
            (state.setPhysicalDirection parameters .idle now).feedback.rejectSubject } := rfl
    _ = { state.authority with
          acceptedCommand := none
          feedback := state.feedback.rejectSubject } := by rw [hstopped, hfeedback]

theorem runPhaseB_decision {input : ActuatorPlanTickInput K} {admission : PhaseAOutcome K} :
    state.Decision parameters input admission
      (state.runPhaseB parameters input admission) := by
  cases hrejection : state.rejection parameters input admission with
  | some rejected =>
      obtain ⟨status, reason⟩ := rejected
      rw [runPhaseB, hrejection]
      refine .rejected hrejection ?_ ?_
      · have hidle := congrArg PhysicalOutput.direction
          (output_rejectToIdle : ((state.latchTrippedWatchdog reason
            input.nowMonotonicMillis).rejectToIdle parameters input.nowMonotonicMillis
              admission.admissionOutcome status reason).2.output = _)
        exact hidle.trans PhysicalOutput.direction_switch
      · have hfeedback : (state.latchTrippedWatchdog reason
            input.nowMonotonicMillis).feedback = state.feedback := by
          rw [latchTrippedWatchdog]
          split <;> rfl
        simp only
        rw [authority_rejectToIdle, hfeedback]
        rfl
  | none =>
      rw [runPhaseB_of_passed hrejection]
      cases hdemand : (state.planned admission).demand with
      | some accepted =>
          exact .served hrejection hdemand serves_evaluateHeatingCoolingDemand
      | none =>
          simp only [tearDown]
          split
          · have hdirection := congrArg PhysicalOutput.direction
              (output_planned : (state.planned admission).output = state.output)
            exact .held hrejection rfl hdirection rfl
          · refine .tornDown hrejection ?_ ?_ ?_
            · simp only [ended, buildResult]
              split <;> rfl
            · have hidle := congrArg PhysicalOutput.direction
                (output_setPhysicalDirection : ((state.planned admission).setPhysicalDirection
                  parameters .idle input.nowMonotonicMillis).output = _)
              exact hidle.trans PhysicalOutput.direction_switch
            · have hstopped : ((state.planned admission).setPhysicalDirection parameters .idle
                  input.nowMonotonicMillis).authority = (state.planned admission).authority :=
                authority_setPhysicalDirection
              rw [← hstopped]
              rfl

/-- A stop ends the episode of the watchdog and gives up the command. -/
theorem authority_forceStop {episode : ActuatorFeedbackEpisodeAtStop} :
    (state.forceStop parameters now episode).2.authority =
      { state.authority with
        acceptedCommand := none
        lastNewRequestAcceptedAtMonotonicMillis := none
        watchdogEpisodeStartedAtMonotonicMillis := none
        feedback := state.feedback.stop episode } := by
  have hstopped : (state.setPhysicalDirection parameters .idle now).authority =
      state.authority := authority_setPhysicalDirection
  have hfeedback : (state.setPhysicalDirection parameters .idle now).feedback =
      state.feedback := congrArg RequestAuthority.feedback hstopped
  rw [← hstopped, ← hfeedback]
  rfl

theorem direction_forceStop {episode : ActuatorFeedbackEpisodeAtStop} :
    (state.forceStop parameters now episode).2.lastAppliedDirection = .idle := by
  have houtput : (state.forceStop parameters now episode).2.output = _ := output_forceStop
  exact (congrArg PhysicalOutput.direction houtput).trans PhysicalOutput.direction_switch

/-- The watchdog is refreshed by the admission alone. -/
theorem Decision.refreshed {input : ActuatorPlanTickInput K} {admitted : PhaseAOutcome K}
    {outcome : TickOutcome K} (h : state.Decision parameters input admitted outcome) :
    outcome.2.lastNewRequestAcceptedAtMonotonicMillis =
      state.lastNewRequestAcceptedAtMonotonicMillis := by
  have hplanned : (state.planned admitted).lastNewRequestAcceptedAtMonotonicMillis =
      state.lastNewRequestAcceptedAtMonotonicMillis := by
    rw [planned]
    cases admitted.candidate <;> rfl
  cases h with
  | rejected _ _ hauthority =>
      have hlatched : (state.latchTrippedWatchdog outcome.1.reason
          input.nowMonotonicMillis).lastNewRequestAcceptedAtMonotonicMillis =
          state.lastNewRequestAcceptedAtMonotonicMillis := by
        rw [latchTrippedWatchdog]
        split <;> rfl
      exact (congrArg RequestAuthority.lastNewRequestAcceptedAtMonotonicMillis
        hauthority).trans hlatched
  | tornDown _ _ _ hauthority =>
      exact (congrArg RequestAuthority.lastNewRequestAcceptedAtMonotonicMillis
        hauthority).trans hplanned
  | held _ _ _ hauthority =>
      exact (congrArg RequestAuthority.lastNewRequestAcceptedAtMonotonicMillis
        hauthority).trans hplanned
  | served _ _ hserves =>
      rcases hserves.authority with hsame | ⟨reason, hmerged⟩
      · exact (congrArg RequestAuthority.lastNewRequestAcceptedAtMonotonicMillis
          hsame).trans hplanned
      · exact (congrArg RequestAuthority.lastNewRequestAcceptedAtMonotonicMillis
          hmerged).trans hplanned

/-- Only what is not well formed is a malformed candidate. -/
theorem runPhaseA_malformed_iff {input : ActuatorPlanTickInput K}
    {evaluation : TemperatureControlResult K} (hsome : input.newEvaluation = some evaluation) :
    (state.runPhaseA parameters input).1.admissionOutcome = .malformedCandidate ↔
      wellFormed input evaluation = false := by
  have hadmitted (gate : ActuatorSafetyGateStatus) :
      admittedUnder gate ≠ .malformedCandidate := by
    rw [admittedUnder]
    split <;> exact nofun
  have hadmission : state.Admission parameters input (state.runPhaseA parameters input) :=
    runPhaseA_admission
  generalize state.runPhaseA parameters input = admitted at hadmission ⊢
  cases hadmission with
  | noCandidate hnone => rw [hnone] at hsome; cases hsome
  | malformed hother hmalformed =>
      cases hsome.symm.trans hother
      exact iff_of_true rfl hmalformed
  | requestless hother hwell _ =>
      cases hsome.symm.trans hother
      exact iff_of_false (hadmitted _) (by rw [hwell]; exact Bool.noConfusion)
  | replayed hother hwell _ _ =>
      cases hsome.symm.trans hother
      exact iff_of_false nofun (by rw [hwell]; exact Bool.noConfusion)
  | stale hother hwell _ _ _ houtcome =>
      cases hsome.symm.trans hother
      exact iff_of_false houtcome (by rw [hwell]; exact Bool.noConfusion)
  | fresh hother hwell _ _ _ =>
      cases hsome.symm.trans hother
      exact iff_of_false (hadmitted _) (by rw [hwell]; exact Bool.noConfusion)

/-- A tick decides on the state its admission leaves. -/
theorem tick_decision {input : ActuatorPlanTickInput K} :
    ∃ admitted, (state.openWatchdogEpisode input).Admission parameters input admitted ∧
      admitted.2.Decision parameters input admitted.1 (state.tick parameters input) := by
  have hdecision : ((state.openWatchdogEpisode input).runPhaseA parameters input).2.Decision
      parameters input ((state.openWatchdogEpisode input).runPhaseA parameters input).1 _ :=
    runPhaseB_decision
  refine ⟨_, runPhaseA_admission, ?_⟩
  cases hdecision with
  | rejected hrejection hidle hauthority => exact .rejected hrejection hidle hauthority
  | tornDown hpassed hanswered hidle hauthority =>
      exact .tornDown hpassed hanswered hidle hauthority
  | held hpassed hanswered hdirection hauthority =>
      exact .held hpassed hanswered hdirection hauthority
  | served hpassed hdemand hserves =>
      exact .served hpassed hdemand ⟨hserves.answered, hserves.authority⟩

/-- The request of the evaluation, if it has one, is new and arrives in time. -/
def RequestArrives (state : ActuatorPlannerRuntimeState K)
    (parameters : ActuatorPlannerParameters) (input : ActuatorPlanTickInput K)
    (evaluation : TemperatureControlResult K) : Prop :=
  ∀ request, evaluation.controlRequest = some request →
    state.lastObservedSequenceHighWatermark.any (request.identity.sequence ≤ ·) = false ∧
      arrivesInTime parameters input request = true

/-- A tick refreshes the watchdog for a well-formed evaluation whose request arrives, and
for no other one. -/
theorem tick_refreshes_iff {input : ActuatorPlanTickInput K}
    {evaluation : TemperatureControlResult K} (hsome : input.newEvaluation = some evaluation) :
    (state.tick parameters input).2.lastNewRequestAcceptedAtMonotonicMillis =
        some input.nowMonotonicMillis ↔
      state.lastNewRequestAcceptedAtMonotonicMillis = some input.nowMonotonicMillis ∨
      wellFormed input evaluation = true ∧ state.RequestArrives parameters input evaluation := by
  have hwatermark : (state.openWatchdogEpisode input).lastObservedSequenceHighWatermark =
      state.lastObservedSequenceHighWatermark := by
    rw [openWatchdogEpisode]
    split <;> rfl
  have hlast : (state.openWatchdogEpisode input).lastNewRequestAcceptedAtMonotonicMillis =
      state.lastNewRequestAcceptedAtMonotonicMillis := by
    rw [openWatchdogEpisode]
    split <;> rfl
  obtain ⟨admitted, hadmission, hdecision⟩ :=
    @tick_decision K _ state parameters input
  rw [hdecision.refreshed, ← hlast]
  cases hadmission with
  | noCandidate hnone =>
      rw [hnone] at hsome
      cases hsome
  | malformed hother hmalformed =>
      cases hsome.symm.trans hother
      refine (or_iff_left fun h => ?_).symm
      rw [h.1] at hmalformed
      cases hmalformed
  | requestless hother hwell hrequest =>
      cases hsome.symm.trans hother
      refine iff_of_true rfl (.inr ⟨hwell, fun request h => ?_⟩)
      cases hrequest.symm.trans h
  | replayed hother _ hrequest hold =>
      cases hsome.symm.trans hother
      refine (or_iff_left fun h => ?_).symm
      rw [hwatermark, (h.2 _ hrequest).1] at hold
      cases hold
  | stale hother _ hrequest _ hstale _ =>
      cases hsome.symm.trans hother
      refine (or_iff_left fun h => ?_).symm
      rw [(h.2 _ hrequest).2] at hstale
      cases hstale
  | fresh hother hwell hrequest hnew hintime =>
      cases hsome.symm.trans hother
      refine iff_of_true rfl (.inr ⟨hwell, fun request h => ?_⟩)
      cases hrequest.symm.trans h
      rw [← hwatermark]
      exact ⟨hnew, hintime⟩

end ActuatorPlannerRuntimeState

end Fermentationsschrank

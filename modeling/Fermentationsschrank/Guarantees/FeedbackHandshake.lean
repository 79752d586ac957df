import Fermentationsschrank.Control.ControlOrchestrator
import Fermentationsschrank.Control.FeedbackEpisodes
import Fermentationsschrank.Guarantees.DeviceRuns
import Fermentationsschrank.Guarantees.EvaluationMatrix
import Fermentationsschrank.Guarantees.PlannerRuns

/-!
# The handshake of the feedback

Evaluations, ticks and persisted operations come in any order.  An observer that notes
the open demand, the requests that are over and the reported dispositions can tell what
feedback the controller is given.
-/

namespace Fermentationsschrank

/-! ## Runs of the orchestrator -/

/-- A persisted operation reaches the orchestrator with its result, the phase before it
and the live state it leaves. -/
inductive OrchestratorCall
  | evaluateTemperatureControl (current : RunCommandState)
      (evidence : TemperatureControlEvaluationEvidence)
  | tickActuatorPlan (current : RunCommandState) (nowMonotonicMillis : UInt64)
      (currentGate : ActuatorSafetyGateStatus)
  | complete (result : RunPersistenceResult) (before : ProcessState)
      (current : RunCommandState) (nowMonotonicMillis : UInt64) (recoveryBoundary : Bool)
  | applyExternalWatchdogFaultReset

variable {K : Type} [ControlNumber K]

structure OrchestratorEvent (K : Type) where
  call : OrchestratorCall
  before : TemperatureControlApplicationOrchestrator K
  after : TemperatureControlApplicationOrchestrator K

namespace TemperatureControlApplicationOrchestrator

def perform (orchestrator : TemperatureControlApplicationOrchestrator K) :
    OrchestratorCall → TemperatureControlApplicationOrchestrator K
  | .evaluateTemperatureControl current evidence =>
      (orchestrator.evaluateTemperatureControl current evidence).2
  | .tickActuatorPlan current nowMonotonicMillis currentGate =>
      (orchestrator.tickActuatorPlan current nowMonotonicMillis currentGate).2
  | .complete result before current nowMonotonicMillis recoveryBoundary =>
      (orchestrator.complete result before current nowMonotonicMillis recoveryBoundary).2
  | .applyExternalWatchdogFaultReset =>
      { orchestrator with
        planner := orchestrator.planner.map (·.applyExternalWatchdogFaultReset) }

/-- As it is constructed, with a planner or without one. -/
def Fresh (orchestrator : TemperatureControlApplicationOrchestrator K) : Prop :=
  ∃ parameters policy initialRequestSequence evaluator planner,
    (∀ bound, planner = some bound → bound.Fresh) ∧
    orchestrator = {
      temperatureController := .make parameters policy initialRequestSequence
      evaluator, planner }

end TemperatureControlApplicationOrchestrator

inductive OrchestratorStep (orchestrator : TemperatureControlApplicationOrchestrator K) :
    OrchestratorEvent K → TemperatureControlApplicationOrchestrator K → Prop
  | perform (call : OrchestratorCall) :
      OrchestratorStep orchestrator ⟨call, orchestrator, orchestrator.perform call⟩
        (orchestrator.perform call)

namespace OrchestratorEvent

variable (event : OrchestratorEvent K)

/-- The evaluation is the first one since the last tick, and there is a planner. -/
def Registers : Prop :=
  event.before.planner.isSome ∧ event.before.outstandingEvaluation = none

instance : Decidable event.Registers :=
  inferInstanceAs (Decidable (_ ∧ _ = none))

/-- What the controller is given in the event. -/
def controllerInput : Option TemperatureControlInput :=
  match event.call with
  | .evaluateTemperatureControl current evidence =>
      let context := resolveEffectiveControlContext current
      if event.Registers ∧ context.valid then
        some (event.before.controllerInput context evidence)
      else none
  | _ => none

/-- The result that waits for the next tick after an evaluation. -/
def registered : Option (TemperatureControlResult K) :=
  match event.call with
  | .evaluateTemperatureControl current evidence =>
      if event.Registers then
        some (event.before.evaluateTemperatureControl current evidence).1
      else none
  | _ => none

/-- The feedback a tick reports. -/
def reported : Option PreviousControlRequestFeedback :=
  match event.call, event.before.planner with
  | .tickActuatorPlan current nowMonotonicMillis currentGate, some planner =>
      (planner.tick (event.before.tickInput current nowMonotonicMillis
        currentGate)).2.takeFeedbackUpdate.1.feedback
  | _, _ => none

/-- The operation was applied and crosses a boundary of the run. -/
def crossesBoundary : Bool :=
  match event.call with
  | .complete result before current _ recoveryBoundary =>
      decide (result.status = .applied) &&
        TemperatureControlApplicationOrchestrator.needsRuntimeReset before
          current.processState.state recoveryBoundary (result.effects.contains .runStarted)
  | _ => false

end OrchestratorEvent

/-! ## What an observer knows -/

/-- The sequence of the last evaluation where it was a demand and no boundary was crossed
since; the sequences of all other requests; and the reports. -/
structure FeedbackRecord where
  openDemand : Option UInt64 := none
  finished : List UInt64 := []
  reports : List PreviousControlRequestFeedback := []

namespace FeedbackRecord

/-- Whatever was open is over. -/
def closed (record : FeedbackRecord) : FeedbackRecord :=
  { record with openDemand := none, finished := record.finished ++ record.openDemand.toList }

/-- A demand is open, the request of a result that is none is over at once. -/
def register (record : FeedbackRecord) (result : TemperatureControlResult K) :
    FeedbackRecord :=
  let sequence := result.controlRequest.map (·.identity.sequence)
  if result.status = .demand then { record.closed with openDemand := sequence }
  else { record.closed with finished := record.closed.finished ++ sequence.toList }

def observe (record : FeedbackRecord) (event : OrchestratorEvent K) : FeedbackRecord :=
  let settled := if event.crossesBoundary then record.closed else record
  let registered := match event.registered with
    | some result => settled.register result
    | none => settled
  { registered with reports := registered.reports ++ event.reported.toList }

end FeedbackRecord

/-- What holds of the feedback in an event, by the record of the events before it. -/
structure OrchestratorEvent.Handshake (record : FeedbackRecord)
    (event : OrchestratorEvent K) : Prop where
  /-- The feedback names the open demand, which no other request shares its name with. -/
  current : ∀ input feedback, event.controllerInput = some input →
    input.previousControlRequestFeedback = some feedback →
    record.openDemand = some feedback.controlRequestSequence ∧
      feedback.controlRequestSequence ∉ record.finished
  /-- It fits the window of the controller. -/
  fits : ∀ input, event.controllerInput = some input →
    TemperatureController.FeedbackFits event.before.temperatureController.state.feedbackWindow
      input.previousControlRequestFeedback
  /-- The sample is never refused for its feedback. -/
  consumed : ∀ input state, event.controllerInput = some input →
    state.feedbackWindow = event.before.temperatureController.state.feedbackWindow →
    ∃ consumed, TemperatureController.consumeFeedback input state = .ok consumed
  /-- The reports of one sequence become more severe. -/
  severe : ∀ feedback earlier, event.reported = some feedback → earlier ∈ record.reports →
    earlier.controlRequestSequence = feedback.controlRequestSequence →
    feedbackSeverity earlier.disposition ≤ feedbackSeverity feedback.disposition

/-! ## What the record knows of the components -/

/-- The episode of the planner belongs to the open demand, and the slot of the orchestrator
holds its feedback unless an update waits to replace it. -/
structure EpisodeKnown (record : FeedbackRecord) (episode : FeedbackEpisode)
    (watermark : Option UInt64) (slot : Option PreviousControlRequestFeedback) : Prop where
  subject : ∀ sequence, episode.feedbackEpisodeSubjectSequence = some sequence →
    record.openDemand = some sequence ∧ sequence ≠ 0 ∧ watermark.any (sequence ≤ ·)
  pending : ∀ pending, episode.pendingFeedback = some pending →
    episode.feedbackEpisodeSubjectSequence = some pending.sequence ∧
        pending.disposition ≠ .unlisted ∨
      episode.feedbackEpisodeSubjectSequence = none ∧
        episode.pendingFeedbackUpdateAvailable = false
  severe : ∀ sequence earlier, episode.feedbackEpisodeSubjectSequence = some sequence →
    earlier ∈ record.reports → earlier.controlRequestSequence = sequence →
    ∃ pending, episode.pendingFeedback = some pending ∧
      feedbackSeverity earlier.disposition ≤ feedbackSeverity pending.disposition
  marked : ∀ earlier ∈ record.reports, watermark.any (earlier.controlRequestSequence ≤ ·)
  slot : episode.pendingFeedbackUpdateAvailable = false → ∀ feedback, slot = some feedback →
    episode.feedbackEpisodeSubjectSequence = some feedback.controlRequestSequence ∧
      feedback.disposition ≠ .unlisted

/-- The planner follows the evaluation that waits, or has consumed the last one. -/
inductive PlannerFollows (record : FeedbackRecord) (window : Option (ControlRequest K))
    (state : ActuatorPlannerRuntimeState K) :
    Option (TemperatureControlResult K) → Option PreviousControlRequestFeedback → Prop
  | consumed {slot}
      (hknown : EpisodeKnown record state.feedback state.lastObservedSequenceHighWatermark
        slot)
      (htaken : state.feedback.pendingFeedbackUpdateAvailable = false) :
      PlannerFollows record window state none slot
  | waiting {result slot}
      (hknown : EpisodeKnown record state.feedback state.lastObservedSequenceHighWatermark
        none)
      (hended : state.feedback.feedbackEpisodeSubjectSequence = none ∧
        state.feedback.pendingFeedback = none)
      (hopened : TemperatureController.opened result = window)
      (hslot : result.controlRequest.isSome → slot = none) :
      PlannerFollows record window state (some result) slot

/-- The window of the controller is the open demand, and new requests get new names. -/
structure ControllerKnown (record : FeedbackRecord) (controller : TemperatureController K) :
    Prop where
  window : controller.state.feedbackWindow.map (·.identity.sequence) = record.openDemand
  distinct : ∀ sequence, record.openDemand = some sequence → sequence ∉ record.finished
  used : controller.requestIdentityExhausted = false →
    ∀ sequence ∈ record.finished ++ record.openDemand.toList,
      sequence < controller.nextRequestSequence

structure HandshakeKnown (orchestrator : TemperatureControlApplicationOrchestrator K)
    (record : FeedbackRecord) : Prop where
  controller : ControllerKnown record orchestrator.temperatureController
  planner : ∀ planner, orchestrator.planner = some planner →
    PlannerFollows record orchestrator.temperatureController.state.feedbackWindow
      planner.state orchestrator.outstandingEvaluation
      orchestrator.pendingControlRequestFeedback

/-! ## The episode of a tick -/

namespace EpisodeKnown

variable {record : FeedbackRecord} {episode next : FeedbackEpisode}
variable {watermark : Option UInt64} {slot : Option PreviousControlRequestFeedback}

/-- A disposition for the subject is as severe as every report of it. -/
theorem sharpened (h : EpisodeKnown record episode watermark slot)
    (hsharpens : episode.Sharpens next) : EpisodeKnown record next watermark slot := by
  cases hsharpens with
  | same => exact h
  | @merged sequence disposition hsubject hlisted =>
      obtain ⟨hopen, hnonzero, hmarked⟩ := h.subject sequence hsubject
      have hpending (pending : PendingControlRequestFeedback)
          (hsome : episode.pendingFeedback = some pending) : pending.sequence = sequence := by
        rcases h.pending pending hsome with ⟨hsame, -⟩ | ⟨hnone, -⟩
        · exact Option.some.inj (hsame.symm.trans hsubject)
        · cases hsubject.symm.trans hnone
      rcases FeedbackEpisode.mergeFeedback_cases hnonzero hpending with
        ⟨hsame, -⟩ | ⟨hsevere, hmerged⟩
      · rw [hsame]
        exact h
      · rw [hmerged]
        refine ⟨h.subject, ?_, ?_, h.marked, nofun⟩
        · rintro _ ⟨⟩
          exact .inl ⟨hsubject, hlisted⟩
        · intro other earlier hother hearlier hsequence
          obtain ⟨pending, hsome, hle⟩ := h.severe other earlier hother hearlier hsequence
          exact ⟨_, rfl, hle.trans (hsevere pending hsome)⟩

/-- The update is taken: what is recorded is reported, and goes to the slot. -/
theorem taken (h : EpisodeKnown record episode watermark slot)
    (havailable : episode.pendingFeedbackUpdateAvailable = true)
    {report : Option PreviousControlRequestFeedback}
    (hreport : report = episode.pendingFeedback.map fun pending =>
      ⟨pending.sequence, pending.disposition⟩) :
    EpisodeKnown { record with reports := record.reports ++ report.toList }
        { episode with pendingFeedbackUpdateAvailable := false } watermark report ∧
      ∀ feedback earlier, report = some feedback → earlier ∈ record.reports →
        earlier.controlRequestSequence = feedback.controlRequestSequence →
        feedbackSeverity earlier.disposition ≤ feedbackSeverity feedback.disposition := by
  have hsubject (pending : PendingControlRequestFeedback)
      (hsome : episode.pendingFeedback = some pending) :
      episode.feedbackEpisodeSubjectSequence = some pending.sequence ∧
        pending.disposition ≠ .unlisted := by
    rcases h.pending pending hsome with hopen | ⟨-, htaken⟩
    · exact hopen
    · cases havailable.symm.trans htaken
  rcases Option.eq_none_or_eq_some episode.pendingFeedback with hsome | ⟨pending, hsome⟩
  · rw [hsome, Option.map_none] at hreport
    subst hreport
    refine ⟨⟨h.subject, fun _ hother => ?_, ?_, ?_, nofun⟩, nofun⟩
    · cases hsome.symm.trans hother
    · simpa using h.severe
    · simpa using h.marked
  · rw [hsome, Option.map_some] at hreport
    subst hreport
    obtain ⟨hopen, hlisted⟩ := hsubject pending hsome
    refine ⟨⟨h.subject, fun other hother => ?_, ?_, ?_, ?_⟩, ?_⟩
    · cases hsome.symm.trans hother
      exact .inl ⟨hopen, hlisted⟩
    · intro sequence earlier hsequence hearlier hname
      rw [Option.toList_some, List.mem_append, List.mem_singleton] at hearlier
      rcases hearlier with hearlier | rfl
      · exact h.severe sequence earlier hsequence hearlier hname
      · cases hname
        refine ⟨pending, hsome, le_rfl⟩
    · intro earlier hearlier
      rw [Option.toList_some, List.mem_append, List.mem_singleton] at hearlier
      rcases hearlier with hearlier | rfl
      · exact h.marked earlier hearlier
      · exact (h.subject pending.sequence hopen).2.2
    · rintro - _ ⟨⟩
      exact ⟨hopen, hlisted⟩
    · rintro _ earlier ⟨⟩ hearlier hname
      obtain ⟨_, hother, hle⟩ := h.severe pending.sequence earlier hopen hearlier hname
      cases hsome.symm.trans hother
      exact hle

end EpisodeKnown

section Components

variable {record : FeedbackRecord} {window : Option (ControlRequest K)}
variable {planner : ActuatorPlanner K} {slot : Option PreviousControlRequestFeedback}
variable {outstanding : Option (TemperatureControlResult K)}

/-! ## The planner -/

omit [ControlNumber K] in
/-- The admission of what waits leads to an episode that is known again. -/
theorem PlannerFollows.admitted {state : ActuatorPlannerRuntimeState K}
    {input : ActuatorPlanTickInput K} {episode : FeedbackEpisode}
    {watermark : Option UInt64}
    (h : PlannerFollows record window state outstanding slot)
    (hwindow : window.map (·.identity.sequence) = record.openDemand)
    (hinput : input.newEvaluation = outstanding)
    (hepisode : state.Episode input episode watermark) :
    EpisodeKnown record episode watermark slot := by
  cases h with
  | consumed hknown _ =>
      cases hepisode with
      | kept _ => exact hknown
      | replayed hsome _ | ended hsome _ | began hsome _ _ _ _ =>
          cases hsome.symm.trans hinput
  | waiting hknown hended hopened hslot =>
      cases hepisode with
      | kept hnone => cases hnone.symm.trans hinput
      | replayed hsome hrequest =>
          cases hsome.symm.trans hinput
          rw [hslot (Option.isSome_of_eq_some hrequest)]
          exact hknown
      | ended _ hraised =>
          exact ⟨nofun, nofun, nofun, fun earlier hearlier =>
            hraised _ (hknown.marked earlier hearlier), nofun⟩
      | @began evaluation request pending hsome hdemand hnonzero hnew hpending =>
          cases hsome.symm.trans hinput
          rw [← hopened, hdemand, Option.map_some] at hwindow
          refine ⟨?_, ?_, ?_, ?_, nofun⟩
          · rintro _ ⟨⟩
            exact ⟨hwindow.symm, hnonzero, by simp⟩
          · rintro found rfl
            rcases hpending with hnone | hrejected
            · cases hnone
            · cases hrejected
              exact .inl ⟨rfl, nofun⟩
          · rintro _ earlier ⟨⟩ hearlier hname
            have hmarked := hknown.marked earlier hearlier
            rw [hname, hnew] at hmarked
            cases hmarked
          · intro earlier hearlier
            have hless := ActuatorPlannerRuntimeState.raised_of_new hnew _
              (hknown.marked earlier hearlier)
            simpa using UInt64.le_of_lt hless

/-- After a tick the waiting evaluation is consumed, and a report is as severe as the
earlier ones of its sequence. -/
theorem PlannerFollows.tick {input : ActuatorPlanTickInput K}
    (h : PlannerFollows record window planner.state outstanding slot)
    (hwindow : window.map (·.identity.sequence) = record.openDemand)
    (hinput : input.newEvaluation = outstanding) :
    PlannerFollows
        { record with reports := record.reports ++
            (planner.tick input).2.takeFeedbackUpdate.1.feedback.toList }
        window (planner.tick input).2.takeFeedbackUpdate.2.state none
        (if (planner.tick input).2.takeFeedbackUpdate.1.changed then
          (planner.tick input).2.takeFeedbackUpdate.1.feedback else slot) ∧
      ∀ feedback earlier,
        (planner.tick input).2.takeFeedbackUpdate.1.feedback = some feedback →
        earlier ∈ record.reports →
        earlier.controlRequestSequence = feedback.controlRequestSequence →
        feedbackSeverity earlier.disposition ≤ feedbackSeverity feedback.disposition := by
  obtain ⟨episode, hepisode, hsharpens⟩ :=
    @ActuatorPlannerRuntimeState.tick_episode K _ planner.state planner.parameters input
  have hknown := (h.admitted hwindow hinput hepisode).sharpened hsharpens
  have hticked : (planner.tick input).2.state =
      (planner.state.tick planner.parameters input).2 := rfl
  rw [← hticked] at hknown
  generalize (planner.tick input).2 = ticked at hknown ⊢
  rw [ActuatorPlanner.takeFeedbackUpdate]
  by_cases havailable : ticked.state.feedback.pendingFeedbackUpdateAvailable = true
  · obtain ⟨htaken, hsevere⟩ := hknown.taken havailable rfl
    simp only [havailable, if_true]
    exact ⟨.consumed htaken rfl, hsevere⟩
  · simp only [if_neg havailable, Option.toList_none, List.append_nil]
    exact ⟨.consumed hknown (Bool.eq_false_iff.mpr havailable), by rintro _ _ ⟨⟩⟩

omit [ControlNumber K] in
theorem PlannerFollows.marked {state : ActuatorPlannerRuntimeState K}
    (h : PlannerFollows record window state outstanding slot) :
    ∀ earlier ∈ record.reports,
      state.lastObservedSequenceHighWatermark.any (earlier.controlRequestSequence ≤ ·) := by
  cases h with
  | consumed hknown _ => exact hknown.marked
  | waiting hknown _ _ _ => exact hknown.marked

/-- A boundary ends the episode; what it leaves recorded is never taken. -/
theorem PlannerFollows.stopped {orchestrator : TemperatureControlApplicationOrchestrator K}
    {now : UInt64} {current : RunCommandState}
    (h : PlannerFollows record window planner.state outstanding slot) :
    PlannerFollows record.closed none
      (TemperatureControlApplicationOrchestrator.bindRun (orchestrator.stopPlanner planner now)
        current).state none none := by
  have hbound (bound : ActuatorPlanner K) :
      (TemperatureControlApplicationOrchestrator.bindRun bound current).state =
        bound.state := by
    rw [TemperatureControlApplicationOrchestrator.bindRun]
    cases current.actuatorPlannerParametersSnapshot with
    | none => rfl
    | some parameters => exact ActuatorPlanner.state_beginRun
  rw [hbound, TemperatureControlApplicationOrchestrator.stopPlanner,
    ActuatorPlanner.taken_state]
  generalize hstop : (planner.forceStop now _).2 = stopped
  have hauthority := congrArg (fun stopped => stopped.state.authority) hstop
  have hfeedback : stopped.state.feedback.feedbackEpisodeSubjectSequence = none :=
    (congrArg (fun authority => authority.feedback.feedbackEpisodeSubjectSequence)
      (hauthority.symm.trans ActuatorPlannerRuntimeState.authority_forceStop)).trans rfl
  have hwatermark : stopped.state.lastObservedSequenceHighWatermark =
      planner.state.lastObservedSequenceHighWatermark :=
    congrArg RequestAuthority.lastObservedSequenceHighWatermark
      (hauthority.symm.trans ActuatorPlannerRuntimeState.authority_forceStop)
  refine .consumed ⟨?_, fun _ _ => .inr ⟨hfeedback, rfl⟩, ?_, ?_, nofun⟩ rfl
  · intro sequence hsubject
    cases hfeedback.symm.trans hsubject
  · intro sequence _ hsubject
    cases hfeedback.symm.trans hsubject
  · simp only [hwatermark]
    exact h.marked

omit [ControlNumber K] in
/-- A new evaluation ends the episode of the last one. -/
theorem PlannerFollows.registered {result : TemperatureControlResult K}
    {next : FeedbackRecord} {slot' : Option PreviousControlRequestFeedback}
    (h : PlannerFollows record window planner.state outstanding slot)
    (hreports : next.reports = record.reports)
    (hslot : result.controlRequest.isSome → slot' = none) :
    PlannerFollows next (TemperatureController.opened result)
      planner.closeFeedbackEpisodeForOutstandingEvaluation.state (some result) slot' := by
  refine .waiting ⟨nofun, nofun, nofun, ?_, nofun⟩ ⟨rfl, rfl⟩ rfl hslot
  rw [hreports]
  exact h.marked

/-! ## The controller -/

variable {controller next : TemperatureController K}

omit [ControlNumber K] in
theorem ControllerKnown.congr (h : ControllerKnown record controller)
    (hwindow : next.state.feedbackWindow = controller.state.feedbackWindow)
    (hsequence : next.nextRequestSequence = controller.nextRequestSequence)
    (hexhausted : next.requestIdentityExhausted = controller.requestIdentityExhausted) :
    ControllerKnown record next :=
  ⟨hwindow ▸ h.window, h.distinct, by rw [hsequence, hexhausted]; exact h.used⟩

/-- A reset closes the window, and with it the open demand. -/
theorem ControllerKnown.reset (h : ControllerKnown record controller) :
    ControllerKnown record.closed controller.resetRuntime := by
  refine ⟨rfl, nofun, fun havailable sequence hsequence => ?_⟩
  apply h.used havailable sequence
  simpa [FeedbackRecord.closed] using hsequence

omit [ControlNumber K] in
/-- The names in a record after an evaluation: those before it, and the one it used. -/
theorem FeedbackRecord.mem_register {result : TemperatureControlResult K} {sequence : UInt64} :
    sequence ∈ (record.register result).finished ++ (record.register result).openDemand.toList ↔
      sequence ∈ record.finished ++ record.openDemand.toList ∨
        result.controlRequest.map (·.identity.sequence) = some sequence := by
  rw [register]
  split <;> simp [closed, or_assoc]

omit [ControlNumber K] in
theorem FeedbackRecord.openDemand_register {result : TemperatureControlResult K} :
    (record.register result).openDemand =
      (TemperatureController.opened result).map (·.identity.sequence) := by
  rw [register, TemperatureController.opened]
  split <;> rfl

omit [ControlNumber K] in
/-- An evaluation opens the window of its demand, under a name that was not used. -/
theorem ControllerKnown.evaluated
    {evaluated : TemperatureControlResult K × TemperatureController K}
    (h : ControllerKnown record controller) (hanswers : controller.Answers evaluated) :
    ControllerKnown (record.register evaluated.1) evaluated.2 := by
  obtain ⟨hwindow, hissues⟩ := hanswers
  have hopen : evaluated.2.state.feedbackWindow.map (·.identity.sequence) =
      (record.register evaluated.1).openDemand := by
    rw [hwindow, FeedbackRecord.openDemand_register]
  generalize hrequest : evaluated.1.controlRequest = request at hissues
  cases hissues with
  | nothing hsequence hexhausted =>
      have hnone : TemperatureController.opened evaluated.1 = none := by
        rw [TemperatureController.opened, hrequest, ite_self]
      refine ⟨hopen, fun sequence hsequence => ?_, fun havailable sequence hmember => ?_⟩
      · rw [FeedbackRecord.openDemand_register, hnone] at hsequence
        cases hsequence
      · rw [FeedbackRecord.mem_register, hrequest] at hmember
        rw [hsequence]
        rcases hmember with hearlier | hnew
        · exact h.used (hexhausted ▸ havailable) sequence hearlier
        · cases hnew
  | @request request hidentity havailable hadvanced =>
      refine ⟨hopen, fun sequence hsequence hover => ?_, fun hstill sequence hmember => ?_⟩
      · rw [FeedbackRecord.openDemand_register, TemperatureController.opened] at hsequence
        rw [FeedbackRecord.register] at hover
        split at hsequence
        · rename_i hdemand
          rw [hrequest, Option.map_some, Option.some.injEq, hidentity] at hsequence
          rw [if_pos hdemand] at hover
          exact UInt64.lt_irrefl _ (hsequence ▸ h.used havailable sequence hover)
        · cases hsequence
      · rw [FeedbackRecord.mem_register, hrequest] at hmember
        rcases hadvanced with hexhausted | hnext
        · cases hexhausted.symm.trans hstill
        rw [UInt64.lt_iff_toNat_lt, hnext]
        rcases hmember with hearlier | hnew
        · have hless := UInt64.lt_iff_toNat_lt.mp (h.used havailable sequence hearlier)
          omega
        · rw [Option.map_some, Option.some.injEq, hidentity] at hnew
          rw [← hnew]
          exact Nat.lt_succ_self _

end Components

/-! ## One step -/

section Steps

variable {record : FeedbackRecord} {event : OrchestratorEvent K}
variable {orchestrator : TemperatureControlApplicationOrchestrator K}

/-- An event that neither evaluates nor reports nor crosses a boundary. -/
structure OrchestratorEvent.Quiet (event : OrchestratorEvent K) : Prop where
  controllerInput : event.controllerInput = none
  registered : event.registered = none
  reported : event.reported = none
  crossesBoundary : event.crossesBoundary = false

theorem OrchestratorEvent.handshake_of_silent (hinput : event.controllerInput = none)
    (hreported : event.reported = none) : event.Handshake record where
  current _ _ hgiven := by cases hinput.symm.trans hgiven
  fits _ hgiven := by cases hinput.symm.trans hgiven
  consumed _ _ hgiven := by cases hinput.symm.trans hgiven
  severe _ _ hgiven := by cases hreported.symm.trans hgiven

theorem OrchestratorEvent.Quiet.handshake (h : event.Quiet) : event.Handshake record :=
  handshake_of_silent h.controllerInput h.reported

theorem OrchestratorEvent.Quiet.observe (h : event.Quiet) : record.observe event = record := by
  rw [FeedbackRecord.observe, h.crossesBoundary, h.registered, h.reported]
  simp

omit [ControlNumber K] in
/-- What the slot holds fits the window of the controller. -/
theorem HandshakeKnown.slot {planner : ActuatorPlanner K}
    (h : HandshakeKnown orchestrator record) (hplanner : orchestrator.planner = some planner)
    (hnone : orchestrator.outstandingEvaluation = none)
    {feedback : PreviousControlRequestFeedback}
    (hslot : orchestrator.pendingControlRequestFeedback = some feedback) :
    record.openDemand = some feedback.controlRequestSequence ∧
      feedback.controlRequestSequence ≠ 0 ∧ feedback.disposition ≠ .unlisted := by
  have hfollows := h.planner planner hplanner
  rw [hnone] at hfollows
  cases hfollows with
  | consumed hknown htaken =>
      obtain ⟨hsubject, hlisted⟩ := hknown.slot htaken feedback hslot
      obtain ⟨hopen, hnonzero, -⟩ := hknown.subject _ hsubject
      exact ⟨hopen, hnonzero, hlisted⟩

omit [ControlNumber K] in
theorem HandshakeKnown.fits {planner : ActuatorPlanner K}
    (h : HandshakeKnown orchestrator record) (hplanner : orchestrator.planner = some planner)
    (hnone : orchestrator.outstandingEvaluation = none) :
    TemperatureController.FeedbackFits
      orchestrator.temperatureController.state.feedbackWindow
      orchestrator.pendingControlRequestFeedback := by
  intro feedback hslot
  obtain ⟨hopen, hnonzero, hlisted⟩ := h.slot hplanner hnone hslot
  have hwindow := h.controller.window
  rw [hopen, Option.map_eq_some_iff] at hwindow
  obtain ⟨request, hrequest, hsequence⟩ := hwindow
  exact ⟨request, hrequest, hsequence.symm, hnonzero, hlisted⟩

/-- An evaluation that is registered. -/
theorem HandshakeKnown.evaluates {planner : ActuatorPlanner K} {current : RunCommandState}
    {evidence : TemperatureControlEvaluationEvidence}
    (h : HandshakeKnown orchestrator record) (hplanner : orchestrator.planner = some planner)
    (hnone : orchestrator.outstandingEvaluation = none) :
    HandshakeKnown (orchestrator.evaluateTemperatureControl current evidence).2
      (record.register (orchestrator.evaluateTemperatureControl current evidence).1) := by
  have hfollows := h.planner planner hplanner
  rw [TemperatureControlApplicationOrchestrator.evaluateTemperatureControl, hplanner]
  simp only [hnone, Option.isSome_none, Bool.false_eq_true, if_false]
  rw [TemperatureControlApplicationOrchestrator.evaluateInContext]
  by_cases hvalid : (resolveEffectiveControlContext current).valid = true
  · rw [if_pos hvalid]
    have hanswers := @TemperatureController.answers_evaluate K _
      orchestrator.temperatureController
      (orchestrator.controllerInput (resolveEffectiveControlContext current) evidence)
    refine ⟨h.controller.evaluated hanswers, ?_⟩
    rintro _ ⟨⟩
    simp only [hanswers.window]
    exact hfollows.registered (by rw [FeedbackRecord.register]; split <;> rfl) fun _ => rfl
  · rw [if_neg hvalid]
    have hrecord : record.register (TemperatureControlApplicationOrchestrator.failClosedResult :
        TemperatureControlResult K) = record.closed := by
      rw [FeedbackRecord.register, if_neg nofun]
      exact congrArg (FeedbackRecord.mk none · record.reports) (List.append_nil _)
    rw [hrecord]
    have hwaits : PlannerFollows record.closed
        (TemperatureController.opened
          (TemperatureControlApplicationOrchestrator.failClosedResult :
            TemperatureControlResult K))
        planner.closeFeedbackEpisodeForOutstandingEvaluation.state
        (some TemperatureControlApplicationOrchestrator.failClosedResult)
        orchestrator.pendingControlRequestFeedback :=
      hfollows.registered rfl Bool.noConfusion
    refine ⟨h.controller.reset, ?_⟩
    rintro _ ⟨⟩
    exact hwaits

theorem HandshakeKnown.evaluateStep {current : RunCommandState}
    {evidence : TemperatureControlEvaluationEvidence}
    {next : TemperatureControlApplicationOrchestrator K}
    (h : HandshakeKnown orchestrator record)
    (hnext : next = (orchestrator.evaluateTemperatureControl current evidence).2)
    (hevent : event = ⟨.evaluateTemperatureControl current evidence, orchestrator, next⟩) :
    event.Handshake record ∧ HandshakeKnown next (record.observe event) := by
  by_cases hregisters : event.Registers
  · have hbefore : event.before = orchestrator := by rw [hevent]
    obtain ⟨hsome, hnone⟩ := hregisters
    rw [hbefore] at hsome hnone
    obtain ⟨planner, hplanner⟩ := Option.isSome_iff_exists.mp hsome
    have hfits := h.fits hplanner hnone
    have hinput (input : TemperatureControlInput) (hgiven : event.controllerInput = some input) :
        input.previousControlRequestFeedback = orchestrator.pendingControlRequestFeedback := by
      rw [hevent, OrchestratorEvent.controllerInput] at hgiven
      simp only at hgiven
      split at hgiven
      · cases hgiven
        rfl
      · cases hgiven
    refine ⟨⟨?_, ?_, ?_, ?_⟩, ?_⟩
    · intro input feedback hgiven hfeedback
      rw [hinput input hgiven] at hfeedback
      obtain ⟨hopen, -⟩ := h.slot hplanner hnone hfeedback
      exact ⟨hopen, h.controller.distinct _ hopen⟩
    · intro input hgiven
      rw [hbefore, hinput input hgiven]
      exact hfits
    · intro input state hgiven hwindow
      rw [hbefore] at hwindow
      rcases @TemperatureController.consumeFeedback_cases K input state with
        ⟨_, _, _, _, hunfit⟩ | ⟨allowed, rest, hconsumed, _⟩
      · rw [hwindow, hinput input hgiven] at hunfit
        exact absurd hfits hunfit
      · exact ⟨_, hconsumed⟩
    · intro feedback earlier hreported
      rw [hevent] at hreported
      cases hreported
    · have hobserved : record.observe event =
          record.register (orchestrator.evaluateTemperatureControl current evidence).1 := by
        have hregistered : event.registered =
            some (orchestrator.evaluateTemperatureControl current evidence).1 := by
          rw [hevent, OrchestratorEvent.registered]
          exact if_pos ⟨hsome, hnone⟩
        have hreported : event.reported = none := by rw [hevent]; rfl
        have hcrosses : event.crossesBoundary = false := by rw [hevent]; rfl
        rw [FeedbackRecord.observe, hcrosses, hregistered, hreported]
        simp
      rw [hobserved, hnext]
      exact h.evaluates hplanner hnone
  · have hquiet : event.Quiet := by
      refine ⟨?_, ?_, by rw [hevent]; rfl, by rw [hevent]; rfl⟩
      · rw [OrchestratorEvent.controllerInput, hevent]
        rw [hevent] at hregisters
        exact if_neg fun hboth => hregisters hboth.1
      · rw [OrchestratorEvent.registered, hevent]
        rw [hevent] at hregisters
        exact if_neg hregisters
    have hsame : next = orchestrator := by
      rw [hnext, TemperatureControlApplicationOrchestrator.evaluateTemperatureControl]
      rw [hevent, OrchestratorEvent.Registers, not_and] at hregisters
      cases hplanner : orchestrator.planner with
      | none => rfl
      | some planner =>
          have hsome := Option.isSome_iff_ne_none.mpr
            (hregisters (Option.isSome_of_eq_some hplanner))
          simp only [hsome, if_true]
    rw [hquiet.observe, hsame]
    exact ⟨hquiet.handshake, h⟩

theorem HandshakeKnown.tickStep {current : RunCommandState} {now : UInt64}
    {gate : ActuatorSafetyGateStatus}
    {next : TemperatureControlApplicationOrchestrator K}
    (h : HandshakeKnown orchestrator record)
    (hnext : next = (orchestrator.tickActuatorPlan current now gate).2)
    (hevent : event = ⟨.tickActuatorPlan current now gate, orchestrator, next⟩) :
    event.Handshake record ∧ HandshakeKnown next (record.observe event) := by
  cases hplanner : orchestrator.planner with
  | none =>
      have hreported : event.reported = none := by
        rw [OrchestratorEvent.reported, hevent]
        simp only [hplanner]
      have hquiet : event.Quiet :=
        ⟨by rw [hevent]; rfl, by rw [hevent]; rfl, hreported, by rw [hevent]; rfl⟩
      rw [TemperatureControlApplicationOrchestrator.tickActuatorPlan, hplanner] at hnext
      rw [hquiet.observe, hnext]
      exact ⟨hquiet.handshake, h⟩
  | some planner =>
      have hreported : event.reported = (planner.tick (orchestrator.tickInput current now
          gate)).2.takeFeedbackUpdate.1.feedback := by
        rw [OrchestratorEvent.reported, hevent]
        simp only [hplanner]
      obtain ⟨hfollows, hsevere⟩ := (h.planner planner hplanner).tick h.controller.window
        (rfl : (orchestrator.tickInput current now gate).newEvaluation = _)
      have hobserved : record.observe event = { record with
          reports := record.reports ++ event.reported.toList } := by
        have hregistered : event.registered = none := by rw [hevent]; rfl
        have hcrosses : event.crossesBoundary = false := by rw [hevent]; rfl
        rw [FeedbackRecord.observe, hregistered, hcrosses]
        rfl
      rw [TemperatureControlApplicationOrchestrator.tickActuatorPlan, hplanner] at hnext
      refine ⟨⟨?_, ?_, ?_, by rw [hreported]; exact hsevere⟩, ?_⟩
      · intro input feedback hgiven
        rw [hevent] at hgiven
        cases hgiven
      · intro input hgiven
        rw [hevent] at hgiven
        cases hgiven
      · intro input state hgiven
        rw [hevent] at hgiven
        cases hgiven
      · rw [hobserved, hreported, hnext]
        refine ⟨⟨h.controller.window, h.controller.distinct, h.controller.used⟩, ?_⟩
        rintro _ ⟨⟩
        exact hfollows

/-- A mark of a committed transition leaves the window and the identities. -/
theorem HandshakeKnown.consumed {result : RunPersistenceResult}
    (h : HandshakeKnown orchestrator record) :
    HandshakeKnown { orchestrator with
      temperatureController :=
        (TemperatureControlApplicationOrchestrator.consumeCommittedControlContextTransition
          result orchestrator.temperatureController).2 } record := by
  have hmarked (transition : CommittedControlContextTransition) :
      HandshakeKnown { orchestrator with
        temperatureController := (orchestrator.temperatureController
          |>.markCommittedControlContextTransitionPending transition).2 } record := by
    rw [TemperatureController.markCommittedControlContextTransitionPending]
    split
    · exact h
    · exact ⟨h.controller.congr rfl rfl rfl, h.planner⟩
  rw [TemperatureControlApplicationOrchestrator.consumeCommittedControlContextTransition]
  cases result.committedControlContextTransition with
  | none => exact h
  | some transition =>
      simp only
      split
      · exact hmarked transition
      · exact h

/-- At a boundary everything that was open is over. -/
theorem HandshakeKnown.reset {current : RunCommandState} {now : UInt64}
    (h : HandshakeKnown orchestrator record) :
    HandshakeKnown
      (orchestrator.resetTemperatureControlAtBoundary.resetActuatorPlanAtBoundary current now)
      record.closed := by
  rw [TemperatureControlApplicationOrchestrator.resetActuatorPlanAtBoundary]
  cases hplanner : orchestrator.planner with
  | none =>
      have hsame : orchestrator.resetTemperatureControlAtBoundary.planner = none := hplanner
      rw [hsame]
      refine ⟨h.controller.reset, fun planner hbound => ?_⟩
      cases hsame.symm.trans hbound
  | some planner =>
      have hsame : orchestrator.resetTemperatureControlAtBoundary.planner = some planner :=
        hplanner
      rw [hsame]
      refine ⟨h.controller.reset, ?_⟩
      rintro _ ⟨⟩
      exact (h.planner planner hplanner).stopped

/-- The hand-over of an operation resets both components, or marks a transition. -/
theorem HandshakeKnown.completeStep {result : RunPersistenceResult} {before : ProcessState}
    {current : RunCommandState} {now : UInt64} {recoveryBoundary : Bool}
    {next : TemperatureControlApplicationOrchestrator K}
    (h : HandshakeKnown orchestrator record)
    (hnext : next = (orchestrator.complete result before current now recoveryBoundary).2)
    (hevent : event = ⟨.complete result before current now recoveryBoundary, orchestrator,
      next⟩) :
    event.Handshake record ∧ HandshakeKnown next (record.observe event) := by
  have hinput : event.controllerInput = none := by rw [hevent]; rfl
  have hregistered : event.registered = none := by rw [hevent]; rfl
  have hreported : event.reported = none := by rw [hevent]; rfl
  refine ⟨OrchestratorEvent.handshake_of_silent hinput hreported, ?_⟩
  have hobserved : record.observe event =
      if event.crossesBoundary then record.closed else record := by
    rw [FeedbackRecord.observe, hregistered, hreported]
    simp
  rw [hobserved, OrchestratorEvent.crossesBoundary, hevent, hnext,
    TemperatureControlApplicationOrchestrator.complete]
  by_cases happlied : result.status = .applied
  · have hmarked := @HandshakeKnown.consumed K _ record orchestrator result h
    rw [if_neg (not_not.mpr happlied)]
    simp only [happlied, decide_true, Bool.true_and]
    by_cases hcrosses : TemperatureControlApplicationOrchestrator.needsRuntimeReset before
        current.processState.state recoveryBoundary (result.effects.contains .runStarted) = true
    · have hreset := @HandshakeKnown.reset K _ record _ current now hmarked
      simp only [hcrosses, if_true]
      split <;> exact ⟨hreset.controller, hreset.planner⟩
    · simp only [if_neg hcrosses]
      split <;> exact ⟨hmarked.controller, hmarked.planner⟩
  · rw [if_pos happlied]
    simp only [happlied, decide_false, Bool.false_and, Bool.false_eq_true, if_false]
    exact h

theorem HandshakeKnown.step {next : TemperatureControlApplicationOrchestrator K}
    (h : HandshakeKnown orchestrator record)
    (hstep : OrchestratorStep orchestrator event next) :
    event.Handshake record ∧ HandshakeKnown next (record.observe event) := by
  cases hstep with
  | perform call =>
      cases call with
      | evaluateTemperatureControl current evidence => exact h.evaluateStep rfl rfl
      | tickActuatorPlan current now gate => exact h.tickStep rfl rfl
      | complete result before current now recoveryBoundary => exact h.completeStep rfl rfl
      | applyExternalWatchdogFaultReset =>
          have hquiet : OrchestratorEvent.Quiet ⟨.applyExternalWatchdogFaultReset, orchestrator,
              orchestrator.perform .applyExternalWatchdogFaultReset⟩ := ⟨rfl, rfl, rfl, rfl⟩
          rw [hquiet.observe]
          refine ⟨hquiet.handshake, h.controller, fun bound hbound => ?_⟩
          rw [TemperatureControlApplicationOrchestrator.perform] at hbound
          obtain ⟨planner, hplanner, rfl⟩ := Option.map_eq_some_iff.mp hbound
          have hfollows := h.planner planner hplanner
          rw [TemperatureControlApplicationOrchestrator.perform]
          simp only
          generalize orchestrator.outstandingEvaluation = outstanding at hfollows ⊢
          cases hfollows with
          | consumed hknown htaken => exact .consumed hknown htaken
          | waiting hknown hended hopened hslot => exact .waiting hknown hended hopened hslot

/-- As constructed, nothing is open. -/
theorem HandshakeKnown.first (hfresh : orchestrator.Fresh) :
    HandshakeKnown orchestrator {} := by
  obtain ⟨parameters, policy, initialRequestSequence, evaluator, planner, hplanner, rfl⟩ :=
    hfresh
  refine ⟨⟨rfl, nofun, fun _ _ hmember => by cases hmember⟩, fun bound hbound => ?_⟩
  have hfeedback : bound.state.feedback = {} := by
    rcases hplanner bound hbound with rfl | ⟨_, rfl⟩ <;> rfl
  have hknown : EpisodeKnown {} bound.state.feedback
      bound.state.lastObservedSequenceHighWatermark none := by
    rw [hfeedback]
    exact ⟨nofun, nofun, nofun, fun _ => nofun, nofun⟩
  exact .consumed hknown (by rw [hfeedback])

end Steps

/-! ## Every run -/

/-- In every run the feedback the controller is given is absent or names its open window:
the last evaluation, a demand, with no boundary since.  No sample is refused for its
feedback, and the reports of one sequence only become more severe. -/
theorem feedback_handshake {orchestrator last : TemperatureControlApplicationOrchestrator K}
    {events : List (OrchestratorEvent K)} (hfresh : orchestrator.Fresh)
    (hrun : Steps OrchestratorStep orchestrator events last) :
    ∀ earlier event later, events = earlier ++ event :: later →
      event.Handshake (earlier.foldl FeedbackRecord.observe {}) :=
  (hrun.observed (HandshakeKnown.first hfresh) HandshakeKnown.step).2

section Example

/-- A manual run that holds its target by the air. -/
def holdingRun : RunCommandState :=
  let plan : ManualRunPlan := ⟨holdingPlan, .localDisplay, 0,
    .manualHolding⟩
  { processState := { state := .manualHolding }
    activeManualRun := some plan
    processRunSnapshot := makeManualProcessRunSnapshot plan
    activeRunId := plan.values.runId
    activeRunSensorMode := some .air }

def coldAir : TemperatureControlEvaluationEvidence where
  sampleTimestampMonotonicMillis := 0
  air := { quality := .valid, filteredCelsius := some zeroQuote }
  product := { quality := .valid, filteredCelsius := some zeroQuote }

def unboundPlanner : TemperatureControlApplicationOrchestrator ℚ where
  temperatureController := .make TemperatureController.unitParameters
    TemperatureController.resetPolicy 1
  planner := some .unconfigured

def firstEvaluation : OrchestratorEvent ℚ :=
  let call := .evaluateTemperatureControl holdingRun coldAir
  ⟨call, unboundPlanner, unboundPlanner.perform call⟩

def firstTick : OrchestratorEvent ℚ :=
  let call := .tickActuatorPlan holdingRun 0 .allowed
  ⟨call, firstEvaluation.after, firstEvaluation.after.perform call⟩

def secondEvaluation : OrchestratorEvent ℚ :=
  let call := .evaluateTemperatureControl holdingRun coldAir
  ⟨call, firstTick.after, firstTick.after.perform call⟩

set_option maxRecDepth 1000000 in
/-- A planner without parameters rejects the first demand, which the next evaluation is
told. -/
theorem second_evaluation_handshake :
    secondEvaluation.controllerInput.bind (·.previousControlRequestFeedback) =
        some ⟨1, .rejected⟩ ∧
      secondEvaluation.Handshake
        ((FeedbackRecord.observe {} firstEvaluation).observe firstTick) :=
  ⟨by decide +kernel,
    feedback_handshake ⟨_, _, _, _, _, by rintro _ ⟨⟩; exact .inl rfl, rfl⟩
      (((Steps.start.step (.perform _)).step (.perform _)).step (.perform _))
      [firstEvaluation, firstTick] secondEvaluation [] rfl⟩

end Example

end Fermentationsschrank

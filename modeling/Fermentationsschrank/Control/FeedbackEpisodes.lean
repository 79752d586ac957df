import Fermentationsschrank.Control.ControllerFacts
import Fermentationsschrank.Control.PlannerAuthority

/-!
# Episodes of the feedback

A tick keeps the open episode of the feedback, ends it, or begins the one of a new
demand.  Within an episode its subject gets dispositions that only become more severe.
-/

namespace Fermentationsschrank

namespace FeedbackEpisode

variable {episode : FeedbackEpisode}

/-- What the decision of a tick does to an episode: at most its subject gets another
disposition. -/
inductive Sharpens (episode : FeedbackEpisode) : FeedbackEpisode → Prop
  | same : Sharpens episode episode
  | merged {sequence disposition}
      (hsubject : episode.feedbackEpisodeSubjectSequence = some sequence)
      (hlisted : disposition ≠ .unlisted) :
      Sharpens episode (episode.mergeFeedback sequence disposition)

theorem sharpens_rejectSubject : episode.Sharpens episode.rejectSubject := by
  rw [rejectSubject]
  cases hsubject : episode.feedbackEpisodeSubjectSequence with
  | none => exact .same
  | some sequence => exact .merged hsubject nofun

theorem sharpens_mergeFeedbackForDemand {sequence : UInt64} {reason : ActuatorPlanReason} :
    episode.Sharpens (episode.mergeFeedbackForDemand sequence reason) := by
  rw [mergeFeedbackForDemand]
  by_cases hsubject : episode.feedbackEpisodeSubjectSequence = some sequence
  · rw [if_pos hsubject]
    refine .merged hsubject ?_
    split <;> exact nofun
  · rw [if_neg hsubject]
    exact .same

/-- A merge leaves the subject, and the disposition it leaves is at least as severe as the
old one and the new one. -/
theorem mergeFeedback_cases {sequence : UInt64} {disposition : FeedbackDisposition}
    (hnonzero : sequence ≠ 0)
    (hpending : ∀ pending, episode.pendingFeedback = some pending →
      pending.sequence = sequence) :
    episode.mergeFeedback sequence disposition = episode ∧ episode.pendingFeedback.isSome ∨
    (∀ pending, episode.pendingFeedback = some pending →
        feedbackSeverity pending.disposition ≤ feedbackSeverity disposition) ∧
      episode.mergeFeedback sequence disposition =
        ⟨episode.feedbackEpisodeSubjectSequence, some ⟨sequence, disposition⟩, true⟩ := by
  rw [mergeFeedback, if_neg hnonzero]
  cases hsome : episode.pendingFeedback with
  | none => exact .inr ⟨nofun, rfl⟩
  | some pending =>
      have hsequence := hpending pending hsome
      rw [Option.filter_some_pos (by simpa using hsequence)]
      simp only
      by_cases hsharper :
          feedbackSeverity pending.disposition < feedbackSeverity disposition
      · rw [if_pos hsharper]
        refine .inr ⟨?_, by rw [← hsequence]⟩
        rintro _ ⟨⟩
        exact hsharper.le
      · rw [if_neg hsharper]
        exact .inl ⟨rfl, rfl⟩

end FeedbackEpisode

variable {K : Type} [ControlNumber K]

namespace ActuatorPlannerRuntimeState

open TemperatureController (opened)

variable {state : ActuatorPlannerRuntimeState K} {parameters : ActuatorPlannerParameters}

/-- A decision gives up commands, latches faults and sharpens the open episode. -/
theorem Decision.leaves {input : ActuatorPlanTickInput K} {admission : PhaseAOutcome K}
    {outcome : TickOutcome K} (h : state.Decision parameters input admission outcome) :
    ∃ acceptedCommand latchedWatchdogFault feedback,
      outcome.2.authority =
        { state.authority with acceptedCommand, latchedWatchdogFault, feedback } ∧
      state.feedback.Sharpens feedback := by
  cases h with
  | rejected _ _ hauthority =>
      rw [authority_latchTrippedWatchdog] at hauthority
      exact ⟨_, _, _, hauthority, FeedbackEpisode.sharpens_rejectSubject⟩
  | tornDown _ _ _ hauthority =>
      rw [authority_planned] at hauthority
      exact ⟨_, _, _, hauthority, .same⟩
  | held _ _ _ hauthority =>
      rw [authority_planned] at hauthority
      exact ⟨_, _, _, hauthority, .same⟩
  | @served accepted _ _ hserves =>
      have hplanned : (state.planned admission).authority = _ := authority_planned
      have hfeedback : (state.planned admission).feedback = state.feedback :=
        congrArg RequestAuthority.feedback hplanned
      rcases hserves.authority with hsame | ⟨reason, hmerged⟩
      · exact ⟨_, _, _, hsame.trans hplanned, .same⟩
      · refine ⟨admission.candidate.or state.acceptedCommand, state.latchedWatchdogFault,
          state.feedback.mergeFeedbackForDemand accepted.sequence reason, ?_,
          FeedbackEpisode.sharpens_mergeFeedbackForDemand⟩
        calc
          outcome.2.authority = { (state.planned admission).authority with
              feedback := (state.planned admission).feedback.mergeFeedbackForDemand
                accepted.sequence reason } := hmerged
          _ = _ := by
            rw [hplanned, hfeedback]
            rfl

/-- What the admission of a tick makes of the episode and the watermark. -/
inductive Episode (state : ActuatorPlannerRuntimeState K) (input : ActuatorPlanTickInput K) :
    FeedbackEpisode → Option UInt64 → Prop
  | kept (hnone : input.newEvaluation = none) :
      Episode state input state.feedback state.lastObservedSequenceHighWatermark
  | replayed {evaluation request} (hsome : input.newEvaluation = some evaluation)
      (hrequest : evaluation.controlRequest = some request) :
      Episode state input state.feedback state.lastObservedSequenceHighWatermark
  | ended {evaluation watermark} (hsome : input.newEvaluation = some evaluation)
      (hraised : ∀ sequence, state.lastObservedSequenceHighWatermark.any (sequence ≤ ·) →
        watermark.any (sequence ≤ ·)) :
      Episode state input { pendingFeedbackUpdateAvailable := true } watermark
  | began {evaluation request pending} (hsome : input.newEvaluation = some evaluation)
      (hopened : opened evaluation = some request)
      (hnonzero : request.identity.sequence ≠ 0)
      (hnew : state.lastObservedSequenceHighWatermark.any
        (request.identity.sequence ≤ ·) = false)
      (hpending : pending = none ∨ pending = some ⟨request.identity.sequence, .rejected⟩) :
      Episode state input ⟨some request.identity.sequence, pending, true⟩
        (some request.identity.sequence)

/-- A demand that is well formed comes with a request of its own. -/
theorem opened_of_active {input : ActuatorPlanTickInput K}
    {evaluation : TemperatureControlResult K} {request : ControlRequest K}
    (hwell : wellFormed input evaluation = true)
    (hrequest : evaluation.controlRequest = some request)
    (hactive : isActiveDemand (classifyActuatorDemand evaluation) = true) :
    opened evaluation = some request ∧ request.identity.sequence ≠ 0 := by
  have hdemand : evaluation.status = .demand := by
    rw [classifyActuatorDemand] at hactive
    cases hstatus : evaluation.status with
    | demand => rfl
    | off =>
        rw [hstatus] at hactive
        simp only at hactive
        split at hactive <;> cases hactive
    | unavailable | invalidInput | unlisted => rw [hstatus] at hactive; cases hactive
  refine ⟨by rw [opened, if_pos hdemand, hrequest], ?_⟩
  rw [wellFormed, isStructurallyValidEvaluation, hrequest] at hwell
  simp only [requestAgrees, Bool.and_eq_true, decide_eq_true_eq] at hwell
  exact hwell.1.2.1.1.2

omit [ControlNumber K] in
/-- A new sequence lies above the watermark. -/
theorem raised_of_new {watermark : Option UInt64} {sequence : UInt64}
    (hnew : watermark.any (sequence ≤ ·) = false) (earlier : UInt64)
    (hearlier : watermark.any (earlier ≤ ·) = true) : earlier < sequence := by
  cases watermark with
  | none => cases hearlier
  | some mark =>
      simp only [Option.any_some, decide_eq_true_eq, decide_eq_false_iff_not,
        UInt64.not_le] at hnew hearlier
      exact UInt64.lt_of_le_of_lt hearlier hnew

theorem tick_episode {input : ActuatorPlanTickInput K} :
    ∃ episode, state.Episode input episode
        (state.tick parameters input).2.lastObservedSequenceHighWatermark ∧
      episode.Sharpens (state.tick parameters input).2.feedback := by
  obtain ⟨admitted, hadmission, hdecision⟩ := @tick_decision K _ state parameters input
  obtain ⟨_, _, feedback, hauthority, hsharpens⟩ := hdecision.leaves
  have hfeedback : (state.tick parameters input).2.feedback = feedback :=
    congrArg RequestAuthority.feedback hauthority
  have hwatermark : (state.tick parameters input).2.lastObservedSequenceHighWatermark =
      admitted.2.lastObservedSequenceHighWatermark :=
    congrArg RequestAuthority.lastObservedSequenceHighWatermark hauthority
  rw [hfeedback, hwatermark]
  refine ⟨admitted.2.feedback, ?_, hsharpens⟩
  have hopenedFeedback : (state.openWatchdogEpisode input).feedback = state.feedback := by
    rw [openWatchdogEpisode]
    split <;> rfl
  have hopenedMark : (state.openWatchdogEpisode input).lastObservedSequenceHighWatermark =
      state.lastObservedSequenceHighWatermark := by
    rw [openWatchdogEpisode]
    split <;> rfl
  have hraised {sequence : UInt64} (hnew : state.lastObservedSequenceHighWatermark.any
      (sequence ≤ ·) = false) (earlier : UInt64)
      (hearlier : state.lastObservedSequenceHighWatermark.any (earlier ≤ ·)) :
      (some sequence).any (earlier ≤ ·) = true := by
    simpa using UInt64.le_of_lt (raised_of_new hnew earlier hearlier)
  generalize state.openWatchdogEpisode input = begun at *
  cases hadmission with
  | noCandidate hnone =>
      rw [hopenedFeedback, hopenedMark]
      exact .kept hnone
  | malformed hsome _ =>
      simp only [hopenedMark]
      exact .ended hsome fun _ h => h
  | requestless hsome _ _ =>
      simp only [hopenedMark]
      exact .ended hsome fun _ h => h
  | replayed hsome _ hrequest _ =>
      rw [hopenedFeedback, hopenedMark]
      exact .replayed hsome hrequest
  | @stale evaluation request _ hsome hwell hrequest hnew _ _ =>
      rw [hopenedMark] at hnew
      by_cases hactive : isActiveDemand (classifyActuatorDemand evaluation) = true
      · obtain ⟨hopened, hnonzero⟩ := opened_of_active hwell hrequest hactive
        rw [observeStale, hactive]
        exact .began hsome hopened hnonzero hnew (.inr rfl)
      · rw [observeStale, Bool.eq_false_iff.mpr hactive]
        exact .ended hsome (hraised hnew)
  | @fresh evaluation request hsome hwell hrequest hnew _ =>
      rw [hopenedMark] at hnew
      by_cases hactive : isActiveDemand (classifyActuatorDemand evaluation) = true
      · obtain ⟨hopened, hnonzero⟩ := opened_of_active hwell hrequest hactive
        rw [observeFresh, hactive]
        exact .began hsome hopened hnonzero hnew (.inl rfl)
      · rw [observeFresh, Bool.eq_false_iff.mpr hactive]
        exact .ended hsome (hraised hnew)

end ActuatorPlannerRuntimeState

omit [ControlNumber K] in
/-- The feedback that is taken stays recorded. -/
theorem ActuatorPlanner.taken_state {planner : ActuatorPlanner K} :
    planner.takeFeedbackUpdate.2.state = { planner.state with
      feedback := { planner.state.feedback with pendingFeedbackUpdateAvailable := false } } := by
  rw [takeFeedbackUpdate]
  by_cases havailable : planner.state.feedback.pendingFeedbackUpdateAvailable = true
  · simp only [if_pos havailable]
  · simp only [if_neg havailable, ← Bool.eq_false_iff.mpr havailable]

end Fermentationsschrank

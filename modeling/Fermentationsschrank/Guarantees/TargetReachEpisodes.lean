import Fermentationsschrank.Guarantees.ProcessRuns
import Fermentationsschrank.Recovery.RecoveryCandidate

/-!
# Target reach episodes

An episode begins when the target reach timer is started: with the run, with
the product, with a new target or with a resumed recovery.  It lasts while the
process moves between reaching and qualifying the target.  Within an episode the
timer is not touched and its warning is given once.
-/

namespace Fermentationsschrank

/-- The reasons that start the target reach timer anew. -/
def opensEpisode : TransitionReason → Bool
  | .runStarted | .productInserted | .targetChangedReevaluation | .recoveryResumed => true
  | _ => false

/-- A step that stays within the episode. -/
structure EpisodeStep (moment : ProcessMoment) (decision : TransitionDecision)
    (next : ProcessMoment) : Prop where
  step : ProcessStep moment decision next
  reaching : stateHasTargetReachTimer next.state.state = true
  continues : opensEpisode decision.reason = false

/-- The decision tells the user that the target takes too long. -/
def TransitionDecision.warns (decision : TransitionDecision) : Bool :=
  .targetReachTimeExceeded ∈ decision.messages

/-! ## What a decision of an episode does -/

/-- A decision within an episode keeps the timer and gives a warning that is due. -/
structure EpisodeDecision (current : ProcessRuntimeState) (due : Bool)
    (decision : TransitionDecision) : Prop where
  timer : decision.after.targetReachStartedAtMillis = current.targetReachStartedAtMillis
  warning : decision.after.targetReachWarningIssued =
    (current.targetReachWarningIssued || due)
  warns : decision.warns = due
  reason : decision.reason = .targetReachTimeExceeded → due = true

/-- A decision that carries the timer over, before the warning is added to it. -/
structure CarriesTimer (current : ProcessRuntimeState) (decision : TransitionDecision) :
    Prop where
  timer : decision.after.targetReachStartedAtMillis = current.targetReachStartedAtMillis
  warning : decision.after.targetReachWarningIssued = current.targetReachWarningIssued
  messages : decision.messages = []

theorem CarriesTimer.episode {current : ProcessRuntimeState}
    {decision : TransitionDecision} (h : CarriesTimer current decision)
    (hreason : decision.reason ≠ .targetReachTimeExceeded) :
    EpisodeDecision current false decision := by
  refine ⟨h.timer, ?_, ?_, fun hexceeded => absurd hexceeded hreason⟩
  · rw [h.warning, Bool.or_false]
  · simp [TransitionDecision.warns, h.messages]

theorem CarriesTimer.warned {current : ProcessRuntimeState}
    {decision : TransitionDecision} (h : CarriesTimer current decision)
    (hreaching : stateHasTargetReachTimer decision.after.state = true) :
    EpisodeDecision current true (includeTargetReachWarning decision) := by
  have hinclude : includeTargetReachWarning decision = { decision with
      after := { decision.after with targetReachWarningIssued := true }
      messages := [.targetReachTimeExceeded] } := by
    simp [includeTargetReachWarning, addMessage, TransitionDecision.withAfter, hreaching,
      h.messages, kMaximumTransitionMessages]
  rw [hinclude]
  exact ⟨h.timer, by simp, rfl, fun _ => rfl⟩

section

variable {current : ProcessRuntimeState} {snapshot : ProcessRunSnapshot}
variable {signals : ProcessSignals} {monotonicMillis : UInt64}

theorem proposePhaseDataUpdate_carries {reason : TransitionReason} :
    CarriesTimer current (proposePhaseDataUpdate current reason monotonicMillis) :=
  ⟨rfl, rfl, rfl⟩

theorem keepTargetReach_carries {next : ProcessState} {reason : TransitionReason}
    (hroom : current.transitionSequence ≠ maxUInt32) :
    CarriesTimer current
      (keepTargetReach (propose current next reason monotonicMillis) current) := by
  rw [propose_eq hroom]
  exact ⟨rfl, rfl, rfl⟩

theorem decideReachingTarget_episode (hroom : current.transitionSequence ≠ maxUInt32)
    (hstate : current.state = .reachingTarget)
    (hproposed :
      (decideReachingTarget current snapshot signals monotonicMillis).proposed = true) :
    EpisodeDecision current (targetReachWarningDue current snapshot monotonicMillis)
      (decideReachingTarget current snapshot signals monotonicMillis) := by
  have hreaching : stateHasTargetReachTimer current.state = true := by
    rw [hstate]
    rfl
  have htracking : CarriesTimer current ((keepTargetReach (propose current
      .qualifyingTarget .qualificationTrackingStarted monotonicMillis)
        current).withAfter fun after =>
          { after with qualificationValidSinceMillis := some monotonicMillis }) := by
    obtain ⟨htimer, hwarning, hmessages⟩ := keepTargetReach_carries hroom
    exact ⟨htimer, hwarning, hmessages⟩
  rw [decideReachingTarget] at hproposed ⊢
  split at hproposed
  · rename_i hevidence
    rw [if_pos hevidence]
    cases hdue : targetReachWarningDue current snapshot monotonicMillis with
    | true =>
        rw [if_pos rfl]
        apply htracking.warned
        rw [propose_eq hroom]
        rfl
    | false =>
        rw [if_neg Bool.false_ne_true]
        apply htracking.episode
        rw [propose_eq hroom]
        rintro ⟨⟩
  · rename_i hevidence
    rw [if_neg hevidence]
    split at hproposed
    · rename_i hdue
      rw [if_pos hdue, hdue]
      exact proposePhaseDataUpdate_carries.warned hreaching
    · cases hproposed

/-- A qualification that does not end in the next phase carries the timer over. -/
theorem decideQualification_carries (hroom : current.transitionSequence ≠ maxUInt32)
    (hproposed : (decideQualification current snapshot signals monotonicMillis
      false).proposed = true)
    (hreaching : stateHasTargetReachTimer (decideQualification current snapshot signals
      monotonicMillis false).after.state = true) :
    CarriesTimer current
        (decideQualification current snapshot signals monotonicMillis false) ∧
      (decideQualification current snapshot signals monotonicMillis false).reason ≠
        .targetReachTimeExceeded := by
  rw [decideQualification] at hproposed hreaching ⊢
  split at hproposed
  · rename_i hinterrupted
    rw [if_pos hinterrupted] at hreaching ⊢
    split at hproposed
    · cases hproposed
    · rename_i hstarted
      rw [if_neg hstarted, if_neg Bool.false_ne_true]
      refine ⟨keepTargetReach_carries hroom, ?_⟩
      rw [propose_eq hroom]
      rintro ⟨⟩
  · rename_i hinterrupted
    rw [if_neg hinterrupted] at hreaching ⊢
    split at hproposed
    · rename_i hcomplete
      rw [if_pos hcomplete, if_neg Bool.false_ne_true, propose_eq hroom] at hreaching
      simp only at hreaching
      split at hreaching <;> cases hreaching
    · rename_i hcomplete
      rw [if_neg hcomplete]
      split at hproposed
      · rename_i hstarted
        rw [if_pos hstarted]
        exact ⟨⟨rfl, rfl, rfl⟩, by rintro ⟨⟩⟩
      · cases hproposed

theorem decideQualifyingTarget_episode (hroom : current.transitionSequence ≠ maxUInt32)
    (hstate : current.state = .qualifyingTarget)
    (hproposed :
      (decideQualifyingTarget current snapshot signals monotonicMillis).proposed = true)
    (hreaching : stateHasTargetReachTimer
      (decideQualifyingTarget current snapshot signals monotonicMillis).after.state =
        true) :
    EpisodeDecision current (targetReachWarningDue current snapshot monotonicMillis)
      (decideQualifyingTarget current snapshot signals monotonicMillis) := by
  have hkept : ∀ decision : TransitionDecision,
      (includeTargetReachWarning decision).after.state = decision.after.state := by
    intro decision
    simp only [includeTargetReachWarning, addMessage_after, TransitionDecision.withAfter]
    split <;> rfl
  rw [decideQualifyingTarget] at hproposed hreaching ⊢
  split at hproposed
  · rename_i hdue
    simp only [if_pos hdue] at hreaching ⊢
    rw [hdue]
    split
    · rename_i hqualification
      rw [if_pos hqualification, hkept] at hreaching
      exact (decideQualification_carries hroom hqualification hreaching).1.warned hreaching
    · apply proposePhaseDataUpdate_carries.warned
      show stateHasTargetReachTimer current.state = true
      rw [hstate]
      rfl
  · rename_i hdue
    simp only [if_neg hdue] at hreaching ⊢
    rw [Bool.not_eq_true] at hdue
    rw [hdue]
    obtain ⟨hcarries, hreason⟩ := decideQualification_carries hroom hproposed hreaching
    exact hcarries.episode hreason

/-- The automatic decision of an episode is the one of its phase. -/
theorem decideAutomatic_episode {runSnapshot : Option ProcessRunSnapshot}
    {priorElapsed : PriorBootPhaseElapsed}
    (hroom : current.transitionSequence ≠ maxUInt32)
    (hreaching : stateHasTargetReachTimer current.state = true)
    (hproposed : (decideAutomatic current runSnapshot signals monotonicMillis
      priorElapsed).proposed = true)
    (hafter : stateHasTargetReachTimer (decideAutomatic current runSnapshot signals
      monotonicMillis priorElapsed).after.state = true) :
    ∃ due, (due = true → current.targetReachWarningIssued = false) ∧
      EpisodeDecision current due (decideAutomatic current runSnapshot signals
        monotonicMillis priorElapsed) := by
  cases runSnapshot with
  | none =>
      simp only [decideAutomatic] at hproposed
      split at hproposed <;> cases hproposed
  | some snapshot =>
      refine ⟨targetReachWarningDue current snapshot monotonicMillis, ?_, ?_⟩
      · intro hdue
        simp only [targetReachWarningDue, Bool.and_eq_true, Bool.not_eq_true'] at hdue
        exact hdue.1.2
      · cases hstate : current.state with
        | reachingTarget =>
            simp only [decideAutomatic, hstate] at hproposed ⊢
            exact decideReachingTarget_episode hroom hstate hproposed
        | qualifyingTarget =>
            simp only [decideAutomatic, hstate] at hproposed hafter ⊢
            exact decideQualifyingTarget_episode hroom hstate hproposed hafter
        | _ => rw [hstate] at hreaching; cases hreaching

/-- No event leads on within an episode. -/
theorem decideExplicitEvent_leaves {runSnapshot : Option ProcessRunSnapshot}
    {request : TransitionRequest} {priorElapsed : PriorBootPhaseElapsed}
    (hroom : current.transitionSequence ≠ maxUInt32)
    (hreaching : stateHasTargetReachTimer current.state = true)
    (hproposed : (decideExplicitEvent current runSnapshot request monotonicMillis
      priorElapsed).proposed = true)
    (hafter : stateHasTargetReachTimer (decideExplicitEvent current runSnapshot request
      monotonicMillis priorElapsed).after.state = true) :
    opensEpisode (decideExplicitEvent current runSnapshot request monotonicMillis
      priorElapsed).reason = true := by
  revert hproposed hafter
  rw [decideExplicitEvent]
  split
  · split
    · intro _ hafter
      rw [addMessage_after, propose_eq hroom] at hafter
      cases hafter
    · rintro ⟨⟩
  · split
    · rename_i hstate
      rw [hstate] at hreaching
      cases hreaching
    · intro _ _
      simp only [initializeTargetReach, TransitionDecision.withAfter, propose_eq hroom]
      rfl
    · intro _ _
      simp only [initializeTargetReach, TransitionDecision.withAfter, propose_eq hroom]
      rfl
    · rintro ⟨⟩
  · cases hstate : current.state with
    | reachingTarget => rintro ⟨⟩
    | qualifyingTarget => rintro ⟨⟩
    | _ => rw [hstate] at hreaching; cases hreaching

/-- In the two phases of an episode only their own decisions stay within it. -/
theorem decideProcessTransition_episode {runSnapshot : Option ProcessRunSnapshot}
    {request : TransitionRequest} {priorElapsed : PriorBootPhaseElapsed}
    (hreaching : stateHasTargetReachTimer current.state = true)
    (hproposed : (decideProcessTransition current runSnapshot signals request
      monotonicMillis priorElapsed).proposed = true)
    (hafter : stateHasTargetReachTimer (decideProcessTransition current runSnapshot signals
      request monotonicMillis priorElapsed).after.state = true)
    (hcontinues : opensEpisode (decideProcessTransition current runSnapshot signals request
      monotonicMillis priorElapsed).reason = false) :
    ∃ due, (due = true → current.targetReachWarningIssued = false) ∧
      EpisodeDecision current due (decideProcessTransition current runSnapshot signals
        request monotonicMillis priorElapsed) := by
  revert hproposed hafter hcontinues
  rw [decideProcessTransition]
  split
  · rintro ⟨⟩
  split
  · rintro ⟨⟩
  split
  · rintro ⟨⟩
  rename_i hroom
  split
  · intro _ hafter _
    rw [addMessage_after, propose_eq hroom] at hafter
    cases hafter
  split
  · rintro ⟨⟩
  split
  · rintro ⟨⟩
  split
  · intro hproposed hafter _
    exact decideAutomatic_episode hroom hreaching hproposed hafter
  split
  · intro hproposed hafter hcontinues
    rw [decideExplicitEvent_leaves hroom hreaching hproposed hafter] at hcontinues
    cases hcontinues
  · intro hproposed hafter _
    exact decideAutomatic_episode hroom hreaching hproposed hafter

end

/-! ## Episodes along a run -/

/-- An applied proposal leads where it says. -/
theorem propose_reaches {current after : ProcessRuntimeState} {next : ProcessState}
    {reason : TransitionReason} {monotonicMillis : UInt64}
    {runSnapshot : Option ProcessRunSnapshot}
    (h : applyProcessTransition current (propose current next reason monotonicMillis)
      runSnapshot = some after) :
    current.transitionSequence ≠ maxUInt32 ∧ after.state = next := by
  obtain ⟨hproposed, -, rfl, -⟩ := applyProcessTransition_eq_some h
  have hroom : current.transitionSequence ≠ maxUInt32 := by
    intro hfull
    rw [propose_not_proposed hfull] at hproposed
    cases hproposed
  refine ⟨hroom, ?_⟩
  rw [propose_eq hroom]

theorem EpisodeStep.decision {moment next : ProcessMoment} {decision : TransitionDecision}
    (hreaching : stateHasTargetReachTimer moment.state.state = true)
    (h : EpisodeStep moment decision next) :
    next.state = decision.after ∧ ∃ due,
      (due = true → moment.state.targetReachWarningIssued = false) ∧
        EpisodeDecision moment.state due decision := by
  obtain ⟨hstep, hnext, hcontinues⟩ := h
  cases hstep with
  | decided hlater hvalid happlied =>
      obtain ⟨hproposed, -, hafter, -⟩ := applyProcessTransition_eq_some happlied
      refine ⟨hafter, decideProcessTransition_episode hreaching hproposed ?_ hcontinues⟩
      rw [← hafter]
      exact hnext
  | proposed _ _ htarget happlied =>
      rw [(propose_reaches happlied).2, htarget] at hnext
      cases hnext

/-- A step into the phases of an episode from without opens the episode. -/
theorem ProcessStep.opens {moment next : ProcessMoment} {decision : TransitionDecision}
    (h : ProcessStep moment decision next)
    (hfrom : stateHasTargetReachTimer moment.state.state = false)
    (hnext : stateHasTargetReachTimer next.state.state = true) :
    opensEpisode decision.reason = true := by
  have happlied : moment.state = decision.before ∧ next.state = decision.after ∧
      validProposedTopology decision = true := by
    cases h with
    | decided _ _ happlied =>
        obtain ⟨-, hbefore, hafter, -, htopology, -⟩ :=
          applyProcessTransition_eq_some happlied
        exact ⟨hbefore, hafter, htopology⟩
    | proposed _ _ _ happlied =>
        obtain ⟨-, hbefore, hafter, -, htopology, -⟩ :=
          applyProcessTransition_eq_some happlied
        exact ⟨hbefore, hafter, htopology⟩
  obtain ⟨hbefore, hafter, htopology⟩ := happlied
  rw [hbefore] at hfrom
  rw [hafter] at hnext
  simp only [stateHasTargetReachTimer, decide_eq_true_eq] at hnext
  simp only [stateHasTargetReachTimer, decide_eq_false_iff_not, not_or] at hfrom
  rw [validProposedTopology] at htopology
  -- Of the reasons that lead to one of the two phases, the others lead from one of them.
  cases hreason : decision.reason
  all_goals first
    | rfl
    | rcases hnext with htarget | htarget <;> simp_all

/-- A changed sensor restarts the qualification within its episode. -/
theorem applySensorRoleChangeQualificationReset_episode {state after : RunCommandState}
    {earlier monotonicMillis : UInt64}
    (h : applySensorRoleChangeQualificationReset state monotonicMillis = some after)
    (hqualifying : state.processState.state = .qualifyingTarget)
    (hvalid : state.processRunSnapshot.all validateProcessRunSnapshot = true)
    (hlater : earlier ≤ monotonicMillis) :
    ∃ decision, EpisodeStep ⟨state.processState, state.processRunSnapshot, earlier⟩ decision
      ⟨after.processState, state.processRunSnapshot, monotonicMillis⟩ := by
  rw [applySensorRoleChangeQualificationReset, if_neg (not_not_intro hqualifying)] at h
  simp only at h
  split at h
  · rename_i hchecks
    obtain ⟨-, -, hreason⟩ := hchecks
    obtain ⟨process, happlied, rfl⟩ := Option.map_eq_some_iff.mp h
    obtain ⟨-, hbefore, hafter, -, htopology, -⟩ := applyProcessTransition_eq_some happlied
    refine ⟨_, .decided hlater hvalid happlied, ?_, ?_⟩
    · simp only [validProposedTopology, hreason, ← hbefore, ← hafter, hqualifying,
        decide_eq_true_eq] at htopology
      rcases htopology with ⟨hcontradiction, -⟩ | ⟨-, htarget⟩
      · cases hcontradiction
      · rw [htarget]
        rfl
    · rw [hreason]
      rfl
  · cases h

/-- How an episode begins: by a transition that starts the timer, or with the phase a
recovery starts again in this boot. -/
inductive EpisodeOpens : ProcessMoment → Prop
  | started {moment opened : ProcessMoment} {decision : TransitionDecision}
      (hstep : ProcessStep moment decision opened)
      (hreaching : stateHasTargetReachTimer opened.state.state = true)
      (hopens : opensEpisode decision.reason = true)
      (hresumed : decision.reason ≠ .recoveryResumed) :
      EpisodeOpens opened
  | resumed {current original after : ProcessRuntimeState}
      {runSnapshot : Option ProcessRunSnapshot} {signals : ProcessSignals}
      {monotonicMillis : UInt64} {priorElapsed : PriorBootPhaseElapsed}
      (happlied : applyProcessTransition current
        (decideProcessTransition current runSnapshot signals
          { event := .recoveryResume
            recoveredState := some (rebasedRecoveredState original monotonicMillis) }
          monotonicMillis priorElapsed) runSnapshot = some after)
      (hreaching : stateHasTargetReachTimer after.state = true) :
      EpisodeOpens ⟨after, runSnapshot, monotonicMillis⟩
  | activated {original : ProcessRuntimeState} {runSnapshot : Option ProcessRunSnapshot}
      {monotonicMillis : UInt64}
      (hreaching : stateHasTargetReachTimer
        (rebasedRecoveredState original monotonicMillis).state = true) :
      EpisodeOpens ⟨rebasedRecoveredState original monotonicMillis, runSnapshot,
        monotonicMillis⟩

section

variable {current : ProcessRuntimeState} {monotonicMillis : UInt64}

theorem propose_continues {next : ProcessState} {reason : TransitionReason}
    (hreason : opensEpisode reason = false) :
    opensEpisode (propose current next reason monotonicMillis).reason = false := by
  rw [propose]
  split
  · rfl
  · exact hreason

theorem decideQualification_continues {snapshot : ProcessRunSnapshot}
    {signals : ProcessSignals} {preheating : Bool} :
    opensEpisode (decideQualification current snapshot signals monotonicMillis
      preheating).reason = false := by
  rw [decideQualification]
  split_ifs
  all_goals first
    | rfl
    | exact propose_continues rfl
    | exact (congrArg opensEpisode (addMessage_reason ..)).trans (propose_continues rfl)

/-- No automatic decision opens an episode. -/
theorem decideAutomatic_continues {runSnapshot : Option ProcessRunSnapshot}
    {signals : ProcessSignals} {priorElapsed : PriorBootPhaseElapsed} :
    opensEpisode (decideAutomatic current runSnapshot signals monotonicMillis
      priorElapsed).reason = false := by
  have hmessage : ∀ {decision : TransitionDecision} {message : ProcessMessage},
      opensEpisode decision.reason = false →
        opensEpisode (addMessage decision message).reason = false := by
    intro decision message h
    rw [addMessage_reason]
    exact h
  have hwarning : ∀ {decision : TransitionDecision}, opensEpisode decision.reason = false →
      opensEpisode (includeTargetReachWarning decision).reason = false := by
    intro decision h
    exact hmessage h
  rw [decideAutomatic.eq_def]
  split
  · split <;> rfl
  · split
    · exact decideQualification_continues
    · rw [decideWaitingForProduct]
      split
      · exact hmessage (propose_continues rfl)
      · rfl
    · rw [decideReachingTarget]
      split_ifs
      · exact hwarning (propose_continues rfl)
      · exact propose_continues rfl
      · exact hwarning rfl
      · rfl
    · simp only [decideQualifyingTarget]
      split_ifs
      · exact hwarning decideQualification_continues
      · exact hwarning rfl
      · exact decideQualification_continues
    · rw [decideFermenting, completeTimedRun]
      split_ifs
      · exact hmessage (propose_continues rfl)
      · exact propose_continues rfl
      · rfl
    · rw [decideCooling]
      split_ifs
      · rfl
      · exact hmessage (propose_continues rfl)
      · exact propose_continues rfl
    · rw [decideCoolHolding, completeHoldDuration]
      split_ifs
      · exact hmessage (propose_continues rfl)
      · rfl
    · rfl

/-- The timer is started by the decision. -/
structure TransitionDecision.StartsTimer (decision : TransitionDecision)
    (monotonicMillis : UInt64) : Prop where
  reaching : decision.after.state = .reachingTarget
  entered : decision.after.stateEnteredAtMillis = monotonicMillis
  timer : decision.after.targetReachStartedAtMillis = monotonicMillis
  unwarned : decision.after.targetReachWarningIssued = false

theorem initializeTargetReach_starts {reason : TransitionReason}
    (hroom : current.transitionSequence ≠ maxUInt32) :
    (initializeTargetReach (propose current .reachingTarget reason monotonicMillis)
      monotonicMillis).StartsTimer monotonicMillis := by
  rw [propose_eq hroom]
  exact ⟨rfl, rfl, rfl, rfl⟩

/-- A start, a product or a new target that leads into an episode starts its timer. -/
theorem decideExplicitEvent_starts {runSnapshot : Option ProcessRunSnapshot}
    {request : TransitionRequest} {priorElapsed : PriorBootPhaseElapsed}
    (hroom : current.transitionSequence ≠ maxUInt32)
    (hopens : opensEpisode (decideExplicitEvent current runSnapshot request monotonicMillis
      priorElapsed).reason = true)
    (hresumed : (decideExplicitEvent current runSnapshot request monotonicMillis
      priorElapsed).reason ≠ .recoveryResumed)
    (hafter : stateHasTargetReachTimer (decideExplicitEvent current runSnapshot request
      monotonicMillis priorElapsed).after.state = true) :
    (decideExplicitEvent current runSnapshot request monotonicMillis
      priorElapsed).StartsTimer monotonicMillis := by
  have hnone : ∀ {next : ProcessState} {reason : TransitionReason},
      opensEpisode reason = false →
        opensEpisode (propose current next reason monotonicMillis).reason ≠ true := by
    intro next reason hreason
    rw [propose_continues hreason]
    exact Bool.false_ne_true
  revert hopens hresumed hafter
  rw [decideExplicitEvent]
  split
  · split
    · rw [addMessage_reason]
      intro hopens
      exact absurd hopens (hnone rfl)
    · rintro ⟨⟩
  · split
    · intro _ _ hafter
      rw [propose_eq hroom] at hafter
      cases hafter
    · intro _ _ _
      obtain ⟨hstate, hentered, htimer, hunwarned⟩ := initializeTargetReach_starts hroom
      exact ⟨hstate, hentered, htimer, hunwarned⟩
    · intro _ _ _
      obtain ⟨hstate, hentered, htimer, hunwarned⟩ := initializeTargetReach_starts hroom
      exact ⟨hstate, hentered, htimer, hunwarned⟩
    · rintro ⟨⟩
  · split
    · rw [decideBootEvent.eq_def]
      split
      all_goals first
        | (intro hopens; exact absurd hopens (hnone rfl))
        | rintro ⟨⟩
    · rw [decideStandbyEvent.eq_def]
      split
      · intro hopens
        exact absurd hopens (hnone rfl)
      · split
        · intro _ _ hafter
          rw [propose_eq hroom] at hafter
          cases hafter
        · intro _ _ _
          exact initializeTargetReach_starts hroom
      · rintro ⟨⟩
    · split
      · intro _ _ _
        exact initializeTargetReach_starts hroom
      · rintro ⟨⟩
    · rw [decideHoldEvent]
      split
      · rw [addMessage_reason]
        intro hopens
        exact absurd hopens (hnone rfl)
      · rintro ⟨⟩
    · rw [decideHoldEvent]
      split
      · rw [addMessage_reason]
        intro hopens
        exact absurd hopens (hnone rfl)
      · rintro ⟨⟩
    · split
      · intro hopens
        exact absurd hopens (hnone rfl)
      · rintro ⟨⟩
    · rw [decideRecoveryEvent.eq_def]
      split
      · intro hopens
        exact absurd hopens (hnone rfl)
      · split
        · rintro ⟨⟩
        · intro _ hresumed
          exact absurd rfl hresumed
      · rintro ⟨⟩
    · split
      · intro hopens
        exact absurd hopens (hnone rfl)
      · rintro ⟨⟩
    · rintro ⟨⟩

theorem decideProcessTransition_starts {runSnapshot : Option ProcessRunSnapshot}
    {signals : ProcessSignals} {request : TransitionRequest}
    {priorElapsed : PriorBootPhaseElapsed}
    (hopens : opensEpisode (decideProcessTransition current runSnapshot signals request
      monotonicMillis priorElapsed).reason = true)
    (hresumed : (decideProcessTransition current runSnapshot signals request
      monotonicMillis priorElapsed).reason ≠ .recoveryResumed)
    (hafter : stateHasTargetReachTimer (decideProcessTransition current runSnapshot signals
      request monotonicMillis priorElapsed).after.state = true) :
    (decideProcessTransition current runSnapshot signals request monotonicMillis
      priorElapsed).StartsTimer monotonicMillis := by
  revert hopens hresumed hafter
  rw [decideProcessTransition]
  split
  · rintro ⟨⟩
  split
  · rintro ⟨⟩
  split
  · rintro ⟨⟩
  rename_i hroom
  split
  · rw [addMessage_reason, propose_continues rfl]
    rintro ⟨⟩
  split
  · rintro ⟨⟩
  split
  · rintro ⟨⟩
  split
  · rw [decideAutomatic_continues]
    rintro ⟨⟩
  split
  · exact decideExplicitEvent_starts hroom
  · rw [decideAutomatic_continues]
    rintro ⟨⟩

theorem rebasedRecoveredState_starts {original : ProcessRuntimeState}
    (h : stateHasTargetReachTimer
      (rebasedRecoveredState original monotonicMillis).state = true) :
    (rebasedRecoveredState original monotonicMillis).state = .reachingTarget ∧
      (rebasedRecoveredState original monotonicMillis).targetReachStartedAtMillis =
        monotonicMillis ∧
      (rebasedRecoveredState original monotonicMillis).targetReachWarningIssued = false := by
  have hstate : (rebasedRecoveredState original monotonicMillis).state =
      .reachingTarget := by
    revert h
    rw [rebasedRecoveredState]
    simp only
    split
    · intro _
      rfl
    · rename_i hother
      intro h
      simpa [stateHasTargetReachTimer, hother] using h
  refine ⟨hstate, ?_, rfl⟩
  have hif : (rebasedRecoveredState original monotonicMillis).targetReachStartedAtMillis =
      if (rebasedRecoveredState original monotonicMillis).state = .reachingTarget then
        monotonicMillis
      else 0 := rfl
  rw [hif, if_pos hstate]

theorem decideRecoveryEvent_starts {runSnapshot : Option ProcessRunSnapshot}
    {original : ProcessRuntimeState} {priorElapsed : PriorBootPhaseElapsed} :
    let decision := decideRecoveryEvent current runSnapshot
      { event := .recoveryResume
        recoveredState := some (rebasedRecoveredState original monotonicMillis) }
      monotonicMillis priorElapsed
    decision.proposed = true → stateHasTargetReachTimer decision.after.state = true →
      decision.StartsTimer monotonicMillis := by
  cases runSnapshot with
  | none =>
      intro decision hproposed
      cases hproposed
  | some snapshot =>
      simp only [decideRecoveryEvent]
      split
      · rintro ⟨⟩
      · intro _ hafter
        have hsame : resumedState (rebasedRecoveredState original monotonicMillis)
            monotonicMillis = rebasedRecoveredState original monotonicMillis := by
          rw [resumedState]
          split
          · rfl
          · rename_i hqualifying
            have hstate : (if original.state = .qualifyingTarget then
                ProcessState.reachingTarget else original.state) = .qualifyingTarget :=
              hqualifying
            split at hstate <;> contradiction
          · rfl
        simp only [hsame] at hafter ⊢
        obtain ⟨hstate, htimer, hunwarned⟩ := rebasedRecoveredState_starts hafter
        exact ⟨hstate, rfl, htimer, hunwarned⟩

/-- The recovery resumes with a timer of this boot. -/
theorem decideProcessTransition_resumes {runSnapshot : Option ProcessRunSnapshot}
    {signals : ProcessSignals} {original : ProcessRuntimeState}
    {priorElapsed : PriorBootPhaseElapsed}
    (hproposed : (decideProcessTransition current runSnapshot signals
      { event := .recoveryResume
        recoveredState := some (rebasedRecoveredState original monotonicMillis) }
      monotonicMillis priorElapsed).proposed = true)
    (hafter : stateHasTargetReachTimer (decideProcessTransition current runSnapshot signals
      { event := .recoveryResume
        recoveredState := some (rebasedRecoveredState original monotonicMillis) }
      monotonicMillis priorElapsed).after.state = true) :
    (decideProcessTransition current runSnapshot signals
      { event := .recoveryResume
        recoveredState := some (rebasedRecoveredState original monotonicMillis) }
      monotonicMillis priorElapsed).StartsTimer monotonicMillis := by
  revert hproposed hafter
  rw [decideProcessTransition]
  split
  · rintro ⟨⟩
  split
  · rintro ⟨⟩
  split
  · rintro ⟨⟩
  rename_i hroom
  split
  · intro _ hafter
    rw [addMessage_after, propose_eq hroom] at hafter
    cases hafter
  split
  · rintro ⟨⟩
  split
  · rintro ⟨⟩
  split
  · rename_i hexpired
    rw [Bool.and_eq_true, decide_eq_true_eq] at hexpired
    intro hproposed hafter
    cases runSnapshot with
    | none => simp at hexpired
    | some snapshot =>
        simp only [decideAutomatic, hexpired.1, decideWaitingForProduct] at hproposed hafter
        split at hproposed
        · rename_i hminutes
          rw [if_pos hminutes, addMessage_after, propose_eq hroom] at hafter
          cases hafter
        · cases hproposed
  rw [if_pos (by rintro ⟨⟩), decideExplicitEvent]
  simp only
  split
  all_goals first
    | exact decideRecoveryEvent_starts
    | rintro ⟨⟩

end

/-- The moment belongs to an episode whose timer was started at this time. -/
structure InEpisode (startedAtMillis : UInt64) (moment : ProcessMoment) : Prop where
  reaching : stateHasTargetReachTimer moment.state.state = true
  timer : moment.state.targetReachStartedAtMillis = startedAtMillis
  shape : runtimeShapeIsValid moment.state = true
  time : runtimeTimeIsValid moment.state moment.monotonicMillis = true
  started : QualificationStarted moment.state

theorem inEpisode_of_starts {opened : ProcessMoment}
    (hreaching : opened.state.state = .reachingTarget)
    (hentered : opened.state.stateEnteredAtMillis = opened.monotonicMillis)
    (htimer : opened.state.targetReachStartedAtMillis = opened.monotonicMillis)
    (hshape : runtimeShapeIsValid opened.state = true) :
    InEpisode opened.monotonicMillis opened := by
  have hmark : opened.state.qualificationValidSinceMillis = none := by
    simp only [runtimeShapeIsValid, mayTrackQualification, hreaching,
      decide_eq_true_eq] at hshape
    simpa using hshape.1
  refine ⟨?_, htimer, hshape, ?_, ?_⟩
  · rw [hreaching]
    rfl
  · simp [runtimeTimeIsValid, hentered, htimer, hmark]
  · intro hqualifying
    rw [hreaching] at hqualifying
    cases hqualifying

theorem rebasedRecoveredState_shape {original : ProcessRuntimeState}
    {monotonicMillis : UInt64}
    (hreaching : stateHasTargetReachTimer
      (rebasedRecoveredState original monotonicMillis).state = true) :
    runtimeShapeIsValid (rebasedRecoveredState original monotonicMillis) = true := by
  rw [runtimeShapeIsValid, hreaching]
  simp [rebasedRecoveredState]

/-- Every opening starts the timer, with nothing warned of. -/
theorem EpisodeOpens.inEpisode {opened : ProcessMoment} (h : EpisodeOpens opened) :
    InEpisode opened.monotonicMillis opened ∧
      opened.state.targetReachWarningIssued = false := by
  cases h with
  | started hstep hreaching hopens hresumed =>
      cases hstep with
      | decided _ _ happlied =>
          obtain ⟨-, -, rfl, -, -, hshape, -⟩ := applyProcessTransition_eq_some happlied
          obtain ⟨hstate, hentered, htimer, hunwarned⟩ :=
            decideProcessTransition_starts hopens hresumed hreaching
          exact ⟨inEpisode_of_starts hstate hentered htimer hshape, hunwarned⟩
      | proposed _ _ hnext happlied =>
          rw [(propose_reaches happlied).2] at hreaching
          rw [hnext] at hreaching
          cases hreaching
  | resumed happlied hreaching =>
      obtain ⟨hproposed, -, rfl, -, -, hshape, -⟩ := applyProcessTransition_eq_some happlied
      obtain ⟨hstate, hentered, htimer, hunwarned⟩ :=
        decideProcessTransition_resumes hproposed hreaching
      exact ⟨inEpisode_of_starts hstate hentered htimer hshape, hunwarned⟩
  | activated hreaching =>
      obtain ⟨hstate, htimer, hunwarned⟩ := rebasedRecoveredState_starts hreaching
      exact ⟨inEpisode_of_starts hstate rfl htimer (rebasedRecoveredState_shape hreaching),
        hunwarned⟩

/-- A step of an episode stays in it, and the marker records its warning. -/
theorem EpisodeStep.inEpisode {moment next : ProcessMoment} {decision : TransitionDecision}
    {startedAtMillis : UInt64} (h : InEpisode startedAtMillis moment)
    (hstep : EpisodeStep moment decision next) : InEpisode startedAtMillis next := by
  obtain ⟨hafter, due, -, hdecision⟩ := hstep.decision h.reaching
  have hnext := hstep.reaching
  refine ⟨hnext, ?_, ?_, ?_, ?_⟩
  · rw [hafter, hdecision.timer, h.timer]
  all_goals
    cases hstep.step with
    | decided _ _ happlied =>
        obtain ⟨hproposed, -, -, -, -, hshape, htime⟩ :=
          applyProcessTransition_eq_some happlied
        have happlies := decideProcessTransition_applies h.started hproposed
        rw [happlies.clock] at htime
        first
          | exact hshape
          | exact htime
          | exact hafter ▸ happlies.started
    | proposed _ _ htarget happlied =>
        rw [(propose_reaches happlied).2, htarget] at hnext
        cases hnext

theorem EpisodeStep.warning {moment next : ProcessMoment} {decision : TransitionDecision}
    {startedAtMillis : UInt64} (h : InEpisode startedAtMillis moment)
    (hstep : EpisodeStep moment decision next) :
    next.state.targetReachWarningIssued.toNat =
      moment.state.targetReachWarningIssued.toNat + decision.warns.toNat := by
  obtain ⟨hafter, due, hunwarned, hdecision⟩ := hstep.decision h.reaching
  rw [hafter, hdecision.warning, hdecision.warns]
  cases due with
  | false => simp
  | true => simp [hunwarned rfl]

theorem EpisodeStep.exceeded {moment next : ProcessMoment} {decision : TransitionDecision}
    {startedAtMillis : UInt64} (h : InEpisode startedAtMillis moment)
    (hstep : EpisodeStep moment decision next)
    (hreason : decision.reason = .targetReachTimeExceeded) : decision.warns = true := by
  obtain ⟨-, due, -, hdecision⟩ := hstep.decision h.reaching
  rw [hdecision.warns]
  exact hdecision.reason hreason

/-- While the target is being reached, a time that is up is told at once. -/
theorem decideProcessTransition_warns {moment : ProcessMoment} {startedAtMillis : UInt64}
    {snapshot : ProcessRunSnapshot} {signals : ProcessSignals} {monotonicMillis : UInt64}
    {priorElapsed : PriorBootPhaseElapsed} (h : InEpisode startedAtMillis moment)
    (hstate : moment.state.state = .reachingTarget)
    (hunwarned : moment.state.targetReachWarningIssued = false)
    (hlater : moment.monotonicMillis ≤ monotonicMillis)
    (hvalid : validateProcessRunSnapshot snapshot = true)
    (hroom : moment.state.transitionSequence ≠ maxUInt32)
    (hfault : signals.criticalFault = false)
    (helapsed : elapsed monotonicMillis startedAtMillis
      snapshot.maximumTargetReachMinutes = true) :
    let decision := decideProcessTransition moment.state (some snapshot) signals {}
      monotonicMillis priorElapsed
    decision.warns = true ∧ decision.Accepted moment.state (some snapshot) ∧
      (qualificationHasPositiveEvidence signals = false →
        decision.reason = .targetReachTimeExceeded) := by
  have hdue : targetReachWarningDue moment.state snapshot monotonicMillis = true := by
    rw [targetReachWarningDue, h.reaching, hunwarned, h.timer, helapsed]
    rfl
  have hdecided : decideProcessTransition moment.state (some snapshot) signals {}
      monotonicMillis priorElapsed =
        decideReachingTarget moment.state snapshot signals monotonicMillis := by
    have htime := runtimeTimeIsValid_mono h.time hlater
    rw [decideProcessTransition]
    simp [h.shape, htime, hroom, hfault, hvalid, hstate, stateMatchesRunSnapshot,
      decideAutomatic]
  have hproposed : (decideReachingTarget moment.state snapshot signals
      monotonicMillis).proposed = true := by
    rw [decideReachingTarget]
    simp only [if_pos hdue]
    split
    · rw [propose_eq hroom]
      rfl
    · rfl
  simp only
  refine ⟨?_, ?_, ?_⟩
  · rw [hdecided, (decideReachingTarget_episode hroom hstate hproposed).warns, hdue]
  · apply accepted_of_apply
    exact (decideProcessTransition_applies h.started (hdecided ▸ hproposed)).apply
      (hdecided ▸ hproposed)
  · intro hevidence
    rw [hdecided, decideReachingTarget, hevidence, if_neg Bool.false_ne_true, if_pos hdue]
    rfl

/-- Within an episode the timer keeps its start and at most one decision warns, so the
transition that only warns is applied at most once.  While none has warned, the first
evaluation of a reaching phase whose time is up warns. -/
theorem targetReach_warned_once {opened last : ProcessMoment}
    {decisions : List TransitionDecision} (hopened : EpisodeOpens opened)
    (hrun : Steps EpisodeStep opened decisions last) :
    last.state.targetReachStartedAtMillis = opened.monotonicMillis ∧
    decisions.countP (·.warns) ≤ 1 ∧
    decisions.countP (·.reason = .targetReachTimeExceeded) ≤ 1 ∧
    ∀ snapshot signals monotonicMillis priorElapsed,
      last.state.state = .reachingTarget → decisions.countP (·.warns) = 0 →
      last.monotonicMillis ≤ monotonicMillis → validateProcessRunSnapshot snapshot = true →
      last.state.transitionSequence ≠ maxUInt32 → signals.criticalFault = false →
      elapsed monotonicMillis opened.monotonicMillis
        snapshot.maximumTargetReachMinutes = true →
      let decision := decideProcessTransition last.state (some snapshot) signals {}
        monotonicMillis priorElapsed
      decision.warns = true ∧ decision.Accepted last.state (some snapshot) ∧
        (qualificationHasPositiveEvidence signals = false →
          decision.reason = .targetReachTimeExceeded) := by
  obtain ⟨hepisode, hunwarned⟩ := hopened.inEpisode
  have hlast : InEpisode opened.monotonicMillis last :=
    hrun.invariant hepisode EpisodeStep.inEpisode
  have hwarned : last.state.targetReachWarningIssued.toNat =
      opened.state.targetReachWarningIssued.toNat + decisions.countP (·.warns) :=
    hrun.count hepisode EpisodeStep.inEpisode EpisodeStep.warning
  rw [hunwarned, Bool.toNat_false, Nat.zero_add] at hwarned
  have honce : decisions.countP (·.warns) ≤ 1 := by
    rw [← hwarned]
    exact Bool.toNat_le _
  refine ⟨hlast.timer, honce, ?_, ?_⟩
  · have hwarns : ∀ decision ∈ decisions, decision.reason = .targetReachTimeExceeded →
        decision.warns = true :=
      hrun.forall_label hepisode EpisodeStep.inEpisode EpisodeStep.exceeded
    apply le_trans _ honce
    apply List.countP_mono_left
    intro decision hdecision hreason
    exact hwarns decision hdecision (of_decide_eq_true hreason)
  · intro snapshot signals monotonicMillis priorElapsed hstate hnone hlater hvalid hroom
      hfault helapsed
    rw [hnone, Bool.toNat_eq_zero] at hwarned
    exact decideProcessTransition_warns hlast hstate hwarned hlater hvalid hroom hfault
      helapsed

/-! ### A recovered run that warns again -/

/-- A program run of an hour that is to reach its target within an hour. -/
def hourProcess : ProcessRunSnapshot where
  kind := .timed
  qualificationDurationMinutes := 5
  maximumTargetReachMinutes := 60
  fermentationDurationMinutes := some 60

/-- The run of an hour has been started. -/
def hourStarted : ProcessMoment where
  state := { state := .reachingTarget, transitionSequence := 2 }
  runSnapshot := some hourProcess

theorem hourStarted_opens : EpisodeOpens hourStarted := by
  have hstarted : ProcessStep bootedStandby
      (decideProcessTransition bootedStandby.state (some hourProcess) {}
        { event := .startRun } 0) hourStarted :=
    .decided (by decide) (by decide) (by decide)
  exact .started hstarted rfl (by decide) (by decide)

/-- The target has not been reached within the hour. -/
def hourWarned : ProcessMoment where
  state := {
    state := .reachingTarget
    targetReachWarningIssued := true
    transitionSequence := 3 }
  runSnapshot := some hourProcess
  monotonicMillis := 3600000

def hourWarning : TransitionDecision :=
  decideProcessTransition hourStarted.state (some hourProcess) {} {} 3600000

theorem hourWarned_step : ProcessStep hourStarted hourWarning hourWarned :=
  .decided (by decide) (by decide) (by decide)

theorem targetReach_warned_once_hour :
    [hourWarning].countP (·.warns) ≤ 1 ∧
      hourWarned.state.targetReachStartedAtMillis = hourStarted.monotonicMillis := by
  have hrun : Steps EpisodeStep hourStarted [hourWarning] hourWarned :=
    .step .start ⟨hourWarned_step, rfl, by decide⟩
  obtain ⟨htimer, honce, -⟩ := targetReach_warned_once hourStarted_opens hrun
  exact ⟨honce, htimer⟩

/-- A recovery evaluates the warned run. -/
def hourEvaluating : ProcessMoment where
  state := {
    state := .recoveryEvaluation
    stateEnteredAtMillis := 3600000
    transitionSequence := 4 }
  runSnapshot := some hourProcess
  monotonicMillis := 3600000

/-- The recovery has resumed the run, and its timer starts anew. -/
def hourResumed : ProcessMoment where
  state := {
    state := .reachingTarget
    stateEnteredAtMillis := 3600000
    targetReachStartedAtMillis := 3600000
    transitionSequence := 5 }
  runSnapshot := some hourProcess
  monotonicMillis := 3600000

/-- The target is in band when the hour is up. -/
def hourQualifying : ProcessMoment where
  state := {
    state := .qualifyingTarget
    stateEnteredAtMillis := 3600000
    qualificationValidSinceMillis := some 3600000
    targetReachWarningIssued := true
    transitionSequence := 3 }
  runSnapshot := some hourProcess
  monotonicMillis := 3600000

/-- The target has been lost again. -/
def hourReset : ProcessMoment where
  state := {
    state := .reachingTarget
    stateEnteredAtMillis := 3660000
    targetReachWarningIssued := true
    transitionSequence := 4 }
  runSnapshot := some hourProcess
  monotonicMillis := 3660000

/-- A recovery lets one run warn twice, and a warning that a qualification has given
leaves none for the reaching phase. -/
theorem targetReach_warned_again :
    (∃ decisions last, Steps ProcessStep hourStarted decisions last ∧
      decisions.countP (·.reason = .targetReachTimeExceeded) = 2 ∧
      ∀ decision ∈ decisions, decision.after.state = .reachingTarget ∨
        decision.after.state = .recoveryEvaluation) ∧
    ∃ decisions, Steps ProcessStep hourStarted decisions hourReset ∧
      decisions.countP (·.reason = .targetReachTimeExceeded) = 0 ∧
      hourReset.state.state = .reachingTarget ∧
      elapsed 7200000 hourReset.state.targetReachStartedAtMillis
        hourProcess.maximumTargetReachMinutes = true ∧
      (decideProcessTransition hourReset.state (some hourProcess) {} {}
        7200000).proposed = false := by
  constructor
  · have hevaluation : ProcessStep hourWarned
        (propose hourWarned.state .recoveryEvaluation .recoveryReentryRequired 3600000)
        hourEvaluating :=
      .proposed (by decide) (by decide) (by decide) (by decide)
    have hresumed : ProcessStep hourEvaluating
        (decideProcessTransition hourEvaluating.state (some hourProcess) {}
          { event := .recoveryResume
            recoveredState := some (rebasedRecoveredState hourWarned.state 3600000) }
          3600000) hourResumed :=
      .decided (by decide) (by decide) (by decide)
    have hagain : ProcessStep hourResumed
        (decideProcessTransition hourResumed.state (some hourProcess) {} {} 7200000)
        ⟨{ hourResumed.state with
            targetReachWarningIssued := true, transitionSequence := 6 },
          some hourProcess, 7200000⟩ :=
      .decided (by decide) (by decide) (by decide)
    exact ⟨_, _, .step (.step (.step (.step .start hourWarned_step) hevaluation) hresumed)
      hagain, by decide, by decide⟩
  · have hqualifying : ProcessStep hourStarted
        (decideProcessTransition hourStarted.state (some hourProcess)
          { qualificationProgress := .inBand } {} 3600000) hourQualifying :=
      .decided (by decide) (by decide) (by decide)
    have hreset : ProcessStep hourQualifying
        (decideProcessTransition hourQualifying.state (some hourProcess) {} {} 3660000)
        hourReset :=
      .decided (by decide) (by decide) (by decide)
    exact ⟨_, .step (.step .start hqualifying) hreset, by decide, by decide, by decide,
      by decide⟩

end Fermentationsschrank

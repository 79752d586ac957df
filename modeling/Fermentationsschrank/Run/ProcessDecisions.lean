import Fermentationsschrank.Run.ProcessStateMachine

/-!
# Decisions and their application

Deciding and applying are two separate encodings of the process: the decisions
follow the phases, the application follows tables of admitted reasons.
`decideProcessTransition_applies` is their agreement.  It needs one fact about
the state, that a running qualification has a start.
-/

namespace Fermentationsschrank

/-! ## What the tables look at -/

/-- The phases and the reason of a transition, the rest left open. -/
def connecting (source target : ProcessState) (reason : TransitionReason) :
    TransitionDecision where
  status := .proposed
  before := { state := source }
  after := { state := target }
  reason := reason
  monotonicMillis := 0
  messages := []
  committedControlContextTransition := none

/-- The tables admit the reason between two phases on a run snapshot. -/
def Admits (runSnapshot : Option ProcessRunSnapshot) (source target : ProcessState)
    (reason : TransitionReason) : Prop :=
  validProposedTopology (connecting source target reason) = true ∧
    transitionMatchesRunSnapshot (connecting source target reason) runSnapshot = true

instance (runSnapshot : Option ProcessRunSnapshot) (source target : ProcessState)
    (reason : TransitionReason) : Decidable (Admits runSnapshot source target reason) :=
  inferInstanceAs (Decidable (_ ∧ _))

theorem admits_iff {runSnapshot : Option ProcessRunSnapshot}
    (decision : TransitionDecision) :
    Admits runSnapshot decision.before.state decision.after.state decision.reason ↔
      validProposedTopology decision = true ∧
        transitionMatchesRunSnapshot decision runSnapshot = true := by
  rfl

/-! ## Decisions that can be applied -/

/-- A qualification of the target is never without its start. -/
def QualificationStarted (state : ProcessRuntimeState) : Prop :=
  state.state = .qualifyingTarget → state.qualificationValidSinceMillis.isSome = true

namespace TransitionDecision

/-- What applying asks of a proposal, and what it leaves. -/
structure Applies (decision : TransitionDecision) (current : ProcessRuntimeState)
    (runSnapshot : Option ProcessRunSnapshot) (monotonicMillis : UInt64) : Prop where
  before : decision.before = current
  clock : decision.monotonicMillis = monotonicMillis
  room : current.transitionSequence ≠ maxUInt32
  sequence : decision.after.transitionSequence = current.transitionSequence + 1
  admits : Admits runSnapshot current.state decision.after.state decision.reason
  shape : runtimeShapeIsValid decision.after = true
  time : runtimeTimeIsValid decision.after monotonicMillis = true
  started : QualificationStarted decision.after

variable {decision : TransitionDecision} {current : ProcessRuntimeState}
variable {runSnapshot : Option ProcessRunSnapshot} {monotonicMillis : UInt64}

theorem Applies.apply (h : decision.Applies current runSnapshot monotonicMillis)
    (hproposed : decision.proposed = true) :
    applyProcessTransition current decision runSnapshot = some decision.after := by
  have hadmits : Admits runSnapshot decision.before.state decision.after.state
      decision.reason := by
    rw [h.before]
    exact h.admits
  obtain ⟨htopology, hsnapshot⟩ := (admits_iff decision).mp hadmits
  have htime : runtimeTimeIsValid decision.after decision.monotonicMillis = true := by
    rw [h.clock]
    exact h.time
  have hroom : decision.before.transitionSequence ≠ maxUInt32 := by
    rw [h.before]
    exact h.room
  have hsequence : decision.after.transitionSequence =
      decision.before.transitionSequence + 1 := by
    rw [h.before]
    exact h.sequence
  rw [applyProcessTransition]
  exact if_pos ⟨hproposed, h.before.symm, hroom, hsequence, htopology, hsnapshot, h.shape,
    htime⟩

/-- Applying looks at the reason, the states and the time, and at nothing else. -/
theorem Applies.congr {other : TransitionDecision}
    (h : decision.Applies current runSnapshot monotonicMillis)
    (hbefore : other.before = decision.before) (hafter : other.after = decision.after)
    (hreason : other.reason = decision.reason)
    (hclock : other.monotonicMillis = decision.monotonicMillis) :
    other.Applies current runSnapshot monotonicMillis where
  before := hbefore.trans h.before
  clock := hclock.trans h.clock
  room := h.room
  sequence := by rw [hafter]; exact h.sequence
  admits := by rw [hafter, hreason]; exact h.admits
  shape := by rw [hafter]; exact h.shape
  time := by rw [hafter]; exact h.time
  started := by rw [hafter]; exact h.started

/-- A change of the timers only has to keep their shape and their order. -/
theorem Applies.withAfter {change : ProcessRuntimeState → ProcessRuntimeState}
    (h : decision.Applies current runSnapshot monotonicMillis)
    (hstate : (change decision.after).state = decision.after.state)
    (hsequence : (change decision.after).transitionSequence =
      decision.after.transitionSequence)
    (hshape : runtimeShapeIsValid (change decision.after) = true)
    (htime : runtimeTimeIsValid (change decision.after) monotonicMillis = true)
    (hstarted : QualificationStarted (change decision.after)) :
    (decision.withAfter change).Applies current runSnapshot monotonicMillis where
  before := h.before
  clock := h.clock
  room := h.room
  sequence := hsequence.trans h.sequence
  admits := by
    show Admits runSnapshot current.state (change decision.after).state decision.reason
    rw [hstate]
    exact h.admits
  shape := hshape
  time := htime
  started := hstarted

end TransitionDecision

/-! ### Messages -/

section

variable (decision : TransitionDecision) (message : ProcessMessage)

@[simp]
theorem addMessage_status : (addMessage decision message).status = decision.status := by
  rw [addMessage]
  split <;> rfl

@[simp]
theorem addMessage_before : (addMessage decision message).before = decision.before := by
  rw [addMessage]
  split <;> rfl

@[simp]
theorem addMessage_after : (addMessage decision message).after = decision.after := by
  rw [addMessage]
  split <;> rfl

@[simp]
theorem addMessage_reason : (addMessage decision message).reason = decision.reason := by
  rw [addMessage]
  split <;> rfl

@[simp]
theorem addMessage_monotonicMillis :
    (addMessage decision message).monotonicMillis = decision.monotonicMillis := by
  rw [addMessage]
  split <;> rfl

@[simp]
theorem addMessage_proposed : (addMessage decision message).proposed = decision.proposed := by
  simp [TransitionDecision.proposed]

end

theorem TransitionDecision.Applies.addMessage {decision : TransitionDecision}
    {current : ProcessRuntimeState} {runSnapshot : Option ProcessRunSnapshot}
    {monotonicMillis : UInt64}
    (h : decision.Applies current runSnapshot monotonicMillis) (message : ProcessMessage) :
    (addMessage decision message).Applies current runSnapshot monotonicMillis :=
  h.congr (addMessage_before ..) (addMessage_after ..) (addMessage_reason ..)
    (addMessage_monotonicMillis ..)

/-! ## Proposals -/

/-- A state every decision looks at, at a time it accepts. -/
structure Evaluable (current : ProcessRuntimeState) (monotonicMillis : UInt64) : Prop where
  shape : runtimeShapeIsValid current = true
  time : runtimeTimeIsValid current monotonicMillis = true
  room : current.transitionSequence ≠ maxUInt32
  started : QualificationStarted current

section

variable {current : ProcessRuntimeState} {monotonicMillis : UInt64}
variable {runSnapshot : Option ProcessRunSnapshot} {next : ProcessState}
variable {reason : TransitionReason}

theorem propose_eq (hroom : current.transitionSequence ≠ maxUInt32) :
    propose current next reason monotonicMillis =
      { decisionResult .proposed current monotonicMillis with
        reason := reason
        after := {
          state := next
          stateEnteredAtMillis := monotonicMillis
          targetReachStartedAtMillis :=
            if stateHasTargetReachTimer next then current.targetReachStartedAtMillis else 0
          qualificationValidSinceMillis := none
          targetReachWarningIssued :=
            stateHasTargetReachTimer next && current.targetReachWarningIssued
          transitionSequence := current.transitionSequence + 1 } } := by
  rw [propose, if_neg hroom]

theorem propose_not_proposed (hfull : current.transitionSequence = maxUInt32) :
    (propose current next reason monotonicMillis).proposed = false := by
  rw [propose, if_pos hfull]
  rfl

/-- A timer never runs ahead of the clock. -/
theorem targetReach_le (hshape : runtimeShapeIsValid current = true)
    (htime : runtimeTimeIsValid current monotonicMillis = true) :
    current.targetReachStartedAtMillis ≤ monotonicMillis := by
  simp only [runtimeShapeIsValid, runtimeTimeIsValid, decide_eq_true_eq] at hshape htime
  rcases hshape.2 with htimer | ⟨hzero, -⟩
  · exact htime.2.1 htimer
  · rw [hzero]
    exact UInt64.zero_le

theorem Evaluable.targetReach_le (h : Evaluable current monotonicMillis) :
    current.targetReachStartedAtMillis ≤ monotonicMillis :=
  Fermentationsschrank.targetReach_le h.shape h.time

theorem propose_shape (hroom : current.transitionSequence ≠ maxUInt32) :
    runtimeShapeIsValid (propose current next reason monotonicMillis).after = true := by
  rw [propose_eq hroom]
  by_cases htimer : stateHasTargetReachTimer next <;> simp [runtimeShapeIsValid, htimer]

theorem propose_time (hroom : current.transitionSequence ≠ maxUInt32)
    (hreach : current.targetReachStartedAtMillis ≤ monotonicMillis) :
    runtimeTimeIsValid (propose current next reason monotonicMillis).after monotonicMillis =
      true := by
  rw [propose_eq hroom]
  by_cases htimer : stateHasTargetReachTimer next <;>
    simp [runtimeTimeIsValid, htimer, hreach]

theorem propose_applies (h : Evaluable current monotonicMillis)
    (hnext : next ≠ .qualifyingTarget)
    (hadmits : Admits runSnapshot current.state next reason) :
    (propose current next reason monotonicMillis).Applies current runSnapshot
      monotonicMillis := by
  have hshape : runtimeShapeIsValid (propose current next reason monotonicMillis).after =
      true := propose_shape h.room
  have htime : runtimeTimeIsValid (propose current next reason monotonicMillis).after
      monotonicMillis = true := propose_time h.room h.targetReach_le
  rw [propose_eq h.room] at hshape htime ⊢
  exact ⟨rfl, rfl, h.room, rfl, hadmits, hshape, htime,
    fun hstate => absurd hstate hnext⟩

theorem proposePhaseDataUpdate_applies (h : Evaluable current monotonicMillis)
    (hadmits : Admits runSnapshot current.state current.state reason) :
    (proposePhaseDataUpdate current reason monotonicMillis).Applies current runSnapshot
      monotonicMillis :=
  ⟨rfl, rfl, h.room, rfl, hadmits, h.shape, h.time, h.started⟩

/-- A fresh timer starts with the phase it belongs to. -/
theorem initializeTargetReach_applies (h : Evaluable current monotonicMillis)
    (hadmits : Admits runSnapshot current.state .reachingTarget reason) :
    (initializeTargetReach (propose current .reachingTarget reason monotonicMillis)
      monotonicMillis).Applies current runSnapshot monotonicMillis := by
  have hproposal := propose_applies h (by decide) hadmits
  apply hproposal.withAfter rfl rfl
  · simp [propose_eq h.room, runtimeShapeIsValid, stateHasTargetReachTimer]
  · simp [propose_eq h.room, runtimeTimeIsValid]
  · exact hproposal.started

theorem keepTargetReach_applies (h : Evaluable current monotonicMillis)
    (hadmits : Admits runSnapshot current.state .reachingTarget reason) :
    (keepTargetReach (propose current .reachingTarget reason monotonicMillis)
      current).Applies current runSnapshot monotonicMillis := by
  have hproposal := propose_applies h (by decide) hadmits
  have hreach := h.targetReach_le
  apply hproposal.withAfter rfl rfl
  · simp [propose_eq h.room, runtimeShapeIsValid, stateHasTargetReachTimer]
  · simp [propose_eq h.room, runtimeTimeIsValid, hreach]
  · exact hproposal.started

end

/-- The warning can go with any decision. -/
theorem includeTargetReachWarning_applies {decision : TransitionDecision}
    {current : ProcessRuntimeState} {runSnapshot : Option ProcessRunSnapshot}
    {monotonicMillis : UInt64}
    (h : decision.Applies current runSnapshot monotonicMillis) :
    (includeTargetReachWarning decision).Applies current runSnapshot monotonicMillis := by
  apply TransitionDecision.Applies.addMessage
  by_cases htimer : stateHasTargetReachTimer decision.after.state
  · apply h.withAfter <;> simp only [if_pos htimer]
    · have hshape := h.shape
      simp only [runtimeShapeIsValid, decide_eq_true_eq] at hshape ⊢
      exact ⟨hshape.1, .inl htimer⟩
    · exact h.time
    · exact h.started
  · apply h.withAfter <;> simp only [if_neg htimer]
    · exact h.shape
    · exact h.time
    · exact h.started

/-! ## Automatic decisions -/

/-- The decision can be applied if it is a proposal at all. -/
def TransitionDecision.Lawful (decision : TransitionDecision)
    (current : ProcessRuntimeState) (runSnapshot : Option ProcessRunSnapshot)
    (monotonicMillis : UInt64) : Prop :=
  decision.proposed = true → decision.Applies current runSnapshot monotonicMillis

section

variable {current : ProcessRuntimeState} {monotonicMillis : UInt64}
variable {runSnapshot : Option ProcessRunSnapshot}

theorem TransitionDecision.Applies.lawful {decision : TransitionDecision}
    (h : decision.Applies current runSnapshot monotonicMillis) :
    decision.Lawful current runSnapshot monotonicMillis := fun _ => h

theorem decisionResult_lawful {status : DecisionStatus} (hstatus : status ≠ .proposed) :
    (decisionResult status current monotonicMillis).Lawful current runSnapshot
      monotonicMillis := by
  intro hproposed
  simp [TransitionDecision.proposed, decisionResult, hstatus] at hproposed

/-- A run snapshot that belongs to the phase. -/
structure Belongs (snapshot : ProcessRunSnapshot) (state : ProcessState) : Prop where
  valid : validateProcessRunSnapshot snapshot = true
  fits : stateMatchesRunSnapshot state snapshot = true

theorem wait_of_valid {snapshot : ProcessRunSnapshot}
    (h : validateProcessRunSnapshot snapshot = true) :
    snapshot.maximumProductWaitMinutes.isSome = snapshot.preheatEnabled := by
  simp only [validateProcessRunSnapshot, decide_eq_true_eq] at h
  obtain ⟨-, -, -, -, hwait, -⟩ := h
  exact hwait.symm

theorem fermentation_of_valid {snapshot : ProcessRunSnapshot}
    (h : validateProcessRunSnapshot snapshot = true) (hkind : snapshot.kind = .timed) :
    snapshot.fermentationDurationMinutes.isSome = true := by
  simp only [validateProcessRunSnapshot, decide_eq_true_eq] at h
  obtain ⟨-, -, -, -, -, -, hduration, -⟩ := h
  rw [validFermentationDuration, hkind] at hduration
  cases hminutes : snapshot.fermentationDurationMinutes with
  | none =>
      rw [hminutes] at hduration
      cases hduration
  | some minutes => rfl

/-- Between phases of one run only the phases themselves have to fit. -/
theorem admits_some {snapshot : ProcessRunSnapshot} {source target : ProcessState}
    {reason : TransitionReason} (hsource : Belongs snapshot source)
    (htarget : stateMatchesRunSnapshot target snapshot = true)
    (htopology : validProposedTopology (connecting source target reason) = true)
    (hreason : reasonMatchesRunSnapshot (connecting source target reason) snapshot = true) :
    Admits (some snapshot) source target reason := by
  refine ⟨htopology, ?_⟩
  have hmatches : stateMatchesRunSnapshot (connecting source target reason).before.state
      snapshot = true := hsource.fits
  have hafter : stateMatchesRunSnapshot (connecting source target reason).after.state
      snapshot = true := htarget
  simp [transitionMatchesRunSnapshot, hsource.valid, hmatches, hafter, hreason]

variable {snapshot : ProcessRunSnapshot} {signals : ProcessSignals}
variable {priorElapsed : PriorBootPhaseElapsed}

/-- A qualification that starts or ends within its phase. -/
theorem markQualification_applies {reason : TransitionReason} {mark : Option UInt64}
    (h : Evaluable current monotonicMillis) (hstate : current.state = .preheating)
    (hadmits : Admits runSnapshot current.state current.state reason)
    (hmark : mark.all (· ≤ monotonicMillis) = true) :
    ((proposePhaseDataUpdate current reason monotonicMillis).withAfter fun after =>
      { after with qualificationValidSinceMillis := mark }).Applies current runSnapshot
        monotonicMillis := by
  have hshape := h.shape
  have htime := h.time
  simp only [runtimeShapeIsValid, runtimeTimeIsValid, decide_eq_true_eq] at hshape htime
  apply (proposePhaseDataUpdate_applies h hadmits).withAfter rfl rfl
  · have htracked : mayTrackQualification current.state = true := by
      rw [hstate]
      rfl
    simp only [runtimeShapeIsValid, decide_eq_true_eq]
    exact ⟨.inl htracked, hshape.2⟩
  · simp only [runtimeTimeIsValid, decide_eq_true_eq]
    exact ⟨htime.1, htime.2.1, hmark⟩
  · intro hqualifying
    have hpreheating : current.state = .qualifyingTarget := hqualifying
    rw [hstate] at hpreheating
    cases hpreheating

theorem decidePreheating_lawful (h : Evaluable current monotonicMillis)
    (hstate : current.state = .preheating) (hrun : Belongs snapshot .preheating) :
    (decideQualification current snapshot signals monotonicMillis true).Lawful current
      (some snapshot) monotonicMillis := by
  have hfits := hrun.fits
  rw [decideQualification]
  split
  · split
    · exact decisionResult_lawful (by decide)
    · rw [if_pos rfl]
      apply TransitionDecision.Applies.lawful
      apply markQualification_applies h hstate _ rfl
      rw [hstate]
      exact admits_some hrun hfits rfl rfl
  · split
    · have hwait := wait_of_valid hrun.valid
      rw [if_pos rfl]
      apply TransitionDecision.Applies.lawful
      apply TransitionDecision.Applies.addMessage
      apply propose_applies h (by decide)
      rw [hstate]
      apply admits_some hrun _ rfl rfl
      simpa [stateMatchesRunSnapshot, hwait] using hfits
    · split
      · apply TransitionDecision.Applies.lawful
        apply markQualification_applies h hstate _ (by simp)
        rw [hstate]
        exact admits_some hrun hfits rfl rfl
      · exact decisionResult_lawful (by decide)

theorem decideQualification_lawful (h : Evaluable current monotonicMillis)
    (hstate : current.state = .qualifyingTarget)
    (hrun : Belongs snapshot .qualifyingTarget) :
    (decideQualification current snapshot signals monotonicMillis false).Lawful current
      (some snapshot) monotonicMillis := by
  have hrunning : ¬ current.qualificationValidSinceMillis.isNone = true := by
    rw [Option.isNone_iff_eq_none]
    exact Option.isSome_iff_ne_none.mp (h.started hstate)
  rw [decideQualification]
  split
  · rw [if_neg Bool.false_ne_true]
    apply TransitionDecision.Applies.lawful
    apply keepTargetReach_applies h
    rw [hstate]
    exact admits_some hrun rfl rfl rfl
  · split
    · apply TransitionDecision.Applies.lawful
      apply propose_applies h (by split <;> decide)
      rw [hstate]
      cases hkind : snapshot.kind with
      | manualHolding =>
          apply admits_some hrun _ rfl <;>
            simp [stateMatchesRunSnapshot, reasonMatchesRunSnapshot, connecting, hkind]
      | timed =>
          have hduration := fermentation_of_valid hrun.valid hkind
          apply admits_some hrun _ rfl <;>
            simp [stateMatchesRunSnapshot, reasonMatchesRunSnapshot, connecting, hkind,
              hduration]
    · exact decisionResult_lawful (by decide)

theorem decideQualifyingTarget_lawful (h : Evaluable current monotonicMillis)
    (hstate : current.state = .qualifyingTarget)
    (hrun : Belongs snapshot .qualifyingTarget) :
    (decideQualifyingTarget current snapshot signals monotonicMillis).Lawful current
      (some snapshot) monotonicMillis := by
  have hqualification := @decideQualification_lawful _ _ _ signals h hstate hrun
  rw [decideQualifyingTarget]
  split
  · apply TransitionDecision.Applies.lawful
    apply includeTargetReachWarning_applies
    split
    · rename_i hproposed
      exact hqualification hproposed
    · apply proposePhaseDataUpdate_applies h
      rw [hstate]
      exact admits_some hrun rfl rfl rfl
  · exact hqualification

theorem decideWaitingForProduct_lawful (h : Evaluable current monotonicMillis)
    (hstate : current.state = .waitingForProduct)
    (hrun : Belongs snapshot .waitingForProduct) :
    (decideWaitingForProduct current snapshot monotonicMillis priorElapsed).Lawful current
      (some snapshot) monotonicMillis := by
  rw [decideWaitingForProduct]
  split
  · apply TransitionDecision.Applies.lawful
    apply TransitionDecision.Applies.addMessage
    apply propose_applies h (by decide)
    rw [hstate]
    exact admits_some hrun rfl rfl rfl
  · exact decisionResult_lawful (by decide)

theorem decideReachingTarget_lawful (h : Evaluable current monotonicMillis)
    (hstate : current.state = .reachingTarget) (hrun : Belongs snapshot .reachingTarget) :
    (decideReachingTarget current snapshot signals monotonicMillis).Lawful current
      (some snapshot) monotonicMillis := by
  have htracking : ((keepTargetReach (propose current .qualifyingTarget
      .qualificationTrackingStarted monotonicMillis) current).withAfter fun after =>
        { after with qualificationValidSinceMillis := some monotonicMillis }).Applies current
          (some snapshot) monotonicMillis := by
    have hadmits : Admits (some snapshot) current.state .qualifyingTarget
        .qualificationTrackingStarted := by
      rw [hstate]
      exact admits_some hrun rfl rfl rfl
    have hreach := h.targetReach_le
    rw [propose_eq h.room]
    refine ⟨rfl, rfl, h.room, rfl, hadmits, ?_, ?_, fun _ => rfl⟩
    · simp [keepTargetReach, TransitionDecision.withAfter, runtimeShapeIsValid,
        mayTrackQualification, stateHasTargetReachTimer]
    · simp [keepTargetReach, TransitionDecision.withAfter, runtimeTimeIsValid, hreach]
  rw [decideReachingTarget]
  split
  · split
    · exact (includeTargetReachWarning_applies htracking).lawful
    · exact htracking.lawful
  · split
    · apply TransitionDecision.Applies.lawful
      apply includeTargetReachWarning_applies
      apply proposePhaseDataUpdate_applies h
      rw [hstate]
      exact admits_some hrun rfl rfl rfl
    · exact decisionResult_lawful (by decide)

theorem completeTimedRun_applies (h : Evaluable current monotonicMillis)
    (hstate : current.state = .fermenting) (hrun : Belongs snapshot .fermenting) :
    (completeTimedRun current snapshot monotonicMillis).Applies current (some snapshot)
      monotonicMillis := by
  have hfits := hrun.fits
  simp only [stateMatchesRunSnapshot, decide_eq_true_eq] at hfits
  rw [completeTimedRun]
  split
  · rename_i hmode
    apply TransitionDecision.Applies.addMessage
    apply propose_applies h (by decide)
    rw [hstate]
    apply admits_some hrun rfl rfl
    simp [reasonMatchesRunSnapshot, connecting, hmode]
  · rename_i hmode
    have hcooling : Admits (some snapshot) current.state .cooling
        .fermentationCompleted := by
      rw [hstate]
      apply admits_some hrun _ rfl <;>
        simp [stateMatchesRunSnapshot, reasonMatchesRunSnapshot, connecting, hmode,
          hfits.1]
    exact (propose_applies h (by decide) hcooling).congr rfl rfl rfl rfl

theorem completeHoldDuration_applies (h : Evaluable current monotonicMillis)
    (hstate : current.state = .coolHolding) (hrun : Belongs snapshot .coolHolding)
    (hmode : snapshot.completionMode = .coolAndHoldForDuration) :
    (completeHoldDuration current monotonicMillis).Applies current (some snapshot)
      monotonicMillis := by
  apply TransitionDecision.Applies.addMessage
  apply propose_applies h (by decide)
  rw [hstate]
  apply admits_some hrun rfl rfl
  simp [reasonMatchesRunSnapshot, connecting, hmode]

theorem decideFermenting_lawful (h : Evaluable current monotonicMillis)
    (hstate : current.state = .fermenting) (hrun : Belongs snapshot .fermenting) :
    (decideFermenting current snapshot monotonicMillis priorElapsed).Lawful current
      (some snapshot) monotonicMillis := by
  rw [decideFermenting]
  split
  · exact (completeTimedRun_applies h hstate hrun).lawful
  · exact decisionResult_lawful (by decide)

theorem decideCooling_lawful (h : Evaluable current monotonicMillis)
    (hstate : current.state = .cooling) (hrun : Belongs snapshot .cooling) :
    (decideCooling current snapshot signals monotonicMillis).Lawful current
      (some snapshot) monotonicMillis := by
  have hfits := hrun.fits
  simp only [stateMatchesRunSnapshot, decide_eq_true_eq] at hfits
  rw [decideCooling]
  split
  · exact decisionResult_lawful (by decide)
  · split
    · rename_i hmode
      apply TransitionDecision.Applies.lawful
      apply TransitionDecision.Applies.addMessage
      apply propose_applies h (by decide)
      rw [hstate]
      apply admits_some hrun rfl rfl
      simp [reasonMatchesRunSnapshot, connecting, hmode]
    · rename_i hmode
      apply TransitionDecision.Applies.lawful
      apply propose_applies h (by decide)
      rw [hstate]
      apply admits_some hrun _ rfl
      · simp [reasonMatchesRunSnapshot, connecting, hmode]
      · cases hcompletion : snapshot.completionMode <;>
          simp_all [stateMatchesRunSnapshot]

theorem decideCoolHolding_lawful (h : Evaluable current monotonicMillis)
    (hstate : current.state = .coolHolding) (hrun : Belongs snapshot .coolHolding) :
    (decideCoolHolding current snapshot monotonicMillis priorElapsed).Lawful current
      (some snapshot) monotonicMillis := by
  rw [decideCoolHolding]
  split
  · rename_i hdue
    exact (completeHoldDuration_applies h hstate hrun hdue.1).lawful
  · exact decisionResult_lawful (by decide)

theorem decideAutomatic_lawful (h : Evaluable current monotonicMillis)
    (hrun : ∀ snapshot, runSnapshot = some snapshot → Belongs snapshot current.state) :
    (decideAutomatic current runSnapshot signals monotonicMillis priorElapsed).Lawful
      current runSnapshot monotonicMillis := by
  cases runSnapshot with
  | none =>
      rw [decideAutomatic]
      split <;> exact decisionResult_lawful (by decide)
  | some snapshot =>
      have hbelongs := hrun snapshot rfl
      rw [decideAutomatic]
      cases hstate : current.state <;> rw [hstate] at hbelongs
      case preheating => exact decidePreheating_lawful h hstate hbelongs
      case waitingForProduct => exact decideWaitingForProduct_lawful h hstate hbelongs
      case reachingTarget => exact decideReachingTarget_lawful h hstate hbelongs
      case qualifyingTarget => exact decideQualifyingTarget_lawful h hstate hbelongs
      case fermenting => exact decideFermenting_lawful h hstate hbelongs
      case cooling => exact decideCooling_lawful h hstate hbelongs
      case coolHolding => exact decideCoolHolding_lawful h hstate hbelongs
      all_goals exact decisionResult_lawful (by decide)

/-! ## Explicit events -/

/-- Neither phase needs a run, so none has to fit. -/
theorem admits_idle {source target : ProcessState} {reason : TransitionReason}
    (hvalid : runSnapshot.all validateProcessRunSnapshot = true)
    (hsource : stateUsesRunSnapshot source = false)
    (htarget : stateUsesRunSnapshot target = false)
    (htopology : validProposedTopology (connecting source target reason) = true) :
    Admits runSnapshot source target reason := by
  refine ⟨htopology, ?_⟩
  have hbefore : stateUsesRunSnapshot (connecting source target reason).before.state =
      false := hsource
  have hafter : stateUsesRunSnapshot (connecting source target reason).after.state =
      false := htarget
  simp [transitionMatchesRunSnapshot, hvalid, hbefore, hafter]

/-- A run may always be left for a phase without one. -/
theorem admits_leaving {source target : ProcessState} {reason : TransitionReason}
    (hrun : Belongs snapshot source) (htarget : stateUsesRunSnapshot target = false)
    (htopology : validProposedTopology (connecting source target reason) = true)
    (hreason : reasonMatchesRunSnapshot (connecting source target reason) snapshot = true) :
    Admits (some snapshot) source target reason := by
  apply admits_some hrun _ htopology hreason
  cases target <;> first | rfl | cases htarget

/-- A fault is entered without looking at the run. -/
theorem admits_fault {source : ProcessState} (h : stateCanEnterFault source = true) :
    Admits runSnapshot source .fault .criticalFault := by
  refine ⟨?_, rfl⟩
  simpa [validProposedTopology, connecting] using h

theorem rejected_lawful :
    (rejected current monotonicMillis).Lawful current runSnapshot monotonicMillis :=
  decisionResult_lawful (by decide)

theorem decideBootEvent_lawful {event : ProcessEvent} (h : Evaluable current monotonicMillis)
    (hstate : current.state = .boot)
    (hvalid : runSnapshot.all validateProcessRunSnapshot = true) :
    (decideBootEvent current event monotonicMillis).Lawful current runSnapshot
      monotonicMillis := by
  have hboot : ∀ target reason,
      stateUsesRunSnapshot target = false →
      validProposedTopology (connecting .boot target reason) = true →
        (propose current target reason monotonicMillis).Lawful current runSnapshot
          monotonicMillis := by
    intro target reason htarget htopology
    apply TransitionDecision.Applies.lawful
    apply propose_applies h (by rintro rfl; cases htarget)
    rw [hstate]
    exact admits_idle hvalid rfl htarget htopology
  unfold decideBootEvent
  split <;> first | exact hboot _ _ rfl rfl | exact rejected_lawful

theorem decideStandbyEvent_lawful {event : ProcessEvent}
    (h : Evaluable current monotonicMillis) (hstate : current.state = .standby)
    (hvalid : runSnapshot.all validateProcessRunSnapshot = true) :
    (decideStandbyEvent current runSnapshot event monotonicMillis).Lawful current
      runSnapshot monotonicMillis := by
  unfold decideStandbyEvent
  split
  · apply TransitionDecision.Applies.lawful
    apply propose_applies h (by decide)
    rw [hstate]
    exact admits_idle hvalid rfl rfl rfl
  · rename_i snapshot
    have hbelongs : Belongs snapshot .standby := ⟨by simpa using hvalid, rfl⟩
    split
    · rename_i hpreheat
      apply TransitionDecision.Applies.lawful
      apply propose_applies h (by decide)
      rw [hstate]
      have htarget : stateMatchesRunSnapshot .preheating snapshot = true := hpreheat
      apply admits_some hbelongs htarget rfl
      simp [reasonMatchesRunSnapshot, connecting, hpreheat]
    · rename_i hpreheat
      apply TransitionDecision.Applies.lawful
      apply initializeTargetReach_applies h
      rw [hstate]
      apply admits_some hbelongs rfl rfl
      simp [reasonMatchesRunSnapshot, connecting, hpreheat]
  · exact rejected_lawful

theorem decideHoldEvent_lawful {event : ProcessEvent} {snapshot : ProcessRunSnapshot}
    (h : Evaluable current monotonicMillis)
    (hstate : current.state = .coolHolding ∨ current.state = .manualHolding)
    (hrun : Belongs snapshot current.state) :
    (decideHoldEvent current event monotonicMillis).Lawful current (some snapshot)
      monotonicMillis := by
  rw [decideHoldEvent]
  split
  · apply TransitionDecision.Applies.lawful
    apply TransitionDecision.Applies.addMessage
    apply propose_applies h (by decide)
    apply admits_leaving hrun rfl
    · rcases hstate with hstate | hstate <;> rw [hstate] <;> rfl
    · rfl
  · exact rejected_lawful

/-- A resumed state keeps the shape and the times of the recovered one. -/
theorem resumedState_valid {recovered : ProcessRuntimeState}
    (htarget : validRecoveryTarget recovered.state = true)
    (hshape : runtimeShapeIsValid recovered = true)
    (htime : runtimeTimeIsValid recovered monotonicMillis = true) :
    validRecoveryTarget (resumedState recovered monotonicMillis).state = true ∧
      runtimeShapeIsValid (resumedState recovered monotonicMillis) = true ∧
      runtimeTimeIsValid (resumedState recovered monotonicMillis) monotonicMillis = true := by
  simp only [runtimeShapeIsValid, runtimeTimeIsValid, decide_eq_true_eq] at hshape htime ⊢
  have hentered := htime.1
  have hreach := htime.2.1
  rw [resumedState]
  split
  · exact ⟨htarget, ⟨.inr rfl, hshape.2⟩, hentered, hreach, rfl⟩
  · rename_i hstate
    rw [hstate] at hreach
    exact ⟨rfl, ⟨.inr rfl, .inl rfl⟩, UInt64.le_refl _, hreach, rfl⟩
  · exact ⟨htarget, hshape, htime⟩

theorem stateMatchesRunSnapshot_resumedState {recovered : ProcessRuntimeState}
    {snapshot : ProcessRunSnapshot}
    (h : stateMatchesRunSnapshot recovered.state snapshot = true) :
    stateMatchesRunSnapshot (resumedState recovered monotonicMillis).state snapshot =
      true := by
  rw [resumedState]
  split
  · exact h
  · rfl
  · exact h

/-- Neither a proposal nor a resume enters the qualification of the target. -/
theorem resumedState_ne_qualifyingTarget {recovered : ProcessRuntimeState} :
    (resumedState recovered monotonicMillis).state ≠ .qualifyingTarget := by
  rw [resumedState]
  split
  · rename_i hstate
    simp [hstate]
  · simp
  · rename_i hother
    exact hother

theorem decideRecoveryEvent_lawful {request : TransitionRequest}
    (h : Evaluable current monotonicMillis) (hstate : current.state = .recoveryEvaluation)
    (hvalid : runSnapshot.all validateProcessRunSnapshot = true) :
    (decideRecoveryEvent current runSnapshot request monotonicMillis priorElapsed).Lawful
      current runSnapshot monotonicMillis := by
  unfold decideRecoveryEvent
  split
  · apply TransitionDecision.Applies.lawful
    apply propose_applies h (by decide)
    rw [hstate]
    exact admits_idle hvalid rfl rfl rfl
  · rename_i recovered snapshot _ _
    split
    · exact rejected_lawful
    · rename_i hchecks
      simp only [Bool.or_eq_true, Bool.not_eq_true', not_or, Bool.not_eq_false] at hchecks
      obtain ⟨⟨⟨⟨htarget, hshape⟩, htime⟩, hfits⟩, -⟩ := hchecks
      obtain ⟨hresumed, hresumedShape, hresumedTime⟩ :=
        resumedState_valid htarget hshape htime
      have hbelongs : Belongs snapshot .recoveryEvaluation := ⟨by simpa using hvalid, rfl⟩
      apply TransitionDecision.Applies.lawful
      refine ⟨rfl, rfl, h.room, rfl, ?_, hresumedShape, hresumedTime,
        fun hqualifying => absurd hqualifying resumedState_ne_qualifyingTarget⟩
      rw [hstate]
      apply admits_some hbelongs (stateMatchesRunSnapshot_resumedState hfits) _ rfl
      simpa [validProposedTopology, connecting] using hresumed
  · exact rejected_lawful

theorem decideExplicitEvent_lawful {request : TransitionRequest}
    (h : Evaluable current monotonicMillis)
    (hvalid : runSnapshot.all validateProcessRunSnapshot = true)
    (hrun : stateUsesRunSnapshot current.state = true →
      runSnapshot.any (stateMatchesRunSnapshot current.state) = true) :
    (decideExplicitEvent current runSnapshot request monotonicMillis priorElapsed).Lawful
      current runSnapshot monotonicMillis := by
  -- In a phase of a run there is a snapshot, and it belongs to the phase.
  have hbelongs : stateUsesRunSnapshot current.state = true →
      ∃ snapshot, runSnapshot = some snapshot ∧ Belongs snapshot current.state := by
    intro huses
    obtain ⟨snapshot, rfl, hfits⟩ := Option.any_eq_true _ _ |>.mp (hrun huses)
    exact ⟨snapshot, rfl, by simpa using hvalid, hfits⟩
  rw [decideExplicitEvent]
  split
  · split
    · rename_i habort
      obtain ⟨snapshot, rfl, hfits⟩ := hbelongs habort
      apply TransitionDecision.Applies.lawful
      apply TransitionDecision.Applies.addMessage
      apply propose_applies h (by decide)
      apply admits_leaving hfits rfl _ rfl
      simpa [validProposedTopology, connecting] using habort
    · exact rejected_lawful
  · split
    · rename_i hstate
      obtain ⟨snapshot, rfl, hfits⟩ := hbelongs (by rw [hstate]; rfl)
      rw [hstate] at hfits
      have hadmits : Admits (some snapshot) current.state .preheating
          .targetChangedReevaluation := by
        rw [hstate]
        exact admits_some hfits hfits.fits rfl rfl
      apply TransitionDecision.Applies.lawful
      exact (propose_applies h (by decide) hadmits).congr rfl rfl rfl rfl
    · rename_i hstate
      obtain ⟨snapshot, rfl, hfits⟩ := hbelongs (by rw [hstate]; rfl)
      rw [hstate] at hfits
      have hadmits : Admits (some snapshot) current.state .reachingTarget
          .targetChangedReevaluation := by
        rw [hstate]
        exact admits_some hfits rfl rfl rfl
      apply TransitionDecision.Applies.lawful
      exact (initializeTargetReach_applies h hadmits).congr rfl rfl rfl rfl
    · rename_i hstate
      obtain ⟨snapshot, rfl, hfits⟩ := hbelongs (by rw [hstate]; rfl)
      rw [hstate] at hfits
      have hadmits : Admits (some snapshot) current.state .reachingTarget
          .targetChangedReevaluation := by
        rw [hstate]
        exact admits_some hfits rfl rfl rfl
      apply TransitionDecision.Applies.lawful
      exact (initializeTargetReach_applies h hadmits).congr rfl rfl rfl rfl
    · exact rejected_lawful
  · split
    · rename_i hstate
      exact decideBootEvent_lawful h hstate hvalid
    · rename_i hstate
      exact decideStandbyEvent_lawful h hstate hvalid
    · rename_i hstate
      obtain ⟨snapshot, rfl, hfits⟩ := hbelongs (by rw [hstate]; rfl)
      rw [hstate] at hfits
      split
      · apply TransitionDecision.Applies.lawful
        apply initializeTargetReach_applies h
        rw [hstate]
        exact admits_some hfits rfl rfl rfl
      · exact rejected_lawful
    · rename_i hstate
      obtain ⟨snapshot, rfl, hfits⟩ := hbelongs (by rw [hstate]; rfl)
      exact decideHoldEvent_lawful h (.inl hstate) hfits
    · rename_i hstate
      obtain ⟨snapshot, rfl, hfits⟩ := hbelongs (by rw [hstate]; rfl)
      exact decideHoldEvent_lawful h (.inr hstate) hfits
    · rename_i hstate
      split
      · apply TransitionDecision.Applies.lawful
        apply propose_applies h (by decide)
        rw [hstate]
        exact admits_idle hvalid rfl rfl rfl
      · exact rejected_lawful
    · rename_i hstate
      exact decideRecoveryEvent_lawful h hstate hvalid
    · rename_i hstate
      split
      · apply TransitionDecision.Applies.lawful
        apply propose_applies h (by decide)
        rw [hstate]
        exact admits_idle hvalid rfl rfl rfl
      · exact rejected_lawful
    · exact rejected_lawful

/-- What is decided can be applied, on the run snapshot it was decided for. -/
theorem decideProcessTransition_applies {request : TransitionRequest}
    (hstarted : QualificationStarted current)
    (hproposed : (decideProcessTransition current runSnapshot signals request
      monotonicMillis priorElapsed).proposed = true) :
    (decideProcessTransition current runSnapshot signals request monotonicMillis
      priorElapsed).Applies current runSnapshot monotonicMillis := by
  revert hproposed
  change TransitionDecision.Lawful _ _ _ _
  rw [decideProcessTransition]
  split
  · exact decisionResult_lawful (by decide)
  split
  · exact decisionResult_lawful (by decide)
  split
  · exact decisionResult_lawful (by decide)
  rename_i hshape htime hroom
  have h : Evaluable current monotonicMillis := ⟨by simpa using hshape, by simpa using htime,
    hroom, hstarted⟩
  split
  · rename_i hfault
    rw [Bool.and_eq_true] at hfault
    apply TransitionDecision.Applies.lawful
    exact (propose_applies h (by decide) (admits_fault hfault.2)).addMessage _
  split
  · exact decisionResult_lawful (by decide)
  split
  · exact decisionResult_lawful (by decide)
  rename_i hvalid hmatches
  have hall : runSnapshot.all validateProcessRunSnapshot = true := by simpa using hvalid
  have hfits : stateUsesRunSnapshot current.state = true →
      runSnapshot.any (stateMatchesRunSnapshot current.state) = true := by
    intro huses
    simpa [huses] using hmatches
  have hautomatic : (decideAutomatic current runSnapshot signals monotonicMillis
      priorElapsed).Lawful current runSnapshot monotonicMillis := by
    apply decideAutomatic_lawful h
    rintro snapshot rfl
    refine ⟨by simpa using hall, ?_⟩
    by_cases huses : stateUsesRunSnapshot current.state = true
    · simpa using hfits huses
    · cases hstate : current.state <;> first | rfl | (rw [hstate] at huses; exact absurd rfl huses)
  split
  · exact hautomatic
  split
  · exact decideExplicitEvent_lawful h hall hfits
  · exact hautomatic

end

end Fermentationsschrank

import Fermentationsschrank.Core.Runs
import Fermentationsschrank.Run.ProcessDecisions

/-!
# Runs of the process

A process starts in standby and moves by applied transitions: those that are
decided, and those the recovery proposes itself.  In every state it reaches the
next decision can be applied.
-/

namespace Fermentationsschrank

/-- The process state with the time and the run snapshot of its last transition. -/
structure ProcessMoment where
  state : ProcessRuntimeState
  runSnapshot : Option ProcessRunSnapshot := none
  monotonicMillis : UInt64 := 0

/-- A step applies a decision on a validated run snapshot. -/
inductive ProcessStep (moment : ProcessMoment) : TransitionDecision → ProcessMoment → Prop
  | decided {runSnapshot : Option ProcessRunSnapshot} {signals : ProcessSignals}
      {request : TransitionRequest} {priorElapsed : PriorBootPhaseElapsed}
      {monotonicMillis : UInt64} {after : ProcessRuntimeState}
      (hlater : moment.monotonicMillis ≤ monotonicMillis)
      (hvalid : runSnapshot.all validateProcessRunSnapshot = true)
      (happlied : applyProcessTransition moment.state
        (decideProcessTransition moment.state runSnapshot signals request monotonicMillis
          priorElapsed) runSnapshot = some after) :
      ProcessStep moment
        (decideProcessTransition moment.state runSnapshot signals request monotonicMillis
          priorElapsed)
        ⟨after, runSnapshot, monotonicMillis⟩
  /-- The recovery proposes its phases itself; none of them reaches for a target. -/
  | proposed {runSnapshot : Option ProcessRunSnapshot} {next : ProcessState}
      {reason : TransitionReason} {monotonicMillis : UInt64} {after : ProcessRuntimeState}
      (hlater : moment.monotonicMillis ≤ monotonicMillis)
      (hvalid : runSnapshot.all validateProcessRunSnapshot = true)
      (hnext : stateHasTargetReachTimer next = false)
      (happlied : applyProcessTransition moment.state
        (propose moment.state next reason monotonicMillis) runSnapshot = some after) :
      ProcessStep moment (propose moment.state next reason monotonicMillis)
        ⟨after, runSnapshot, monotonicMillis⟩

/-- The process at rest, as the boot leaves it. -/
structure ProcessMoment.Standby (moment : ProcessMoment) : Prop where
  standby : moment.state.state = .standby
  noRun : moment.runSnapshot = none
  shape : runtimeShapeIsValid moment.state = true
  time : runtimeTimeIsValid moment.state moment.monotonicMillis = true

/-- The state could be stored with its run, and a qualification has its start. -/
structure ProcessMoment.Sound (moment : ProcessMoment) : Prop where
  storable : validateProcessRuntimeForCheckpoint moment.state moment.runSnapshot
    moment.monotonicMillis = true
  started : QualificationStarted moment.state

theorem ProcessMoment.Standby.sound {moment : ProcessMoment} (h : moment.Standby) :
    moment.Sound := by
  obtain ⟨hstandby, hrun, hshape, htime⟩ := h
  constructor
  · rw [validateProcessRuntimeForCheckpoint, hshape, htime, hstandby, hrun]
    rfl
  · intro hqualifying
    rw [hstandby] at hqualifying
    cases hqualifying

/-- An applied transition fits the run snapshot it was applied on. -/
theorem applied_storable {current after : ProcessRuntimeState}
    {decision : TransitionDecision} {runSnapshot : Option ProcessRunSnapshot}
    (hvalid : runSnapshot.all validateProcessRunSnapshot = true)
    (h : applyProcessTransition current decision runSnapshot = some after) :
    validateProcessRuntimeForCheckpoint after runSnapshot decision.monotonicMillis =
      true := by
  rw [applyProcessTransition] at h
  split at h
  · rename_i hchecks
    cases h
    obtain ⟨-, -, -, -, htopology, hmatches, hshape, htime⟩ := hchecks
    rw [validateProcessRuntimeForCheckpoint, hshape, htime]
    split
    · rename_i huses
      -- A fault is not a phase of a run, so the snapshot has been compared.
      have hreason : decision.reason ≠ .criticalFault := by
        intro hfault
        simp only [validProposedTopology, hfault, decide_eq_true_eq] at htopology
        rw [htopology.2] at huses
        cases huses
      rw [transitionMatchesRunSnapshot, if_neg hreason] at hmatches
      simp only [hvalid, huses, Bool.not_true, Bool.false_eq_true, if_false, Bool.and_false,
        Bool.false_or] at hmatches
      obtain ⟨snapshot, rfl, hsnapshot⟩ := Option.any_eq_true _ _ |>.mp hmatches
      simp only [Bool.and_eq_true] at hsnapshot
      simpa [hsnapshot.1.2] using hvalid
    · simpa using hvalid
  · cases h

/-- Every step leads from a sound state to a sound state. -/
theorem ProcessStep.sound {moment next : ProcessMoment} {decision : TransitionDecision}
    (h : moment.Sound) (hstep : ProcessStep moment decision next) : next.Sound := by
  cases hstep with
  | @decided runSnapshot signals request priorElapsed monotonicMillis after hlater hvalid
      happlied =>
      obtain ⟨hproposed, -, hafter, -⟩ := applyProcessTransition_eq_some happlied
      have happlies := decideProcessTransition_applies h.started hproposed
      have hstorable := applied_storable hvalid happlied
      rw [happlies.clock] at hstorable
      refine ⟨hstorable, ?_⟩
      rw [hafter]
      exact happlies.started
  | @proposed runSnapshot target reason monotonicMillis after hlater hvalid hnext happlied =>
      obtain ⟨hproposed, -, hafter, -⟩ := applyProcessTransition_eq_some happlied
      have hroom : moment.state.transitionSequence ≠ maxUInt32 := by
        intro hfull
        rw [propose_not_proposed hfull] at hproposed
        cases hproposed
      have hstorable := applied_storable hvalid happlied
      rw [propose_eq hroom] at hstorable hafter
      refine ⟨hstorable, ?_⟩
      rw [hafter]
      intro hqualifying
      have htarget : target = .qualifyingTarget := hqualifying
      rw [htarget] at hnext
      cases hnext

theorem processRun_sound {first last : ProcessMoment} {decisions : List TransitionDecision}
    (hfirst : first.Standby) (hrun : Steps ProcessStep first decisions last) : last.Sound :=
  hrun.invariant hfirst.sound ProcessStep.sound

/-! ## Acceptance -/

/-- The decision is applied, and the state it leads to passes the checks again. -/
def TransitionDecision.Accepted (decision : TransitionDecision)
    (current : ProcessRuntimeState) (runSnapshot : Option ProcessRunSnapshot) : Prop :=
  ∃ after, applyProcessTransition current decision runSnapshot = some after ∧
    validProposedTopology decision = true ∧ runtimeShapeIsValid after = true ∧
    runtimeTimeIsValid after decision.monotonicMillis = true ∧
    after.transitionSequence.toNat = current.transitionSequence.toNat + 1

theorem accepted_of_apply {current after : ProcessRuntimeState}
    {decision : TransitionDecision} {runSnapshot : Option ProcessRunSnapshot}
    (h : applyProcessTransition current decision runSnapshot = some after) :
    decision.Accepted current runSnapshot := by
  have hroom : current.transitionSequence ≠ maxUInt32 := by
    rw [applyProcessTransition] at h
    split at h
    · rename_i hchecks
      obtain ⟨-, rfl, hroom, -⟩ := hchecks
      exact hroom
    · cases h
  obtain ⟨-, -, -, hsequence, htopology, hshape, htime⟩ :=
    applyProcessTransition_eq_some h
  refine ⟨after, h, htopology, hshape, htime, ?_⟩
  have hbelow : current.transitionSequence.toNat < 4294967295 := by
    have hsize := current.transitionSequence.toNat_lt
    by_contra habove
    apply hroom
    apply UInt32.toNat_inj.mp
    show current.transitionSequence.toNat = 4294967295
    omega
  rw [hsequence, UInt32.toNat_add]
  show (current.transitionSequence.toNat + 1) % 2 ^ 32 = _
  omega

theorem runtimeTimeIsValid_mono {state : ProcessRuntimeState} {earlier later : UInt64}
    (h : runtimeTimeIsValid state earlier = true) (hlater : earlier ≤ later) :
    runtimeTimeIsValid state later = true := by
  simp only [runtimeTimeIsValid, decide_eq_true_eq] at h ⊢
  obtain ⟨hentered, hreach, hmark⟩ := h
  refine ⟨UInt64.le_trans hentered hlater,
    fun htimer => UInt64.le_trans (hreach htimer) hlater, ?_⟩
  cases hstart : state.qualificationValidSinceMillis with
  | none => rfl
  | some start =>
      rw [hstart, Option.all_some, decide_eq_true_eq] at hmark
      rw [Option.all_some, decide_eq_true_eq]
      exact UInt64.le_trans hmark hlater

theorem ProcessMoment.Sound.shape {moment : ProcessMoment} (h : moment.Sound) :
    runtimeShapeIsValid moment.state = true := by
  have hstorable := h.storable
  simp only [validateProcessRuntimeForCheckpoint, Bool.and_eq_true] at hstorable
  exact hstorable.1.1

theorem ProcessMoment.Sound.time {moment : ProcessMoment} (h : moment.Sound) :
    runtimeTimeIsValid moment.state moment.monotonicMillis = true := by
  have hstorable := h.storable
  simp only [validateProcessRuntimeForCheckpoint, Bool.and_eq_true] at hstorable
  exact hstorable.1.2

/-- A proposal of the recovery is applied where the tables admit it. -/
theorem propose_accepted {moment : ProcessMoment} {runSnapshot : Option ProcessRunSnapshot}
    {next : ProcessState} {reason : TransitionReason} {monotonicMillis : UInt64}
    (h : moment.Sound) (hlater : moment.monotonicMillis ≤ monotonicMillis)
    (hproposed : (propose moment.state next reason monotonicMillis).proposed = true)
    (htopology : validProposedTopology
      (propose moment.state next reason monotonicMillis) = true)
    (hmatches : transitionMatchesRunSnapshot
      (propose moment.state next reason monotonicMillis) runSnapshot = true) :
    (propose moment.state next reason monotonicMillis).Accepted moment.state
      runSnapshot := by
  have hroom : moment.state.transitionSequence ≠ maxUInt32 := by
    intro hfull
    rw [propose_not_proposed hfull] at hproposed
    cases hproposed
  have hreach := targetReach_le h.shape (runtimeTimeIsValid_mono h.time hlater)
  have hshape : runtimeShapeIsValid (propose moment.state next reason
      monotonicMillis).after = true := propose_shape hroom
  have htime : runtimeTimeIsValid (propose moment.state next reason monotonicMillis).after
      monotonicMillis = true := propose_time hroom hreach
  rw [propose_eq hroom] at hproposed htopology hmatches hshape htime ⊢
  have happlied : applyProcessTransition moment.state _ runSnapshot = some _ :=
    if_pos ⟨hproposed, rfl, hroom, rfl, htopology, hmatches, hshape, htime⟩
  exact accepted_of_apply happlied

/-- In every state a process reaches, every decision that is proposed is accepted on
its run snapshot, and so is every admitted proposal of the recovery.  The state could
be stored with its run, and its qualification has a start. -/
theorem processRun_decisions_accepted {first last : ProcessMoment}
    {decisions : List TransitionDecision} (hfirst : first.Standby)
    (hrun : Steps ProcessStep first decisions last) :
    (∀ runSnapshot signals request monotonicMillis priorElapsed,
      (decideProcessTransition last.state runSnapshot signals request monotonicMillis
        priorElapsed).proposed = true →
      (decideProcessTransition last.state runSnapshot signals request monotonicMillis
        priorElapsed).Accepted last.state runSnapshot) ∧
    (∀ runSnapshot next reason monotonicMillis, last.monotonicMillis ≤ monotonicMillis →
      (propose last.state next reason monotonicMillis).proposed = true →
      validProposedTopology (propose last.state next reason monotonicMillis) = true →
      transitionMatchesRunSnapshot (propose last.state next reason monotonicMillis)
        runSnapshot = true →
      (propose last.state next reason monotonicMillis).Accepted last.state runSnapshot) ∧
    (last.state.state = .qualifyingTarget →
      last.state.qualificationValidSinceMillis.isSome = true) ∧
    validateProcessRuntimeForCheckpoint last.state last.runSnapshot last.monotonicMillis =
      true := by
  have hsound := processRun_sound hfirst hrun
  refine ⟨?_, ?_, hsound.started, hsound.storable⟩
  · intro runSnapshot signals request monotonicMillis priorElapsed hproposed
    have happlies := decideProcessTransition_applies hsound.started hproposed
    exact accepted_of_apply (happlies.apply hproposed)
  · intro runSnapshot next reason monotonicMillis hlater hproposed htopology hmatches
    exact propose_accepted hsound hlater hproposed htopology hmatches

/-! ### A run that qualifies -/

/-- A run that holds its target once it is qualified. -/
def holdingProcess : ProcessRunSnapshot where
  kind := .manualHolding
  qualificationDurationMinutes := 5
  maximumTargetReachMinutes := 60

def bootedStandby : ProcessMoment where
  state := { state := .standby, transitionSequence := 1 }

theorem bootedStandby_standby : bootedStandby.Standby where
  standby := rfl
  noRun := rfl
  shape := by decide
  time := by decide

/-- The run has been started. -/
def startedMoment : ProcessMoment where
  state := { state := .reachingTarget, transitionSequence := 2 }
  runSnapshot := some holdingProcess

/-- The target has been reached ten minutes later. -/
def qualifyingMoment : ProcessMoment where
  state := {
    state := .qualifyingTarget
    stateEnteredAtMillis := 600000
    qualificationValidSinceMillis := some 600000
    transitionSequence := 3 }
  runSnapshot := some holdingProcess
  monotonicMillis := 600000

theorem qualifyingMoment_reached :
    ∃ decisions, Steps ProcessStep bootedStandby decisions qualifyingMoment := by
  have hstarted : ProcessStep bootedStandby
      (decideProcessTransition bootedStandby.state (some holdingProcess) {}
        { event := .startRun } 0) startedMoment :=
    .decided (by decide) (by decide) (by decide)
  have hqualifying : ProcessStep startedMoment
      (decideProcessTransition startedMoment.state (some holdingProcess)
        { qualificationProgress := .inBand } {} 600000) qualifyingMoment :=
    .decided (by decide) (by decide) (by decide)
  exact ⟨_, .step (.step .start hstarted) hqualifying⟩

theorem processRun_decisions_accepted_qualifying :
    (decideProcessTransition qualifyingMoment.state (some holdingProcess)
      { qualificationProgress := .complete } {} 900000).Accepted qualifyingMoment.state
        (some holdingProcess) := by
  obtain ⟨decisions, hrun⟩ := qualifyingMoment_reached
  exact (processRun_decisions_accepted bootedStandby_standby hrun).1 (some holdingProcess)
    { qualificationProgress := .complete } {} 900000 {} (by decide)

/-- The recovery can propose what the tables do not admit: an evaluation without a run. -/
theorem propose_refused :
    bootedStandby.Standby ∧ Steps ProcessStep bootedStandby [] bootedStandby ∧
      (propose bootedStandby.state .recoveryEvaluation .recoveryReentryRequired
        0).proposed = true ∧
      applyProcessTransition bootedStandby.state
        (propose bootedStandby.state .recoveryEvaluation .recoveryReentryRequired 0)
          bootedStandby.runSnapshot = none :=
  ⟨bootedStandby_standby, .start, by decide, by decide⟩

end Fermentationsschrank

import Fermentationsschrank.Guarantees.LiveRuns

/-!
# The ledger of observed time

The observed time of a run is a ledger.  A step that ends a live fermentation, or starts
it over, credits its whole seconds once; an activation credits what the boot before had
recorded of it; the end of a run clears the ledger; nothing else touches it.
-/

namespace Fermentationsschrank

open CommandDecision RunPersistenceCoordinator

/-! ## The ledger -/

def RunCommandState.observedSeconds (state : RunCommandState) : ℕ :=
  state.runProgress.observedRunSeconds.toNat

/-- The whole seconds of a live fermentation up to an instant. -/
def RunCommandState.fermentedSeconds (state : RunCommandState) (endMillis : UInt64) : ℕ :=
  if state.processState.state = .fermenting then
    (endMillis.toNat - state.processState.stateEnteredAtMillis.toNat) / 1000
  else 0

inductive ObservedEntry
  | credited (seconds : ℕ)
  | cleared
  deriving DecidableEq, Repr

def ObservedEntry.book (observed : ℕ) : ObservedEntry → ℕ
  | .credited seconds => observed + seconds
  | .cleared => 0

/-- The operations that make a loaded run the live one. -/
def RunOperation.activates : RunOperation → Bool
  | .activateLoadedRun _ _ | .activateR1EligibleRun _ _
  | .evaluateCurrentFermentingRecovery _ | .activateFallbackRecoveredRun _ _ => true
  | _ => false

/-- The commands that end a run, whatever follows it. -/
def RunOperation.endsRun (operation : RunOperation) : Bool :=
  operation.command.any fun command => endingKind command.1.kind

/-- The record of the boot before: the loaded one, or the fallback that is offered. -/
def interruptedRecord (coordinator : RunPersistenceCoordinator)
    (current : RunCommandState) : Option RunPersistenceRawRecord :=
  coordinator.loadedRecord.or do
    let head ← coordinator.currentHead
    let reference ← head.fallback
    let offered ← coordinator.offeredFallback head reference current
    decodeRunPersistenceRecord offered.bytes coordinator.epoch

/-- The fermentation has ended, or has started over. -/
def leavesFermentation (before after : RunCommandState) : Prop :=
  after.processState.state ≠ .fermenting ∨
    after.processState.stateEnteredAtMillis ≠ before.processState.stateEnteredAtMillis

instance (before after : RunCommandState) : Decidable (leavesFermentation before after) :=
  inferInstanceAs (Decidable (_ ∨ _))

/-- The seconds a step has to credit.  A loaded fermentation ended with its record. -/
def RunOperation.dueSeconds (operation : RunOperation)
    (coordinator : RunPersistenceCoordinator) (before after : RunCommandState) : ℕ :=
  if operation.activates then
    (interruptedRecord coordinator before).elim 0 fun record =>
      before.fermentedSeconds record.snapshot.checkpointMonotonicMillis
  else if leavesFermentation before after then
    before.fermentedSeconds operation.time.monotonicMillis
  else 0

/-- What a step enters into the ledger; a step without an effect enters nothing. -/
def LiveEvent.entry (event : LiveEvent) : ObservedEntry :=
  match event.operation with
  | none => .credited 0
  | some operation =>
      if event.after = event.before then .credited 0
      else if operation.endsRun = true ∨ event.after.hasActiveRun = false then .cleared
      else .credited (operation.dueSeconds event.coordinator event.before event.after)

/-! ## Steps that credit nothing -/

/-- The same run with the same observed time. -/
structure SameLedger (before after : RunCommandState) : Prop where
  observed : after.observedSeconds = before.observedSeconds
  active : after.hasActiveRun = before.hasActiveRun
  process : after.processRunSnapshot.isSome = before.processRunSnapshot.isSome

theorem SameLedger.refl (state : RunCommandState) : SameLedger state state := ⟨rfl, rfl, rfl⟩

theorem SameLedger.trans {first middle last : RunCommandState} (h : SameLedger first middle)
    (h' : SameLedger middle last) : SameLedger first last :=
  ⟨h'.observed.trans h.observed, h'.active.trans h.active, h'.process.trans h.process⟩

/-- The same run in the same fermentation, with the same observed time. -/
structure Undisturbed (before after : RunCommandState) : Prop extends
    SameLedger before after where
  phase : before.processState.state = .fermenting →
    after.processState = before.processState

namespace Undisturbed

variable {first middle last : RunCommandState}

theorem refl (state : RunCommandState) : Undisturbed state state :=
  ⟨.refl state, fun _ => rfl⟩

theorem trans (h : Undisturbed first middle) (h' : Undisturbed middle last) :
    Undisturbed first last where
  toSameLedger := h.toSameLedger.trans h'.toSameLedger
  phase hfermenting := by
    have hsame := h.phase hfermenting
    rw [← hsame] at hfermenting
    exact (h'.phase hfermenting).trans hsame

/-- Only the process state may differ, and a fermentation keeps it. -/
theorem withProcessState {state : RunCommandState} {processState : ProcessRuntimeState}
    (h : state.processState.state = .fermenting → processState = state.processState) :
    Undisturbed state { state with processState } := ⟨⟨rfl, rfl, rfl⟩, h⟩

end Undisturbed

section

variable {state : RunCommandState}

theorem undisturbed_withLiveEvidence {live : Option CrossRolePlausibilityContext} :
    Undisturbed state (withLiveEvidence state live) := by
  cases live with
  | none => exact .refl state
  | some live =>
      rw [withLiveEvidence, applyLiveRecoveryEvidence]
      split
      · exact ⟨⟨rfl, rfl, rfl⟩, fun _ => rfl⟩
      · exact .refl state

theorem withLiveEvidence_processState {live : Option CrossRolePlausibilityContext} :
    (withLiveEvidence state live).processState = state.processState := by
  cases live with
  | none => rfl
  | some live =>
      rw [withLiveEvidence, applyLiveRecoveryEvidence]
      split <;> rfl

theorem undisturbed_applyLiveRecoveryEvidence {live : CrossRolePlausibilityContext} :
    Undisturbed state (applyLiveRecoveryEvidence state live) :=
  @undisturbed_withLiveEvidence state (some live)

theorem undisturbed_withFreshPlanner {kind : CommandKind}
    {provenance : Option FreshStartSnapshotProvenance} :
    Undisturbed state (withFreshPlanner state kind provenance) := by
  rw [withFreshPlanner]
  split
  · exact ⟨⟨rfl, rfl, rfl⟩, fun _ => rfl⟩
  · exact .refl state

theorem supersede_observed {progress : RunProgressState} {segment : Option UInt32} :
    (supersedeUnbookedWeightedSegment progress segment).observedRunSeconds =
      progress.observedRunSeconds := by
  rw [supersedeUnbookedWeightedSegment]
  split <;> rfl

theorem undisturbed_closeWeightedSegment : Undisturbed state (closeWeightedSegment state) := by
  rw [closeWeightedSegment]
  split
  · exact .refl state
  · exact ⟨⟨congrArg UInt32.toNat supersede_observed, rfl, rfl⟩, fun _ => rfl⟩

theorem setManualSensorMode_isSome {plan : Option ManualRunPlan} {mode : RunSensorMode} :
    (setManualSensorMode plan mode).isSome = plan.isSome := by
  cases plan <;> rfl

theorem undisturbed_applySensorSelectionMutation
    {mutation : SensorSelectionStateMutation} :
    Undisturbed state (applySensorSelectionMutation state mutation) := by
  refine ⟨⟨rfl, ?_, rfl⟩, fun _ => rfl⟩
  rw [applySensorSelectionMutation]
  cases mutation.activeMode with
  | none => rfl
  | some mode =>
      show (_ || (setManualSensorMode state.activeManualRun mode).isSome) = _
      rw [setManualSensorMode_isSome]
      rfl

theorem undisturbed_resetChangedSensorRole {before after : RunCommandState}
    {mutation : SensorSelectionStateMutation} {monotonicMillis : UInt64}
    (h : resetChangedSensorRole before state mutation monotonicMillis = some after) :
    Undisturbed state after := by
  rw [resetChangedSensorRole] at h
  split at h
  · rw [applySensorRoleChangeQualificationReset] at h
    split at h
    · cases h
      exact .refl state
    · rename_i hqualifying
      simp only at h
      split at h
      · obtain ⟨processState, -, rfl⟩ := Option.map_eq_some_iff.mp h
        apply Undisturbed.withProcessState
        intro hfermenting
        rw [hfermenting] at hqualifying
        exact absurd (by decide) hqualifying
      · cases h
  · cases h
    exact .refl state

theorem undisturbed_booked {after : RunCommandState} (h : Booked state after) :
    Undisturbed state after := by
  obtain ⟨_, _, _, rfl⟩ := h
  exact ⟨⟨rfl, rfl, rfl⟩, fun _ => rfl⟩

end

/-! ## Folding -/

theorem foldObservedRunSeconds_eq_some {candidate folded : RunCommandState}
    {deltaSeconds : UInt64} (h : foldObservedRunSeconds candidate deltaSeconds = some folded) :
    folded.observedSeconds = candidate.observedSeconds + deltaSeconds.toNat ∧
      ∃ runProgress, folded = { candidate with runProgress } := by
  rw [foldObservedRunSeconds] at h
  split at h
  · rename_i hroom
    cases h
    refine ⟨?_, _, rfl⟩
    have hsize := candidate.runProgress.observedRunSeconds.toNat_lt
    have hmaximum : maxUInt32.toNat = 4294967295 := rfl
    show (candidate.runProgress.observedRunSeconds + deltaSeconds.toUInt32).toNat = _
    rw [UInt32.toNat_add, UInt64.toNat_toUInt32, RunCommandState.observedSeconds]
    omega
  · cases h

theorem deriveFermentingSecondsDelta_eq_some {before : RunCommandState}
    {atMillis : UInt64} {delta : UInt32}
    (h : deriveFermentingSecondsDelta before atMillis = some delta) :
    before.processState.state = .fermenting ∧
      delta.toNat = before.fermentedSeconds atMillis := by
  rw [deriveFermentingSecondsDelta] at h
  split at h
  · cases h
  · rename_i hlive
    rw [not_or, not_not, UInt64.lt_iff_toNat_lt, not_lt] at hlive
    simp only at h
    split at h
    · rename_i hfits
      cases h
      refine ⟨hlive.1, ?_⟩
      have hseconds :
          ((atMillis - before.processState.stateEnteredAtMillis) / 1000).toNat =
            (atMillis.toNat - before.processState.stateEnteredAtMillis.toNat) / 1000 := by
        rw [UInt64.toNat_div,
          UInt64.toNat_sub_of_le _ _ (UInt64.le_iff_toNat_le.mpr hlive.2)]
        rfl
      have hmaximum : maxUInt32.toUInt64.toNat = 4294967295 := rfl
      rw [UInt64.le_iff_toNat_le, hmaximum, hseconds] at hfits
      rw [RunCommandState.fermentedSeconds, if_pos hlive.1, UInt64.toNat_toUInt32, hseconds]
      exact Nat.mod_eq_of_lt (Nat.lt_succ_of_le hfits)
    · cases h

theorem foldFermentation_eq_some {state folded : RunCommandState}
    {monotonicMillis : UInt64} (h : foldFermentation state monotonicMillis = some folded) :
    folded.observedSeconds =
        state.observedSeconds + state.fermentedSeconds monotonicMillis ∧
      ∃ runProgress, folded = { state with runProgress } := by
  obtain ⟨delta, hdelta, hfold⟩ := Option.bind_eq_some_iff.mp h
  obtain ⟨-, hseconds⟩ := deriveFermentingSecondsDelta_eq_some hdelta
  obtain ⟨hobserved, hframe⟩ := foldObservedRunSeconds_eq_some hfold
  rw [UInt32.toNat_toUInt64, hseconds] at hobserved
  exact ⟨hobserved, hframe⟩

/-! ## Steps and their entries -/

/-- A state without a run has nothing in its ledger. -/
def RunCommandState.IdleCleared (state : RunCommandState) : Prop :=
  state.hasActiveRun = false →
    state.processRunSnapshot = none ∧ state.observedSeconds = 0

theorem RunCommandState.IdleCleared.active {state : RunCommandState}
    {process : ProcessRunSnapshot} (h : state.IdleCleared)
    (hprocess : state.processRunSnapshot = some process) : state.hasActiveRun = true := by
  by_contra hidle
  rw [Bool.not_eq_true] at hidle
  rw [(h hidle).1] at hprocess
  cases hprocess

/-- How an operation may leave the ledger. -/
inductive Accounted (operation : RunOperation) (coordinator : RunPersistenceCoordinator)
    (before after : RunCommandState) : Prop
  | kept (hkept : after = before)
  | undisturbed (hends : operation.endsRun = false) (hsame : Undisturbed before after)
      (hloaded : operation.activates = true → before.processState.state ≠ .fermenting)
  | cleared (hends : operation.endsRun = true ∨ after.hasActiveRun = false)
      (hobserved : after.observedSeconds = 0)
      (hprocess : after.hasActiveRun = false → after.processRunSnapshot = none)
  | credited (hends : operation.endsRun = false) (hactive : after.hasActiveRun = true)
      (hobserved : after.observedSeconds =
        before.observedSeconds + operation.dueSeconds coordinator before after)

section

variable {operation : RunOperation} {coordinator : RunPersistenceCoordinator}
variable {before after : RunCommandState}

theorem fermentedSeconds_eq_zero {endMillis : UInt64}
    (h : before.processState.state ≠ .fermenting) :
    before.fermentedSeconds endMillis = 0 := if_neg h

theorem dueSeconds_eq_zero (h : before.processState.state ≠ .fermenting) :
    operation.dueSeconds coordinator before after = 0 := by
  rw [RunOperation.dueSeconds]
  split
  · cases interruptedRecord coordinator before with
    | none => rfl
    | some record => exact fermentedSeconds_eq_zero h
  · split
    · exact fermentedSeconds_eq_zero h
    · rfl

theorem dueSeconds_of_left (hloaded : operation.activates = false)
    (hleft : leavesFermentation before after) :
    operation.dueSeconds coordinator before after =
      before.fermentedSeconds operation.time.monotonicMillis := by
  rw [RunOperation.dueSeconds, hloaded, if_neg Bool.false_ne_true, if_pos hleft]

theorem Undisturbed.dueSeconds (h : Undisturbed before after)
    (hloaded : operation.activates = true → before.processState.state ≠ .fermenting) :
    operation.dueSeconds coordinator before after = 0 := by
  by_cases hfermenting : before.processState.state = .fermenting
  · have hactivates : ¬ operation.activates = true := fun h => hloaded h hfermenting
    have hstays : ¬ leavesFermentation before after := by
      rw [leavesFermentation, h.phase hfermenting, hfermenting]
      simp
    rw [RunOperation.dueSeconds, if_neg hactivates, if_neg hstays]
  · exact dueSeconds_eq_zero hfermenting

/-- The ledger says what the step has done to the observed time. -/
theorem Accounted.booked (h : Accounted operation coordinator before after)
    (hidle : before.IdleCleared) :
    after.observedSeconds =
        (LiveEvent.entry ⟨some operation, coordinator, before, after⟩).book
          before.observedSeconds ∧
      after.IdleCleared := by
  by_cases hkept : after = before
  · subst hkept
    refine ⟨?_, hidle⟩
    rw [LiveEvent.entry]
    simp only [ite_true]
    rfl
  · rw [LiveEvent.entry]
    simp only [if_neg hkept]
    cases h with
    | kept hsame => exact absurd hsame hkept
    | undisturbed hends hsame hloaded =>
        have hcleared : after.IdleCleared := by
          intro hafter
          obtain ⟨hprocess, hzero⟩ := hidle (hsame.active ▸ hafter)
          have hnone := hsame.process
          rw [hprocess] at hnone
          exact ⟨Option.not_isSome_iff_eq_none.mp (by rw [hnone]; decide),
            hsame.observed.trans hzero⟩
        refine ⟨?_, hcleared⟩
        rw [hends]
        split
        · rename_i hafter
          exact (hcleared (hafter.resolve_left (by decide))).2
        · rw [hsame.dueSeconds hloaded]
          exact hsame.observed
    | cleared hends hobserved hprocess =>
        rw [if_pos hends]
        exact ⟨hobserved, fun hafter => ⟨hprocess hafter, hobserved⟩⟩
    | credited hends hactive hobserved =>
        rw [hends, hactive]
        exact ⟨hobserved, fun hafter => absurd hactive (by rw [hafter]; decide)⟩

end

/-! ## Commands -/

section

variable {current state after : RunCommandState} {decision : CommandDecision}
variable {operation : RunOperation} {coordinator : RunPersistenceCoordinator}

theorem undisturbed_commandApplied {live : Option CrossRolePlausibilityContext}
    {provenance : Option FreshStartSnapshotProvenance} :
    Undisturbed decision.after (commandApplied decision live provenance) :=
  undisturbed_withFreshPlanner.trans undisturbed_withLiveEvidence

/-- What an accepted command does to the ledger. -/
inductive CommandAccounted (current : RunCommandState) (decision : CommandDecision) : Prop
  | undisturbed (hends : endingKind decision.kind = false)
      (hsame : Undisturbed current decision.after)
  | started (hends : endingKind decision.kind = false)
      (hrecorded : isPersistedRunCommand decision.kind = true)
      (hstandby : current.processState.state = .standby)
      (hactive : decision.after.hasActiveRun = true)
      (hobserved : decision.after.observedSeconds = current.observedSeconds)
  | cleared (hends : endingKind decision.kind = true)
      (hobserved : decision.after.observedSeconds = 0)
      (hprocess : decision.after.hasActiveRun = false →
        decision.after.processRunSnapshot = none)
  | restarted (hends : endingKind decision.kind = false)
      (hrecorded : isPersistedRunCommand decision.kind = true)
      (hactive : decision.after.hasActiveRun = true)
      (hfermenting : decision.after.processState.state = .fermenting)
      (hentered : decision.after.processState.stateEnteredAtMillis =
        decision.envelope.monotonicMillis)
      (hobserved : decision.after.observedSeconds = current.observedSeconds +
        current.fermentedSeconds decision.envelope.monotonicMillis)

theorem programStarted_accounted {request : ProgramStartRequest}
    (h : ProgramStarted current request decision) : CommandAccounted current decision := by
  obtain ⟨resolution, run, process, started, -, -, -, hstarted, hbooked⟩ := h.installed
  obtain ⟨_, -, -, rfl⟩ := applyTransition_eq_some.mp hstarted
  have hsame := undisturbed_booked hbooked
  refine .started ?_ ?_ h.standby ?_ hsame.observed
  · rw [h.kind]
    rfl
  · rw [h.kind]
    rfl
  · rw [hsame.active]
    rfl

theorem manualRunStarted_accounted {request : ManualStartRequest}
    (h : ManualRunStarted current request decision) : CommandAccounted current decision := by
  obtain ⟨plan, installed, -, hinstalled, hbooked⟩ := h.installed
  obtain ⟨snapshot, started, -, hstarted, rfl⟩ := installManualRun_eq_some hinstalled
  obtain ⟨_, -, -, rfl⟩ := applyTransition_eq_some.mp hstarted
  have hsame := undisturbed_booked hbooked
  refine .started ?_ ?_ h.standby ?_ hsame.observed
  · rw [h.kind]
    rfl
  · rw [h.kind]
    rfl
  · rw [hsame.active]
    rfl

theorem undisturbed_selectCoolingSensor {airSensorValid coolingSensorValid : Bool} :
    Undisturbed state (selectCoolingSensor state airSensorValid coolingSensorValid) := by
  rw [selectCoolingSensor]
  split
  · exact ⟨⟨rfl, rfl, rfl⟩, fun _ => rfl⟩
  · exact .refl state

/-- The end of a run clears the ledger, also for the cooling run that follows. -/
theorem runEnded_accounted {envelope : CommandEnvelope} {event : ProcessEvent}
    {snapshot : Option ProcessRunSnapshot} {airSensorValid coolingSensorValid : Bool}
    (h : RunEnded current envelope event snapshot airSensorValid coolingSensorValid decision)
    (hkind : endingKind decision.kind = true) : CommandAccounted current decision := by
  obtain ⟨coolingPlan, ended, installed, -, -, hinstalled, hbooked⟩ := h.replaced
  have hsame := (@undisturbed_selectCoolingSensor
    { installed with runRevision := current.runRevision + 1 } airSensorValid
    coolingSensorValid).trans (undisturbed_booked hbooked)
  cases coolingPlan with
  | none =>
      cases hinstalled
      refine .cleared hkind hsame.observed fun _ => ?_
      exact Option.not_isSome_iff_eq_none.mp (by rw [hsame.process]; exact Bool.false_ne_true)
  | some plan =>
      obtain ⟨process, started, -, hstarted, rfl⟩ := installManualRun_eq_some hinstalled
      obtain ⟨_, -, -, rfl⟩ := applyTransition_eq_some.mp hstarted
      refine .cleared hkind hsame.observed fun hidle => ?_
      rw [hsame.active] at hidle
      cases hidle

theorem recoveryTimeCorrected_accounted {request : ApplyRecoveryTimeCorrectionRequest}
    (h : RecoveryTimeCorrected current request decision) :
    CommandAccounted current decision := by
  obtain ⟨corrected, hbooked⟩ := h.corrected
  refine .undisturbed ?_ (.trans ?_ (undisturbed_booked hbooked))
  · rw [h.kind]
    rfl
  · exact ⟨⟨rfl, rfl, rfl⟩, fun _ => rfl⟩

theorem messageFlagged_undisturbed {request : MessageCommandRequest}
    (h : MessageFlagged current request decision) :
    Undisturbed current decision.after := by
  obtain ⟨messages, hbooked⟩ := h.flagged
  refine .trans ?_ (undisturbed_booked hbooked)
  exact ⟨⟨rfl, rfl, rfl⟩, fun _ => rfl⟩

theorem messageFlagged_accounted {request : MessageCommandRequest}
    (h : MessageFlagged current request decision) : CommandAccounted current decision := by
  refine .undisturbed ?_ (messageFlagged_undisturbed h)
  rcases h.kind with hkind | hkind
  · rw [hkind]
    rfl
  · rw [hkind]
    rfl

theorem sensorActionApplied_accounted {request : SensorSelectionCommandRequest}
    {plausibility : CrossRolePlausibilityContext}
    (h : SensorActionApplied current request plausibility decision) :
    CommandAccounted current decision := by
  obtain ⟨after, hafter, hbooked⟩ := h.applied
  refine .undisturbed ?_ ?_
  · rw [h.kind]
    rfl
  · exact undisturbed_applySensorSelectionMutation.trans
      ((undisturbed_resetChangedSensorRole hafter).trans (undisturbed_booked hbooked))

/-- The run is adjusted where it stands. -/
theorem runAdjusted_kept {run adjusted : ActiveRun} {process : ProcessRunSnapshot}
    {folded reevaluated : RunCommandState} {changed : Bool} {monotonicMillis : UInt64}
    (hrun : folded.activeProgramRun = some run)
    (hprocess : folded.processRunSnapshot.isSome = true)
    (h : (if changed && decide (folded.processState.state ≠ .fermenting) then
        applyTransition { folded with
            activeProgramRun := some adjusted
            processRunSnapshot := some process } .targetChanged monotonicMillis
          (some process)
      else some { folded with
        activeProgramRun := some adjusted
        processRunSnapshot := some process }) = some reevaluated) :
    Undisturbed folded reevaluated := by
  have hadjusted : Undisturbed folded { folded with
      activeProgramRun := some adjusted
      processRunSnapshot := some process } := by
    refine ⟨⟨rfl, ?_, hprocess.symm⟩, fun _ => rfl⟩
    rw [RunCommandState.hasActiveRun, RunCommandState.hasActiveRun, hrun]
    rfl
  split at h
  · rename_i hchanged
    obtain ⟨processState, -, -, rfl⟩ := applyTransition_eq_some.mp h
    refine hadjusted.trans (.withProcessState fun hfermenting => ?_)
    rw [Bool.and_eq_true, decide_eq_true_eq] at hchanged
    exact absurd hfermenting hchanged.2
  · cases h
    exact hadjusted

theorem runAdjusted_accounted {request : RunAdjustmentCommandRequest}
    (h : RunAdjusted current request decision) : CommandAccounted current decision := by
  have hends : endingKind decision.kind = false := by
    rw [h.kind]
    rfl
  have hprocess := h.process
  obtain ⟨run, runDecision, folded, adjusted, effect, process, reevaluated, hrun, -, hfolded,
    -, -, hreevaluated, hbooked⟩ := h.adjusted
  have hrevised := undisturbed_booked hbooked
  have hafter : Undisturbed (if restartsTimer current runDecision then
      restartFermentationTimer reevaluated request.envelope.monotonicMillis
    else reevaluated) decision.after :=
    ⟨⟨hrevised.observed, hrevised.active, hrevised.process⟩, hrevised.phase⟩
  cases hrestarts : restartsTimer current runDecision with
  | false =>
      rw [hrestarts] at hfolded
      rw [hrestarts, if_neg Bool.false_ne_true] at hafter
      cases hfolded
      exact .undisturbed hends
        ((runAdjusted_kept hrun hprocess hreevaluated).trans hafter)
  | true =>
      rw [hrestarts] at hfolded
      rw [hrestarts, if_pos rfl] at hafter
      obtain ⟨hobserved, progress, rfl⟩ := foldFermentation_eq_some hfolded
      have hfermenting : current.processState.state = .fermenting := by
        rw [restartsTimer, Bool.and_eq_true, decide_eq_true_eq] at hrestarts
        exact hrestarts.1
      have hkept : Undisturbed { current with runProgress := progress } reevaluated :=
        runAdjusted_kept hrun hprocess hreevaluated
      have hmoved : reevaluated.processState = current.processState :=
        hkept.phase hfermenting
      -- The segment is closed on the restarted timer, which already is the new phase.
      have hclosed := (@undisturbed_closeWeightedSegment { reevaluated with
        processState := { reevaluated.processState with
          stateEnteredAtMillis := request.envelope.monotonicMillis }
        priorBootPhaseElapsed := some ⟨.fermenting, ⟨0, some 0⟩⟩
        nominalRecoveryAdjustment := none
        pendingRecoveryAnchor := none
        recoveryBootAnchorMonotonicMillis := none }).trans hafter
      have hphase := hclosed.phase (by rw [← hfermenting, ← hmoved])
      refine .restarted hends ?_ ?_ ?_ ?_ ?_
      · rw [h.kind]
        rfl
      · rw [hclosed.active]
        refine hkept.active.trans ?_
        rw [RunCommandState.hasActiveRun, hrun]
        rfl
      · rw [hphase, ← hfermenting, ← hmoved]
      · rw [hphase, h.carries]
      · rw [hclosed.observed, h.carries]
        exact hkept.observed.trans hobserved

/-- Every accepted command is accounted for. -/
theorem accepted_accounted {request : CommandRequest}
    (hproposed : (request.decide current).proposed = true) :
    CommandAccounted current (request.decide current) := by
  have hrefused : ¬ Inert current (request.decide current) := by
    intro hinert
    rw [hinert.refused] at hproposed
    cases hproposed
  cases request with
  | startProgram request =>
      exact programStarted_accounted (decideProgramStart_cases.resolve_left hrefused)
  | startManualHolding request =>
      exact manualRunStarted_accounted (decideManualStart_cases.resolve_left hrefused)
  | stop request =>
      have hstopped := decideStop_cases.resolve_left hrefused
      exact runEnded_accounted hstopped.toRunEnded hstopped.kind
  | complete request =>
      have hcompleted := decideCompletion_cases.resolve_left hrefused
      exact runEnded_accounted hcompleted.toRunEnded hcompleted.kind
  | adjustRun request =>
      exact runAdjusted_accounted (decideRunAdjustment_cases.resolve_left hrefused)
  | applyRecoveryTimeCorrection request =>
      exact recoveryTimeCorrected_accounted
        (decideApplyRecoveryTimeCorrection_cases.resolve_left hrefused)
  | acknowledgeMessage request =>
      exact messageFlagged_accounted
        ((decideMessageFlag_cases (.inl rfl)).resolve_left hrefused)
  | muteMessage request =>
      exact messageFlagged_accounted
        ((decideMessageFlag_cases (.inr rfl)).resolve_left hrefused)
  | applySensorSelectionAction request plausibility =>
      exact sensorActionApplied_accounted
        (decideApplySensorSelectionAction_cases.resolve_left hrefused)

theorem endsRun_of_command {live : Option CrossRolePlausibilityContext}
    (h : operation.command = some (decision, live)) :
    operation.endsRun = endingKind decision.kind := by
  rw [RunOperation.endsRun, h]
  rfl

theorem not_activates_of_command {live : Option CrossRolePlausibilityContext}
    (h : operation.command = some (decision, live)) : operation.activates = false := by
  cases operation with
  | persistCommand => rfl
  | persistFreshStartCommand => rfl
  | persistBorrowedCommand => rfl
  | _ => cases h

/-- An operation that has carried out a command. -/
theorem accounted_of_command {live : Option CrossRolePlausibilityContext}
    (hcommand : operation.command = some (decision, live))
    (htime : operation.time.monotonicMillis = decision.envelope.monotonicMillis)
    (h : CommandAccounted current decision) (hsame : Undisturbed decision.after after) :
    Accounted operation coordinator current after := by
  have hkind := endsRun_of_command hcommand
  have hloaded : ¬ operation.activates = true := by
    rw [not_activates_of_command hcommand]
    decide
  cases h with
  | undisturbed hends hdecided =>
      exact .undisturbed (hkind.trans hends) (hdecided.trans hsame)
        fun hactivates => absurd hactivates hloaded
  | started hends hrecorded hstandby hactive hobserved =>
      refine .credited (hkind.trans hends) (hsame.active.trans hactive) ?_
      rw [dueSeconds_eq_zero (by rw [hstandby]; decide)]
      exact hsame.observed.trans hobserved
  | cleared hends hobserved hprocess =>
      refine .cleared (.inl (hkind.trans hends)) (hsame.observed.trans hobserved)
        fun hidle => ?_
      have hnone := hsame.process
      rw [hprocess (hsame.active.symm.trans hidle)] at hnone
      exact Option.not_isSome_iff_eq_none.mp (by rw [hnone]; exact Bool.false_ne_true)
  | restarted hends hrecorded hactive hfermenting hentered hobserved =>
      refine .credited (hkind.trans hends) (hsame.active.trans hactive) ?_
      rw [hsame.observed, hobserved, RunOperation.dueSeconds, if_neg hloaded, htime]
      split
      · rfl
      · rename_i hstays
        rw [leavesFermentation, hsame.phase hfermenting, hentered] at hstays
        rw [not_or, not_not, not_not] at hstays
        rw [RunCommandState.fermentedSeconds, hstays.2]
        simp

end

/-! ## Transitions -/

theorem transitioned_eq_some {current moved : RunCommandState}
    {decision : TransitionDecision} (h : transitioned current decision = some moved) :
    ∃ process processState, current.processRunSnapshot = some process ∧
      applyProcessTransition current.processState decision (some process) =
        some processState ∧
      moved = { current with processState } := by
  simp only [transitioned, Option.bind_eq_bind, Option.bind_eq_some_iff, Option.pure_def,
    Option.some.injEq] at h
  obtain ⟨process, hprocess, processState, happlied, rfl⟩ := h
  exact ⟨process, processState, hprocess, happlied, rfl⟩

/-- No transition starts a fermentation over. -/
theorem leaves_of_proposed {decision : TransitionDecision}
    (htopology : validProposedTopology decision = true)
    (hfermenting : decision.before.state = .fermenting) :
    decision.after.state ≠ .fermenting := by
  intro hstays
  rw [validProposedTopology, hfermenting, hstays] at htopology
  cases hreason : decision.reason with
  | criticalFault =>
      rw [hreason] at htopology
      cases htopology
  | _ =>
      rw [hreason] at htopology
      cases htopology

section

variable {current : RunCommandState} {coordinator : RunPersistenceCoordinator}
variable {live : Option CrossRolePlausibilityContext}

theorem foldTransition_eq_ok {decision : TransitionDecision} {delta : UInt32}
    {folded : RunCommandState}
    (h : coordinator.foldTransition current decision = .ok (delta, folded)) :
    (foldsObservedFermentingTime current decision = true ∧
        delta.toNat = current.fermentedSeconds decision.monotonicMillis ∧
        foldObservedRunSeconds current delta.toUInt64 = some folded) ∨
      foldsObservedFermentingTime current decision = false ∧ folded = current := by
  rw [foldTransition] at h
  split at h
  · rename_i hfolds
    simp only [bind_eq_ok, orFail_eq_ok] at h
    obtain ⟨found, hfound, state, hstate, hpair⟩ := h
    cases hpair
    exact .inl ⟨hfolds, (deriveFermentingSecondsDelta_eq_some hfound).2, hstate⟩
  · rename_i hkeeps
    cases h
    exact .inr ⟨Bool.not_eq_true _ ▸ hkeeps, rfl⟩

/-- What fits into the ledger still fits after the move. -/
theorem foldObservedRunSeconds_moved {folded : RunCommandState} {deltaSeconds : UInt64}
    {processState : ProcessRuntimeState}
    (h : foldObservedRunSeconds current deltaSeconds = some folded) :
    foldObservedRunSeconds { current with processState } deltaSeconds =
      some { folded with processState } := by
  rw [foldObservedRunSeconds] at h ⊢
  split at h
  · rename_i hroom
    cases h
    exact if_pos hroom
  · cases h

/-- A cleared run stays cleared under the readings of this boot. -/
theorem accounted_of_cleared {operation : RunOperation} {state after : RunCommandState}
    (hsame : SameLedger (clearActiveRunState state) after) :
    Accounted operation coordinator current after := by
  refine .cleared (.inr hsame.active) hsame.observed fun _ => ?_
  exact Option.not_isSome_iff_eq_none.mp (by rw [hsame.process]; exact Bool.false_ne_true)

/-- The live state after a transition that has been written. -/
theorem finishTransition_current {decision : TransitionDecision} {delta : UInt32}
    {moved folded : RunCommandState} {after : RunPersistenceCoordinator}
    {persisted : RunPersistenceResult} (hmoved : transitioned current decision = some moved)
    (hfolded : (if foldsObservedFermentingTime current decision then
        foldObservedRunSeconds moved delta.toUInt64
      else some moved) = some folded) :
    (finishTransition current decision delta live after persisted).current =
      withLiveEvidence (clearExpiredWait folded decision.reason) live := by
  rw [finishTransition, hmoved]
  simp only
  rw [hfolded]

theorem accounted_persistTransition {decision : TransitionDecision}
    {time : RunCheckpointTime} {planned : PlannedWrite}
    {after : RunPersistenceCoordinator} {persisted : RunPersistenceResult}
    (hidle : current.IdleCleared)
    (h : coordinator.planTransition current decision time live = .ok planned) :
    Accounted (.persistTransition decision time live) coordinator current
      (planned.finish after persisted).current := by
  obtain ⟨delta, folded, -, -, -, -, -, htime, hfold, -, -, rfl⟩ :=
    planTransition_eq_ok h
  cases hmoved : transitioned current decision with
  | none =>
      refine .kept ?_
      show (finishTransition current decision delta live after persisted).current = _
      rw [finishTransition, hmoved]
      rfl
  | some moved =>
      obtain ⟨process, processState, hprocess, happlied, rfl⟩ :=
        transitioned_eq_some hmoved
      obtain ⟨-, hbefore, rfl, -, htopology, -⟩ := applyProcessTransition_eq_some happlied
      have hactive := hidle.active hprocess
      rcases foldTransition_eq_ok hfold with ⟨hfolds, hdelta, hfolded⟩ | ⟨hkeeps, -⟩
      · rw [finishTransition_current hmoved
          (by rw [if_pos hfolds, foldObservedRunSeconds_moved hfolded])]
        rw [clearExpiredWait]
        split
        · exact accounted_of_cleared undisturbed_withLiveEvidence.toSameLedger
        · obtain ⟨hobserved, progress, rfl⟩ := foldObservedRunSeconds_eq_some hfolded
          have hsame := @undisturbed_withLiveEvidence { current with
            runProgress := progress
            processState := decision.after } live
          refine .credited rfl (hsame.active.trans hactive) ?_
          rw [foldsObservedFermentingTime, decide_eq_true_eq] at hfolds
          have hleft : leavesFermentation current (withLiveEvidence { current with
              runProgress := progress
              processState := decision.after } live) := by
            refine .inl ?_
            rw [withLiveEvidence_processState]
            exact hfolds.2
          rw [dueSeconds_of_left rfl hleft]
          show _ = _ + current.fermentedSeconds time.monotonicMillis
          rw [htime, ← hdelta]
          exact hsame.observed.trans hobserved
      · rw [finishTransition_current hmoved (by rw [hkeeps, if_neg Bool.false_ne_true])]
        rw [clearExpiredWait]
        split
        · exact accounted_of_cleared undisturbed_withLiveEvidence.toSameLedger
        · refine .undisturbed rfl (.trans (.withProcessState fun hfermenting => ?_)
            undisturbed_withLiveEvidence) (by rintro ⟨⟩)
          rw [foldsObservedFermentingTime, decide_eq_false_iff_not, not_and, not_not]
            at hkeeps
          have hstays := hkeeps hfermenting
          rw [hbefore] at hfermenting
          exact absurd hstays (leaves_of_proposed htopology hfermenting)

end

end Fermentationsschrank

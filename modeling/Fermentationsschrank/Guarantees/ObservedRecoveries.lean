import Fermentationsschrank.Guarantees.ObservedLedger
import Fermentationsschrank.Recovery.OperationCalls

/-!
# The ledger under a recovery

A recovery credits what the boot before has recorded of a fermentation, or ends the run;
whatever else becomes of it, the observed time stays.  With this every operation is
accounted for.
-/

namespace Fermentationsschrank

open CommandDecision RunPersistenceCoordinator

/-! ## Recoveries -/

section

variable {state after : RunCommandState} {monotonicMillis : UInt64}

theorem SameLedger.undisturbed (h : SameLedger state after)
    (hphase : state.processState.state ≠ .fermenting) : Undisturbed state after :=
  ⟨h, fun hfermenting => absurd hfermenting hphase⟩

theorem sameLedger_transitioned {decision : TransitionDecision}
    (h : transitioned state decision = some after) : SameLedger state after := by
  obtain ⟨_, _, -, -, rfl⟩ := transitioned_eq_some h
  exact ⟨rfl, rfl, rfl⟩

theorem sameLedger_restartSensors {live : CrossRolePlausibilityContext}
    {permission : SensorPeltierPermission}
    (h : restartSensors state live = some (permission, after)) : SameLedger state after := by
  simp only [restartSensors, Option.bind_eq_bind, Option.bind_eq_some_iff, Option.pure_def,
    Option.some.injEq, Prod.mk.injEq] at h
  obtain ⟨selection, -, mode, -, -, rfl⟩ := h
  refine ⟨rfl, ?_, rfl⟩
  show (_ || (setManualSensorMode state.activeManualRun _).isSome) = _
  rw [setManualSensorMode_isSome]
  rfl

theorem sameLedger_resumePhase {recovered : ProcessRuntimeState}
    {prior : PriorBootPhaseElapsed}
    (h : resumePhase state recovered monotonicMillis prior = some after) :
    SameLedger state after := sameLedger_transitioned h

theorem sameLedger_closeResolvedAnchor : SameLedger state (closeResolvedAnchor state) := by
  rw [closeResolvedAnchor]
  split
  · exact ⟨rfl, rfl, rfl⟩
  · exact .refl state

/-- A rejected recovery leaves no run. -/
theorem clearRejectedRun_cleared :
    SameLedger (clearActiveRunState state) (clearRejectedRun state) := ⟨rfl, rfl, rfl⟩

/-- What a settled recovery leaves: the run of the evaluation, or none. -/
def Settled (state after : RunCommandState) : Prop :=
  SameLedger state after ∨ ∃ ended, SameLedger (clearActiveRunState ended) after

theorem settled_rejectWait {closeSegment : RunCommandState → RunCommandState}
    {resolved : WaitResolution}
    (h : rejectWait state monotonicMillis closeSegment = some resolved) :
    ∃ ended, SameLedger (clearActiveRunState ended) resolved.candidate := by
  simp only [rejectWait, Option.bind_eq_bind, Option.bind_eq_some_iff,
    Option.some.injEq] at h
  obtain ⟨rejected, -, rfl⟩ := h
  exact ⟨_, clearRejectedRun_cleared⟩

theorem sameLedger_resumeWait {context : RecoveryTimeContext}
    {live : CrossRolePlausibilityContext} {prior : Option PriorBootPhaseElapsed}
    (h : resumeWait state context monotonicMillis live prior = some after) :
    SameLedger state after := by
  simp only [resumeWait, Option.bind_eq_bind, Option.bind_eq_some_iff,
    Option.some.injEq] at h
  obtain ⟨accumulated, -, prior, -, anchor, -, resumed, hresumed, rfl⟩ := h
  refine (sameLedger_resumePhase hresumed).trans (.trans ?_ sameLedger_closeResolvedAnchor)
  refine .trans ?_ undisturbed_applyLiveRecoveryEvidence.toSameLedger
  exact ⟨rfl, rfl, rfl⟩

theorem settled_reevaluatedWait {context : RecoveryTimeContext}
    {verdict : RecoveryTimeVerdict} {live : Option CrossRolePlausibilityContext}
    {resolved : WaitResolution}
    (h : reevaluatedWait state context verdict monotonicMillis live = some resolved) :
    Settled state resolved.candidate := by
  rw [reevaluatedWait] at h
  split at h
  · simp only [Option.bind_eq_bind, Option.bind_eq_some_iff, Option.some.injEq] at h
    obtain ⟨ended, -, rfl⟩ := h
    exact .inr ⟨ended, .refl _⟩
  · simp only [Option.bind_eq_bind, Option.bind_eq_some_iff] at h
    obtain ⟨live, -, ⟨permission, selected⟩, hselected, h⟩ := h
    split at h
    · exact .inr (settled_rejectWait h)
    · simp only [Option.bind_eq_some_iff, Option.some.injEq] at h
      obtain ⟨candidate, hcandidate, rfl⟩ := h
      refine .inl (.trans ?_ (sameLedger_resumeWait hcandidate))
      refine .trans ?_ (sameLedger_restartSensors hselected)
      exact ⟨rfl, rfl, rfl⟩

theorem settled_assumeWaitValid {context : RecoveryTimeContext}
    {live : CrossRolePlausibilityContext} {resolved : WaitResolution}
    (h : assumeWaitValid state context monotonicMillis live = some resolved) :
    Settled state resolved.candidate := by
  simp only [assumeWaitValid, Option.bind_eq_bind, Option.bind_eq_some_iff] at h
  obtain ⟨⟨permission, selected⟩, hselected, h⟩ := h
  split at h
  · exact .inr (settled_rejectWait h)
  · simp only [Option.bind_eq_some_iff, Option.some.injEq] at h
    obtain ⟨candidate, hcandidate, rfl⟩ := h
    refine .inl (.trans ?_ (sameLedger_resumeWait hcandidate))
    refine .trans ?_ undisturbed_applyLiveRecoveryEvidence.toSameLedger
    refine .trans ?_ (sameLedger_restartSensors hselected)
    exact ⟨rfl, rfl, rfl⟩

theorem sameLedger_assumePhaseOver {phase : ProcessState} {resolved : WaitResolution}
    (h : assumePhaseOver state phase monotonicMillis = some resolved) :
    SameLedger state resolved.candidate := by
  simp only [assumePhaseOver, Option.bind_eq_bind, Option.bind_eq_some_iff,
    Option.some.injEq] at h
  obtain ⟨prior, -, upper, -, process, -, completed, hcompleted, rfl⟩ := h
  refine (sameLedger_transitioned hcompleted).trans ?_
  exact .trans undisturbed_closeWeightedSegment.toSameLedger ⟨rfl, rfl, rfl⟩

theorem settled_resolvedUncertainty {phase : ProcessState} {context : RecoveryTimeContext}
    {decision : RecoveryUncertaintyDecision} {live : CrossRolePlausibilityContext}
    {resolved : WaitResolution}
    (h : resolvedUncertainty state phase context decision monotonicMillis live =
      some resolved) : Settled state resolved.candidate := by
  rw [resolvedUncertainty.eq_def] at h
  split at h
  · exact settled_assumeWaitValid h
  · obtain ⟨ended, -, rfl⟩ := Option.map_eq_some_iff.mp h
    exact .inr ⟨ended, .refl _⟩
  · exact .inl (sameLedger_assumePhaseOver h)
  · exact .inl (sameLedger_assumePhaseOver h)
  · cases h

/-! ### The boot before -/

/-- The seconds a loaded fermentation has been recorded for. -/
theorem recordedSeconds {record : RunPersistenceRawRecord} {seconds : UInt64}
    {recorded : UInt32} (hfermenting : state.processState.state = .fermenting)
    (hseconds : secondsUntilCheckpoint record state.processState = some seconds)
    (hrecorded : checkedToUint32 seconds = some recorded) :
    recorded.toNat =
      state.fermentedSeconds record.snapshot.checkpointMonotonicMillis := by
  rw [secondsUntilCheckpoint] at hseconds
  split at hseconds
  · cases hseconds
  · rename_i hlater
    cases hseconds
    rw [UInt64.lt_iff_toNat_lt, not_lt, ← UInt64.le_iff_toNat_le] at hlater
    rw [checkedToUint32] at hrecorded
    split at hrecorded
    · rename_i hfits
      cases hrecorded
      rw [RunCommandState.fermentedSeconds, if_pos hfermenting, UInt64.toNat_toUInt32,
        @Nat.mod_eq_of_lt _ (2 ^ 32)
          (Nat.lt_succ_of_le (UInt64.le_iff_toNat_le.mp hfits)), UInt64.toNat_div, UInt64.toNat_sub_of_le _ _ hlater]
      rfl
    · cases hrecorded

theorem recordedHop {record : RunPersistenceRawRecord}
    {opened : PendingRecoveryAnchorConstruction}
    (hfermenting : state.processState.state = .fermenting)
    (h : makePendingRecoveryAnchor state record state.processState = some opened) :
    opened.thisHopAltBootLocalSeconds.toNat =
      state.fermentedSeconds record.snapshot.checkpointMonotonicMillis := by
  rw [makePendingRecoveryAnchor] at h
  split at h
  · cases h
  · simp only [Option.bind_eq_bind, Option.bind_eq_some_iff] at h
    obtain ⟨seconds, hseconds, recorded, hrecorded, h⟩ := h
    have hhop : opened.thisHopAltBootLocalSeconds = recorded := by
      split at h
      · simp only [Option.bind_eq_some_iff, Option.some.injEq] at h
        obtain ⟨_, -, rfl⟩ := h
        rfl
      · cases h
        rfl
    rw [hhop, recordedSeconds hfermenting hseconds hrecorded]

theorem sameLedger_evaluating {folded frozen evaluating : RunCommandState}
    {live : CrossRolePlausibilityContext} {decision : TransitionDecision}
    {evidence : Option RecoveryEpisodeEvidence}
    (h : transitioned (updateLastKnownEvidence frozen live) decision = some evaluating)
    (hprogress : frozen.runProgress = match evidence with
      | some evidence => supersedeUnbookedWeightedSegment folded.runProgress
          evidence.weightedProgressSegmentId
      | none => folded.runProgress)
    (hactive : frozen.hasActiveRun = folded.hasActiveRun)
    (hprocess : frozen.processRunSnapshot = folded.processRunSnapshot) :
    SameLedger folded (applyLiveRecoveryEvidence evaluating live) := by
  have hfrozen : SameLedger folded (updateLastKnownEvidence frozen live) := by
    refine ⟨?_, hactive, congrArg Option.isSome hprocess⟩
    show frozen.observedSeconds = folded.observedSeconds
    rw [RunCommandState.observedSeconds, hprogress]
    cases evidence with
    | none => rfl
    | some evidence => exact congrArg UInt32.toNat supersede_observed
  exact hfrozen.trans ((sameLedger_transitioned h).trans
    undisturbed_applyLiveRecoveryEvidence.toSameLedger)

/-- An opened episode has credited the fermentation it interrupts. -/
theorem openEpisode_credits {record : RunPersistenceRawRecord}
    {live : CrossRolePlausibilityContext}
    (h : openEpisode state record monotonicMillis live = some after) :
    after.observedSeconds = state.observedSeconds +
        state.fermentedSeconds record.snapshot.checkpointMonotonicMillis ∧
      after.hasActiveRun = state.hasActiveRun := by
  rw [openEpisode] at h
  split at h
  · cases h
  · obtain ⟨opened, hopened, h⟩ := Option.bind_eq_some_iff.mp h
    simp only at h
    split at h
    · rename_i hfermenting
      simp only [Option.bind_eq_bind, Option.bind_eq_some_iff, Option.some.injEq] at h
      obtain ⟨folded, hfolded, evaluating, hevaluating, rfl⟩ := h
      obtain ⟨hobserved, progress, rfl⟩ := foldObservedRunSeconds_eq_some hfolded
      have hsame := sameLedger_evaluating hevaluating rfl rfl rfl
      refine ⟨?_, hsame.active⟩
      rw [hsame.observed, hobserved, UInt32.toNat_toUInt64,
        recordedHop hfermenting hopened]
      rfl
    · rename_i hother
      simp only [Option.bind_eq_bind, Option.bind_eq_some_iff, Option.some.injEq] at h
      obtain ⟨folded, rfl, evaluating, hevaluating, rfl⟩ := h
      have hsame := sameLedger_evaluating hevaluating rfl rfl rfl
      rw [fermentedSeconds_eq_zero hother]
      exact ⟨hsame.observed, hsame.active⟩

theorem settled_continueEpisode {original : ProcessRuntimeState}
    {context : RecoveryTimeContext} {live : CrossRolePlausibilityContext}
    {directive : RunPersistenceFallbackDirective}
    (h : continueEpisode original state context monotonicMillis live =
      some (after, directive)) : Settled state after := by
  simp only [continueEpisode, Option.bind_eq_bind, Option.bind_eq_some_iff] at h
  obtain ⟨⟨permission, selected⟩, hselected, h⟩ := h
  split at h
  · simp only [Option.bind_eq_some_iff, Option.some.injEq, Prod.mk.injEq] at h
    obtain ⟨rejected, -, rfl, -⟩ := h
    exact .inr ⟨_, clearRejectedRun_cleared⟩
  · simp only [Option.bind_eq_some_iff, Option.some.injEq, Prod.mk.injEq] at h
    obtain ⟨resumed, hresumed, rfl, -⟩ := h
    refine .inl ((sameLedger_restartSensors hselected).trans ?_)
    simp only [resumeEpisode, Option.bind_eq_bind, Option.bind_eq_some_iff] at hresumed
    obtain ⟨accumulated, -, prior, -, hresumed⟩ := hresumed
    split at hresumed
    · split at hresumed
      · cases hresumed
        exact .refl _
      · cases hresumed
    · rename_i moved hmoved
      cases hresumed
      refine (sameLedger_resumePhase hmoved).trans
        (.trans ?_ sameLedger_closeResolvedAnchor)
      refine .trans ?_ undisturbed_applyLiveRecoveryEvidence.toSameLedger
      exact ⟨rfl, rfl, rfl⟩

theorem settled_settleEpisode {original : ProcessRuntimeState} {time : RunCheckpointTime}
    {live : CrossRolePlausibilityContext} {directive : RunPersistenceFallbackDirective}
    (h : settleEpisode original state time live = some (after, directive)) :
    Settled state after := by
  simp only [settleEpisode, Option.bind_eq_bind, Option.bind_eq_some_iff] at h
  obtain ⟨anchor, -, bootAnchor, -, context, -, h⟩ := h
  split at h
  · simp only [Option.bind_eq_some_iff] at h
    obtain ⟨process, -, minutes, -, h⟩ := h
    split at h
    · simp only [Option.bind_eq_some_iff, Option.some.injEq, Prod.mk.injEq] at h
      obtain ⟨ended, -, rfl, -⟩ := h
      exact .inr ⟨_, .refl _⟩
    · cases h
      exact .inl (.refl _)
    · exact settled_continueEpisode h
  · exact settled_continueEpisode h

theorem observedSeconds_le : state.observedSeconds ≤ maxUInt32.toNat :=
  Nat.le_of_lt_succ state.runProgress.observedRunSeconds.toNat_lt

/-- What an activation leaves of the fermentation it has found: its recorded seconds are
credited, or the run has ended. -/
def Credits (record : RunPersistenceRawRecord) (before after : RunCommandState) : Prop :=
  (after.observedSeconds = before.observedSeconds +
      before.fermentedSeconds record.snapshot.checkpointMonotonicMillis ∧
    after.hasActiveRun = before.hasActiveRun) ∨
  ∃ ended, SameLedger (clearActiveRunState ended) after

theorem credits_continueFermenting {original : ProcessRuntimeState} {prior : UInt32}
    (h : continueFermenting state original prior monotonicMillis = some after) :
    SameLedger state after := by
  simp only [continueFermenting, Option.bind_eq_bind, Option.bind_eq_some_iff,
    Option.some.injEq] at h
  obtain ⟨evaluating, hevaluating, resumed, hresumed, rfl⟩ := h
  exact (sameLedger_transitioned hevaluating).trans
    ((sameLedger_resumePhase hresumed).trans ⟨rfl, rfl, rfl⟩)

theorem settled_completeFermenting {completion : Bool}
    (h : completeFermenting state monotonicMillis completion = some after) :
    Settled state after := by
  simp only [completeFermenting, Option.bind_eq_bind, Option.bind_eq_some_iff] at h
  obtain ⟨process, -, completed, hcompleted, h⟩ := h
  split at h
  · simp only [Option.bind_eq_some_iff, Option.some.injEq] at h
    obtain ⟨acknowledged, -, rfl⟩ := h
    exact .inr ⟨acknowledged, ⟨rfl, rfl, rfl⟩⟩
  · cases h
    exact .inl ((sameLedger_transitioned hcompleted).trans ⟨rfl, rfl, rfl⟩)

theorem credits_exactFermenting {record : RunPersistenceRawRecord}
    {time : RunCheckpointTime} {completion : Bool}
    (h : exactFermentingCandidate state record time completion = .ok after) :
    state.processRunSnapshot.isSome = true ∧
      state.observedSeconds +
          state.fermentedSeconds record.snapshot.checkpointMonotonicMillis ≤
        maxUInt32.toNat ∧
      Credits record state after := by
  simp only [exactFermentingCandidate, bind_eq_ok, orFail_eq_ok] at h
  obtain ⟨recovered, hrecovered, folded, hfolded, -, -, candidate, hcandidate, hafter⟩ := h
  cases hafter
  simp only [recoverFermentingTime, bind_eq_ok, require_eq_ok, orFail_eq_ok,
    decide_eq_true_eq] at hrecovered
  obtain ⟨_, ⟨hfermenting, -⟩, minutes, hminutes, _, -, _, -, _, -, seconds, hseconds, live,
    hlive, _, -, _, -, _, -, _, -, _, -, hrecovered⟩ := hrecovered
  cases hrecovered
  obtain ⟨process, hprocess, -⟩ := Option.bind_eq_some_iff.mp hminutes
  obtain ⟨hobserved, progress, rfl⟩ := foldObservedRunSeconds_eq_some hfolded
  rw [UInt32.toNat_toUInt64, recordedSeconds hfermenting hseconds hlive] at hobserved
  refine ⟨by rw [hprocess]; rfl, ?_, ?_⟩
  · rw [← hobserved]
    exact observedSeconds_le
  have hsettled : Settled { state with runProgress := progress } candidate := by
    split at hcandidate
    · exact .inl (credits_continueFermenting hcandidate)
    · exact settled_completeFermenting hcandidate
  rcases hsettled with hsame | ⟨ended, hended⟩
  · exact .inl ⟨hsame.observed.trans hobserved, hsame.active⟩
  · exact .inr ⟨ended, hended.trans ⟨rfl, rfl, rfl⟩⟩

end

section

variable {operation : RunOperation} {coordinator : RunPersistenceCoordinator}
variable {current after : RunCommandState} {planned : PlannedWrite}
variable {ended : RunPersistenceCoordinator} {persisted : RunPersistenceResult}

theorem not_endsRun_of_activates (h : operation.activates = true) :
    operation.endsRun = false := by
  cases operation with
  | activateLoadedRun => rfl
  | activateR1EligibleRun => rfl
  | evaluateCurrentFermentingRecovery => rfl
  | activateFallbackRecoveredRun => rfl
  | _ => cases h

theorem accounted_of_credits {record : RunPersistenceRawRecord}
    (hactivates : operation.activates = true)
    (hrecord : interruptedRecord coordinator current = some record)
    (hactive : current.hasActiveRun = true) (h : Credits record current after) :
    Accounted operation coordinator current after := by
  rcases h with ⟨hobserved, hsame⟩ | ⟨ended, hended⟩
  · refine .credited (not_endsRun_of_activates hactivates) (hsame.trans hactive) ?_
    rw [RunOperation.dueSeconds, if_pos hactivates, hrecord]
    exact hobserved
  · exact accounted_of_cleared hended

theorem accounted_of_settled (hends : operation.endsRun = false)
    (hphase : current.processState.state ≠ .fermenting) (h : Settled current after) :
    Accounted operation coordinator current after := by
  rcases h with hsame | ⟨ended, hended⟩
  · exact .undisturbed hends (hsame.undisturbed hphase) fun _ => hphase
  · exact accounted_of_cleared hended

theorem interruptedRecord_loaded {record : RunPersistenceRawRecord}
    (h : coordinator.loadedRecord = some record) :
    interruptedRecord coordinator current = some record := by
  rw [interruptedRecord, h]
  rfl

theorem accounted_activateLoadedRun {record : RunPersistenceRawRecord}
    {time : RunCheckpointTime} {live : CrossRolePlausibilityContext}
    (hidle : current.IdleCleared) (hrecord : coordinator.loadedRecord = some record)
    (h : coordinator.planActivation current record time live = .ok planned) :
    Accounted (.activateLoadedRun time live) coordinator current
      (planned.finish ended persisted).current := by
  obtain ⟨candidate, directive, write, hprocess, hcandidate, -, rfl⟩ :=
    planActivation_eq_ok h
  obtain ⟨process, hprocess⟩ := Option.isSome_iff_exists.mp hprocess
  split at hcandidate
  · rename_i hevaluating
    have hphase : current.processState.state ≠ .fermenting := by
      rw [hevaluating]
      decide
    refine accounted_of_settled rfl hphase (.inl ?_)
    obtain ⟨refreshed, hrefreshed, hpair⟩ := Option.map_eq_some_iff.mp hcandidate
    cases hpair
    rw [refreshEpisode] at hrefreshed
    split at hrefreshed
    · cases hrefreshed
      refine .trans ?_ undisturbed_applyLiveRecoveryEvidence.toSameLedger
      exact ⟨rfl, rfl, rfl⟩
    · cases hrefreshed
  · obtain ⟨opened, hopened, hsettled⟩ := Option.bind_eq_some_iff.mp hcandidate
    obtain ⟨hobserved, hactive⟩ := openEpisode_credits hopened
    apply accounted_of_credits rfl (interruptedRecord_loaded hrecord) (hidle.active hprocess)
    rcases settled_settleEpisode hsettled with hsame | hcleared
    · exact .inl ⟨hsame.observed.trans hobserved, hsame.active.trans hactive⟩
    · exact .inr hcleared

theorem accounted_activateR1EligibleRun {record : RunPersistenceRawRecord}
    {time : RunCheckpointTime} {live : Option CrossRolePlausibilityContext}
    (h : coordinator.planR1Activation current record time live = .ok planned) :
    Accounted (.activateR1EligibleRun time live) coordinator current
      (planned.finish ended persisted).current := by
  obtain ⟨readings, candidate, write, heligible, hstate, -, hcandidate, -, rfl⟩ :=
    planR1Activation_eq_ok h
  have hphase : current.processState.state ≠ .fermenting := by
    intro hfermenting
    rw [isR1ResumeEligible, ← hstate, hfermenting] at heligible
    split at heligible
    · cases heligible
    · cases heligible
  refine accounted_of_settled rfl hphase (.inl ?_)
  exact .trans (by exact ⟨rfl, rfl, rfl⟩) (sameLedger_restartSensors hcandidate)

theorem accounted_evaluateCurrent {record : RunPersistenceRawRecord}
    {time : RunCheckpointTime} (hidle : current.IdleCleared)
    (hrecord : coordinator.loadedRecord = some record)
    (h : coordinator.planExactFermenting current record time none {} .loadedActiveRun
      false = .ok planned) :
    Accounted (.evaluateCurrentFermentingRecovery time) coordinator current
      (planned.finish ended persisted).current := by
  obtain ⟨candidate, write, hcandidate, -, rfl⟩ := planExactFermenting_eq_ok h
  obtain ⟨hprocess, -, hcredits⟩ := credits_exactFermenting hcandidate
  obtain ⟨process, hprocess⟩ := Option.isSome_iff_exists.mp hprocess
  exact accounted_of_credits rfl (interruptedRecord_loaded hrecord)
    (hidle.active hprocess) hcredits

/-- A write is accounted for by its final step. -/
theorem accounts_performWrite {start : RunPersistenceCoordinator}
    {plan : Except RunPersistenceResult PlannedWrite}
    (hplans : ∀ planned ended persisted, plan = .ok planned →
      Accounted operation coordinator current (planned.finish ended persisted).current) :
    (start.performWrite current plan).Yields fun outcome =>
      Accounted operation coordinator current outcome.current := by
  cases plan with
  | error refused => exact .kept rfl
  | ok planned =>
      refine Program.yields_bind.mpr (Program.yields_of_forall (fun ended => ?_) _)
      show Accounted operation coordinator current (planned.settle current ended).current
      rw [PlannedWrite.settle]
      split
      · exact hplans planned _ _ rfl
      · exact .kept rfl

/-! ### The fallback -/

/-- The offered fallback, where one is offered. -/
theorem interruptedRecord_offered {head : RunPersistenceHead}
    {reference : RunCheckpointReference} {offered : RunPersistenceRawRecord}
    (hpending : coordinator.state = .fallbackRecoveryPending)
    (hhead : coordinator.currentHead = some head) (hfallback : head.fallback = some reference)
    (hoffered : coordinator.offeredFallback head reference current = some offered) :
    interruptedRecord coordinator current =
      decodeRunPersistenceRecord offered.bytes coordinator.epoch := by
  have hunloaded : coordinator.loadedRecord = none := by
    rw [loadedRecord, hpending]
    rfl
  rw [interruptedRecord, hunloaded, hhead]
  simp only [Option.none_or, Option.bind_eq_bind, Option.bind_some]
  rw [hfallback, Option.bind_some, hoffered, Option.bind_some]

theorem accounted_planFallback {head : RunPersistenceHead}
    {reference : RunCheckpointReference} {record : RunPersistenceRawRecord}
    {time : RunCheckpointTime} {live : CrossRolePlausibilityContext}
    (hidle : current.IdleCleared)
    (hrecord : interruptedRecord coordinator current = some record)
    (h : coordinator.planFallback current head reference record time live = .ok planned) :
    Accounted (.activateFallbackRecoveredRun time live) coordinator current
      (planned.finish ended persisted).current := by
  rw [planFallback] at h
  split at h
  · simp only [bind_eq_ok] at h
    obtain ⟨-, -, -, -, hplan⟩ := h
    obtain ⟨candidate, write, hcandidate, -, rfl⟩ := planExactFermenting_eq_ok hplan
    obtain ⟨hprocess, -, hcredits⟩ := credits_exactFermenting hcandidate
    obtain ⟨process, hprocess⟩ := Option.isSome_iff_exists.mp hprocess
    exact accounted_of_credits rfl hrecord (hidle.active hprocess) hcredits
  · rename_i hphase
    simp only [bind_eq_ok] at h
    obtain ⟨-, -, write, -, hplanned⟩ := h
    cases hplanned
    exact accounted_of_settled rfl hphase
      (.inl undisturbed_applyLiveRecoveryEvidence.toSameLedger)

theorem accounted_activateFallback {time : RunCheckpointTime}
    {live : CrossRolePlausibilityContext} (hidle : current.IdleCleared) :
    (coordinator.activateFallbackRecoveredRun current time live).Yields fun outcome =>
      Accounted (.activateFallbackRecoveredRun time live) coordinator current
        outcome.current := by
  rw [activateFallbackRecoveredRun, unlessBorrowed]
  split
  · exact .kept rfl
  split
  · exact .kept rfl
  · rename_i head reference hoffer
    obtain ⟨found, hfound, hoffered⟩ := Option.bind_eq_some_iff.mp hoffer
    split at hoffered
    · rename_i hpending
      obtain ⟨reference', hreference, hpair⟩ := Option.map_eq_some_iff.mp hoffered
      cases hpair
      split
      · exact .kept rfl
      · rename_i offered hoffered
        refine Program.yields_bind.mpr (only_readOffered (Accounted.kept rfl)
          fun record hrecord => ?_).yields
        refine accounts_performWrite fun planned ended persisted hplan => ?_
        refine accounted_planFallback hidle ?_ hplan
        rw [interruptedRecord_offered hpending hfound hreference hoffered, hrecord]
    · cases hoffered

/-! ### The other operations -/

theorem accounted_persistSensorSelection {mutation : SensorSelectionStateMutation}
    {time : RunCheckpointTime} {live : Option CrossRolePlausibilityContext}
    (h : coordinator.planSensorSelection current mutation time live = .ok planned) :
    Accounted (.persistSensorSelection mutation time live) coordinator current
      (planned.finish ended persisted).current := by
  obtain ⟨selection, candidate, snapshot, -, -, -, -, -, -, -, -, -, hcandidate, -, rfl⟩ :=
    planSensorSelection_eq_ok h
  refine .undisturbed rfl ?_ fun h => nomatch h
  have hselected := @undisturbed_applySensorSelectionMutation current mutation
  have hreset := undisturbed_resetChangedSensorRole hcandidate
  exact (hselected.trans (.withProcessState hreset.phase)).trans
    undisturbed_withLiveEvidence

theorem undisturbed_recovered {candidate : RunCommandState}
    (h : RecoveredFrom current candidate) : Undisturbed current candidate := by
  rcases h with ⟨time, h⟩ | ⟨runRevision, episodeRevision, segment, input, model, h⟩
  · simp only [reevaluatedCandidate, bind_eq_ok] at h
    obtain ⟨_, -, _, -, _, -, _, -, _, -, _, -, _, -, _, -, h⟩ := h
    cases h
    split
    · exact ⟨⟨rfl, rfl, rfl⟩, fun _ => rfl⟩
    · exact ⟨⟨rfl, rfl, rfl⟩, fun _ => rfl⟩
  · simp only [weightedCandidate, bind_eq_ok] at h
    obtain ⟨_, -, _, -, _, -, _, -, _, -, _, -, _, -, _, -, h⟩ := h
    cases h
    exact ⟨⟨rfl, rfl, rfl⟩, fun _ => rfl⟩

theorem accounted_persistRecoveryCandidate {candidate : RunCommandState}
    {time : RunCheckpointTime} {directive : RunPersistenceFallbackDirective}
    (hdecided : RecoveredFrom current candidate)
    (h : coordinator.planRecoveryCandidate current candidate time directive = .ok planned) :
    Accounted (.persistRecoveryCandidate candidate time directive) coordinator current
      (planned.finish ended persisted).current := by
  obtain ⟨snapshot, -, -, -, -, rfl⟩ := planRecoveryCandidate_eq_ok h
  exact .undisturbed rfl (undisturbed_recovered hdecided) fun h => nomatch h

theorem accounted_discardAsNoActiveRun {time : RunCheckpointTime}
    (h : coordinator.planDiscard current time = .ok planned) :
    Accounted (.discardAsNoActiveRun time) coordinator current
      (planned.finish ended persisted).current := by
  obtain ⟨candidate, snapshot, -, -, -, hcandidate, -, rfl⟩ := planDiscard_eq_ok h
  simp only [discardCandidate, Option.bind_eq_bind, Option.bind_eq_some_iff,
    Option.pure_def, Option.some.injEq] at hcandidate
  obtain ⟨processState, -, rfl⟩ := hcandidate
  exact @accounted_of_cleared _ _ _ { current with processState } _ ⟨rfl, rfl, rfl⟩

theorem openWait_evaluating {time : RunCheckpointTime}
    {wait : RecoveryTimeContext × UInt32} (h : openWait current time = some wait) :
    current.processState.state = .recoveryEvaluation := by
  simp only [openWait, Option.bind_eq_bind, Option.bind_eq_some_iff] at h
  obtain ⟨_, -, _, -, _, -, _, -, h⟩ := h
  split at h
  · cases h
  · rename_i hopen
    rw [not_or, not_not] at hopen
    exact hopen.1

theorem accounted_reevaluateRecoveryEvaluation {time : RunCheckpointTime}
    {live : Option CrossRolePlausibilityContext}
    (h : coordinator.planReevaluation current time live = .ok planned) :
    Accounted (.reevaluateRecoveryEvaluation time live) coordinator current
      (planned.finish ended persisted).current := by
  obtain ⟨context, limit, resolved, base, -, hopen, -, hresolved, hbase, rfl⟩ :=
    planReevaluation_eq_ok h
  obtain ⟨snapshot, -, -, -, -, rfl⟩ := planRecoveryCandidate_eq_ok hbase
  have hphase : current.processState.state ≠ .fermenting := by
    rw [openWait_evaluating hopen]
    decide
  refine accounted_of_settled rfl hphase ?_
  rcases settled_reevaluatedWait hresolved with hsame | ⟨state, hcleared⟩
  · exact .inl (hsame.trans ⟨rfl, rfl, rfl⟩)
  · exact .inr ⟨state, hcleared.trans ⟨rfl, rfl, rfl⟩⟩

/-- The user takes a live fermentation as over whose time is uncertain. -/
def RunOperation.AssumesFermentationOver (operation : RunOperation)
    (current : RunCommandState) : Prop :=
  current.processState.state = .fermenting ∧
    ∃ request time live, operation = .resolveRecoveryOutcome request time live ∧
      request.decision = .assumeThresholdCrossed

/-- A fermentation cannot be taken as still valid, only as over. -/
theorem fermenting_resolution {phase : ProcessState} {context : RecoveryTimeContext}
    {limit : UInt32} {time : RunCheckpointTime} {decision : RecoveryUncertaintyDecision}
    {live : CrossRolePlausibilityContext} {resolved : WaitResolution}
    (hfermenting : current.processState.state = .fermenting)
    (hphase : uncertainPhase current time = some (phase, context, limit))
    (hresolved : resolvedUncertainty current phase context decision time.monotonicMillis
      live = some resolved) : decision = .assumeThresholdCrossed := by
  rw [uncertainPhase, hfermenting] at hphase
  simp only [Option.bind_eq_bind, Option.bind_eq_some_iff, Option.some.injEq,
    Prod.mk.injEq] at hphase
  obtain ⟨_, -, _, -, _, -, rfl, -⟩ := hphase
  cases decision with
  | assumeStillValid => cases hresolved
  | assumeThresholdCrossed => rfl

theorem accounted_resolveRecoveryOutcome {request : ResolveRecoveryUncertaintyRequest}
    {time : RunCheckpointTime} {live : CrossRolePlausibilityContext}
    (hover : ¬ RunOperation.AssumesFermentationOver
      (.resolveRecoveryOutcome request time live) current)
    (h : coordinator.planResolution current request time live = .ok planned) :
    Accounted (.resolveRecoveryOutcome request time live) coordinator current
      (planned.finish ended persisted).current := by
  obtain ⟨phase, context, limit, resolved, snapshot, -, -, -, -, -, hphase, hresolved, -,
    rfl⟩ := planResolution_eq_ok h
  have hother : current.processState.state ≠ .fermenting := fun hfermenting =>
    hover ⟨hfermenting, request, time, live, rfl,
      fermenting_resolution hfermenting hphase hresolved⟩
  exact accounted_of_settled rfl hother (settled_resolvedUncertainty hresolved)

/-! ### Every operation -/

theorem time_of_admitCommand {decision : CommandDecision} {time : RunCheckpointTime}
    {provenance : Option FreshStartSnapshotProvenance} {result : Unit}
    (h : coordinator.admitCommand decision time provenance = .ok result) :
    decision.proposed = true ∧
      time.monotonicMillis = decision.envelope.monotonicMillis := by
  simp only [admitCommand, bind_eq_ok, require_eq_ok, decide_eq_true_eq] at h
  obtain ⟨_, -, _, hproposed, _, -, _, -, _, htime, -⟩ := h
  exact ⟨hproposed, htime⟩

theorem accounted_of_planCommand {decision : CommandDecision} {guard : CommandApplyGuard}
    {live : Option CrossRolePlausibilityContext}
    {provenance : Option FreshStartSnapshotProvenance}
    (hcommand : operation.command = some (decision, live))
    (hdecided : ∃ request : CommandRequest, decision = request.decide current)
    (hadmitted : coordinator.admitCommand decision operation.time provenance = .ok ())
    (h : coordinator.planCommand current decision guard operation.time live provenance =
      .ok planned) :
    Accounted operation coordinator current (planned.finish ended persisted).current := by
  obtain ⟨snapshot, happlied, -, -, rfl⟩ := planCommand_eq_ok h
  obtain ⟨hproposed, htime⟩ := time_of_admitCommand hadmitted
  obtain ⟨request, rfl⟩ := hdecided
  show Accounted operation coordinator current (finishCommand current
    (request.decide current) guard live provenance ended persisted).current
  rw [finishCommand, if_neg (by rw [happlied]; decide)]
  exact accounted_of_command hcommand htime (accepted_accounted hproposed)
    undisturbed_commandApplied

theorem decided_of_command {decision : CommandDecision}
    {live : Option CrossRolePlausibilityContext} (hdecided : operation.DecidedOn current)
    (hcommand : operation.command = some (decision, live)) :
    ∃ request : CommandRequest, decision = request.decide current := by
  cases operation with
  | persistCommand =>
      cases hcommand
      exact hdecided
  | persistFreshStartCommand =>
      cases hcommand
      exact hdecided
  | persistBorrowedCommand =>
      cases hcommand
      exact hdecided
  | _ => cases hcommand

/-- A command that changes the live state alone. -/
theorem accounted_acted {decision : CommandDecision} {guard : CommandApplyGuard}
    {live : Option CrossRolePlausibilityContext}
    {provenance : Option FreshStartSnapshotProvenance}
    (hcommand : operation.command = some (decision, live))
    (hdecided : ∃ request : CommandRequest, decision = request.decide current)
    (hadmitted : coordinator.admitCommand decision operation.time provenance = .ok ())
    (happlied : applyRunCommand current decision guard = (.applied, after)) :
    Accounted operation coordinator current (withLiveEvidence after live) := by
  obtain ⟨hproposed, htime⟩ := time_of_admitCommand hadmitted
  obtain ⟨request, rfl⟩ := hdecided
  have hafter : after = (request.decide current).after := by
    rw [applyRunCommand, Prod.mk.injEq] at happlied
    rw [← happlied.2, if_pos happlied.1]
  subst hafter
  exact accounted_of_command hcommand htime (accepted_accounted hproposed)
    undisturbed_withLiveEvidence

theorem accounted_of_plans (hidle : current.IdleCleared)
    (hdecided : operation.DecidedOn current)
    (hover : ¬ operation.AssumesFermentationOver current)
    (hfallback : ∀ time live, operation ≠ .activateFallbackRecoveredRun time live)
    (h : operation.Plans coordinator current planned) :
    Accounted operation coordinator current (planned.finish ended persisted).current := by
  cases operation with
  | persistCommand decision time live =>
      exact accounted_of_planCommand rfl hdecided h.1 h.2
  | persistFreshStartCommand decision provenance time live =>
      exact accounted_of_planCommand rfl hdecided h.1 h.2
  | persistBorrowedCommand decision time live provenance =>
      exact accounted_of_planCommand rfl hdecided h.1 h.2
  | persistTransition decision time live => exact accounted_persistTransition hidle h
  | checkpointPeriodic time live =>
      obtain ⟨record, snapshot, -, -, -, -, -, rfl⟩ := planPeriodic_eq_ok h
      exact .kept rfl
  | persistSensorSelection mutation time live =>
      exact accounted_persistSensorSelection h
  | persistRecoveryCandidate candidate time directive =>
      exact accounted_persistRecoveryCandidate hdecided h
  | discardAsNoActiveRun time => exact accounted_discardAsNoActiveRun h
  | activateLoadedRun time live =>
      obtain ⟨record, hrecord, hplan⟩ := h
      exact accounted_activateLoadedRun hidle hrecord hplan
  | activateR1EligibleRun time live =>
      obtain ⟨record, -, hplan⟩ := h
      exact accounted_activateR1EligibleRun hplan
  | evaluateCurrentFermentingRecovery time =>
      obtain ⟨record, hrecord, hplan⟩ := h
      exact accounted_evaluateCurrent hidle hrecord hplan
  | activateFallbackRecoveredRun time live => exact absurd rfl (hfallback time live)
  | reevaluateRecoveryEvaluation time live =>
      exact accounted_reevaluateRecoveryEvaluation h
  | resolveRecoveryOutcome request time live =>
      exact accounted_resolveRecoveryOutcome hover h

/-- Every operation is accounted for, whatever the store replies. -/
theorem accounts_perform (operation : RunOperation) (hidle : current.IdleCleared)
    (hdecided : operation.DecidedOn current)
    (hover : ¬ operation.AssumesFermentationOver current) :
    (operation.perform coordinator current).Yields fun outcome =>
      Accounted operation coordinator current outcome.current := by
  by_cases hfallback : ∃ time live, operation = .activateFallbackRecoveredRun time live
  · obtain ⟨time, live, rfl⟩ := hfallback
    exact accounted_activateFallback hidle
  · refine (leavesLive_perform operation).mono fun outcome hends => ?_
    generalize outcome.current = left at hends
    cases hends with
    | kept => exact .kept rfl
    | acted hcommand hadmitted haction happlied =>
        exact accounted_acted hcommand (decided_of_command hdecided hcommand) hadmitted
          happlied
    | restored hcommand hloaded hcompleted =>
        have hphase : current.processState.state ≠ .fermenting := by
          rw [hcompleted]
          decide
        refine .undisturbed ?_ (.withProcessState fun h => absurd h hphase) fun _ => hphase
        rw [RunOperation.endsRun, hcommand]
        rfl
    | wrote hplans happlied =>
        refine accounted_of_plans hidle hdecided hover (fun time live h => ?_) hplans
        exact hfallback ⟨time, live, h⟩

end

end Fermentationsschrank

import Fermentationsschrank.Guarantees.ObservedRecoveries

/-!
# Segments of weighted progress

A recovery episode opens a segment, whose progress is booked at most once.  What an
operation can do to the segments of a run, to the live state and to the record it
writes alike.
-/

namespace Fermentationsschrank

open CommandDecision RunPersistenceCoordinator

/-! ## The segments of a run -/

structure SegmentView where
  active : Bool
  hasProcess : Bool
  booked : Option WeightedProgressState
  openSegment : Option UInt32
  episode : UInt32
  deriving DecidableEq, Repr

def RunCommandState.segments (state : RunCommandState) : SegmentView where
  active := state.hasActiveRun
  hasProcess := state.processRunSnapshot.isSome
  booked := state.runProgress.weightedProgress
  openSegment := state.lastRecoveryEpisodeEvidence.bind (·.weightedProgressSegmentId)
  episode := state.recoveryEpisodeRevision

/-- The booked progress once a segment has been superseded. -/
def supersededProgress (booked : Option WeightedProgressState) (segment : Option UInt32) :
    Option WeightedProgressState :=
  (supersedeUnbookedWeightedSegment { weightedProgress := booked } segment).weightedProgress

namespace SegmentView

def started (view : SegmentView) : SegmentView :=
  { view with active := true, hasProcess := true }

def closed (view : SegmentView) : SegmentView :=
  { view with
    booked := supersededProgress view.booked view.openSegment
    openSegment := none }

def refreshed (view : SegmentView) : SegmentView := { view with episode := view.episode + 1 }

def opened (view : SegmentView) : SegmentView :=
  { view.closed with
    openSegment := some (view.episode + 1)
    episode := view.episode + 1 }

def cleared (view : SegmentView) : SegmentView :=
  { view with
    active := false
    hasProcess := false
    booked := none
    openSegment := none }

end SegmentView

/-- What a step does to the segments of the run it goes on with. -/
inductive SegmentMove (view : SegmentView) : SegmentView → Prop
  | kept : SegmentMove view view
  | started (hidle : view.active = false) : SegmentMove view view.started
  | closed : SegmentMove view view.closed
  | refreshed (hroom : view.episode ≠ maxUInt32) : SegmentMove view view.refreshed
  | opened (hprocess : view.hasProcess = true) (hroom : view.episode ≠ maxUInt32) :
      SegmentMove view view.opened

/-- What a step makes of the segments.  A run that follows one that is stopped has none
of them. -/
inductive SegmentsMoved (endsRun : Bool) (before : RunCommandState) (after : SegmentView) :
    Prop
  | moved (hends : endsRun = false) (hmove : SegmentMove before.segments after)
  | ended (hends : endsRun = true ∨ after.active = false) (hbooked : after.booked = none)
      (hopen : after.openSegment = none) (hepisode : before.segments.episode ≤ after.episode)
      (hprocess : after.active = false → after.hasProcess = false)

theorem SegmentsMoved.of_eq {endsRun : Bool} {before : RunCommandState}
    {after : SegmentView} (hends : endsRun = false) (h : after = before.segments) :
    SegmentsMoved endsRun before after := by
  rw [h]
  exact .moved hends .kept

/-! ## Steps that keep the segments -/

section

variable {state after : RunCommandState}

theorem supersede_weighted {progress : RunProgressState} {segment : Option UInt32} :
    (supersedeUnbookedWeightedSegment progress segment).weightedProgress =
      supersededProgress progress.weightedProgress segment := by
  rw [supersededProgress, supersedeUnbookedWeightedSegment, supersedeUnbookedWeightedSegment]
  simp only
  split
  · rfl
  · rfl

theorem supersededProgress_none {booked : Option WeightedProgressState} :
    supersededProgress booked none = booked := by
  rw [supersededProgress, supersedeUnbookedWeightedSegment]
  simp

theorem segments_closeWeightedSegment :
    (closeWeightedSegment state).segments = state.segments.closed := by
  rw [closeWeightedSegment]
  cases hevidence : state.lastRecoveryEpisodeEvidence with
  | none =>
      rw [SegmentView.closed, RunCommandState.segments, hevidence]
      simp only [Option.bind_none]
      rw [supersededProgress_none]
  | some evidence =>
      rw [SegmentView.closed, RunCommandState.segments, RunCommandState.segments]
      simp only [hevidence, Option.bind_some, supersede_weighted]
      rfl

theorem segments_applyLiveRecoveryEvidence {live : CrossRolePlausibilityContext} :
    (applyLiveRecoveryEvidence state live).segments = state.segments := by
  rw [applyLiveRecoveryEvidence]
  split
  · rw [RunCommandState.segments, RunCommandState.segments]
    cases state.lastRecoveryEpisodeEvidence with
    | none => rfl
    | some evidence => rfl
  · rfl

theorem segments_withLiveEvidence {live : Option CrossRolePlausibilityContext} :
    (withLiveEvidence state live).segments = state.segments := by
  cases live with
  | none => rfl
  | some live => exact segments_applyLiveRecoveryEvidence

theorem segments_withFreshPlanner {kind : CommandKind}
    {provenance : Option FreshStartSnapshotProvenance} :
    (withFreshPlanner state kind provenance).segments = state.segments := by
  rw [withFreshPlanner]
  split <;> rfl

theorem segments_applySensorSelectionMutation {mutation : SensorSelectionStateMutation} :
    (applySensorSelectionMutation state mutation).segments = state.segments := by
  rw [RunCommandState.segments, applySensorSelectionMutation, RunCommandState.hasActiveRun]
  cases mutation.activeMode with
  | none => rfl
  | some mode =>
      simp only [setManualSensorMode_isSome]
      rfl

theorem segments_resetChangedSensorRole {before : RunCommandState}
    {mutation : SensorSelectionStateMutation} {monotonicMillis : UInt64}
    (h : resetChangedSensorRole before state mutation monotonicMillis = some after) :
    after.segments = state.segments := by
  rw [resetChangedSensorRole] at h
  split at h
  · rw [applySensorRoleChangeQualificationReset] at h
    split at h
    · cases h
      rfl
    · simp only at h
      split at h
      · obtain ⟨processState, -, rfl⟩ := Option.map_eq_some_iff.mp h
        rfl
      · cases h
  · cases h
    rfl

theorem segments_booked (h : Booked state after) : after.segments = state.segments := by
  obtain ⟨_, _, _, rfl⟩ := h
  rfl

theorem segments_transitioned {decision : TransitionDecision}
    (h : transitioned state decision = some after) : after.segments = state.segments := by
  obtain ⟨_, _, -, -, rfl⟩ := transitioned_eq_some h
  rfl

theorem segments_foldObservedRunSeconds {deltaSeconds : UInt64}
    (h : foldObservedRunSeconds state deltaSeconds = some after) :
    after.segments = state.segments := by
  rw [foldObservedRunSeconds] at h
  split at h
  · cases h
    rfl
  · cases h

theorem segments_restartSensors {live : CrossRolePlausibilityContext}
    {permission : SensorPeltierPermission}
    (h : restartSensors state live = some (permission, after)) :
    after.segments = state.segments := by
  simp only [restartSensors, Option.bind_eq_bind, Option.bind_eq_some_iff, Option.pure_def,
    Option.some.injEq, Prod.mk.injEq] at h
  obtain ⟨selection, -, mode, -, -, rfl⟩ := h
  rw [RunCommandState.segments, RunCommandState.segments, RunCommandState.hasActiveRun,
    RunCommandState.hasActiveRun]
  simp only [setManualSensorMode_isSome]

theorem segments_closeResolvedAnchor :
    (closeResolvedAnchor state).segments = state.segments := by
  rw [closeResolvedAnchor]
  split <;> rfl

theorem segments_clearActiveRunState :
    (clearActiveRunState state).segments = state.segments.cleared := rfl

theorem segments_clearRejectedRun :
    (clearRejectedRun state).segments = state.segments.cleared := rfl

end

/-! ## Commands -/

section

variable {current : RunCommandState} {decision : CommandDecision}

theorem moved_programStart {request : ProgramStartRequest}
    (h : ProgramStarted current request decision) :
    SegmentsMoved (endingKind decision.kind) current decision.after.segments := by
  have hidle := h.idle
  obtain ⟨resolution, run, process, started, -, -, -, hstarted, hbooked⟩ := h.installed
  obtain ⟨_, -, -, rfl⟩ := applyTransition_eq_some.mp hstarted
  rw [segments_booked hbooked, h.kind]
  exact .moved rfl (.started hidle)

theorem moved_manualStart {request : ManualStartRequest}
    (h : ManualRunStarted current request decision) :
    SegmentsMoved (endingKind decision.kind) current decision.after.segments := by
  obtain ⟨plan, installed, -, hinstalled, hbooked⟩ := h.installed
  obtain ⟨snapshot, started, -, hstarted, rfl⟩ := installManualRun_eq_some hinstalled
  obtain ⟨_, -, -, rfl⟩ := applyTransition_eq_some.mp hstarted
  rw [segments_booked hbooked, h.kind]
  exact .moved rfl (.started h.idle)

theorem segments_selectCoolingSensor {airSensorValid coolingSensorValid : Bool} :
    (selectCoolingSensor current airSensorValid coolingSensorValid).segments =
      current.segments := by
  rw [selectCoolingSensor]
  split
  · rfl
  · rfl

/-- The run that cools afterwards has no progress of the run that has ended. -/
theorem ended_runEnded {envelope : CommandEnvelope} {event : ProcessEvent}
    {snapshot : Option ProcessRunSnapshot} {airSensorValid coolingSensorValid : Bool}
    (h : RunEnded current envelope event snapshot airSensorValid coolingSensorValid decision)
    (hkind : endingKind decision.kind = true) :
    SegmentsMoved (endingKind decision.kind) current decision.after.segments := by
  obtain ⟨coolingPlan, ended, installed, -, htransition, hinstalled, hbooked⟩ := h.replaced
  obtain ⟨processState, -, -, rfl⟩ := applyTransition_eq_some.mp htransition
  rw [segments_booked hbooked, segments_selectCoolingSensor]
  cases coolingPlan with
  | none =>
      cases hinstalled
      exact .ended (.inl hkind) rfl rfl (UInt32.le_refl _) fun _ => rfl
  | some plan =>
      obtain ⟨process, started, -, hstarted, rfl⟩ := installManualRun_eq_some hinstalled
      obtain ⟨_, -, -, rfl⟩ := applyTransition_eq_some.mp hstarted
      exact .ended (.inl hkind) rfl rfl (UInt32.le_refl _) fun hidle => nomatch hidle

theorem moved_recoveryTimeCorrected {request : ApplyRecoveryTimeCorrectionRequest}
    (h : RecoveryTimeCorrected current request decision) :
    SegmentsMoved (endingKind decision.kind) current decision.after.segments := by
  obtain ⟨corrected, hbooked⟩ := h.corrected
  refine .of_eq ?_ ((segments_booked hbooked).trans rfl)
  rw [h.kind]
  rfl

theorem moved_messageFlagged {request : MessageCommandRequest}
    (h : MessageFlagged current request decision) :
    SegmentsMoved (endingKind decision.kind) current decision.after.segments := by
  obtain ⟨messages, hbooked⟩ := h.flagged
  refine .of_eq ?_ ((segments_booked hbooked).trans rfl)
  rcases h.kind with hkind | hkind
  · rw [hkind]
    rfl
  · rw [hkind]
    rfl

theorem moved_sensorActionApplied {request : SensorSelectionCommandRequest}
    {plausibility : CrossRolePlausibilityContext}
    (h : SensorActionApplied current request plausibility decision) :
    SegmentsMoved (endingKind decision.kind) current decision.after.segments := by
  obtain ⟨after, hafter, hbooked⟩ := h.applied
  refine .of_eq ?_ ?_
  · rw [h.kind]
    rfl
  · rw [segments_booked hbooked]
    exact (segments_resetChangedSensorRole hafter).trans
      segments_applySensorSelectionMutation

/-- An adjustment that restarts the timer gives its open segment up. -/
theorem moved_runAdjusted {request : RunAdjustmentCommandRequest}
    (h : RunAdjusted current request decision) :
    SegmentsMoved (endingKind decision.kind) current decision.after.segments := by
  have hkind := h.kind
  have hcurrent := h.process
  obtain ⟨run, runDecision, folded, adjusted, effect, process, reevaluated, hrun, -, hfolded,
    -, -, hreevaluated, hbooked⟩ := h.adjusted
  have hfold : folded.segments = current.segments := by
    split at hfolded
    · obtain ⟨delta, -, hfolds⟩ := Option.bind_eq_some_iff.mp hfolded
      exact segments_foldObservedRunSeconds hfolds
    · cases hfolded
      rfl
  have hactive : folded.hasActiveRun = true := by
    have hsame := congrArg SegmentView.active hfold
    refine hsame.trans ?_
    show current.hasActiveRun = true
    rw [RunCommandState.hasActiveRun, hrun]
    rfl
  have hadjusted : ({ folded with
      activeProgramRun := some adjusted
      processRunSnapshot := some process } : RunCommandState).segments =
        current.segments := by
    have hprocess : folded.processRunSnapshot.isSome = true :=
      (congrArg SegmentView.hasProcess hfold).trans hcurrent
    rw [← hfold, RunCommandState.segments, RunCommandState.segments, hactive, hprocess]
    rfl
  have hreevaluation : reevaluated.segments = current.segments := by
    split at hreevaluated
    · obtain ⟨processState, -, -, rfl⟩ := applyTransition_eq_some.mp hreevaluated
      exact hadjusted
    · cases hreevaluated
      exact hadjusted
  rw [segments_booked hbooked, hkind]
  refine .moved rfl ?_
  cases hrestarts : restartsTimer current runDecision with
  | false =>
      simp only [Bool.false_eq_true, if_false]
      show SegmentMove current.segments reevaluated.segments
      rw [hreevaluation]
      exact .kept
  | true =>
      simp only [if_true]
      show SegmentMove current.segments (closeWeightedSegment _).segments
      rw [segments_closeWeightedSegment]
      show SegmentMove current.segments reevaluated.segments.closed
      rw [hreevaluation]
      exact .closed

/-- What an accepted command does to the segments. -/
theorem moved_accepted {request : CommandRequest}
    (hproposed : (request.decide current).proposed = true) :
    SegmentsMoved (endingKind (request.decide current).kind) current
      (request.decide current).after.segments := by
  have hrefused : ¬ Inert current (request.decide current) := by
    intro hinert
    rw [hinert.refused] at hproposed
    cases hproposed
  cases request with
  | startProgram request =>
      exact moved_programStart (decideProgramStart_cases.resolve_left hrefused)
  | startManualHolding request =>
      exact moved_manualStart (decideManualStart_cases.resolve_left hrefused)
  | stop request =>
      have hstopped := decideStop_cases.resolve_left hrefused
      exact ended_runEnded hstopped.toRunEnded hstopped.kind
  | complete request =>
      have hcompleted := decideCompletion_cases.resolve_left hrefused
      exact ended_runEnded hcompleted.toRunEnded hcompleted.kind
  | adjustRun request =>
      exact moved_runAdjusted (decideRunAdjustment_cases.resolve_left hrefused)
  | applyRecoveryTimeCorrection request =>
      exact moved_recoveryTimeCorrected
        (decideApplyRecoveryTimeCorrection_cases.resolve_left hrefused)
  | acknowledgeMessage request =>
      exact moved_messageFlagged
        ((decideMessageFlag_cases (.inl rfl)).resolve_left hrefused)
  | muteMessage request =>
      exact moved_messageFlagged
        ((decideMessageFlag_cases (.inr rfl)).resolve_left hrefused)
  | applySensorSelectionAction request plausibility =>
      exact moved_sensorActionApplied
        (decideApplySensorSelectionAction_cases.resolve_left hrefused)

end

/-! ## Recoveries -/

section

variable {state after : RunCommandState} {monotonicMillis : UInt64}

/-- The segments of the run that goes on, or of none. -/
def KeepsSegments (state after : RunCommandState) : Prop :=
  after.segments = state.segments ∨ after.segments = state.segments.cleared

theorem KeepsSegments.of_eq {middle : RunCommandState} (h : KeepsSegments middle after)
    (hsame : middle.segments = state.segments) : KeepsSegments state after := by
  rw [KeepsSegments, ← hsame]
  exact h

theorem KeepsSegments.moved (h : KeepsSegments state after) :
    SegmentsMoved false state after.segments := by
  rcases h with h | h
  · exact .of_eq rfl h
  · rw [h]
    exact .ended (.inr rfl) rfl rfl (UInt32.le_refl _) fun _ => rfl

theorem UInt32.le_add_one_of_ne {value : UInt32} (h : value ≠ maxUInt32) :
    value ≤ value + 1 := by
  have hmaximum : maxUInt32.toNat = 4294967295 := rfl
  have hroom : value.toNat ≠ maxUInt32.toNat := fun heq => h (UInt32.toNat.inj heq)
  have hsize := value.toNat_lt
  rw [UInt32.le_iff_toNat_le, UInt32.toNat_add]
  have hone : (1 : UInt32).toNat = 1 := rfl
  omega

/-- A settled episode goes on with the segment it has opened. -/
theorem KeepsSegments.moved_opened {opened : RunCommandState}
    (h : KeepsSegments opened after) (hopened : opened.segments = state.segments.opened)
    (hprocess : state.segments.hasProcess = true)
    (hroom : state.segments.episode ≠ maxUInt32) :
    SegmentsMoved false state after.segments := by
  rcases h with h | h
  · rw [h, hopened]
    exact .moved rfl (.opened hprocess hroom)
  · rw [h, hopened]
    exact .ended (.inr rfl) rfl rfl (UInt32.le_add_one_of_ne hroom) fun _ => rfl

theorem keepsSegments_rejectWait {closeSegment : RunCommandState → RunCommandState}
    {resolved : WaitResolution}
    (hclose : ∀ state, (closeSegment state).segments.cleared = state.segments.cleared)
    (h : rejectWait state monotonicMillis closeSegment = some resolved) :
    KeepsSegments state resolved.candidate := by
  simp only [rejectWait, Option.bind_eq_bind, Option.bind_eq_some_iff,
    Option.some.injEq] at h
  obtain ⟨rejected, hrejected, rfl⟩ := h
  refine .inr ?_
  rw [segments_clearRejectedRun, hclose, segments_transitioned hrejected]

theorem segments_resumeWait {context : RecoveryTimeContext}
    {live : CrossRolePlausibilityContext} {prior : Option PriorBootPhaseElapsed}
    (h : resumeWait state context monotonicMillis live prior = some after) :
    after.segments = state.segments := by
  simp only [resumeWait, Option.bind_eq_bind, Option.bind_eq_some_iff,
    Option.some.injEq] at h
  obtain ⟨accumulated, -, prior, -, anchor, -, resumed, hresumed, rfl⟩ := h
  rw [segments_closeResolvedAnchor, segments_applyLiveRecoveryEvidence]
  have hmoved : resumed.segments = state.segments := segments_transitioned hresumed
  exact hmoved

theorem closed_cleared : (closeWeightedSegment state).segments.cleared =
    state.segments.cleared := by
  rw [segments_closeWeightedSegment]
  rfl

theorem keepsSegments_reevaluatedWait {context : RecoveryTimeContext}
    {verdict : RecoveryTimeVerdict} {live : Option CrossRolePlausibilityContext}
    {resolved : WaitResolution}
    (h : reevaluatedWait state context verdict monotonicMillis live = some resolved) :
    KeepsSegments state resolved.candidate := by
  rw [reevaluatedWait] at h
  split at h
  · simp only [Option.bind_eq_bind, Option.bind_eq_some_iff, Option.some.injEq] at h
    obtain ⟨ended, hended, rfl⟩ := h
    refine .inr ?_
    rw [segments_clearActiveRunState, segments_transitioned hended]
  · simp only [Option.bind_eq_bind, Option.bind_eq_some_iff] at h
    obtain ⟨live, -, ⟨permission, selected⟩, hselected, h⟩ := h
    have hsame := (segments_restartSensors hselected).trans
      (show (updateLastKnownEvidence state live).segments = state.segments from rfl)
    split at h
    · exact (keepsSegments_rejectWait (fun _ => closed_cleared) h).of_eq hsame
    · simp only [Option.bind_eq_some_iff, Option.some.injEq] at h
      obtain ⟨candidate, hcandidate, rfl⟩ := h
      exact .inl ((segments_resumeWait hcandidate).trans hsame)

theorem keepsSegments_assumeWaitValid {context : RecoveryTimeContext}
    {live : CrossRolePlausibilityContext} {resolved : WaitResolution}
    (h : assumeWaitValid state context monotonicMillis live = some resolved) :
    KeepsSegments state resolved.candidate := by
  simp only [assumeWaitValid, Option.bind_eq_bind, Option.bind_eq_some_iff] at h
  obtain ⟨⟨permission, selected⟩, hselected, h⟩ := h
  have hsame := segments_restartSensors hselected
  split at h
  · exact (keepsSegments_rejectWait (fun _ => rfl) h).of_eq hsame
  · simp only [Option.bind_eq_some_iff, Option.some.injEq] at h
    obtain ⟨candidate, hcandidate, rfl⟩ := h
    refine .inl ((segments_resumeWait hcandidate).trans ?_)
    rw [segments_applyLiveRecoveryEvidence, hsame]
    rfl

theorem moved_assumePhaseOver {phase : ProcessState} {resolved : WaitResolution}
    (h : assumePhaseOver state phase monotonicMillis = some resolved) :
    SegmentsMoved false state resolved.candidate.segments := by
  simp only [assumePhaseOver, Option.bind_eq_bind, Option.bind_eq_some_iff,
    Option.some.injEq] at h
  obtain ⟨prior, -, upper, -, process, -, completed, hcompleted, rfl⟩ := h
  show SegmentsMoved false state (closeWeightedSegment completed).segments
  rw [segments_closeWeightedSegment, segments_transitioned hcompleted]
  exact .moved rfl .closed

theorem moved_resolvedUncertainty {phase : ProcessState} {context : RecoveryTimeContext}
    {decision : RecoveryUncertaintyDecision} {live : CrossRolePlausibilityContext}
    {resolved : WaitResolution}
    (h : resolvedUncertainty state phase context decision monotonicMillis live =
      some resolved) : SegmentsMoved false state resolved.candidate.segments := by
  rw [resolvedUncertainty.eq_def] at h
  split at h
  · exact (keepsSegments_assumeWaitValid h).moved
  · obtain ⟨ended, hended, rfl⟩ := Option.map_eq_some_iff.mp h
    refine KeepsSegments.moved (.inr ?_)
    rw [segments_clearActiveRunState, segments_transitioned hended]
  · exact moved_assumePhaseOver h
  · exact moved_assumePhaseOver h
  · cases h

/-- The first hop freezes the segments with the new one open. -/
theorem segments_frozen {folded frozen evaluating : RunCommandState}
    {live : CrossRolePlausibilityContext} {decision : TransitionDecision}
    (h : transitioned (updateLastKnownEvidence frozen live) decision = some evaluating)
    (hfolded : folded.segments = state.segments)
    (hactive : frozen.hasActiveRun = folded.hasActiveRun)
    (hprocess : frozen.processRunSnapshot = folded.processRunSnapshot)
    (hprogress : frozen.runProgress = match state.lastRecoveryEpisodeEvidence with
      | some evidence => supersedeUnbookedWeightedSegment folded.runProgress
          evidence.weightedProgressSegmentId
      | none => folded.runProgress)
    (hopen : frozen.lastRecoveryEpisodeEvidence.bind (·.weightedProgressSegmentId) =
      some (state.recoveryEpisodeRevision + 1))
    (hepisode : frozen.recoveryEpisodeRevision = state.recoveryEpisodeRevision + 1) :
    (applyLiveRecoveryEvidence evaluating live).segments = state.segments.opened := by
  have hbooked : folded.runProgress.weightedProgress =
      state.runProgress.weightedProgress := congrArg SegmentView.booked hfolded
  rw [segments_applyLiveRecoveryEvidence, segments_transitioned h]
  show frozen.segments = _
  have hrunning : folded.hasActiveRun = state.hasActiveRun :=
    congrArg SegmentView.active hfolded
  have hsnapshot : folded.processRunSnapshot.isSome = state.processRunSnapshot.isSome :=
    congrArg SegmentView.hasProcess hfolded
  rw [RunCommandState.segments, hactive, hopen, hepisode, hprogress, hprocess, hrunning,
    hsnapshot]
  rw [SegmentView.opened, SegmentView.closed, RunCommandState.segments]
  cases state.lastRecoveryEpisodeEvidence with
  | none =>
      simp only [hbooked, Option.bind_none, supersededProgress_none]
  | some evidence =>
      simp only [supersede_weighted, hbooked, Option.bind_some]

theorem segments_openEpisode {record : RunPersistenceRawRecord}
    {live : CrossRolePlausibilityContext}
    (h : openEpisode state record monotonicMillis live = some after) :
    after.segments = state.segments.opened ∧ state.segments.episode ≠ maxUInt32 := by
  rw [openEpisode] at h
  split at h
  · cases h
  · rename_i hadmitted
    rw [Bool.or_eq_true, not_or, decide_eq_true_eq] at hadmitted
    refine ⟨?_, hadmitted.2⟩
    obtain ⟨opened, hopened, h⟩ := Option.bind_eq_some_iff.mp h
    simp only at h
    split at h
    · simp only [Option.bind_eq_bind, Option.bind_eq_some_iff, Option.some.injEq] at h
      obtain ⟨folded, hfolded, evaluating, hevaluating, rfl⟩ := h
      have hfold := segments_foldObservedRunSeconds hfolded
      exact segments_frozen hevaluating (hfold.trans rfl) rfl rfl rfl rfl rfl
    · simp only [Option.bind_eq_bind, Option.bind_eq_some_iff, Option.some.injEq] at h
      obtain ⟨folded, rfl, evaluating, hevaluating, rfl⟩ := h
      exact @segments_frozen state { state with pendingRecoveryAnchor := some opened.anchor }
        _ _ _ _ hevaluating rfl rfl rfl rfl rfl rfl

theorem keepsSegments_continueEpisode {original : ProcessRuntimeState}
    {context : RecoveryTimeContext} {live : CrossRolePlausibilityContext}
    {directive : RunPersistenceFallbackDirective}
    (h : continueEpisode original state context monotonicMillis live =
      some (after, directive)) : KeepsSegments state after := by
  simp only [continueEpisode, Option.bind_eq_bind, Option.bind_eq_some_iff] at h
  obtain ⟨⟨permission, selected⟩, hselected, h⟩ := h
  have hsame := segments_restartSensors hselected
  split at h
  · simp only [Option.bind_eq_some_iff, Option.some.injEq, Prod.mk.injEq] at h
    obtain ⟨rejected, hrejected, rfl, -⟩ := h
    refine .inr ?_
    rw [segments_clearRejectedRun, closed_cleared, segments_transitioned hrejected, hsame]
  · simp only [Option.bind_eq_some_iff, Option.some.injEq, Prod.mk.injEq] at h
    obtain ⟨resumed, hresumed, rfl, -⟩ := h
    refine .inl (Eq.trans ?_ hsame)
    simp only [resumeEpisode, Option.bind_eq_bind, Option.bind_eq_some_iff] at hresumed
    obtain ⟨accumulated, -, prior, -, hresumed⟩ := hresumed
    split at hresumed
    · split at hresumed
      · cases hresumed
        rfl
      · cases hresumed
    · rename_i moved hmoved
      cases hresumed
      rw [segments_closeResolvedAnchor, segments_applyLiveRecoveryEvidence]
      have hresume : moved.segments = selected.segments := segments_transitioned hmoved
      exact hresume

theorem keepsSegments_settleEpisode {original : ProcessRuntimeState}
    {time : RunCheckpointTime} {live : CrossRolePlausibilityContext}
    {directive : RunPersistenceFallbackDirective}
    (h : settleEpisode original state time live = some (after, directive)) :
    KeepsSegments state after := by
  simp only [settleEpisode, Option.bind_eq_bind, Option.bind_eq_some_iff] at h
  obtain ⟨anchor, -, bootAnchor, -, context, -, h⟩ := h
  split at h
  · simp only [Option.bind_eq_some_iff] at h
    obtain ⟨process, -, minutes, -, h⟩ := h
    split at h
    · simp only [Option.bind_eq_some_iff, Option.some.injEq, Prod.mk.injEq] at h
      obtain ⟨ended, hended, rfl, -⟩ := h
      refine .inr ?_
      rw [segments_clearActiveRunState, segments_applyLiveRecoveryEvidence,
        segments_transitioned hended]
    · cases h
      exact .inl rfl
    · exact keepsSegments_continueEpisode h
  · exact keepsSegments_continueEpisode h

theorem segments_continueFermenting {original : ProcessRuntimeState} {prior : UInt32}
    (h : continueFermenting state original prior monotonicMillis = some after) :
    after.segments = state.segments := by
  simp only [continueFermenting, Option.bind_eq_bind, Option.bind_eq_some_iff,
    Option.some.injEq] at h
  obtain ⟨evaluating, hevaluating, resumed, hresumed, rfl⟩ := h
  have hresume : resumed.segments = evaluating.segments := segments_transitioned hresumed
  exact hresume.trans (segments_transitioned hevaluating)

theorem keepsSegments_completeFermenting {completion : Bool}
    (h : completeFermenting state monotonicMillis completion = some after) :
    KeepsSegments state after := by
  simp only [completeFermenting, Option.bind_eq_bind, Option.bind_eq_some_iff] at h
  obtain ⟨process, -, completed, hcompleted, h⟩ := h
  have hsame := segments_transitioned hcompleted
  split at h
  · simp only [Option.bind_eq_some_iff, Option.some.injEq] at h
    obtain ⟨acknowledged, hacknowledged, rfl⟩ := h
    refine .inr ?_
    show acknowledged.segments.cleared = _
    rw [segments_transitioned hacknowledged, hsame]
  · cases h
    exact .inl hsame

theorem keepsSegments_exactFermenting {record : RunPersistenceRawRecord}
    {time : RunCheckpointTime} {completion : Bool}
    (h : exactFermentingCandidate state record time completion = .ok after) :
    KeepsSegments state after := by
  simp only [exactFermentingCandidate, bind_eq_ok, orFail_eq_ok] at h
  obtain ⟨recovered, -, folded, hfolded, -, -, candidate, hcandidate, hafter⟩ := h
  cases hafter
  have hfold := segments_foldObservedRunSeconds hfolded
  show KeepsSegments state candidate
  split at hcandidate
  · exact .inl ((segments_continueFermenting hcandidate).trans hfold)
  · exact (keepsSegments_completeFermenting hcandidate).of_eq hfold

end

/-! ## Operations -/

/-- The candidate a record was made of. -/
def RecordOf (snapshot : RunPersistenceSnapshot) (candidate : RunCommandState) : Prop :=
  ∃ ids trigger time intervalMinutes,
    makeRunPersistenceSnapshot candidate ids trigger time intervalMinutes = some snapshot

/-- What a planned write does to the segments, of the record and of the live state. -/
structure PlanMoves (endsRun : Bool) (current : RunCommandState) (planned : PlannedWrite) :
    Prop where
  finished : ∀ ended persisted,
    SegmentsMoved endsRun current (planned.finish ended persisted).current.segments
  recorded : ∃ candidate, RecordOf planned.write.snapshot candidate ∧
    SegmentsMoved endsRun current candidate.segments

section

variable {operation : RunOperation} {coordinator : RunPersistenceCoordinator}
variable {current candidate : RunCommandState} {planned : PlannedWrite}
variable {time : RunCheckpointTime} {live : Option CrossRolePlausibilityContext}

/-- The live state becomes what the record was made of. -/
theorem PlanMoves.of_candidate (hrecord : RecordOf planned.write.snapshot candidate)
    (hfinish : ∀ ended persisted,
      (planned.finish ended persisted).current.segments = candidate.segments)
    (h : SegmentsMoved false current candidate.segments) :
    PlanMoves false current planned where
  finished ended persisted := by
    rw [hfinish]
    exact h
  recorded := ⟨candidate, hrecord, h⟩

theorem recordOf_planRecovered {rollbackState : RunPersistenceCoordinatorState}
    {fallbackDirective : RunPersistenceFallbackDirective} {targetSlot : Option ℕ}
    {write : SnapshotWrite}
    (h : coordinator.planRecovered current candidate time rollbackState fallbackDirective
      targetSlot = .ok write) : RecordOf write.snapshot candidate := by
  obtain ⟨snapshot, hsnapshot, rfl⟩ := planRecovered_eq_ok.mp h
  exact ⟨_, _, _, _, hsnapshot⟩

theorem planMoves_command {decision : CommandDecision} {guard : CommandApplyGuard}
    {provenance : Option FreshStartSnapshotProvenance}
    (hdecided : ∃ request : CommandRequest, decision = request.decide current)
    (hadmitted : coordinator.admitCommand decision time provenance = .ok ())
    (h : coordinator.planCommand current decision guard time live provenance =
      .ok planned) : PlanMoves (endingKind decision.kind) current planned := by
  obtain ⟨snapshot, happlied, -, hsnapshot, rfl⟩ := planCommand_eq_ok h
  obtain ⟨hproposed, -⟩ := time_of_admitCommand hadmitted
  obtain ⟨request, rfl⟩ := hdecided
  have hmoved := moved_accepted hproposed
  refine ⟨fun ended persisted => ?_, _, ⟨_, _, _, _, hsnapshot⟩, ?_⟩
  · show SegmentsMoved _ current (finishCommand current (request.decide current) guard live
      provenance ended persisted).current.segments
    rw [finishCommand, if_neg (by rw [happlied]; decide)]
    show SegmentsMoved _ current
      (commandApplied (request.decide current) live provenance).segments
    rw [commandApplied, segments_withLiveEvidence, segments_withFreshPlanner]
    exact hmoved
  · rw [commandCandidate, segments_withFreshPlanner, segments_withLiveEvidence]
    exact hmoved

/-- What becomes of the segments where an expired wait leaves no run. -/
theorem moved_clearExpiredWait {moved : RunCommandState} {reason : TransitionReason}
    (h : moved.segments = current.segments) :
    KeepsSegments current (clearExpiredWait moved reason) := by
  rw [clearExpiredWait]
  split
  · refine .inr ?_
    rw [segments_clearActiveRunState, h]
  · exact .inl h

theorem segments_foldTransition {decision : TransitionDecision} {delta : UInt32}
    (h : coordinator.foldTransition current decision = .ok (delta, candidate)) :
    candidate.segments = current.segments := by
  rcases foldTransition_eq_ok h with ⟨-, -, hfolded⟩ | ⟨-, rfl⟩
  · exact segments_foldObservedRunSeconds hfolded
  · rfl

/-- A phase that ends closes its segment in the record, but not in the live state. -/
theorem planMoves_transition {decision : TransitionDecision}
    (h : coordinator.planTransition current decision time live = .ok planned) :
    PlanMoves false current planned := by
  obtain ⟨delta, folded, moved, snapshot, -, -, -, -, hfold, hmoved, hsnapshot, rfl⟩ :=
    planTransition_eq_ok h
  refine ⟨fun ended persisted => ?_, _, ⟨_, _, _, _, hsnapshot⟩, ?_⟩
  · show SegmentsMoved false current
      (finishTransition current decision delta live ended persisted).current.segments
    rw [finishTransition]
    cases htransitioned : transitioned current decision with
    | none => exact .of_eq rfl rfl
    | some applied =>
        have happlied := segments_transitioned htransitioned
        simp only
        split
        · exact .of_eq rfl happlied
        · rename_i refolded hrefolded
          have hsame : refolded.segments = current.segments := by
            split at hrefolded
            · exact (segments_foldObservedRunSeconds hrefolded).trans happlied
            · cases hrefolded
              exact happlied
          simp only [segments_withLiveEvidence]
          exact (moved_clearExpiredWait hsame).moved
  · have hsame := (segments_transitioned hmoved).trans (segments_foldTransition hfold)
    rw [transitionCandidate, segments_withLiveEvidence, closeSegmentOnPhaseChange]
    have hexpired := @moved_clearExpiredWait current moved decision.reason hsame
    split
    · rw [segments_closeWeightedSegment]
      rcases hexpired with hkept | hcleared
      · rw [hkept]
        exact .moved rfl .closed
      · rw [hcleared]
        exact .ended (.inr rfl) rfl rfl (UInt32.le_refl _) fun _ => rfl
    · exact hexpired.moved

theorem planMoves_sensorSelection {mutation : SensorSelectionStateMutation}
    (h : coordinator.planSensorSelection current mutation time live = .ok planned) :
    PlanMoves false current planned := by
  obtain ⟨selection, candidate, snapshot, -, -, -, -, -, -, -, -, -, hcandidate, hsnapshot,
    rfl⟩ := planSensorSelection_eq_ok h
  have hsame := (segments_resetChangedSensorRole hcandidate).trans
    segments_applySensorSelectionMutation
  refine ⟨fun ended persisted => ?_, _, ⟨_, _, _, _, hsnapshot⟩, ?_⟩
  · have hselected := @segments_applySensorSelectionMutation current mutation
    exact .of_eq rfl (segments_withLiveEvidence.trans hselected)
  · exact .of_eq rfl (segments_withLiveEvidence.trans hsame)

theorem planMoves_periodic
    (h : coordinator.planPeriodic current time live = .ok planned) :
    PlanMoves false current planned := by
  obtain ⟨record, snapshot, -, -, -, -, hsnapshot, rfl⟩ := planPeriodic_eq_ok h
  refine ⟨fun ended persisted => .of_eq rfl rfl, _, ⟨_, _, _, _, hsnapshot⟩, ?_⟩
  exact .of_eq rfl segments_withLiveEvidence

theorem planMoves_recoveryCandidate {directive : RunPersistenceFallbackDirective}
    (hmoved : SegmentsMoved false current candidate.segments)
    (h : coordinator.planRecoveryCandidate current candidate time directive = .ok planned) :
    PlanMoves false current planned := by
  obtain ⟨snapshot, -, -, -, hsnapshot, rfl⟩ := planRecoveryCandidate_eq_ok h
  exact .of_candidate ⟨_, _, _, _, hsnapshot⟩ (fun _ _ => rfl) hmoved

theorem planMoves_discard (h : coordinator.planDiscard current time = .ok planned) :
    PlanMoves false current planned := by
  obtain ⟨candidate, snapshot, -, -, -, hcandidate, hsnapshot, rfl⟩ := planDiscard_eq_ok h
  simp only [discardCandidate, Option.bind_eq_bind, Option.bind_eq_some_iff,
    Option.pure_def, Option.some.injEq] at hcandidate
  obtain ⟨processState, -, rfl⟩ := hcandidate
  refine .of_candidate ⟨_, _, _, _, hsnapshot⟩ (fun _ _ => rfl) ?_
  exact KeepsSegments.moved (.inr rfl)

theorem planMoves_activation {record : RunPersistenceRawRecord}
    {live : CrossRolePlausibilityContext}
    (h : coordinator.planActivation current record time live = .ok planned) :
    PlanMoves false current planned := by
  obtain ⟨candidate, directive, write, hprocess, hcandidate, hwrite, rfl⟩ :=
    planActivation_eq_ok h
  refine .of_candidate (recordOf_planRecovered hwrite) (fun _ _ => rfl) ?_
  split at hcandidate
  · obtain ⟨refreshed, hrefreshed, hpair⟩ := Option.map_eq_some_iff.mp hcandidate
    cases hpair
    rw [refreshEpisode] at hrefreshed
    split at hrefreshed
    · rename_i hadmitted
      cases hrefreshed
      rw [Bool.and_eq_true, decide_eq_true_eq] at hadmitted
      rw [segments_applyLiveRecoveryEvidence]
      exact .moved rfl (.refreshed hadmitted.2)
    · cases hrefreshed
  · obtain ⟨opened, hopened, hsettled⟩ := Option.bind_eq_some_iff.mp hcandidate
    obtain ⟨hsegments, hroom⟩ := segments_openEpisode hopened
    exact (keepsSegments_settleEpisode hsettled).moved_opened hsegments hprocess hroom

theorem planMoves_r1Activation {record : RunPersistenceRawRecord}
    (h : coordinator.planR1Activation current record time live = .ok planned) :
    PlanMoves false current planned := by
  obtain ⟨readings, candidate, write, -, -, -, hcandidate, hwrite, rfl⟩ :=
    planR1Activation_eq_ok h
  refine .of_candidate (recordOf_planRecovered hwrite) (fun _ _ => rfl) ?_
  exact .of_eq rfl ((segments_restartSensors hcandidate).trans rfl)

theorem planMoves_exactFermenting {record : RunPersistenceRawRecord}
    {targetSlot : Option ℕ} {directive : RunPersistenceFallbackDirective}
    {rollbackState : RunPersistenceCoordinatorState} {completion : Bool}
    (h : coordinator.planExactFermenting current record time targetSlot directive
      rollbackState completion = .ok planned) : PlanMoves false current planned := by
  obtain ⟨candidate, write, hcandidate, hwrite, rfl⟩ := planExactFermenting_eq_ok h
  exact .of_candidate (recordOf_planRecovered hwrite) (fun _ _ => rfl)
    (keepsSegments_exactFermenting hcandidate).moved

theorem planMoves_fallback {head : RunPersistenceHead}
    {reference : RunCheckpointReference} {record : RunPersistenceRawRecord}
    {live : CrossRolePlausibilityContext}
    (h : coordinator.planFallback current head reference record time live = .ok planned) :
    PlanMoves false current planned := by
  rw [planFallback] at h
  split at h
  · simp only [bind_eq_ok] at h
    obtain ⟨-, -, -, -, hplan⟩ := h
    exact planMoves_exactFermenting hplan
  · simp only [bind_eq_ok] at h
    obtain ⟨-, -, write, hwrite, hplanned⟩ := h
    cases hplanned
    refine .of_candidate (recordOf_planRecovered hwrite) (fun _ _ => rfl) ?_
    exact .of_eq rfl segments_applyLiveRecoveryEvidence

theorem planMoves_reevaluation
    (h : coordinator.planReevaluation current time live = .ok planned) :
    PlanMoves false current planned := by
  obtain ⟨context, limit, resolved, base, -, -, -, hresolved, hbase, rfl⟩ :=
    planReevaluation_eq_ok h
  obtain ⟨snapshot, -, -, -, hsnapshot, rfl⟩ := planRecoveryCandidate_eq_ok hbase
  refine .of_candidate ⟨_, _, _, _, hsnapshot⟩ (fun _ _ => rfl) ?_
  exact (keepsSegments_reevaluatedWait hresolved).moved

theorem planMoves_resolution {request : ResolveRecoveryUncertaintyRequest}
    {live : CrossRolePlausibilityContext}
    (h : coordinator.planResolution current request time live = .ok planned) :
    PlanMoves false current planned := by
  obtain ⟨phase, context, limit, resolved, snapshot, -, -, -, -, -, -, hresolved,
    hsnapshot, rfl⟩ := planResolution_eq_ok h
  exact .of_candidate ⟨_, _, _, _, hsnapshot⟩ (fun _ _ => rfl)
    (moved_resolvedUncertainty hresolved)

/-- The application books or re-evaluates nothing by this operation. -/
def RunOperation.Unbooked (operation : RunOperation) : Prop :=
  ∀ candidate time directive,
    operation ≠ .persistRecoveryCandidate candidate time directive

/-- Every planned write of an operation that books nothing. -/
theorem planMoves_of_plans (hdecided : operation.DecidedOn current)
    (hunbooked : operation.Unbooked) (h : operation.Plans coordinator current planned) :
    PlanMoves operation.endsRun current planned := by
  cases operation with
  | persistCommand decision time live => exact planMoves_command hdecided h.1 h.2
  | persistFreshStartCommand decision provenance time live =>
      exact planMoves_command hdecided h.1 h.2
  | persistBorrowedCommand decision time live provenance =>
      exact planMoves_command hdecided h.1 h.2
  | persistTransition decision time live => exact planMoves_transition h
  | checkpointPeriodic time live => exact planMoves_periodic h
  | persistSensorSelection mutation time live => exact planMoves_sensorSelection h
  | persistRecoveryCandidate candidate time directive =>
      exact absurd rfl (hunbooked candidate time directive)
  | discardAsNoActiveRun time => exact planMoves_discard h
  | activateLoadedRun time live =>
      obtain ⟨record, -, hplan⟩ := h
      exact planMoves_activation hplan
  | activateR1EligibleRun time live =>
      obtain ⟨record, -, hplan⟩ := h
      exact planMoves_r1Activation hplan
  | evaluateCurrentFermentingRecovery time =>
      obtain ⟨record, -, hplan⟩ := h
      exact planMoves_exactFermenting hplan
  | activateFallbackRecoveredRun time live =>
      obtain ⟨head, reference, record, -, -, -, hplan⟩ := h
      exact planMoves_fallback hplan
  | reevaluateRecoveryEvaluation time live => exact planMoves_reevaluation h
  | resolveRecoveryOutcome request time live => exact planMoves_resolution h

end

end Fermentationsschrank

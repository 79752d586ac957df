import Fermentationsschrank.Recovery.RunOperation

/-!
# What the plans have checked

Each write is planned by a chain of checks.  Its inversion says once what a successful
plan has found, and which write and which final step it consists of.
-/

namespace Fermentationsschrank

namespace RunPersistenceCoordinator

variable {coordinator : RunPersistenceCoordinator} {current candidate : RunCommandState}
variable {planned : PlannedWrite} {time : RunCheckpointTime}
variable {live : Option CrossRolePlausibilityContext}

theorem ready_of_requireReady {result : Unit} (h : coordinator.requireReady = .ok result) :
    coordinator.state = .ready := by
  simpa [requireReady] using h

theorem projectCandidate_eq_ok {ids : List CommandId} {trigger : RunCheckpointTrigger}
    {snapshot : RunPersistenceSnapshot} :
    coordinator.projectCandidate candidate ids trigger time = .ok snapshot ↔
      makeRunPersistenceSnapshot candidate ids trigger time
        coordinator.schedule.intervalMinutes = some snapshot := orFail_eq_ok

/-! ## A running boot -/

theorem planCommand_eq_ok {decision : CommandDecision} {guard : CommandApplyGuard}
    {provenance : Option FreshStartSnapshotProvenance}
    (h : coordinator.planCommand current decision guard time live provenance =
      .ok planned) :
    ∃ snapshot, validateRunCommand current decision guard = .applied ∧
      coordinator.nextCheckpointRevision ≠ 0 ∧
      makeRunPersistenceSnapshot (commandCandidate decision live provenance)
        (rememberPersistedCommand coordinator.persistedIds decision.envelope.id) .command
        time coordinator.schedule.intervalMinutes = some snapshot ∧
      planned = {
        write := {
          snapshot, time
          before := .ofState current
          mutationKind := .command
          commandId := some decision.envelope.id
          rollbackState := coordinator.state }
        finish := finishCommand current decision guard live provenance } := by
  simp only [planCommand, bind_eq_ok, require_eq_ok, projectCandidate_eq_ok,
    decide_eq_true_eq] at h
  obtain ⟨-, -, _, hstatus, _, hnext, snapshot, hsnapshot, hplanned⟩ := h
  cases hplanned
  exact ⟨snapshot, hstatus, hnext, hsnapshot, rfl⟩

theorem planTransition_eq_ok {decision : TransitionDecision}
    (h : coordinator.planTransition current decision time live = .ok planned) :
    ∃ delta folded moved snapshot, coordinator.state = .ready ∧
      decision.proposed = true ∧ eligibleTransition decision.reason = true ∧
      time.monotonicMillis = decision.monotonicMillis ∧
      coordinator.foldTransition current decision = .ok (delta, folded) ∧
      transitioned folded decision = some moved ∧
      makeRunPersistenceSnapshot
        (transitionCandidate current moved decision.reason live) coordinator.persistedIds
        .transition time coordinator.schedule.intervalMinutes = some snapshot ∧
      planned = {
        write := {
          snapshot, time
          before := .ofState current
          mutationKind := .transition
          rollbackState := coordinator.state }
        finish := finishTransition current decision delta live } := by
  simp only [planTransition, bind_eq_ok, require_eq_ok, orFail_eq_ok,
    projectCandidate_eq_ok, decide_eq_true_eq, Bool.and_eq_true] at h
  obtain ⟨_, hready, _, ⟨hproposed, heligible⟩, -, -, _, htime, ⟨delta, folded⟩, hfold,
    moved, hmoved, snapshot, hsnapshot, hplanned⟩ := h
  cases hplanned
  exact ⟨delta, folded, moved, snapshot, ready_of_requireReady hready, hproposed,
    heligible, htime, hfold, hmoved, hsnapshot, rfl⟩

theorem planPeriodic_eq_ok
    (h : coordinator.planPeriodic current time live = .ok planned) :
    ∃ record snapshot, coordinator.state = .ready ∧ current.hasActiveRun = true ∧
      coordinator.currentRecord = some record ∧
      coordinator.matchesConfirmed current record.snapshot = true ∧
      makeRunPersistenceSnapshot (withLiveEvidence current live) coordinator.persistedIds
        .periodic time coordinator.schedule.intervalMinutes = some snapshot ∧
      planned = {
        write := {
          snapshot, time
          periodic := true
          before := .ofState current
          mutationKind := .transition
          rollbackState := coordinator.state }
        finish := fun after persisted => ⟨persisted, after, current⟩ } := by
  simp only [planPeriodic, bind_eq_ok, require_eq_ok, orFail_eq_ok,
    projectCandidate_eq_ok] at h
  obtain ⟨-, -, _, hready, _, hactive, record, hrecord, _, hmatches, -, -, -, -, -, -,
    snapshot, hsnapshot, hplanned⟩ := h
  cases hplanned
  exact ⟨record, snapshot, ready_of_requireReady hready, hactive, hrecord, hmatches,
    hsnapshot, rfl⟩

theorem planSensorSelection_eq_ok {mutation : SensorSelectionStateMutation}
    (h : coordinator.planSensorSelection current mutation time live = .ok planned) :
    ∃ persisted candidate snapshot, coordinator.state = .ready ∧
      current.hasActiveRun = true ∧
      (current.activeRunId.isEmpty = false ∧ current.activeRunSensorMode.isSome = true ∧
        current.sensorSelection.isSome = true) ∧
      mutation.status = .appliedPersistentCandidate ∧ mutation.activeMode.isSome = true ∧
      mutation.persisted = some persisted ∧
      automaticSensorSelectionCause persisted.lastDecisionCause = true ∧
      mutation.resultingRunRevision = current.runRevision + 1 ∧
      coordinator.nextCheckpointRevision ≠ 0 ∧
      resetChangedSensorRole current (applySensorSelectionMutation current mutation)
        mutation time.monotonicMillis = some candidate ∧
      makeRunPersistenceSnapshot (withLiveEvidence candidate live)
        coordinator.persistedIds .sensorSelection time
        coordinator.schedule.intervalMinutes = some snapshot ∧
      planned = {
        write := {
          snapshot, time
          before := .ofState current
          mutationKind := .sensorSelection
          rollbackState := coordinator.state }
        finish := finishSensorSelection current candidate mutation time live } := by
  simp only [planSensorSelection, bind_eq_ok, require_eq_ok, orFail_eq_ok,
    projectCandidate_eq_ok, decide_eq_true_eq, Bool.and_eq_true, Bool.not_eq_true'] at h
  obtain ⟨-, -, _, hready, _, hactive, _, ⟨⟨hid, hmode⟩, hselection⟩, _, hstatus, _,
    hnewMode, persisted, hpersisted, _, hcause, -, -, _, hrevision, _, hnext, candidate,
    hcandidate, snapshot, hsnapshot, hplanned⟩ := h
  cases hplanned
  exact ⟨persisted, candidate, snapshot, ready_of_requireReady hready, hactive,
    ⟨hid, hmode, hselection⟩, hstatus, hnewMode, hpersisted, hcause, hrevision, hnext,
    hcandidate, hsnapshot, rfl⟩

theorem readyOrLoaded_of_require {result : Unit}
    (h : coordinator.requireReadyOrLoaded = .ok result) :
    coordinator.state = .ready ∨ coordinator.state = .loadedActiveRun := by
  simpa [requireReadyOrLoaded] using h

theorem planRecoveryCandidate_eq_ok
    {fallbackDirective : RunPersistenceFallbackDirective}
    (h : coordinator.planRecoveryCandidate current candidate time fallbackDirective =
      .ok planned) :
    ∃ snapshot, (coordinator.state = .ready ∨ coordinator.state = .loadedActiveRun) ∧
      current.runRevision ≠ maxUInt32 ∧
      candidate.runRevision = current.runRevision + 1 ∧
      makeRunPersistenceSnapshot candidate coordinator.persistedIds .transition time
        coordinator.schedule.intervalMinutes = some snapshot ∧
      planned = {
        write := {
          snapshot, time
          before := .ofState current
          mutationKind := .recovery
          fallbackDirective
          rollbackState := coordinator.state }
        finish := finishRecoveryCandidate candidate } := by
  simp only [planRecoveryCandidate, bind_eq_ok, require_eq_ok, projectCandidate_eq_ok,
    decide_eq_true_eq] at h
  obtain ⟨_, hstate, _, ⟨hroom, hrevision⟩, -, -, snapshot, hsnapshot, hplanned⟩ := h
  cases hplanned
  exact ⟨snapshot, readyOrLoaded_of_require hstate, hroom, hrevision, hsnapshot, rfl⟩

theorem planDiscard_eq_ok (h : coordinator.planDiscard current time = .ok planned) :
    ∃ candidate snapshot,
      (coordinator.state = .ready ∨ coordinator.state = .loadedActiveRun) ∧
      current.hasActiveRun = true ∧ current.runRevision ≠ maxUInt32 ∧
      discardCandidate current time.monotonicMillis = some candidate ∧
      makeRunPersistenceSnapshot candidate coordinator.persistedIds .transition time
        coordinator.schedule.intervalMinutes = some snapshot ∧
      planned = {
        write := {
          snapshot, time
          before := .ofState current
          mutationKind := .recovery
          fallbackDirective := { mode := .clearFallback }
          rollbackState := coordinator.state }
        finish := fun after persisted => ⟨persisted, after, candidate⟩ } := by
  simp only [planDiscard, bind_eq_ok, require_eq_ok, orFail_eq_ok, projectCandidate_eq_ok,
    decide_eq_true_eq] at h
  obtain ⟨_, hstate, _, hactive, _, hroom, candidate, hcandidate, snapshot, hsnapshot,
    hplanned⟩ := h
  cases hplanned
  exact ⟨candidate, snapshot, readyOrLoaded_of_require hstate, hactive, hroom, hcandidate,
    hsnapshot, rfl⟩

/-! ## Recoveries -/

theorem planRecovered_eq_ok {rollbackState : RunPersistenceCoordinatorState}
    {fallbackDirective : RunPersistenceFallbackDirective} {targetSlot : Option ℕ}
    {write : SnapshotWrite} :
    coordinator.planRecovered current candidate time rollbackState fallbackDirective
        targetSlot = .ok write ↔
      ∃ snapshot, makeRunPersistenceSnapshot candidate coordinator.persistedIds .transition
          time coordinator.schedule.intervalMinutes = some snapshot ∧
        write = {
          snapshot, time
          before := .ofState current
          mutationKind := .recovery
          targetSlotOverride := targetSlot
          fallbackDirective, rollbackState } := by
  simp only [planRecovered, bind_eq_ok, projectCandidate_eq_ok]
  constructor
  · rintro ⟨snapshot, hsnapshot, hwrite⟩
    cases hwrite
    exact ⟨snapshot, hsnapshot, rfl⟩
  · rintro ⟨snapshot, hsnapshot, rfl⟩
    exact ⟨snapshot, hsnapshot, rfl⟩

theorem planActivation_eq_ok {record : RunPersistenceRawRecord}
    {live : CrossRolePlausibilityContext}
    (h : coordinator.planActivation current record time live = .ok planned) :
    ∃ candidate fallbackDirective write,
      current.processRunSnapshot.isSome = true ∧
      (if current.processState.state = .recoveryEvaluation then
        (refreshEpisode current time.monotonicMillis live).map (·, {})
      else
        (openEpisode current record time.monotonicMillis live).bind fun opened =>
          settleEpisode current.processState opened time live) =
            some (candidate, fallbackDirective) ∧
      coordinator.planRecovered current candidate time .loadedActiveRun
        fallbackDirective = .ok write ∧
      planned = { write, finish := adoptCandidate candidate } := by
  simp only [planActivation, bind_eq_ok, require_eq_ok, orFail_eq_ok] at h
  obtain ⟨_, hprocess, ⟨candidate, fallbackDirective⟩, hcandidate, write, hwrite,
    hplanned⟩ := h
  cases hplanned
  exact ⟨candidate, fallbackDirective, write, hprocess, hcandidate, hwrite, rfl⟩

theorem planR1Activation_eq_ok {record : RunPersistenceRawRecord}
    (h : coordinator.planR1Activation current record time live = .ok planned) :
    ∃ readings candidate write, isR1ResumeEligible record.snapshot = true ∧
      current.processState.state = record.snapshot.processState.state ∧
      live = some readings ∧
      restartSensors { current with
          processState := rebasedRecoveredState current.processState time.monotonicMillis }
        readings = some (.allowed, candidate) ∧
      coordinator.planRecovered current candidate time .loadedActiveRun = .ok write ∧
      planned = { write, finish := adoptCandidate candidate } := by
  simp only [planR1Activation, bind_eq_ok, require_eq_ok, orFail_eq_ok, Bool.and_eq_true,
    decide_eq_true_eq] at h
  obtain ⟨_, ⟨heligible, hstate⟩, readings, hlive, ⟨permission, candidate⟩, hcandidate,
    _, hallowed, write, hwrite, hplanned⟩ := h
  cases hplanned
  cases hallowed
  exact ⟨readings, candidate, write, heligible, hstate, hlive, hcandidate, hwrite, rfl⟩

theorem planExactFermenting_eq_ok {record : RunPersistenceRawRecord}
    {targetSlot : Option ℕ} {fallbackDirective : RunPersistenceFallbackDirective}
    {rollbackState : RunPersistenceCoordinatorState} {completion : Bool}
    (h : coordinator.planExactFermenting current record time targetSlot fallbackDirective
      rollbackState completion = .ok planned) :
    ∃ candidate write,
      exactFermentingCandidate current record time completion = .ok candidate ∧
      coordinator.planRecovered current candidate time rollbackState fallbackDirective
        targetSlot = .ok write ∧
      planned = { write, finish := adoptRecovered candidate } := by
  rw [planExactFermenting] at h
  split at h
  · cases h
  · cases h
  · rename_i candidate hcandidate
    obtain ⟨write, hwrite, hplanned⟩ := bind_eq_ok.mp h
    cases hplanned
    exact ⟨candidate, write, hcandidate, hwrite, rfl⟩

theorem planReevaluation_eq_ok
    (h : coordinator.planReevaluation current time live = .ok planned) :
    ∃ context limitSeconds resolved base, coordinator.state = .ready ∧
      openWait current time = some (context, limitSeconds) ∧
      current.runRevision ≠ maxUInt32 ∧
      reevaluatedWait current context
        (evaluateRecoveryTimeVerdict context.elapsed limitSeconds) time.monotonicMillis
        live = some resolved ∧
      coordinator.planRecoveryCandidate current
        { resolved.candidate with runRevision := resolved.candidate.runRevision + 1 } time
        resolved.fallbackDirective = .ok base ∧
      planned = { base with
        finish := fun after persisted =>
          let outcome := base.finish after persisted
          { outcome with
            result := { outcome.result with messages := resolved.messages } } } := by
  simp only [planReevaluation, bind_eq_ok, require_eq_ok, orFail_eq_ok,
    decide_eq_true_eq] at h
  obtain ⟨_, hready, ⟨context, limitSeconds⟩, hopen, -, -, _, hroom, resolved, hresolved,
    base, hbase, hplanned⟩ := h
  cases hplanned
  exact ⟨context, limitSeconds, resolved, base, ready_of_requireReady hready, hopen, hroom,
    hresolved, hbase, rfl⟩

theorem planResolution_eq_ok {request : ResolveRecoveryUncertaintyRequest}
    {live : CrossRolePlausibilityContext}
    (h : coordinator.planResolution current request time live = .ok planned) :
    ∃ phase context limitSeconds resolved snapshot, coordinator.state = .ready ∧
      request.commandId ≠ 0 ∧ request.expectedRunRevision = current.runRevision ∧
      request.expectedRecoveryEpisodeRevision = current.recoveryEpisodeRevision ∧
      request.commandId ∉ coordinator.persistedIds ∧
      uncertainPhase current time = some (phase, context, limitSeconds) ∧
      resolvedUncertainty current phase context request.decision time.monotonicMillis
        live = some resolved ∧
      makeRunPersistenceSnapshot resolved.candidate
        (rememberPersistedCommand coordinator.persistedIds request.commandId) .command
        time coordinator.schedule.intervalMinutes = some snapshot ∧
      planned = {
        write := {
          snapshot, time
          before := .ofState current
          mutationKind := .command
          commandId := some request.commandId
          fallbackDirective := resolved.fallbackDirective
          rollbackState := .ready }
        finish := fun after persisted =>
          ⟨{ persisted with
              step := .ramApply
              durability := .changed
              coordinatorState := after.state
              messages := resolved.messages },
            { after with persistedIds :=
                rememberPersistedCommand coordinator.persistedIds request.commandId },
            resolved.candidate⟩ } := by
  simp only [planResolution, bind_eq_ok, require_eq_ok, orFail_eq_ok,
    projectCandidate_eq_ok, decide_eq_true_eq] at h
  obtain ⟨_, hready, _, hid, _, ⟨hrevision, hepisode⟩, _, hfresh,
    ⟨phase, context, limitSeconds⟩, hphase, -, -, resolved, hresolved, snapshot, hsnapshot,
    hplanned⟩ := h
  cases hplanned
  exact ⟨phase, context, limitSeconds, resolved, snapshot, ready_of_requireReady hready, hid,
    hrevision, hepisode, hfresh, hphase, hresolved, hsnapshot, rfl⟩

end RunPersistenceCoordinator

end Fermentationsschrank

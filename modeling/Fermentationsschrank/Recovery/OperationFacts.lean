import Fermentationsschrank.Recovery.PlanFacts

/-!
# What an operation may do

Every planned write is admissible: it projects a candidate under the time of
the request, rolls back to the state it came from, and its final step keeps what
the coordinator knows about the store.  `ensures_perform` turns this into the
list of ways in which an operation ends.
-/

namespace Fermentationsschrank

variable {operation : RunOperation} {current : RunCommandState} {planned : PlannedWrite}

/-! ## Coordinators that agree about the store -/

namespace RunPersistenceCoordinator

/-- The states in which a snapshot may be written. -/
def Accepting (coordinator : RunPersistenceCoordinator) : Prop :=
  coordinator.state = .ready ∨ coordinator.state = .readyEmpty ∨
    coordinator.state = .loadedActiveRun ∨ coordinator.state = .fallbackRecoveryPending

/-- The cached head is the stored one as long as it can be replaced. -/
def HeadCached (coordinator : RunPersistenceCoordinator) (store : RunStore) : Prop :=
  coordinator.Accepting → store headKey = coordinator.currentHead.map (·.bytes)

/-- Both know the same of the three keys. -/
structure SameStorage (before after : RunPersistenceCoordinator) : Prop where
  epoch : after.epoch = before.epoch
  schedule : after.schedule = before.schedule
  currentHead : after.currentHead = before.currentHead
  slot0 : after.slot0 = before.slot0
  slot1 : after.slot1 = before.slot1
  nextCheckpointRevision : after.nextCheckpointRevision = before.nextCheckpointRevision
  nextHeadRevision : after.nextHeadRevision = before.nextHeadRevision

variable {coordinator after : RunPersistenceCoordinator}

theorem SameStorage.refl (coordinator : RunPersistenceCoordinator) :
    SameStorage coordinator coordinator := ⟨rfl, rfl, rfl, rfl, rfl, rfl, rfl⟩

theorem SameStorage.withState (h : SameStorage coordinator after)
    (state : RunPersistenceCoordinatorState) :
    SameStorage coordinator (after.withState state) :=
  ⟨h.epoch, h.schedule, h.currentHead, h.slot0, h.slot1, h.nextCheckpointRevision,
    h.nextHeadRevision⟩

theorem SameStorage.withPendingR1 (h : SameStorage coordinator after)
    (checkpointRevision : Option UInt64) (runRevision : Option UInt32) :
    SameStorage coordinator (after.withPendingR1 checkpointRevision runRevision) :=
  ⟨h.epoch, h.schedule, h.currentHead, h.slot0, h.slot1, h.nextCheckpointRevision,
    h.nextHeadRevision⟩

end RunPersistenceCoordinator

open RunPersistenceCoordinator

/-- The results after which the live state may differ. -/
def RunPersistenceResult.MayApply (result : RunPersistenceResult) : Prop :=
  result.status = .applied ∨ result.status = .persistenceCommittedApplyFailed

/-- The final step of a write changes nothing the coordinator knows of the store,
and reports what it changes. -/
structure PlannedWrite.Settles (planned : PlannedWrite) : Prop where
  storage : ∀ after persisted,
    SameStorage after (planned.finish after persisted).coordinator
  state : ∀ after persisted,
    (planned.finish after persisted).coordinator.state = after.state ∨
      (planned.finish after persisted).coordinator.state = .persistenceCommittedApplyFailed
  durability : ∀ after persisted, persisted.durability = .changed →
    (planned.finish after persisted).result.durability = .changed
  reported : ∀ after persisted, persisted.status = .applied →
    (planned.finish after persisted).result.MayApply

structure Admissible (coordinator : RunPersistenceCoordinator) (current : RunCommandState)
    (commandId : Option CommandId) (planned : PlannedWrite) : Prop where
  accepting : coordinator.Accepting
  rollback : planned.write.rollbackState = coordinator.state
  before : planned.write.before = .ofState current
  commandId : planned.write.commandId = commandId
  projected : ∃ candidate ids trigger,
    makeRunPersistenceSnapshot candidate ids trigger planned.write.time
      coordinator.schedule.intervalMinutes = some planned.write.snapshot
  periodic : planned.write.periodic = true →
    coordinator.state = .ready ∧ coordinator.currentRecord.isSome = true
  settles : planned.Settles

/-! ## Admissible plans -/

section Plans

variable {coordinator : RunPersistenceCoordinator} {time : RunCheckpointTime}
variable {live : Option CrossRolePlausibilityContext}

theorem settles_adoptCandidate (candidate : RunCommandState) (write : SnapshotWrite) :
    PlannedWrite.Settles ⟨write, adoptCandidate candidate⟩ :=
  ⟨fun after _ => .refl after, fun _ _ => .inl rfl, fun _ _ h => h, fun _ _ h => .inl h⟩

theorem settles_adoptRecovered (candidate : RunCommandState) (write : SnapshotWrite) :
    PlannedWrite.Settles ⟨write, adoptRecovered candidate⟩ :=
  ⟨fun after _ => .refl after, fun _ _ => .inl rfl, fun _ _ h => h, fun _ _ h => .inl h⟩

theorem settles_finishCommand {decision : CommandDecision} {guard : CommandApplyGuard}
    {provenance : Option FreshStartSnapshotProvenance} {write : SnapshotWrite} :
    PlannedWrite.Settles ⟨write, finishCommand current decision guard live provenance⟩ := by
  refine ⟨fun after persisted => ?_, fun after persisted => ?_, fun after persisted _ => ?_,
    fun after persisted _ => ?_⟩
  · simp only [finishCommand]
    split
    · exact (SameStorage.refl after).withState _
    · exact ⟨rfl, rfl, rfl, rfl, rfl, rfl, rfl⟩
  · simp only [finishCommand]
    split
    · exact .inr rfl
    · exact .inl rfl
  · simp only [finishCommand]
    split
    · rfl
    · rfl
  · simp only [finishCommand]
    split
    · exact .inr rfl
    · exact .inl rfl

theorem settles_finishTransition {decision : TransitionDecision} {delta : UInt32}
    {write : SnapshotWrite} :
    PlannedWrite.Settles ⟨write, finishTransition current decision delta live⟩ := by
  refine ⟨fun after persisted => ?_, fun after persisted => ?_, fun after persisted _ => ?_,
    fun after persisted _ => ?_⟩
  · simp only [finishTransition]
    split
    · exact (SameStorage.refl after).withState _
    · split
      · exact (SameStorage.refl after).withState _
      · exact .refl after
  · simp only [finishTransition]
    split
    · exact .inr rfl
    · split
      · exact .inr rfl
      · exact .inl rfl
  · simp only [finishTransition]
    split
    · rfl
    · split
      · rfl
      · rfl
  · simp only [finishTransition]
    split
    · exact .inr rfl
    · split
      · exact .inr rfl
      · exact .inl rfl

theorem accepting_of_admitCommand {decision : CommandDecision}
    {provenance : Option FreshStartSnapshotProvenance} {result : Unit}
    (h : coordinator.admitCommand decision time provenance = .ok result) :
    coordinator.Accepting := by
  simp only [admitCommand, bind_eq_ok, require_eq_ok, decide_eq_true_eq] at h
  obtain ⟨_, hstate, -⟩ := h
  exact hstate.elim .inl fun h => .inr (.inl h)

theorem admissible_planCommand {decision : CommandDecision} {guard : CommandApplyGuard}
    {provenance : Option FreshStartSnapshotProvenance}
    (hadmitted : coordinator.admitCommand decision time provenance = .ok ())
    (h : coordinator.planCommand current decision guard time live provenance =
      .ok planned) :
    Admissible coordinator current (some decision.envelope.id) planned := by
  obtain ⟨snapshot, -, -, hsnapshot, rfl⟩ := planCommand_eq_ok h
  exact {
    accepting := accepting_of_admitCommand hadmitted
    rollback := rfl
    before := rfl
    commandId := rfl
    projected := ⟨_, _, _, hsnapshot⟩
    periodic := fun h => (nomatch h)
    settles := settles_finishCommand }

theorem admissible_planTransition {decision : TransitionDecision}
    (h : coordinator.planTransition current decision time live = .ok planned) :
    Admissible coordinator current none planned := by
  obtain ⟨delta, folded, moved, snapshot, hready, -, -, -, -, -, hsnapshot, rfl⟩ :=
    planTransition_eq_ok h
  exact {
    accepting := .inl hready
    rollback := rfl
    before := rfl
    commandId := rfl
    projected := ⟨_, _, _, hsnapshot⟩
    periodic := fun h => (nomatch h)
    settles := settles_finishTransition }

theorem admissible_planPeriodic
    (h : coordinator.planPeriodic current time live = .ok planned) :
    Admissible coordinator current none planned := by
  obtain ⟨record, snapshot, hready, -, hrecord, -, hsnapshot, rfl⟩ := planPeriodic_eq_ok h
  exact {
    accepting := .inl hready
    rollback := rfl
    before := rfl
    commandId := rfl
    projected := ⟨_, _, _, hsnapshot⟩
    periodic := fun _ => ⟨hready, by rw [hrecord]; rfl⟩
    settles := ⟨fun after _ => .refl after, fun _ _ => .inl rfl, fun _ _ h => h,
      fun _ _ h => .inl h⟩ }

theorem admissible_planSensorSelection {mutation : SensorSelectionStateMutation}
    (h : coordinator.planSensorSelection current mutation time live = .ok planned) :
    Admissible coordinator current none planned := by
  obtain ⟨persisted, candidate, snapshot, hready, -, -, -, -, -, -, -, -, -, hsnapshot,
    rfl⟩ := planSensorSelection_eq_ok h
  refine {
    accepting := .inl hready
    rollback := rfl
    before := rfl
    commandId := rfl
    projected := ⟨_, _, _, hsnapshot⟩
    periodic := fun h => (nomatch h)
    settles := ⟨fun after _ => .refl after, fun _ _ => .inl rfl, fun _ _ _ => ?_,
      fun _ _ _ => .inl ?_⟩ }
  · simp only [finishSensorSelection]
    split
    · rfl
    · rfl
  · simp only [finishSensorSelection]
    split
    · rfl
    · rfl

theorem accepting_of_readyOrLoaded
    (h : coordinator.state = .ready ∨ coordinator.state = .loadedActiveRun) :
    coordinator.Accepting := h.elim .inl fun h => .inr (.inr (.inl h))

theorem admissible_planRecoveryCandidate {candidate : RunCommandState}
    {fallbackDirective : RunPersistenceFallbackDirective}
    (h : coordinator.planRecoveryCandidate current candidate time fallbackDirective =
      .ok planned) :
    Admissible coordinator current none planned := by
  obtain ⟨snapshot, hstate, -, -, hsnapshot, rfl⟩ := planRecoveryCandidate_eq_ok h
  exact {
    accepting := accepting_of_readyOrLoaded hstate
    rollback := rfl
    before := rfl
    commandId := rfl
    projected := ⟨_, _, _, hsnapshot⟩
    periodic := fun h => (nomatch h)
    settles := ⟨fun after _ => ⟨rfl, rfl, rfl, rfl, rfl, rfl, rfl⟩, fun _ _ => .inl rfl,
      fun _ _ _ => rfl, fun _ _ h => .inl h⟩ }

theorem admissible_planDiscard
    (h : coordinator.planDiscard current time = .ok planned) :
    Admissible coordinator current none planned := by
  obtain ⟨candidate, snapshot, hstate, -, -, -, hsnapshot, rfl⟩ := planDiscard_eq_ok h
  exact {
    accepting := accepting_of_readyOrLoaded hstate
    rollback := rfl
    before := rfl
    commandId := rfl
    projected := ⟨_, _, _, hsnapshot⟩
    periodic := fun h => (nomatch h)
    settles := ⟨fun after _ => .refl after, fun _ _ => .inl rfl, fun _ _ h => h,
      fun _ _ h => .inl h⟩ }

theorem admissible_planRecovered {candidate : RunCommandState}
    {rollbackState : RunPersistenceCoordinatorState}
    {fallbackDirective : RunPersistenceFallbackDirective} {targetSlot : Option ℕ}
    {write : SnapshotWrite}
    {finish : RunPersistenceCoordinator → RunPersistenceResult → RunPersistenceOutcome}
    (haccepting : coordinator.Accepting) (hstate : rollbackState = coordinator.state)
    (h : coordinator.planRecovered current candidate time rollbackState fallbackDirective
      targetSlot = .ok write) (hsettles : PlannedWrite.Settles ⟨write, finish⟩) :
    Admissible coordinator current none ⟨write, finish⟩ := by
  obtain ⟨snapshot, hsnapshot, rfl⟩ := planRecovered_eq_ok.mp h
  exact {
    accepting := haccepting
    rollback := hstate
    before := rfl
    commandId := rfl
    projected := ⟨_, _, _, hsnapshot⟩
    periodic := fun h => (nomatch h)
    settles := hsettles }

theorem state_of_loadedRecord {record : RunPersistenceRawRecord}
    (h : coordinator.loadedRecord = some record) :
    coordinator.state = .loadedActiveRun ∧ coordinator.currentRecord = some record := by
  unfold loadedRecord at h
  split at h
  · rename_i hstate
    exact ⟨hstate, h⟩
  · cases h

theorem admissible_planActivation {record : RunPersistenceRawRecord}
    {live : CrossRolePlausibilityContext} (hloaded : coordinator.state = .loadedActiveRun)
    (h : coordinator.planActivation current record time live = .ok planned) :
    Admissible coordinator current none planned := by
  obtain ⟨candidate, fallbackDirective, write, -, -, hwrite, rfl⟩ := planActivation_eq_ok h
  exact admissible_planRecovered (.inr (.inr (.inl hloaded))) hloaded.symm hwrite
    (settles_adoptCandidate candidate write)

theorem admissible_planR1Activation {record : RunPersistenceRawRecord}
    (hloaded : coordinator.state = .loadedActiveRun)
    (h : coordinator.planR1Activation current record time live = .ok planned) :
    Admissible coordinator current none planned := by
  obtain ⟨readings, candidate, write, -, -, -, -, hwrite, rfl⟩ := planR1Activation_eq_ok h
  exact admissible_planRecovered (.inr (.inr (.inl hloaded))) hloaded.symm hwrite
    (settles_adoptCandidate candidate write)

theorem admissible_planExactFermenting {record : RunPersistenceRawRecord}
    {targetSlot : Option ℕ} {fallbackDirective : RunPersistenceFallbackDirective}
    {rollbackState : RunPersistenceCoordinatorState} {completion : Bool}
    (haccepting : coordinator.Accepting) (hstate : rollbackState = coordinator.state)
    (h : coordinator.planExactFermenting current record time targetSlot fallbackDirective
      rollbackState completion = .ok planned) :
    Admissible coordinator current none planned := by
  obtain ⟨candidate, write, -, hwrite, rfl⟩ := planExactFermenting_eq_ok h
  exact admissible_planRecovered haccepting hstate hwrite
    (settles_adoptRecovered candidate write)

theorem admissible_planFallback {head : RunPersistenceHead}
    {reference : RunCheckpointReference} {record : RunPersistenceRawRecord}
    {live : CrossRolePlausibilityContext}
    (hpending : coordinator.state = .fallbackRecoveryPending)
    (h : coordinator.planFallback current head reference record time live = .ok planned) :
    Admissible coordinator current none planned := by
  unfold planFallback at h
  split at h
  · simp only [bind_eq_ok] at h
    obtain ⟨-, -, -, -, hplan⟩ := h
    exact admissible_planExactFermenting (.inr (.inr (.inr hpending))) hpending.symm hplan
  · simp only [bind_eq_ok] at h
    obtain ⟨-, -, write, hwrite, hplanned⟩ := h
    cases hplanned
    exact admissible_planRecovered (.inr (.inr (.inr hpending))) hpending.symm hwrite
      (settles_adoptRecovered _ write)

theorem admissible_planReevaluation
    (h : coordinator.planReevaluation current time live = .ok planned) :
    Admissible coordinator current none planned := by
  obtain ⟨context, limitSeconds, resolved, base, -, -, -, -, hbase, rfl⟩ :=
    planReevaluation_eq_ok h
  obtain ⟨haccepting, hrollback, hbefore, hid, hprojected, hperiodic, hsettles⟩ :=
    admissible_planRecoveryCandidate hbase
  exact ⟨haccepting, hrollback, hbefore, hid, hprojected, hperiodic,
    hsettles.storage, hsettles.state, hsettles.durability, hsettles.reported⟩

theorem admissible_planResolution {request : ResolveRecoveryUncertaintyRequest}
    {live : CrossRolePlausibilityContext}
    (h : coordinator.planResolution current request time live = .ok planned) :
    Admissible coordinator current (some request.commandId) planned := by
  obtain ⟨phase, context, limitSeconds, resolved, snapshot, hstate, -, -, -, -, -, -,
    hsnapshot, rfl⟩ := planResolution_eq_ok h
  exact {
    accepting := .inl hstate
    rollback := hstate.symm
    before := rfl
    commandId := rfl
    projected := ⟨_, _, _, hsnapshot⟩
    periodic := fun h => (nomatch h)
    settles := ⟨fun after _ => ⟨rfl, rfl, rfl, rfl, rfl, rfl, rfl⟩, fun _ _ => .inl rfl,
      fun _ _ _ => rfl, fun _ _ h => .inl h⟩ }

/-- Every write an operation plans is admissible. -/
theorem admissible_of_plans (h : operation.Plans coordinator current planned) :
    Admissible coordinator current operation.commandId planned := by
  cases operation with
  | persistCommand decision time live => exact admissible_planCommand h.1 h.2
  | persistFreshStartCommand decision provenance time live =>
      exact admissible_planCommand h.1 h.2
  | persistBorrowedCommand decision time live provenance =>
      exact admissible_planCommand h.1 h.2
  | persistTransition decision time live => exact admissible_planTransition h
  | checkpointPeriodic time live => exact admissible_planPeriodic h
  | persistSensorSelection mutation time live => exact admissible_planSensorSelection h
  | persistRecoveryCandidate candidate time directive =>
      exact admissible_planRecoveryCandidate h
  | discardAsNoActiveRun time => exact admissible_planDiscard h
  | activateLoadedRun time live =>
      obtain ⟨record, hrecord, hplan⟩ := h
      exact admissible_planActivation (state_of_loadedRecord hrecord).1 hplan
  | activateR1EligibleRun time live =>
      obtain ⟨record, hrecord, hplan⟩ := h
      exact admissible_planR1Activation (state_of_loadedRecord hrecord).1 hplan
  | evaluateCurrentFermentingRecovery time =>
      obtain ⟨record, hrecord, hplan⟩ := h
      have hstate := (state_of_loadedRecord hrecord).1
      exact admissible_planExactFermenting (.inr (.inr (.inl hstate))) hstate.symm hplan
  | activateFallbackRecoveredRun time live =>
      obtain ⟨head, reference, record, hstate, -, -, hplan⟩ := h
      exact admissible_planFallback hstate hplan
  | reevaluateRecoveryEvaluation time live => exact admissible_planReevaluation h
  | resolveRecoveryOutcome request time live => exact admissible_planResolution h

end Plans

/-! ## Refused plans -/

section Refusals

variable {coordinator : RunPersistenceCoordinator} {time : RunCheckpointTime}
variable {live : Option CrossRolePlausibilityContext}

theorem refusal_unavailable : coordinator.unavailableResult.Refusal := by
  unfold unavailableResult
  cases coordinator.state <;> exact refusal_result (by decide)

theorem refusal_invalidCandidate : coordinator.invalidCandidate.Refusal :=
  refusal_result (by decide)

theorem refusal_borrowedBusy : coordinator.borrowedBusyResult.Refusal := by
  have hbusy : (coordinator.result .busy).Refusal :=
    refusal_result (by decide)
  exact hbusy

theorem refuses_requireReady : Refuses coordinator.requireReady :=
  failsWith_require refusal_unavailable

theorem refuses_requireReadyOrLoaded : Refuses coordinator.requireReadyOrLoaded :=
  failsWith_require refusal_unavailable

theorem refuses_projectCandidate {candidate : RunCommandState} {ids : List CommandId}
    {trigger : RunCheckpointTrigger} :
    Refuses (coordinator.projectCandidate candidate ids trigger time) :=
  failsWith_orFail refusal_invalidCandidate

/-- A check with a result of its own is the first link of a chain. -/
theorem refuses_require_bind {β : Type} {condition : Bool}
    {status : RunPersistenceResultStatus} {step : RunPersistenceStep}
    {reason : RunPersistenceTechnicalReason}
    {next : Unit → Except RunPersistenceResult β} (hstatus : status.Refusing)
    (hnext : ∀ value, Refuses (next value)) :
    Refuses (require condition (coordinator.result status step reason) >>= next) :=
  failsWith_bind (failsWith_require (refusal_result hstatus)) hnext

theorem refuses_orFail_bind {α β : Type} {value : Option α}
    {status : RunPersistenceResultStatus} {step : RunPersistenceStep}
    {reason : RunPersistenceTechnicalReason}
    {next : α → Except RunPersistenceResult β} (hstatus : status.Refusing)
    (hnext : ∀ value, Refuses (next value)) :
    Refuses (orFail value (coordinator.result status step reason) >>= next) :=
  failsWith_bind (failsWith_orFail (refusal_result hstatus)) hnext

theorem refuses_admitCommand {decision : CommandDecision}
    {provenance : Option FreshStartSnapshotProvenance} :
    Refuses (coordinator.admitCommand decision time provenance) := by
  unfold admitCommand
  refine failsWith_bind (failsWith_require refusal_unavailable) fun _ => ?_
  refine refuses_require_bind (by decide) fun _ => ?_
  refine refuses_require_bind (by decide) fun _ => ?_
  refine failsWith_bind (failsWith_require refusal_invalidCandidate) fun _ => ?_
  refine refuses_require_bind (by decide) fun _ => ?_
  refine refuses_require_bind (by decide) fun _ => ?_
  refine refuses_require_bind (by decide) fun _ => ?_
  refine refuses_require_bind (by decide) fun _ => ?_
  refine failsWith_bind (failsWith_require refusal_invalidCandidate) fun _ => ?_
  exact failsWith_require (refusal_result (by decide))

theorem refuses_planCommand {decision : CommandDecision} {guard : CommandApplyGuard}
    {provenance : Option FreshStartSnapshotProvenance} :
    Refuses (coordinator.planCommand current decision guard time live provenance) := by
  unfold planCommand
  refine refuses_require_bind (by decide) fun _ => ?_
  refine refuses_require_bind (by decide) fun _ => ?_
  refine refuses_require_bind (by decide) fun _ => ?_
  exact failsWith_bind refuses_projectCandidate fun _ => failsWith_ok _

theorem refuses_foldTransition {decision : TransitionDecision} :
    Refuses (coordinator.foldTransition current decision) := by
  unfold foldTransition
  split
  · refine refuses_orFail_bind (by decide) fun _ => ?_
    exact refuses_orFail_bind (by decide) fun _ => failsWith_ok _
  · exact failsWith_ok _

theorem refuses_planTransition {decision : TransitionDecision} :
    Refuses (coordinator.planTransition current decision time live) := by
  unfold planTransition
  refine failsWith_bind refuses_requireReady fun _ => ?_
  refine refuses_require_bind (by decide) fun _ => ?_
  refine failsWith_bind (failsWith_require refusal_invalidCandidate) fun _ => ?_
  refine refuses_require_bind (by decide) fun _ => ?_
  refine failsWith_bind refuses_foldTransition fun _ => ?_
  refine refuses_orFail_bind (by decide) fun _ => ?_
  exact failsWith_bind refuses_projectCandidate fun _ => failsWith_ok _

theorem refuses_planPeriodic : Refuses (coordinator.planPeriodic current time live) := by
  unfold planPeriodic
  refine refuses_require_bind (by decide) fun _ => ?_
  refine failsWith_bind refuses_requireReady fun _ => ?_
  refine refuses_require_bind (by decide) fun _ => ?_
  refine refuses_orFail_bind (by decide) fun _ => ?_
  refine refuses_require_bind (by decide) fun _ => ?_
  refine refuses_require_bind (by decide) fun _ => ?_
  refine refuses_require_bind (by decide) fun _ => ?_
  refine refuses_require_bind (by decide) fun _ => ?_
  exact failsWith_bind refuses_projectCandidate fun _ => failsWith_ok _

theorem refuses_planSensorSelection {mutation : SensorSelectionStateMutation} :
    Refuses (coordinator.planSensorSelection current mutation time live) := by
  unfold planSensorSelection
  refine refuses_require_bind (by decide) fun _ => ?_
  refine failsWith_bind refuses_requireReady fun _ => ?_
  refine refuses_require_bind (by decide) fun _ => ?_
  refine refuses_require_bind (by decide) fun _ => ?_
  refine refuses_require_bind (by decide) fun _ => ?_
  refine failsWith_bind (failsWith_require refusal_invalidCandidate) fun _ => ?_
  refine failsWith_bind (failsWith_orFail refusal_invalidCandidate) fun _ => ?_
  refine refuses_require_bind (by decide) fun _ => ?_
  refine refuses_require_bind (by decide) fun _ => ?_
  refine refuses_require_bind (by decide) fun _ => ?_
  refine refuses_require_bind (by decide) fun _ => ?_
  refine failsWith_bind (failsWith_orFail refusal_invalidCandidate) fun _ => ?_
  exact failsWith_bind refuses_projectCandidate fun _ => failsWith_ok _

theorem refuses_planRecoveryCandidate {candidate : RunCommandState}
    {fallbackDirective : RunPersistenceFallbackDirective} :
    Refuses (coordinator.planRecoveryCandidate current candidate time
      fallbackDirective) := by
  unfold planRecoveryCandidate
  refine failsWith_bind refuses_requireReadyOrLoaded fun _ => ?_
  refine failsWith_bind (failsWith_require refusal_invalidCandidate) fun _ => ?_
  refine failsWith_bind (failsWith_require refusal_invalidCandidate) fun _ => ?_
  exact failsWith_bind refuses_projectCandidate fun _ => failsWith_ok _

theorem refuses_planDiscard : Refuses (coordinator.planDiscard current time) := by
  unfold planDiscard
  refine failsWith_bind refuses_requireReadyOrLoaded fun _ => ?_
  refine refuses_require_bind (by decide) fun _ => ?_
  refine refuses_require_bind (by decide) fun _ => ?_
  refine failsWith_bind (failsWith_orFail refusal_invalidCandidate) fun _ => ?_
  exact failsWith_bind refuses_projectCandidate fun _ => failsWith_ok _

theorem refuses_planRecovered {candidate : RunCommandState}
    {rollbackState : RunPersistenceCoordinatorState}
    {fallbackDirective : RunPersistenceFallbackDirective} {targetSlot : Option ℕ} :
    Refuses (coordinator.planRecovered current candidate time rollbackState
      fallbackDirective targetSlot) :=
  failsWith_bind refuses_projectCandidate fun _ => failsWith_ok _

theorem refuses_planActivation {record : RunPersistenceRawRecord}
    {live : CrossRolePlausibilityContext} :
    Refuses (coordinator.planActivation current record time live) := by
  unfold planActivation
  refine failsWith_bind (failsWith_require refusal_invalidCandidate) fun _ => ?_
  refine failsWith_bind (failsWith_orFail refusal_invalidCandidate) fun _ => ?_
  exact failsWith_bind refuses_planRecovered fun _ => failsWith_ok _

theorem refuses_planR1Activation {record : RunPersistenceRawRecord} :
    Refuses (coordinator.planR1Activation current record time live) := by
  unfold planR1Activation
  refine refuses_require_bind (by decide) fun _ => ?_
  refine refuses_orFail_bind (by decide) fun _ => ?_
  refine failsWith_bind (failsWith_orFail refusal_invalidCandidate) fun _ => ?_
  refine refuses_require_bind (by decide) fun _ => ?_
  exact failsWith_bind refuses_planRecovered fun _ => failsWith_ok _

theorem refuses_planExactFermenting {record : RunPersistenceRawRecord}
    {targetSlot : Option ℕ} {fallbackDirective : RunPersistenceFallbackDirective}
    {rollbackState : RunPersistenceCoordinatorState} {completion : Bool} :
    Refuses (coordinator.planExactFermenting current record time targetSlot
      fallbackDirective rollbackState completion) := by
  unfold planExactFermenting
  split
  · exact failsWith_error refusal_invalidCandidate
  · exact failsWith_error (refusal_result (by decide))
  · exact failsWith_bind refuses_planRecovered fun _ => failsWith_ok _

theorem refuses_planFallback {head : RunPersistenceHead}
    {reference : RunCheckpointReference} {record : RunPersistenceRawRecord}
    {live : CrossRolePlausibilityContext} :
    Refuses (coordinator.planFallback current head reference record time live) := by
  unfold planFallback
  split
  · refine failsWith_bind (failsWith_require refusal_invalidCandidate) fun _ => ?_
    exact refuses_require_bind (by decide) fun _ => refuses_planExactFermenting
  · refine failsWith_bind (failsWith_require refusal_invalidCandidate) fun _ => ?_
    exact failsWith_bind refuses_planRecovered fun _ => failsWith_ok _

theorem refuses_planReevaluation :
    Refuses (coordinator.planReevaluation current time live) := by
  unfold planReevaluation
  refine failsWith_bind refuses_requireReady fun _ => ?_
  refine refuses_orFail_bind (by decide) fun _ => ?_
  refine refuses_require_bind (by decide) fun _ => ?_
  refine refuses_require_bind (by decide) fun _ => ?_
  refine refuses_orFail_bind (by decide) fun _ => ?_
  exact failsWith_bind refuses_planRecoveryCandidate fun _ => failsWith_ok _

theorem refuses_planResolution {request : ResolveRecoveryUncertaintyRequest}
    {live : CrossRolePlausibilityContext} :
    Refuses (coordinator.planResolution current request time live) := by
  unfold planResolution
  refine failsWith_bind refuses_requireReady fun _ => ?_
  refine failsWith_bind (failsWith_require refusal_invalidCandidate) fun _ => ?_
  refine refuses_require_bind (by decide) fun _ => ?_
  refine refuses_require_bind (by decide) fun _ => ?_
  refine refuses_orFail_bind (by decide) fun _ => ?_
  refine refuses_require_bind (by decide) fun _ => ?_
  refine refuses_orFail_bind (by decide) fun _ => ?_
  exact failsWith_bind refuses_projectCandidate fun _ => failsWith_ok _

end Refusals

end Fermentationsschrank

import Fermentationsschrank.Recovery.OperationFacts

/-!
# How an operation ends

`OperationEnds` covers all operations under any faults of the store, and
`CutOperation` the stores they leave behind when the power fails.
-/

namespace Fermentationsschrank

open RunPersistenceCoordinator

variable {unknown : UnknownOutcome} {operation : RunOperation}
variable {coordinator : RunPersistenceCoordinator} {current : RunCommandState}
variable {store : RunStore}

/-- The outcome of a write; an evaluation forgets its pending revisions. -/
def PlannedWrite.Settled (planned : PlannedWrite) (current : RunCommandState)
    (ended : RunPersistenceResult × RunPersistenceCoordinator)
    (outcome : RunPersistenceOutcome) : Prop :=
  outcome = planned.settle current ended ∨
    outcome = { planned.settle current ended with
      coordinator := (planned.settle current ended).coordinator.clearPendingR1 }

/-- How an operation may end.  The state is only left in favour of the blocked
one, or of the ready one by a restored terminal run. -/
inductive OperationEnds (unknown : UnknownOutcome) (operation : RunOperation)
    (coordinator : RunPersistenceCoordinator) (current : RunCommandState)
    (store : RunStore) : RunPersistenceOutcome → RunStore → Prop
  | refused {outcome} (hfailed : outcome.result.status.Incomplete)
      (hunknown : outcome.result.status = .persistenceIndeterminate →
        outcome.coordinator.state = .blockedIndeterminate)
      (hdurability : outcome.result.durability = .unchanged)
      (hcurrent : outcome.current = current)
      (hstorage : SameStorage coordinator outcome.coordinator)
      (hids : outcome.coordinator.persistedIds = coordinator.persistedIds)
      (hstate : outcome.coordinator.state = coordinator.state ∨
        outcome.coordinator.state = .blockedIndeterminate) :
      OperationEnds unknown operation coordinator current store outcome store
  | ramOnly {outcome} (haccepting : coordinator.Accepting)
      (hdurability : outcome.result.durability = .unchanged)
      (happlied : outcome.result.status = .applied)
      (hstorage : SameStorage coordinator outcome.coordinator)
      (hids : outcome.coordinator.persistedIds = coordinator.persistedIds)
      (hstate : outcome.coordinator.state = coordinator.state ∨
        coordinator.state = .loadedActiveRun ∧ outcome.coordinator.state = .ready) :
      OperationEnds unknown operation coordinator current store outcome store
  /-- The pending revisions of an evaluation may differ before and after. -/
  | wrote {planned checkpointRevision runRevision ended outcome after}
      (hplans : operation.Plans coordinator current planned)
      (hends : WriteEnds unknown
        (coordinator.withPendingR1 checkpointRevision runRevision) planned.write store
        ended after)
      (houtcome : planned.Settled current ended outcome) :
      OperationEnds unknown operation coordinator current store outcome after

/-- The stores an operation may leave when it is cut. -/
def CutOperation (unknown : UnknownOutcome) (operation : RunOperation)
    (coordinator : RunPersistenceCoordinator) (current : RunCommandState)
    (store left : RunStore) : Prop :=
  left = store ∨ ∃ planned, operation.Plans coordinator current planned ∧
    CutStore unknown coordinator planned.write store left

/-- Every operation runs within these bounds. -/
abbrev RunsWithin (unknown : UnknownOutcome) (operation : RunOperation)
    (coordinator : RunPersistenceCoordinator) (current : RunCommandState)
    (store : RunStore) (program : RunStoreProgram RunPersistenceOutcome) : Prop :=
  Program.Ensures (stateStore unknown)
    (CutOperation unknown operation coordinator current store)
    (fun outcome after => OperationEnds unknown operation coordinator current store outcome
      after) program store

/-! ## Operations without reads -/

theorem runsWithin_done {outcome : RunPersistenceOutcome}
    (h : OperationEnds unknown operation coordinator current store outcome store) :
    RunsWithin unknown operation coordinator current store (.done outcome) :=
  ⟨.inl rfl, h⟩

theorem operationEnds_refusal {result : RunPersistenceResult}
    {after : RunPersistenceCoordinator} (h : result.Refusal)
    (hstorage : SameStorage coordinator after)
    (hids : after.persistedIds = coordinator.persistedIds)
    (hstate : after.state = coordinator.state) :
    OperationEnds unknown operation coordinator current store ⟨result, after, current⟩
      store :=
  .refused h.1.1 (fun hunknown => absurd hunknown h.1.2) h.2 rfl hstorage hids
    (.inl hstate)

theorem runsWithin_refused {result : RunPersistenceResult} (h : result.Refusal) :
    RunsWithin unknown operation coordinator current store
      (.done ⟨result, coordinator, current⟩) :=
  runsWithin_done (operationEnds_refusal h (.refl coordinator) rfl rfl)

theorem runsWithin_performWrite {plan : Except RunPersistenceResult PlannedWrite}
    (hhead : coordinator.HeadCached store)
    (hrefuses : Refuses plan)
    (hplans : ∀ planned, plan = .ok planned → operation.Plans coordinator current planned) :
    RunsWithin unknown operation coordinator current store
      (coordinator.performWrite current plan) := by
  cases plan with
  | error refused => exact runsWithin_refused (hrefuses refused rfl)
  | ok planned =>
      have hplanned := hplans planned rfl
      have hstored := hhead (admissible_of_plans hplanned).accepting
      refine Program.ensures_bind.mpr ?_
      have hwrites := ensures_writeSnapshotCore unknown planned.write hstored
      refine hwrites.mono (fun left hleft => .inr ⟨planned, hplanned, hleft⟩)
        fun ended after hleft hends => ⟨.inr ⟨planned, hplanned, hleft⟩, ?_⟩
      have hsame : WriteEnds unknown (coordinator.withPendingR1
          coordinator.pendingR1CheckpointRevision coordinator.pendingR1RunRevision)
          planned.write store ended after := hends
      exact .wrote hplanned hsame (.inl rfl)

theorem runsWithin_unlessBorrowed {program : RunStoreProgram RunPersistenceOutcome}
    (h : RunsWithin unknown operation coordinator current store program) :
    RunsWithin unknown operation coordinator current store
      (coordinator.unlessBorrowed current program) := by
  unfold unlessBorrowed
  split
  · exact runsWithin_refused refusal_borrowedBusy
  · exact h

theorem runsWithin_persistCommandInternal {decision : CommandDecision}
    {guard : CommandApplyGuard} {time : RunCheckpointTime}
    {live : Option CrossRolePlausibilityContext}
    {provenance : Option FreshStartSnapshotProvenance}
    (hhead : coordinator.HeadCached store)
    (hplans : ∀ planned, coordinator.admitCommand decision time provenance = .ok () →
      coordinator.planCommand current decision guard time live provenance = .ok planned →
      operation.Plans coordinator current planned) :
    RunsWithin unknown operation coordinator current store
      (coordinator.persistCommandInternal current decision guard time live provenance) := by
  unfold persistCommandInternal
  cases hadmitted : coordinator.admitCommand decision time provenance with
  | error refused => exact runsWithin_refused (refuses_admitCommand refused hadmitted)
  | ok _ =>
      have haccepting := accepting_of_admitCommand hadmitted
      simp only
      split
      · refine runsWithin_done ?_
        unfold applyRamOnly
        split
        · exact .ramOnly haccepting rfl rfl (.refl coordinator) rfl (.inl rfl)
        · exact operationEnds_refusal (refusal_result (by decide)) (.refl coordinator) rfl
            rfl
        · exact operationEnds_refusal (refusal_result (by decide)) (.refl coordinator) rfl
            rfl
        · exact operationEnds_refusal (refusal_result (by decide)) (.refl coordinator) rfl
            rfl
      · exact runsWithin_performWrite hhead refuses_planCommand fun planned =>
          hplans planned hadmitted

/-! ## Recoveries -/

theorem runsWithin_restoreTerminal {restored : RunCommandState}
    (hloaded : coordinator.state = .loadedActiveRun) :
    RunsWithin unknown operation coordinator current store
      (.done (coordinator.restoreTerminal restored)) :=
  runsWithin_done (.ramOnly (.inr (.inr (.inl hloaded))) rfl rfl
    ((SameStorage.refl coordinator).withState _) rfl (.inr ⟨hloaded, rfl⟩))

/-- A loaded run is restored when it is terminal, else its recovery is written. -/
theorem runsWithin_loaded {time : RunCheckpointTime}
    {plan : RunPersistenceRawRecord → Except RunPersistenceResult PlannedWrite}
    (hhead : coordinator.HeadCached store)
    (hrefuses : ∀ record, Refuses (plan record))
    (hplans : ∀ record planned, coordinator.loadedRecord = some record →
      plan record = .ok planned → operation.Plans coordinator current planned) :
    RunsWithin unknown operation coordinator current store
      (coordinator.unlessBorrowed current <|
        match coordinator.loadedRecord with
        | none => pure ⟨coordinator.unavailableResult, coordinator, current⟩
        | some record =>
            match current.processState.state with
            | .fault => pure (coordinator.restoreTerminal current)
            | .completed =>
                pure (coordinator.restoreCompleted current time.monotonicMillis)
            | _ => coordinator.performWrite current (plan record)) := by
  apply runsWithin_unlessBorrowed
  cases hrecord : coordinator.loadedRecord with
  | none => exact runsWithin_refused refusal_unavailable
  | some record =>
      have hloaded := (state_of_loadedRecord hrecord).1
      simp only
      split
      · exact runsWithin_restoreTerminal hloaded
      · exact runsWithin_restoreTerminal hloaded
      · exact runsWithin_performWrite hhead (hrefuses record) fun planned =>
          hplans record planned hrecord

theorem operationEnds_rejectR1 {start : RunPersistenceCoordinator}
    {status : RunPersistenceResultStatus} {step : RunPersistenceStep}
    {reason : RunPersistenceTechnicalReason} (hstatus : status.Refusing)
    (hstorage : SameStorage coordinator start)
    (hids : start.persistedIds = coordinator.persistedIds)
    (hstate : start.state = coordinator.state) :
    OperationEnds unknown operation coordinator current store
      (start.rejectR1 current status step reason).outcome store :=
  operationEnds_refusal (refusal_result hstatus) (hstorage.withPendingR1 none none) hids
    hstate

/-- An evaluation that cannot read the store blocks the coordinator. -/
theorem operationEnds_unreadable {step : RunPersistenceStep} :
    OperationEnds unknown operation coordinator current store
      (coordinator.enterBlockedIndeterminate.rejectR1 current .persistenceIndeterminate step
        .storeReadError).outcome store :=
  .refused (show RunPersistenceResultStatus.persistenceIndeterminate.Incomplete by decide)
    (fun _ => rfl) rfl rfl
    (((SameStorage.refl coordinator).withState _).withPendingR1 none none) rfl (.inr rfl)

/-- The same write planned with other pending revisions is the same write. -/
theorem runsWithin_activateExact {start : RunPersistenceCoordinator}
    {record : RunPersistenceRawRecord} {time : RunCheckpointTime}
    {checkpointRevision : Option UInt64} {runRevision : Option UInt32}
    (hhead : coordinator.HeadCached store)
    (hrecord : coordinator.loadedRecord = some record)
    (hstart : start = coordinator.withPendingR1 checkpointRevision runRevision) :
    Program.Ensures (stateStore unknown)
      (CutOperation unknown (.evaluateCurrentFermentingRecovery time) coordinator current
        store)
      (fun outcome after => OperationEnds unknown (.evaluateCurrentFermentingRecovery time)
        coordinator current store
        { outcome with coordinator := outcome.coordinator.clearPendingR1 } after)
      (start.activateR1ExactFermentingCore current record time none {} .loadedActiveRun
        false) store := by
  subst hstart
  unfold activateR1ExactFermentingCore
  cases hplan : (coordinator.withPendingR1 checkpointRevision
      runRevision).planExactFermenting current record time none {} .loadedActiveRun
      false with
  | error refused =>
      exact ⟨.inl rfl, operationEnds_refusal (refuses_planExactFermenting refused hplan)
        ⟨rfl, rfl, rfl, rfl, rfl, rfl, rfl⟩ rfl rfl⟩
  | ok planned =>
      have hplanned : RunOperation.Plans (.evaluateCurrentFermentingRecovery time)
          coordinator current planned := ⟨record, hrecord, hplan⟩
      have hstored := hhead (admissible_of_plans hplanned).accepting
      refine Program.ensures_bind.mpr ?_
      have hkept : store headKey =
          (coordinator.withPendingR1 checkpointRevision runRevision).currentHead.map
            (·.bytes) := hstored
      have hwrites := ensures_writeSnapshotCore unknown planned.write hkept
      refine hwrites.mono (fun left hleft => .inr ⟨planned, hplanned, hleft⟩)
        fun ended after hleft hends => ⟨.inr ⟨planned, hplanned, hleft⟩, ?_⟩
      exact .wrote hplanned hends (.inr rfl)

theorem runsWithin_evaluateConfirmed {head : RunPersistenceHead}
    {record : RunPersistenceRawRecord} {time : RunCheckpointTime}
    (hhead : coordinator.HeadCached store)
    (hrecord : coordinator.loadedRecord = some record) :
    Program.Ensures (stateStore unknown)
      (CutOperation unknown (.evaluateCurrentFermentingRecovery time) coordinator current
        store)
      (fun evaluation after => OperationEnds unknown
        (.evaluateCurrentFermentingRecovery time) coordinator current store
        evaluation.outcome after)
      (coordinator.evaluateConfirmedFermenting current head record time) store := by
  unfold evaluateConfirmedFermenting
  split
  · exact ⟨.inl rfl, operationEnds_rejectR1 (by decide) (.refl coordinator) rfl rfl⟩
  · split
    · exact ⟨.inl rfl, operationEnds_rejectR1 (by decide) (.refl coordinator)
        rfl rfl⟩
    · simp only
      split
      · exact ⟨.inl rfl, operationEnds_rejectR1 (by decide)
          ((SameStorage.refl coordinator).withPendingR1 _ _) rfl rfl⟩
      · split
        · exact ⟨.inl rfl, operationEnds_refusal (refusal_result (by decide))
            ((SameStorage.refl coordinator).withPendingR1 _ _) rfl rfl⟩
        · refine Program.ensures_bind.mpr ?_
          exact (runsWithin_activateExact hhead hrecord rfl).mono (fun _ hleft => hleft)
            fun outcome after hleft hends => ⟨hleft, hends⟩

theorem runsWithin_evaluateCurrent {time : RunCheckpointTime}
    (hhead : coordinator.HeadCached store) :
    Program.Ensures (stateStore unknown)
      (CutOperation unknown (.evaluateCurrentFermentingRecovery time) coordinator current
        store)
      (fun evaluation after => OperationEnds unknown
        (.evaluateCurrentFermentingRecovery time) coordinator current store
        evaluation.outcome after)
      (coordinator.evaluateCurrentFermentingRecovery current time) store := by
  unfold evaluateCurrentFermentingRecovery
  split
  · exact ⟨.inl rfl, operationEnds_refusal refusal_borrowedBusy (.refl coordinator) rfl rfl⟩
  · split
    · rename_i head record _ hrecord
      refine Program.ensures_bind.mpr (ensures_readStore (.inl rfl) fun reply _ => ?_)
      cases reply.bytes? with
      | none =>
          exact ⟨.inl rfl, operationEnds_unreadable⟩
      | some headBytes =>
          simp only
          split
          · refine Program.ensures_bind.mpr (ensures_readStore (.inl rfl) fun reply _ => ?_)
            cases reply.bytes? with
            | none =>
                exact ⟨.inl rfl, operationEnds_unreadable⟩
            | some slotBytes =>
                simp only
                split
                · exact runsWithin_evaluateConfirmed hhead hrecord
                · exact ⟨.inl rfl, operationEnds_rejectR1 (by decide)
                    (.refl coordinator) rfl rfl⟩
          · exact ⟨.inl rfl, operationEnds_rejectR1 (by decide)
              (.refl coordinator) rfl rfl⟩
    · refine ⟨.inl rfl, operationEnds_rejectR1 ?_ (.refl coordinator) rfl rfl⟩
      split <;> decide

theorem ensures_readOffered {crash : RunStore → Prop} {head : RunPersistenceHead}
    {reference : RunCheckpointReference} {offered : RunPersistenceRawRecord}
    {post : Option RunPersistenceRawRecord → RunStore → Prop} (hcrash : crash store)
    (hpost : ∀ record, post record store) :
    Program.Ensures (stateStore unknown) crash post
      (coordinator.readOffered current head reference offered) store := by
  unfold readOffered
  refine Program.ensures_bind.mpr (ensures_readStore hcrash fun reply _ => ?_)
  cases reply.bytes?.filter (coordinator.headStillOffers head reference) with
  | none => exact ⟨hcrash, hpost none⟩
  | some _ =>
      refine Program.ensures_bind.mpr (ensures_readStore hcrash fun reply _ => ?_)
      exact ⟨hcrash, hpost _⟩

theorem runsWithin_activateFallback {time : RunCheckpointTime}
    {live : CrossRolePlausibilityContext}
    (hhead : coordinator.HeadCached store) :
    RunsWithin unknown (.activateFallbackRecoveredRun time live) coordinator current store
      (coordinator.activateFallbackRecoveredRun current time live) := by
  apply runsWithin_unlessBorrowed
  split
  · exact runsWithin_refused refusal_unavailable
  · rename_i head reference hoffer
    obtain ⟨found, hfound, hoffered⟩ := Option.bind_eq_some_iff.mp hoffer
    split at hoffered
    · rename_i hpending
      obtain ⟨reference', hreference, hpair⟩ := Option.map_eq_some_iff.mp hoffered
      cases hpair
      split
      · exact runsWithin_refused refusal_invalidCandidate
      · refine Program.ensures_bind.mpr (ensures_readOffered (.inl rfl) fun record => ?_)
        cases record with
        | none => exact runsWithin_refused refusal_invalidCandidate
        | some record =>
            exact runsWithin_performWrite hhead refuses_planFallback fun planned hplan =>
              ⟨head, reference, record, hpending, hfound, hreference, hplan⟩
    · cases hoffered

/-! ## All operations -/

/-- How any operation ends, and where it may be cut, provided the cached head is
the stored one. -/
theorem ensures_perform (operation : RunOperation)
    (hhead : coordinator.HeadCached store) :
    RunsWithin unknown operation coordinator current store
      (operation.perform coordinator current) := by
  cases operation with
  | persistCommand decision time live =>
      exact runsWithin_unlessBorrowed (runsWithin_persistCommandInternal hhead
        fun planned hadmitted hplan => ⟨hadmitted, hplan⟩)
  | persistFreshStartCommand decision provenance time live =>
      exact runsWithin_unlessBorrowed (runsWithin_persistCommandInternal hhead
        fun planned hadmitted hplan => ⟨hadmitted, hplan⟩)
  | persistBorrowedCommand decision time live provenance =>
      refine runsWithin_unlessBorrowed ?_
      split
      · exact runsWithin_refused (refusal_result (by decide))
      · exact runsWithin_persistCommandInternal hhead
          fun planned hadmitted hplan => ⟨hadmitted, hplan⟩
  | persistTransition decision time live =>
      exact runsWithin_unlessBorrowed (runsWithin_performWrite hhead refuses_planTransition
        fun planned hplan => hplan)
  | checkpointPeriodic time live =>
      exact runsWithin_unlessBorrowed (runsWithin_performWrite hhead refuses_planPeriodic
        fun planned hplan => hplan)
  | persistSensorSelection mutation time live =>
      exact runsWithin_unlessBorrowed (runsWithin_performWrite hhead
        refuses_planSensorSelection fun planned hplan => hplan)
  | persistRecoveryCandidate candidate time directive =>
      exact runsWithin_unlessBorrowed (runsWithin_performWrite hhead
        refuses_planRecoveryCandidate fun planned hplan => hplan)
  | discardAsNoActiveRun time =>
      exact runsWithin_unlessBorrowed (runsWithin_performWrite hhead refuses_planDiscard
        fun planned hplan => hplan)
  | activateLoadedRun time live =>
      exact runsWithin_loaded hhead (fun record => refuses_planActivation)
        fun record planned hrecord hplan => ⟨record, hrecord, hplan⟩
  | activateR1EligibleRun time live =>
      exact runsWithin_loaded hhead (fun record => refuses_planR1Activation)
        fun record planned hrecord hplan => ⟨record, hrecord, hplan⟩
  | evaluateCurrentFermentingRecovery time =>
      exact Program.ensures_bind.mpr ((runsWithin_evaluateCurrent hhead).mono
        (fun _ hleft => hleft) fun evaluation after hleft hends => ⟨hleft, hends⟩)
  | activateFallbackRecoveredRun time live => exact runsWithin_activateFallback hhead
  | reevaluateRecoveryEvaluation time live =>
      exact runsWithin_unlessBorrowed (runsWithin_performWrite hhead
        refuses_planReevaluation fun planned hplan => hplan)
  | resolveRecoveryOutcome request time live =>
      exact runsWithin_unlessBorrowed (runsWithin_performWrite hhead refuses_planResolution
        fun planned hplan => hplan)

/-! ## A blocked coordinator -/

/-- No operation writes, changes the live state or leaves the blocked state. -/
theorem ensures_perform_blocked (operation : RunOperation)
    (hblocked : ¬ coordinator.Accepting) :
    Program.Ensures (stateStore unknown) (· = store)
      (fun outcome after => after = store ∧ outcome.current = current ∧
        outcome.result.status.Incomplete ∧
        outcome.coordinator.epoch = coordinator.epoch ∧
        (outcome.coordinator.state = coordinator.state ∨
          outcome.coordinator.state = .blockedIndeterminate))
      (operation.perform coordinator current) store := by
  have hplanless : ∀ planned, ¬ operation.Plans coordinator current planned :=
    fun planned hplans => hblocked (admissible_of_plans hplans).accepting
  have hperform : RunsWithin unknown operation coordinator current store
      (operation.perform coordinator current) :=
    ensures_perform operation fun haccepting => absurd haccepting hblocked
  refine hperform.mono ?_ ?_
  · rintro left (rfl | ⟨planned, hplans, -⟩)
    · rfl
    · exact absurd hplans (hplanless planned)
  · rintro outcome after - (⟨hfailed, -, -, hcurrent, hstorage, -, hstate⟩ |
      ⟨haccepting⟩ | ⟨hplans⟩)
    · exact ⟨rfl, hcurrent, hfailed, hstorage.epoch, hstate⟩
    · exact absurd haccepting hblocked
    · exact absurd hplans (hplanless _)

end Fermentationsschrank

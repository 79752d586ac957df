import Fermentationsschrank.Recovery.OperationCalls

/-!
# Full counters

A revision is never used twice.  When no revision is left, an operation that would
write reads what it would have read, and is refused with `CounterOverflow` instead.
-/

namespace Fermentationsschrank

open RunPersistenceCoordinator

/-! ## A routine that gives way -/

/-- The second routine reads what the first one reads, and is refused at the latest
where the first one goes on to write. -/
inductive GivesWay {α : Type} (refused : α → Prop) :
    RunStoreProgram α → RunStoreProgram α → Prop
  | quiet {first second} (hfirst : first.Only IsRead fun _ => True) :
      GivesWay refused first second
  | refused {first result} (hrefused : refused result) :
      GivesWay refused first (.done result)
  | read {key maxBytes next next'}
      (hnext : ∀ reply, GivesWay refused (next reply) (next' reply)) :
      GivesWay refused (.call (.read key maxBytes) next) (.call (.read key maxBytes) next')

/-- On any device on which the first routine writes, the second one is refused and
writes nothing. -/
theorem GivesWay.refuses {α : Type} {refused : α → Prop} {first second : RunStoreProgram α}
    {handler : RunStore → (request : StoreCall RunStoreKey) → StoreReply request × RunStore}
    {store left : RunStore} {key : RunStoreKey} {value : Bytes}
    (h : GivesWay refused first second)
    (hquiet : ∀ store request, IsRead request → (handler store request).2 = store)
    (hwrites : Program.Issues (fun store request reply after =>
      handler store request = (reply, after)) first store (.write key value) left) :
    refused (second.run handler store).1 ∧ (second.run handler store).2 = store := by
  induction h generalizing store with
  | quiet hfirst => exact (hfirst.issued hwrites).elim
  | refused hrefused => exact ⟨hrefused, rfl⟩
  | @read key maxBytes next next' hnext ih =>
      cases hwrites with
      | later hreply hwrites =>
          have hstore := hquiet store (.read key maxBytes) trivial
          rw [hreply] at hstore
          subst hstore
          rw [Program.run, hreply]
          exact ih _ hwrites

theorem GivesWay.bind {α β : Type} {refused : α → Prop} {refused' : β → Prop}
    {first second : RunStoreProgram α} {next : α → RunStoreProgram β}
    {next' : α → RunStoreProgram β} (h : GivesWay refused first second)
    (hquiet : ∀ result, (next result).Only IsRead fun _ => True)
    (hrefused : ∀ result, refused result →
      ∃ last, next' result = .done last ∧ refused' last) :
    GivesWay refused' (first >>= next) (second >>= next') := by
  induction h with
  | quiet hfirst => exact .quiet (Program.only_bind (hfirst.mono fun result _ => hquiet result))
  | refused hresult =>
      obtain ⟨last, hlast, hrefusal⟩ := hrefused _ hresult
      rw [Program.bind_done, hlast]
      exact .refused hrefusal
  | read _ ih => exact .read ih

/-! ## Operations -/

namespace RunPersistenceCoordinator

variable (coordinator : RunPersistenceCoordinator)

/-- No revision is left, for the slot or for the heads of a transaction. -/
def CountersFull (periodic : Bool) : Prop :=
  coordinator.nextCheckpointRevision = 0 ∨ coordinator.nextHeadRevision = 0 ∨
    periodic = false ∧ coordinator.nextHeadRevision = maxUInt64

/-- The same coordinator with revisions left. -/
def replenished : RunPersistenceCoordinator :=
  { coordinator with nextCheckpointRevision := 1, nextHeadRevision := 1 }

variable {coordinator} {write : SnapshotWrite}

theorem admitWrite_full {highWater : Option CommandId}
    (hfull : coordinator.CountersFull write.periodic)
    (hadmitted : coordinator.replenished.admitWrite write = .ok highWater) :
    coordinator.admitWrite write = .error (coordinator.result .counterOverflow) := by
  simp only [admitWrite, bind_eq_ok, require_eq_ok] at hadmitted
  obtain ⟨-, htimed, -⟩ := hadmitted
  have hcounters : ¬ (coordinator.nextCheckpointRevision ≠ 0 ∧
      coordinator.nextHeadRevision ≠ 0 ∧
      (write.periodic = true ∨ coordinator.nextHeadRevision ≠ maxUInt64)) := by
    rintro ⟨hcheckpoint, hhead, hroom⟩
    rcases hfull with hfull | hfull | ⟨hperiodic, hfull⟩
    · exact hcheckpoint hfull
    · exact hhead hfull
    · rcases hroom with hroom | hroom
      · rw [hperiodic] at hroom
        cases hroom
      · exact hroom hfull
  rw [admitWrite, htimed, require_true]
  simp only [hcounters, decide_false]
  rfl

/-- A write that is admitted with revisions left is refused without. -/
theorem writeSnapshotCore_full (hfull : coordinator.CountersFull write.periodic) :
    (coordinator.replenished.writeSnapshotCore write).Only IsRead (fun _ => True) ∨
      coordinator.writeSnapshotCore write =
        .done (coordinator.result .counterOverflow, coordinator) := by
  cases hadmitted : coordinator.replenished.admitWrite write with
  | error refused =>
      rw [writeSnapshotCore, hadmitted]
      exact .inl trivial
  | ok highWater =>
      refine .inr ?_
      rw [writeSnapshotCore, admitWrite_full hfull hadmitted]
      rfl

end RunPersistenceCoordinator

/-- The operation is refused for want of a revision. -/
abbrev RunPersistenceOutcome.Overflowed (outcome : RunPersistenceOutcome) : Prop :=
  outcome.result.status = .counterOverflow

section

variable {coordinator : RunPersistenceCoordinator} {current : RunCommandState}
variable {time : RunCheckpointTime} {periodic : Bool}

/-- Without revisions the plan is the same, or is refused for want of one. -/
def PlansFull (periodic : Bool) (first second : Except RunPersistenceResult PlannedWrite) :
    Prop :=
  ∀ planned, first = .ok planned → planned.write.periodic = periodic ∧
    (second = .ok planned ∨
      ∃ refused, second = .error refused ∧ refused.status = .counterOverflow)

theorem givesWay_performWrite {first second : Except RunPersistenceResult PlannedWrite}
    (hfull : coordinator.CountersFull periodic) (hplans : PlansFull periodic first second) :
    GivesWay RunPersistenceOutcome.Overflowed
      (coordinator.replenished.performWrite current first)
      (coordinator.performWrite current second) := by
  cases hfirst : first with
  | error refused => exact .quiet trivial
  | ok planned =>
      obtain ⟨hperiodic, rfl | ⟨refused, rfl, hrefused⟩⟩ := hplans planned hfirst
      · rw [← hperiodic] at hfull
        show GivesWay _ (coordinator.replenished.commitWrite current planned)
          (coordinator.commitWrite current planned)
        rw [commitWrite, commitWrite]
        rcases writeSnapshotCore_full hfull with hquiet | hrefused
        · exact .quiet (Program.only_bind (hquiet.mono fun _ _ => trivial))
        · rw [hrefused, Program.bind_done]
          exact .refused rfl
      · exact .refused hrefused

theorem givesWay_unlessBorrowed {first second : RunStoreProgram RunPersistenceOutcome}
    (h : GivesWay RunPersistenceOutcome.Overflowed first second) :
    GivesWay RunPersistenceOutcome.Overflowed
      (coordinator.replenished.unlessBorrowed current first)
      (coordinator.unlessBorrowed current second) := by
  by_cases hborrowed : coordinator.commandBorrowed = true
  · refine .quiet ?_
    rw [unlessBorrowed, if_pos (show coordinator.replenished.commandBorrowed = true from
      hborrowed)]
    trivial
  · rw [unlessBorrowed, unlessBorrowed, if_neg hborrowed,
      if_neg (show ¬ coordinator.replenished.commandBorrowed = true from hborrowed)]
    exact h

/-! ### What is planned -/

/-- The periodic checkpoint writes one head, every other operation two. -/
def RunOperation.isPeriodic : RunOperation → Bool
  | .checkpointPeriodic _ _ => true
  | _ => false

theorem periodic_planExactFermenting {record : RunPersistenceRawRecord}
    {targetSlot : Option ℕ} {directive : RunPersistenceFallbackDirective}
    {rollbackState : RunPersistenceCoordinatorState} {completion : Bool}
    {planned : PlannedWrite}
    (h : coordinator.planExactFermenting current record time targetSlot directive
      rollbackState completion = .ok planned) : planned.write.periodic = false := by
  obtain ⟨candidate, write, -, hwrite, rfl⟩ := planExactFermenting_eq_ok h
  obtain ⟨snapshot, -, rfl⟩ := planRecovered_eq_ok.mp hwrite
  rfl

theorem periodic_planFallback {head : RunPersistenceHead}
    {reference : RunCheckpointReference} {record : RunPersistenceRawRecord}
    {live : CrossRolePlausibilityContext} {planned : PlannedWrite}
    (h : coordinator.planFallback current head reference record time live = .ok planned) :
    planned.write.periodic = false := by
  rw [planFallback] at h
  split at h
  · simp only [bind_eq_ok] at h
    obtain ⟨-, -, -, -, h⟩ := h
    exact periodic_planExactFermenting h
  · simp only [bind_eq_ok] at h
    obtain ⟨-, -, write, hwrite, hplanned⟩ := h
    cases hplanned
    obtain ⟨snapshot, -, rfl⟩ := planRecovered_eq_ok.mp hwrite
    rfl

theorem periodic_of_plans {operation : RunOperation} {planned : PlannedWrite}
    (h : operation.Plans coordinator current planned) :
    planned.write.periodic = operation.isPeriodic := by
  cases operation with
  | persistCommand decision time live =>
      obtain ⟨snapshot, -, -, -, rfl⟩ := planCommand_eq_ok h.2
      rfl
  | persistFreshStartCommand decision provenance time live =>
      obtain ⟨snapshot, -, -, -, rfl⟩ := planCommand_eq_ok h.2
      rfl
  | persistBorrowedCommand decision time live provenance =>
      obtain ⟨snapshot, -, -, -, rfl⟩ := planCommand_eq_ok h.2
      rfl
  | persistTransition decision time live =>
      obtain ⟨_, _, snapshot, -, -, -, -, -, -, -, -, rfl⟩ := planTransition_eq_ok h
      rfl
  | checkpointPeriodic time live =>
      obtain ⟨record, snapshot, -, -, -, -, -, rfl⟩ := planPeriodic_eq_ok h
      rfl
  | persistSensorSelection mutation time live =>
      obtain ⟨_, _, snapshot, -, -, -, -, -, -, -, -, -, -, -, rfl⟩ :=
        planSensorSelection_eq_ok h
      rfl
  | persistRecoveryCandidate candidate time directive =>
      obtain ⟨snapshot, -, -, -, -, rfl⟩ := planRecoveryCandidate_eq_ok h
      rfl
  | discardAsNoActiveRun time =>
      obtain ⟨candidate, snapshot, -, -, -, -, -, rfl⟩ := planDiscard_eq_ok h
      rfl
  | activateLoadedRun time live =>
      obtain ⟨record, -, hplan⟩ := h
      obtain ⟨candidate, directive, write, -, -, hwrite, rfl⟩ := planActivation_eq_ok hplan
      obtain ⟨snapshot, -, rfl⟩ := planRecovered_eq_ok.mp hwrite
      rfl
  | activateR1EligibleRun time live =>
      obtain ⟨record, -, hplan⟩ := h
      obtain ⟨readings, candidate, write, -, -, -, -, hwrite, rfl⟩ :=
        planR1Activation_eq_ok hplan
      obtain ⟨snapshot, -, rfl⟩ := planRecovered_eq_ok.mp hwrite
      rfl
  | evaluateCurrentFermentingRecovery time =>
      obtain ⟨record, -, hplan⟩ := h
      exact periodic_planExactFermenting hplan
  | activateFallbackRecoveredRun time live =>
      obtain ⟨head, reference, record, -, -, -, hplan⟩ := h
      exact periodic_planFallback hplan
  | reevaluateRecoveryEvaluation time live =>
      obtain ⟨_, _, _, base, -, -, -, -, hbase, rfl⟩ := planReevaluation_eq_ok h
      obtain ⟨snapshot, -, -, -, -, rfl⟩ := planRecoveryCandidate_eq_ok hbase
      rfl
  | resolveRecoveryOutcome request time live =>
      obtain ⟨_, _, _, _, snapshot, -, -, -, -, -, -, -, -, rfl⟩ := planResolution_eq_ok h
      rfl

theorem plansFull_refl {plan : Except RunPersistenceResult PlannedWrite}
    (h : ∀ planned, plan = .ok planned → planned.write.periodic = periodic) :
    PlansFull periodic plan plan := fun planned hplan => ⟨h planned hplan, .inl hplan⟩

theorem plansFull_command {decision : CommandDecision} {guard : CommandApplyGuard}
    {live : Option CrossRolePlausibilityContext}
    {provenance : Option FreshStartSnapshotProvenance} :
    PlansFull false
      (coordinator.replenished.planCommand current decision guard time live provenance)
      (coordinator.planCommand current decision guard time live provenance) := by
  intro planned hplan
  simp only [planCommand, bind_eq_ok, require_eq_ok] at hplan
  obtain ⟨-, hstale, -, happlied, -, -, snapshot, hsnapshot, hplanned⟩ := hplan
  cases hplanned
  refine ⟨rfl, ?_⟩
  by_cases hnext : coordinator.nextCheckpointRevision = 0
  · refine .inr ⟨coordinator.result .counterOverflow, ?_, rfl⟩
    rw [planCommand]
    simp only [hstale, happlied, require_true, ok_bind]
    rw [decide_eq_false (not_not.mpr hnext)]
    rfl
  · refine .inl ?_
    simp only [planCommand, bind_eq_ok, require_eq_ok, decide_eq_true_eq]
    exact ⟨(), of_decide_eq_true hstale, (), of_decide_eq_true happlied, (), hnext,
      snapshot, hsnapshot, rfl⟩

theorem plansFull_sensorSelection {mutation : SensorSelectionStateMutation}
    {live : Option CrossRolePlausibilityContext} :
    PlansFull false
      (coordinator.replenished.planSensorSelection current mutation time live)
      (coordinator.planSensorSelection current mutation time live) := by
  intro planned hplan
  simp only [planSensorSelection, bind_eq_ok, require_eq_ok, orFail_eq_ok] at hplan
  obtain ⟨-, hfilled, _, hready, -, hactive, -, hselected, -, hstatus, -, hmode, persisted,
    hpersisted, -, hcause, -, htime, -, hrevision, -, -, candidate, hcandidate, snapshot,
    hsnapshot, hplanned⟩ := hplan
  cases hplanned
  have hready' : coordinator.requireReady = .ok () := hready
  refine ⟨rfl, ?_⟩
  by_cases hnext : coordinator.nextCheckpointRevision = 0
  · refine .inr ⟨coordinator.result .counterOverflow, ?_, rfl⟩
    rw [planSensorSelection]
    have hfilled' : decide (coordinator.state ≠ .readyEmpty) = true := hfilled
    simp only [hfilled', hready', hactive, hselected, hstatus, hmode, hpersisted, hcause,
      htime, hrevision, require_true, orFail_some, ok_bind]
    rw [decide_eq_false (not_not.mpr hnext)]
    rfl
  · refine .inl ?_
    simp only [planSensorSelection, bind_eq_ok, require_eq_ok, orFail_eq_ok]
    exact ⟨(), hfilled, (), hready', (), hactive, (), hselected, (), hstatus, (), hmode,
      persisted, hpersisted, (), hcause, (), htime, (), hrevision, (),
      decide_eq_true hnext, candidate, hcandidate, snapshot, hsnapshot, rfl⟩

/-! ### Every operation -/

theorem givesWay_persistCommandInternal {decision : CommandDecision}
    {guard : CommandApplyGuard} {live : Option CrossRolePlausibilityContext}
    {provenance : Option FreshStartSnapshotProvenance}
    (hfull : coordinator.CountersFull false) :
    GivesWay RunPersistenceOutcome.Overflowed
      (coordinator.replenished.persistCommandInternal current decision guard time live
        provenance)
      (coordinator.persistCommandInternal current decision guard time live provenance) := by
  rw [persistCommandInternal, persistCommandInternal,
    show coordinator.replenished.admitCommand decision time provenance =
      coordinator.admitCommand decision time provenance from rfl]
  cases coordinator.admitCommand decision time provenance with
  | error refused => exact .quiet trivial
  | ok _ =>
      simp only
      split
      · exact .quiet trivial
      · exact givesWay_performWrite hfull plansFull_command

theorem givesWay_loaded (hfull : coordinator.CountersFull false)
    {first second : RunPersistenceRawRecord → Except RunPersistenceResult PlannedWrite}
    (hplans : ∀ record, coordinator.loadedRecord = some record →
      PlansFull false (first record) (second record)) :
    GivesWay RunPersistenceOutcome.Overflowed
      (coordinator.replenished.unlessBorrowed current <|
        match coordinator.replenished.loadedRecord with
        | none =>
            pure ⟨coordinator.replenished.unavailableResult, coordinator.replenished,
              current⟩
        | some record =>
            match current.processState.state with
            | .fault => pure (coordinator.replenished.restoreTerminal current)
            | .completed =>
                pure (coordinator.replenished.restoreCompleted current time.monotonicMillis)
            | _ => coordinator.replenished.performWrite current (first record))
      (coordinator.unlessBorrowed current <|
        match coordinator.loadedRecord with
        | none => pure ⟨coordinator.unavailableResult, coordinator, current⟩
        | some record =>
            match current.processState.state with
            | .fault => pure (coordinator.restoreTerminal current)
            | .completed =>
                pure (coordinator.restoreCompleted current time.monotonicMillis)
            | _ => coordinator.performWrite current (second record)) := by
  apply givesWay_unlessBorrowed
  rw [show coordinator.replenished.loadedRecord = coordinator.loadedRecord from rfl]
  cases hrecord : coordinator.loadedRecord with
  | none => exact .quiet trivial
  | some record =>
      simp only
      split
      · exact .quiet trivial
      · exact .quiet trivial
      · exact givesWay_performWrite hfull (hplans record hrecord)

theorem givesWay_evaluateConfirmed {head : RunPersistenceHead}
    {record : RunPersistenceRawRecord} (hfull : coordinator.CountersFull false) :
    GivesWay (fun evaluation => evaluation.outcome.Overflowed)
      (coordinator.replenished.evaluateConfirmedFermenting current head record time)
      (coordinator.evaluateConfirmedFermenting current head record time) := by
  rw [evaluateConfirmedFermenting, evaluateConfirmedFermenting,
    show coordinator.replenished.fermentingEvaluable current head record =
      coordinator.fermentingEvaluable current head record from rfl,
    show coordinator.replenished.pendingR1Agrees current record =
      coordinator.pendingR1Agrees current record from rfl]
  split
  · exact .quiet trivial
  split
  · exact .quiet trivial
  simp only
  split
  · exact .quiet trivial
  split
  · exact .quiet trivial
  let pending := coordinator.withPendingR1 (some record.checkpointRevision)
    (some current.runRevision)
  have hpending : pending.CountersFull false := hfull
  have hplans : PlansFull false
      (pending.planExactFermenting current record time none {} .loadedActiveRun false)
      (pending.planExactFermenting current record time none {} .loadedActiveRun false) :=
    plansFull_refl fun _ => periodic_planExactFermenting
  have hwrites := @givesWay_performWrite pending current false _ _ hpending hplans
  exact hwrites.bind (fun _ => trivial) fun outcome hoverflowed => ⟨_, rfl, hoverflowed⟩

theorem givesWay_evaluateCurrent (hfull : coordinator.CountersFull false) :
    GivesWay (fun evaluation => evaluation.outcome.Overflowed)
      (coordinator.replenished.evaluateCurrentFermentingRecovery current time)
      (coordinator.evaluateCurrentFermentingRecovery current time) := by
  rw [evaluateCurrentFermentingRecovery, evaluateCurrentFermentingRecovery,
    show coordinator.replenished.currentHead = coordinator.currentHead from rfl,
    show coordinator.replenished.loadedRecord = coordinator.loadedRecord from rfl]
  by_cases hborrowed : coordinator.commandBorrowed = true
  · refine .quiet ?_
    rw [if_pos (show coordinator.replenished.commandBorrowed = true from hborrowed)]
    trivial
  · rw [if_neg hborrowed,
      if_neg (show ¬ coordinator.replenished.commandBorrowed = true from hborrowed)]
    split
    · rename_i head record _ _
      refine .read fun headReply => ?_
      dsimp only [Program.bind]
      cases headReply.bytes? with
      | none => exact .quiet trivial
      | some headBytes =>
          simp only
          rw [show coordinator.replenished.headStillCurrent head headBytes =
            coordinator.headStillCurrent head headBytes from rfl]
          split
          · refine .read fun slotReply => ?_
            dsimp only [Program.bind]
            cases slotReply.bytes? with
            | none => exact .quiet trivial
            | some slotBytes =>
                simp only
                rw [show coordinator.replenished.slotStillCurrent current head.current
                    slotBytes =
                  coordinator.slotStillCurrent current head.current slotBytes from rfl]
                split
                · exact givesWay_evaluateConfirmed hfull
                · exact .quiet trivial
          · exact .quiet trivial
    · exact .quiet trivial

theorem givesWay_readOffered {head : RunPersistenceHead}
    {reference : RunCheckpointReference} {offered : RunPersistenceRawRecord}
    {first second : Option RunPersistenceRawRecord → RunStoreProgram RunPersistenceOutcome}
    (h : ∀ record, GivesWay RunPersistenceOutcome.Overflowed (first record)
      (second record)) :
    GivesWay RunPersistenceOutcome.Overflowed
      (coordinator.replenished.readOffered current head reference offered >>= first)
      (coordinator.readOffered current head reference offered >>= second) := by
  rw [readOffered, readOffered]
  refine .read fun headReply => ?_
  dsimp only [Program.bind]
  rw [show coordinator.replenished.headStillOffers head reference =
    coordinator.headStillOffers head reference from rfl]
  cases headReply.bytes?.filter (coordinator.headStillOffers head reference) with
  | none => exact h none
  | some _ => exact .read fun slotReply => h _

theorem givesWay_activateFallback {live : CrossRolePlausibilityContext}
    (hfull : coordinator.CountersFull false) :
    GivesWay RunPersistenceOutcome.Overflowed
      (coordinator.replenished.activateFallbackRecoveredRun current time live)
      (coordinator.activateFallbackRecoveredRun current time live) := by
  apply givesWay_unlessBorrowed
  rw [show coordinator.replenished.currentHead = coordinator.currentHead from rfl,
    show coordinator.replenished.state = coordinator.state from rfl]
  split
  · exact .quiet trivial
  · rename_i head reference _
    rw [show coordinator.replenished.offeredFallback head reference current =
      coordinator.offeredFallback head reference current from rfl]
    split
    · exact .quiet trivial
    · refine givesWay_readOffered fun record => ?_
      cases record with
      | none => exact .quiet trivial
      | some record =>
          exact givesWay_performWrite hfull (plansFull_refl fun _ => periodic_planFallback)

end

/-- Where an operation would write with revisions left, it is refused without. -/
theorem givesWay_perform {coordinator : RunPersistenceCoordinator}
    {current : RunCommandState} (operation : RunOperation)
    (hfull : coordinator.CountersFull operation.isPeriodic) :
    GivesWay RunPersistenceOutcome.Overflowed
      (operation.perform coordinator.replenished current)
      (operation.perform coordinator current) := by
  cases operation with
  | persistCommand decision time live =>
      exact givesWay_unlessBorrowed (givesWay_persistCommandInternal hfull)
  | persistFreshStartCommand decision provenance time live =>
      exact givesWay_unlessBorrowed (givesWay_persistCommandInternal hfull)
  | persistBorrowedCommand decision time live provenance =>
      refine givesWay_unlessBorrowed ?_
      split
      · exact .quiet trivial
      · exact givesWay_persistCommandInternal hfull
  | persistSensorSelection mutation time live =>
      exact givesWay_unlessBorrowed (givesWay_performWrite hfull plansFull_sensorSelection)
  | activateLoadedRun time live =>
      refine givesWay_loaded hfull fun record hrecord => plansFull_refl fun planned hplan => ?_
      exact @periodic_of_plans coordinator current (.activateLoadedRun time live) planned
        ⟨record, hrecord, hplan⟩
  | activateR1EligibleRun time live =>
      refine givesWay_loaded hfull fun record hrecord => plansFull_refl fun planned hplan => ?_
      exact @periodic_of_plans coordinator current (.activateR1EligibleRun time live) planned
        ⟨record, hrecord, hplan⟩
  | evaluateCurrentFermentingRecovery time =>
      exact (givesWay_evaluateCurrent hfull).bind (fun _ => trivial)
        fun evaluation hoverflowed => ⟨_, rfl, hoverflowed⟩
  | activateFallbackRecoveredRun time live => exact givesWay_activateFallback hfull
  | persistTransition decision time live =>
      exact givesWay_unlessBorrowed (givesWay_performWrite hfull (plansFull_refl
        fun planned => @periodic_of_plans coordinator current
          (.persistTransition decision time live) planned))
  | checkpointPeriodic time live =>
      exact givesWay_unlessBorrowed (givesWay_performWrite hfull (plansFull_refl
        fun planned => @periodic_of_plans coordinator current (.checkpointPeriodic time live)
          planned))
  | persistRecoveryCandidate candidate time directive =>
      exact givesWay_unlessBorrowed (givesWay_performWrite hfull (plansFull_refl
        fun planned => @periodic_of_plans coordinator current
          (.persistRecoveryCandidate candidate time directive) planned))
  | discardAsNoActiveRun time =>
      exact givesWay_unlessBorrowed (givesWay_performWrite hfull (plansFull_refl
        fun planned => @periodic_of_plans coordinator current (.discardAsNoActiveRun time)
          planned))
  | reevaluateRecoveryEvaluation time live =>
      exact givesWay_unlessBorrowed (givesWay_performWrite hfull (plansFull_refl
        fun planned => @periodic_of_plans coordinator current
          (.reevaluateRecoveryEvaluation time live) planned))
  | resolveRecoveryOutcome request time live =>
      exact givesWay_unlessBorrowed (givesWay_performWrite hfull (plansFull_refl
        fun planned => @periodic_of_plans coordinator current
          (.resolveRecoveryOutcome request time live) planned))

end Fermentationsschrank

import Fermentationsschrank.Recovery.OperationEnds

/-!
# The calls of an operation

An operation reads the store as it likes, and writes it only by a transaction it has
planned: the slot and the head, or the announcement, the slot and the head.
-/

namespace Fermentationsschrank

open RunPersistenceCoordinator

def IsRead : StoreCall RunStoreKey → Prop
  | .read _ _ => True
  | .write _ _ => False

theorem only_readHead {post : StateStoreReadResult → Prop} (h : ∀ reply, post reply) :
    readHead.Only IsRead post := ⟨trivial, h⟩

theorem only_readSlot {slot : ℕ} {post : StateStoreReadResult → Prop}
    (h : ∀ reply, post reply) : (readSlot slot).Only IsRead post := ⟨trivial, h⟩

variable {unknown : UnknownOutcome} {store : RunStore}
variable {allowed : RunStore → StoreCall RunStoreKey → Prop}
variable {coordinator : RunPersistenceCoordinator} {current : RunCommandState}

theorem decodeRunPersistenceRecord_bytes {bytes : Bytes} {epoch : UInt64}
    {record : RunPersistenceRawRecord}
    (h : decodeRunPersistenceRecord bytes epoch = some record) : record.bytes = bytes := by
  simp only [decodeRunPersistenceRecord, Option.bind_eq_bind, Option.bind_eq_some_iff,
    Option.some.injEq] at h
  obtain ⟨envelope, -, snapshot, -, rfl⟩ := h
  rfl

/-- Whatever is read again of the fallback, it is the record of the offered bytes. -/
theorem only_readOffered {head : RunPersistenceHead} {reference : RunCheckpointReference}
    {offered : RunPersistenceRawRecord} {post : Option RunPersistenceRawRecord → Prop}
    (hnone : post none)
    (hsome : ∀ record, decodeRunPersistenceRecord offered.bytes coordinator.epoch =
      some record → post (some record)) :
    (coordinator.readOffered current head reference offered).Only IsRead post := by
  refine Program.only_bind (only_readHead fun headReply => ?_)
  cases headReply.bytes?.filter (coordinator.headStillOffers head reference) with
  | none => exact hnone
  | some _ =>
      refine Program.only_bind (only_readSlot fun slotReply => ?_)
      show post (slotReply.bytes?.bind
        (coordinator.slotStillOffers current reference offered))
      cases hread : slotReply.bytes?.bind
          (coordinator.slotStillOffers current reference offered) with
      | none => exact hnone
      | some record =>
          obtain ⟨bytes, -, hoffers⟩ := Option.bind_eq_some_iff.mp hread
          obtain ⟨hdecodes, hmatches⟩ := Option.filter_eq_some_iff.mp hoffers
          simp only [Bool.and_eq_true, decide_eq_true_eq] at hmatches
          apply hsome
          rw [← hmatches.2, decodeRunPersistenceRecord_bytes hdecodes]
          exact hdecodes

theorem quiet_reads (world : RunStore) (request : StoreCall RunStoreKey)
    (reply : StoreReply request) (middle : RunStore) (hread : IsRead request)
    (hreply : stateStore unknown world request reply middle) : middle = world := by
  cases request with
  | read key maxBytes => exact hreply.2
  | write key value => exact hread.elim

/-- Reading is always allowed. -/
abbrev AllowsReads (allowed : RunStore → StoreCall RunStoreKey → Prop) : Prop :=
  ∀ store request, IsRead request → allowed store request

/-! ## One write -/

theorem finishes_writeExact {key : RunStoreKey} {bytes : Bytes} {old : Option Bytes}
    {maxBytes : ℕ} {outcome : RunPersistenceStoreWriteResult} {after : RunStore}
    (h : Program.Finishes (stateStore unknown) (writeExact key bytes old maxBytes) store
      outcome after) : WriteExactAs unknown store key bytes old after outcome :=
  (@ensures_writeExact unknown (fun _ => True) store key bytes old maxBytes _ trivial
    (fun _ _ => trivial) fun _ _ hwrite => hwrite).finishes h

theorem respects_writeExact (hreads : AllowsReads allowed) {key : RunStoreKey}
    {bytes : Bytes} {old : Option Bytes} {maxBytes : ℕ}
    (hwrite : allowed store (.write key bytes)) :
    Program.Respects (stateStore unknown) allowed (writeExact key bytes old maxBytes)
      store := by
  refine ⟨hwrite, fun status after _ => ?_⟩
  cases status with
  | commitOutcomeUnknown => exact ⟨hreads _ _ trivial, fun _ _ _ => trivial⟩
  | _ => trivial

/-! ## One transaction -/

/-- The writes of a transaction, each in the store it meets. -/
structure AllowsTransaction (allowed : RunStore → StoreCall RunStoreKey → Prop)
    (transaction : CheckpointTransaction) (store : RunStore) : Prop where
  slot : transaction.preparedBytes = none →
    allowed store (.write (slotKey transaction.target) transaction.record.bytes)
  head : transaction.preparedBytes = none →
    allowed (transaction.slotStore store) (.write headKey transaction.committedBytes)
  announcement : ∀ preparedBytes, transaction.preparedBytes = some preparedBytes →
    allowed store (.write headKey preparedBytes)
  announcedSlot : ∀ preparedBytes, transaction.preparedBytes = some preparedBytes →
    allowed (CheckpointTransaction.preparedStore store preparedBytes)
      (.write (slotKey transaction.target) transaction.record.bytes)
  announcedHead : ∀ preparedBytes, transaction.preparedBytes = some preparedBytes →
    allowed (transaction.slotStore
        (CheckpointTransaction.preparedStore store preparedBytes))
      (.write headKey transaction.committedBytes)

section Transaction

variable {write : SnapshotWrite} {transaction : CheckpointTransaction}
variable {oldSlot : Option Bytes}

theorem respects_writePeriodic (hreads : AllowsReads allowed)
    (hperiodic : transaction.preparedBytes = none)
    (h : AllowsTransaction allowed transaction store) :
    Program.Respects (stateStore unknown) allowed
      (coordinator.writePeriodic write transaction oldSlot) store := by
  refine Program.respects_bind (respects_writeExact hreads (h.slot hperiodic)) ?_
  intro outcome middle hrun
  cases outcome with
  | written =>
      have hslot := finishes_writeExact hrun
      cases hslot
      refine Program.respects_bind (respects_writeExact hreads (h.head hperiodic)) ?_
      intro outcome last _
      cases outcome <;> trivial
  | _ => trivial

theorem respects_writePrepared (hreads : AllowsReads allowed) {preparedBytes : Bytes}
    (hprepared : transaction.preparedBytes = some preparedBytes)
    (h : AllowsTransaction allowed transaction store) :
    Program.Respects (stateStore unknown) allowed
      (coordinator.writePrepared write transaction preparedBytes oldSlot) store := by
  refine Program.respects_bind
    (respects_writeExact hreads (h.announcement _ hprepared)) ?_
  intro outcome middle hrun
  cases outcome with
  | written =>
      have hannounced := finishes_writeExact hrun
      cases hannounced
      refine Program.respects_bind
        (respects_writeExact hreads (h.announcedSlot _ hprepared)) ?_
      intro outcome middle hrun
      cases outcome with
      | written =>
          have hslot := finishes_writeExact hrun
          cases hslot
          refine Program.respects_bind
            (respects_writeExact hreads (h.announcedHead _ hprepared)) ?_
          intro outcome last _
          cases outcome <;> trivial
      | _ => trivial
  | _ => trivial

theorem respects_writeSnapshotTransaction (hreads : AllowsReads allowed)
    (h : AllowsTransaction allowed transaction store) :
    Program.Respects (stateStore unknown) allowed
      (coordinator.writeSnapshotTransaction write transaction) store := by
  refine ⟨hreads _ _ trivial, fun reply middle hreply => ?_⟩
  obtain ⟨-, rfl⟩ := hreply
  dsimp only [Program.bind]
  cases physicalTarget reply with
  | none => trivial
  | some oldSlot =>
      cases hprepared : transaction.preparedBytes with
      | none => exact respects_writePeriodic hreads hprepared h
      | some preparedBytes => exact respects_writePrepared hreads hprepared h

theorem respects_writeSnapshotCore (hreads : AllowsReads allowed)
    (h : ∀ transaction, coordinator.Plans write transaction →
      AllowsTransaction allowed transaction store) :
    Program.Respects (stateStore unknown) allowed (coordinator.writeSnapshotCore write)
      store := by
  rw [writeSnapshotCore]
  cases hadmitted : coordinator.admitWrite write with
  | error refused => trivial
  | ok highWater =>
      simp only
      cases hplan : coordinator.planTransaction write highWater with
      | error refused => trivial
      | ok transaction =>
          exact respects_writeSnapshotTransaction hreads
            (h transaction ⟨highWater, hadmitted, hplan⟩)

end Transaction

/-! ## One operation -/

/-- All transactions an operation may plan are allowed. -/
def AllowsPlans (allowed : RunStore → StoreCall RunStoreKey → Prop)
    (operation : RunOperation) (coordinator : RunPersistenceCoordinator)
    (current : RunCommandState) (store : RunStore) : Prop :=
  ∀ planned, operation.Plans coordinator current planned → ∀ transaction,
    coordinator.Plans planned.write transaction → AllowsTransaction allowed transaction store

section Operation

variable {operation : RunOperation}

theorem respects_performWrite (hreads : AllowsReads allowed)
    {start : RunPersistenceCoordinator}
    {plan : Except RunPersistenceResult PlannedWrite}
    (h : ∀ planned, plan = .ok planned → ∀ transaction,
      start.Plans planned.write transaction → AllowsTransaction allowed transaction store) :
    Program.Respects (stateStore unknown) allowed (start.performWrite current plan)
      store := by
  cases plan with
  | error refused => trivial
  | ok planned =>
      exact Program.respects_bind (respects_writeSnapshotCore hreads (h planned rfl))
        fun _ _ _ => trivial

theorem respects_unlessBorrowed {program : RunStoreProgram RunPersistenceOutcome}
    (h : Program.Respects (stateStore unknown) allowed program store) :
    Program.Respects (stateStore unknown) allowed
      (coordinator.unlessBorrowed current program) store := by
  rw [unlessBorrowed]
  split
  · trivial
  · exact h

theorem respects_persistCommandInternal (hreads : AllowsReads allowed)
    {decision : CommandDecision} {guard : CommandApplyGuard} {time : RunCheckpointTime}
    {live : Option CrossRolePlausibilityContext}
    {provenance : Option FreshStartSnapshotProvenance}
    (h : ∀ planned, coordinator.admitCommand decision time provenance = .ok () →
      coordinator.planCommand current decision guard time live provenance = .ok planned →
      ∀ transaction, coordinator.Plans planned.write transaction →
        AllowsTransaction allowed transaction store) :
    Program.Respects (stateStore unknown) allowed
      (coordinator.persistCommandInternal current decision guard time live provenance)
      store := by
  rw [persistCommandInternal]
  cases hadmitted : coordinator.admitCommand decision time provenance with
  | error refused => trivial
  | ok _ =>
      simp only
      split
      · trivial
      · exact respects_performWrite hreads fun planned => h planned hadmitted

theorem respects_loaded (hreads : AllowsReads allowed) {time : RunCheckpointTime}
    {plan : RunPersistenceRawRecord → Except RunPersistenceResult PlannedWrite}
    (h : ∀ record planned, coordinator.loadedRecord = some record →
      plan record = .ok planned → ∀ transaction,
        coordinator.Plans planned.write transaction →
          AllowsTransaction allowed transaction store) :
    Program.Respects (stateStore unknown) allowed
      (coordinator.unlessBorrowed current <|
        match coordinator.loadedRecord with
        | none => pure ⟨coordinator.unavailableResult, coordinator, current⟩
        | some record =>
            match current.processState.state with
            | .fault => pure (coordinator.restoreTerminal current)
            | .completed =>
                pure (coordinator.restoreCompleted current time.monotonicMillis)
            | _ => coordinator.performWrite current (plan record)) store := by
  apply respects_unlessBorrowed
  cases hrecord : coordinator.loadedRecord with
  | none => trivial
  | some record =>
      simp only
      split
      · trivial
      · trivial
      · exact respects_performWrite hreads fun planned => h record planned hrecord

theorem respects_evaluateCurrent (hreads : AllowsReads allowed) {time : RunCheckpointTime}
    (h : AllowsPlans allowed (.evaluateCurrentFermentingRecovery time) coordinator current
      store) :
    Program.Respects (stateStore unknown) allowed
      (coordinator.evaluateCurrentFermentingRecovery current time) store := by
  rw [evaluateCurrentFermentingRecovery]
  split
  · trivial
  · split
    · rename_i head record _ hrecord
      refine ⟨hreads _ _ trivial, fun headReply middle hreply => ?_⟩
      obtain ⟨-, rfl⟩ := hreply
      dsimp only [Program.bind]
      cases headReply.bytes? with
      | none => trivial
      | some headBytes =>
          simp only
          split
          · refine ⟨hreads _ _ trivial, fun slotReply last hreply => ?_⟩
            obtain ⟨-, rfl⟩ := hreply
            dsimp only [Program.bind]
            cases slotReply.bytes? with
            | none => trivial
            | some slotBytes =>
                simp only
                split
                · rw [evaluateConfirmedFermenting]
                  split
                  · trivial
                  split
                  · trivial
                  simp only
                  split
                  · trivial
                  split
                  · trivial
                  -- The pending revisions take no part in the write.
                  refine Program.respects_bind (respects_performWrite hreads ?_)
                    fun _ _ _ => trivial
                  intro planned hplan transaction hplans
                  exact h planned ⟨record, hrecord, hplan⟩ transaction hplans
                · trivial
          · trivial
    · trivial

theorem respects_activateFallback (hreads : AllowsReads allowed) {time : RunCheckpointTime}
    {live : CrossRolePlausibilityContext}
    (h : AllowsPlans allowed (.activateFallbackRecoveredRun time live) coordinator current
      store) :
    Program.Respects (stateStore unknown) allowed
      (coordinator.activateFallbackRecoveredRun current time live) store := by
  apply respects_unlessBorrowed
  split
  · trivial
  · rename_i head reference hoffer
    obtain ⟨found, hfound, hoffered⟩ := Option.bind_eq_some_iff.mp hoffer
    split at hoffered
    · rename_i hpending
      obtain ⟨reference', hreference, hpair⟩ := Option.map_eq_some_iff.mp hoffered
      cases hpair
      split
      · trivial
      · rename_i offered _
        have honly : (coordinator.readOffered current head reference offered).Only IsRead
            fun _ => True := only_readOffered trivial fun _ _ => trivial
        refine Program.respects_bind (honly.respects hreads) ?_
        intro record middle hrun
        obtain ⟨rfl, -⟩ := honly.finishes quiet_reads hrun
        cases record with
        | none => trivial
        | some record =>
            refine respects_performWrite hreads fun planned hplan => ?_
            exact h planned ⟨head, reference, record, hpending, hfound, hreference, hplan⟩
    · cases hoffered

/-- The calls of an operation are reads and the writes of what it has planned. -/
theorem respects_perform (hreads : AllowsReads allowed)
    (h : AllowsPlans allowed operation coordinator current store) :
    Program.Respects (stateStore unknown) allowed
      (operation.perform coordinator current) store := by
  cases operation with
  | persistCommand decision time live =>
      exact respects_unlessBorrowed (respects_persistCommandInternal hreads
        fun planned hadmitted hplan => h planned ⟨hadmitted, hplan⟩)
  | persistFreshStartCommand decision provenance time live =>
      exact respects_unlessBorrowed (respects_persistCommandInternal hreads
        fun planned hadmitted hplan => h planned ⟨hadmitted, hplan⟩)
  | persistBorrowedCommand decision time live provenance =>
      refine respects_unlessBorrowed ?_
      split
      · trivial
      · exact respects_persistCommandInternal hreads
          fun planned hadmitted hplan => h planned ⟨hadmitted, hplan⟩
  | activateLoadedRun time live =>
      exact respects_loaded hreads
        fun record planned hrecord hplan => h planned ⟨record, hrecord, hplan⟩
  | activateR1EligibleRun time live =>
      exact respects_loaded hreads
        fun record planned hrecord hplan => h planned ⟨record, hrecord, hplan⟩
  | evaluateCurrentFermentingRecovery time =>
      exact Program.respects_bind (respects_evaluateCurrent hreads h) fun _ _ _ => trivial
  | activateFallbackRecoveredRun time live => exact respects_activateFallback hreads h
  | _ => exact respects_unlessBorrowed (respects_performWrite hreads h)

end Operation

end Fermentationsschrank

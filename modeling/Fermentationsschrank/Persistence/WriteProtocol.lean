import Fermentationsschrank.Persistence.SnapshotWrite

/-!
# The write protocol

What one write of a snapshot can do to the store.  `MidWrite` names the stores
that may be left when a transaction is cut or its outcome is unknown, and
`WriteEnds` lists the ways in which the write core returns.
-/

namespace Fermentationsschrank

variable {unknown : UnknownOutcome} {crash : RunStore → Prop}

/-! ## One exact write -/

/-- The values a started write may leave behind. -/
def Leaves (unknown : UnknownOutcome) (store : RunStore) (key : RunStoreKey)
    (bytes : Bytes) (left : Option Bytes) : Prop :=
  left = some bytes ∨ unknown (store key) bytes left

/-- How an exact write may end, and the store it ends with. -/
def WriteExactAs (unknown : UnknownOutcome) (store : RunStore) (key : RunStoreKey)
    (bytes : Bytes) (old : Option Bytes) (after : RunStore) :
    RunPersistenceStoreWriteResult → Prop
  | .written => after = store.put key (some bytes)
  | .writeError | .capacityError => after = store
  | .notWritten => after = store.put key old
  | .indeterminate =>
      ∃ left, Leaves unknown store key bytes left ∧ after = store.put key left

theorem writeExactAs_readback {store : RunStore} {key : RunStoreKey} {bytes : Bytes}
    {old left : Option Bytes} {maxBytes : ℕ} {reply : StateStoreReadResult}
    (hleft : unknown (store key) bytes left)
    (hreply : ReadsAs (store.put key left) key maxBytes reply) :
    WriteExactAs unknown store key bytes old (store.put key left)
      (resolveReadback bytes old reply) := by
  have hindeterminate : WriteExactAs unknown store key bytes old (store.put key left)
      .indeterminate := ⟨left, .inr hleft, rfl⟩
  cases reply with
  | readError => exact hindeterminate
  | capacityError => exact hindeterminate
  | notFound =>
      simp only [ReadsAs, StoreContents.put_same] at hreply
      subst hreply
      cases old with
      | none => rfl
      | some _ => exact hindeterminate
  | success value =>
      simp only [ReadsAs, StoreContents.put_same] at hreply
      obtain ⟨rfl, -⟩ := hreply
      simp only [resolveReadback]
      split_ifs with hnew hold
      · rw [hnew]
        rfl
      · rw [hold]
        rfl
      · exact hindeterminate

theorem ensures_writeExact {store : RunStore} {key : RunStoreKey} {bytes : Bytes}
    {old : Option Bytes} {maxBytes : ℕ}
    {post : RunPersistenceStoreWriteResult → RunStore → Prop} (hcrash : crash store)
    (hleft : ∀ left, Leaves unknown store key bytes left → crash (store.put key left))
    (hpost : ∀ outcome after, WriteExactAs unknown store key bytes old after outcome →
      post outcome after) :
    Program.Ensures (stateStore unknown) crash post (writeExact key bytes old maxBytes)
      store := by
  unfold writeExact
  rw [Program.ensures_bind]
  refine ensures_writeStore hcrash fun status after hstatus => ?_
  cases status with
  | success =>
      cases hstatus
      have hnew := hleft _ (.inl rfl)
      exact ⟨hnew, hnew, hpost .written _ rfl⟩
  | writeError =>
      cases hstatus
      exact ⟨hcrash, hcrash, hpost .writeError _ rfl⟩
  | capacityError =>
      cases hstatus
      exact ⟨hcrash, hcrash, hpost .capacityError _ rfl⟩
  | commitOutcomeUnknown =>
      obtain ⟨left, hunknown, rfl⟩ := hstatus
      have hnew := hleft _ (.inr hunknown)
      refine ⟨hnew, Program.ensures_bind.mpr ?_⟩
      refine ensures_readStore hnew fun reply hreply => ?_
      exact ⟨hnew, hpost _ _ (writeExactAs_readback hunknown hreply)⟩

/-- A write that is known to have failed leaves the store as it was, provided
the expected old value is the stored one. -/
theorem writeExactAs_definite {store after : RunStore} {key : RunStoreKey}
    {bytes : Bytes} {old : Option Bytes} {outcome : RunPersistenceStoreWriteResult}
    (hold : store key = old) (h : WriteExactAs unknown store key bytes old after outcome)
    (hwritten : outcome ≠ .written) (hknown : outcome ≠ .indeterminate) :
    after = store := by
  cases outcome with
  | written => exact absurd rfl hwritten
  | indeterminate => exact absurd rfl hknown
  | writeError => exact h
  | capacityError => exact h
  | notWritten =>
      subst hold
      exact h.trans (StoreContents.put_current store key)

/-- What holds before a write and of everything it may leave holds when it
returns. -/
theorem writeExactAs_stays {store after : RunStore} {key : RunStoreKey} {bytes : Bytes}
    {old : Option Bytes} {outcome : RunPersistenceStoreWriteResult}
    {holds : RunStore → Prop} (hold : store key = old)
    (h : WriteExactAs unknown store key bytes old after outcome) (hbefore : holds store)
    (hleft : ∀ left, Leaves unknown store key bytes left → holds (store.put key left)) :
    holds after := by
  by_cases hwritten : outcome = .written
  · subst hwritten
    cases h
    exact hleft _ (.inl rfl)
  · by_cases hunknown : outcome = .indeterminate
    · subst hunknown
      obtain ⟨left, hmay, rfl⟩ := h
      exact hleft left hmay
    · rw [writeExactAs_definite hold h hwritten hunknown]
      exact hbefore

/-! ## The stores of a transaction -/

theorem slotKey_ne_headKey (slot : ℕ) : slotKey slot ≠ headKey := by
  unfold slotKey headKey
  split <;> decide

theorem headKey_ne_slotKey (slot : ℕ) : headKey ≠ slotKey slot :=
  (slotKey_ne_headKey slot).symm

namespace CheckpointTransaction

variable (transaction : CheckpointTransaction) (store : RunStore)

/-- The target slot holds the new record. -/
def slotStore : RunStore :=
  store.put (slotKey transaction.target) (some transaction.record.bytes)

/-- The head announces the new record. -/
def preparedStore (preparedBytes : Bytes) : RunStore :=
  store.put headKey (some preparedBytes)

/-- The head names the new record. -/
def finalStore : RunStore :=
  (transaction.slotStore store).put headKey (some transaction.committedBytes)

/-- The final store does not depend on the announcement. -/
theorem final_of_prepared (preparedBytes : Bytes) :
    (transaction.slotStore (preparedStore store preparedBytes)).put headKey
        (some transaction.committedBytes) = transaction.finalStore store := by
  unfold finalStore slotStore preparedStore
  funext key
  by_cases hhead : key = headKey
  · simp [hhead]
  · by_cases hslot : key = slotKey transaction.target
    · simp [hslot, slotKey_ne_headKey]
    · simp [hhead, hslot]

/-- The stores that survive when the transaction stops on the way. -/
inductive MidWrite (unknown : UnknownOutcome) : RunStore → Prop
  | untouched : MidWrite unknown store
  | periodicSlot {left} (hperiodic : transaction.preparedBytes = none)
      (hleft : Leaves unknown store (slotKey transaction.target)
        transaction.record.bytes left) :
      MidWrite unknown (store.put (slotKey transaction.target) left)
  | periodicHead {left} (hperiodic : transaction.preparedBytes = none)
      (hleft : Leaves unknown (transaction.slotStore store) headKey
        transaction.committedBytes left) :
      MidWrite unknown ((transaction.slotStore store).put headKey left)
  | announcement {preparedBytes left} (hprepared : transaction.preparedBytes =
        some preparedBytes)
      (hleft : Leaves unknown store headKey preparedBytes left) :
      MidWrite unknown (store.put headKey left)
  | announcedSlot {preparedBytes left} (hprepared : transaction.preparedBytes =
        some preparedBytes)
      (hleft : Leaves unknown (preparedStore store preparedBytes)
        (slotKey transaction.target) transaction.record.bytes left) :
      MidWrite unknown
        ((preparedStore store preparedBytes).put (slotKey transaction.target) left)
  | announcedHead {preparedBytes left} (hprepared : transaction.preparedBytes =
        some preparedBytes)
      (hleft : Leaves unknown
        (transaction.slotStore (preparedStore store preparedBytes)) headKey
        transaction.committedBytes left) :
      MidWrite unknown
        ((transaction.slotStore (preparedStore store preparedBytes)).put headKey left)

variable {transaction store}

theorem MidWrite.final :
    transaction.MidWrite store unknown (transaction.finalStore store) := by
  cases hprepared : transaction.preparedBytes with
  | none => exact .periodicHead hprepared (.inl rfl)
  | some preparedBytes =>
      rw [← final_of_prepared]
      exact .announcedHead hprepared (.inl rfl)

end CheckpointTransaction

/-! ## Refusals -/

/-- The statuses that report no completed write. -/
abbrev RunPersistenceResultStatus.Incomplete (status : RunPersistenceResultStatus) : Prop :=
  status ≠ .applied ∧ status ≠ .checkpointWritten

/-- The statuses after which the store is known. -/
abbrev RunPersistenceResultStatus.Refusing (status : RunPersistenceResultStatus) : Prop :=
  status.Incomplete ∧ status ≠ .persistenceIndeterminate

/-- The result of an operation that has written nothing. -/
def RunPersistenceResult.Refusal (result : RunPersistenceResult) : Prop :=
  result.status.Refusing ∧ result.durability = .unchanged

/-- A check of the coordinator that fails writes nothing. -/
abbrev Refuses {α : Type} (checked : Except RunPersistenceResult α) : Prop :=
  FailsWith RunPersistenceResult.Refusal checked

namespace RunPersistenceCoordinator

variable {coordinator : RunPersistenceCoordinator} {write : SnapshotWrite}

/-- A result built by the coordinator itself is a refusal by its status. -/
theorem refusal_result {status : RunPersistenceResultStatus} {step : RunPersistenceStep}
    {reason : RunPersistenceTechnicalReason} (hstatus : status.Refusing) :
    (coordinator.result status step reason).Refusal := ⟨hstatus, rfl⟩

theorem refuses_nextCommandIdHighWater :
    Refuses (coordinator.nextCommandIdHighWater write) := by
  unfold nextCommandIdHighWater
  cases write.commandId with
  | none => exact failsWith_ok _
  | some id =>
      refine failsWith_bind (failsWith_orFail (refusal_result (by decide)))
        fun previous => ?_
      refine failsWith_bind (failsWith_require (refusal_result (by decide)))
        fun _ => ?_
      refine failsWith_bind (failsWith_require (refusal_result (by decide)))
        fun _ => ?_
      exact failsWith_bind (failsWith_require (refusal_result (by decide)))
        fun _ => failsWith_ok _

theorem refuses_admitWrite : Refuses (coordinator.admitWrite write) := by
  unfold admitWrite
  refine failsWith_bind (failsWith_require (refusal_result (by decide)))
    fun _ => ?_
  refine failsWith_bind (failsWith_require (refusal_result (by decide)))
    fun _ => ?_
  refine failsWith_bind (failsWith_require (refusal_result (by decide)))
    fun _ => ?_
  exact failsWith_bind (failsWith_require (refusal_result (by decide)))
    fun _ => refuses_nextCommandIdHighWater

theorem refuses_encodeHeads {record : RunPersistenceRawRecord}
    {highWater : Option CommandId} :
    Refuses (coordinator.encodeHeads write record highWater) := by
  unfold encodeHeads
  refine failsWith_bind (failsWith_require (refusal_result (by decide)))
    fun _ => ?_
  exact failsWith_bind (failsWith_orFail (refusal_result (by decide)))
    fun _ => failsWith_ok _

theorem refuses_planTransaction {highWater : Option CommandId} :
    Refuses (coordinator.planTransaction write highWater) := by
  unfold planTransaction
  refine failsWith_bind (failsWith_require (refusal_result (by decide)))
    fun _ => ?_
  split
  · exact failsWith_error (refusal_result (by decide))
  · exact failsWith_error (refusal_result (by decide))
  · exact refuses_encodeHeads

/-- A failed write never reports a completed one. -/
theorem writeFailure_incomplete (outcome : RunPersistenceStoreWriteResult)
    (step : RunPersistenceStep) (durability : RunPersistenceDurability) :
    (coordinator.writeFailure outcome step durability).status.Incomplete := by
  cases outcome <;>
    exact ⟨by simp [writeFailure, result], by simp [writeFailure, result]⟩

/-- Only an unknown outcome is reported as one. -/
theorem writeFailure_refusing {outcome : RunPersistenceStoreWriteResult}
    (step : RunPersistenceStep) (durability : RunPersistenceDurability)
    (hknown : outcome ≠ .indeterminate) :
    (coordinator.writeFailure outcome step durability).status.Refusing := by
  refine ⟨writeFailure_incomplete outcome step durability, ?_⟩
  cases outcome with
  | indeterminate => exact absurd rfl hknown
  | _ => simp [writeFailure, result]

/-! ## How a write ends -/

/-- The transaction a write leads to when all checks pass. -/
def Plans (coordinator : RunPersistenceCoordinator) (write : SnapshotWrite)
    (transaction : CheckpointTransaction) : Prop :=
  ∃ highWater, coordinator.admitWrite write = .ok highWater ∧
    coordinator.planTransaction write highWater = .ok transaction

inductive WriteEnds (unknown : UnknownOutcome) (coordinator : RunPersistenceCoordinator)
    (write : SnapshotWrite) (store : RunStore) :
    RunPersistenceResult × RunPersistenceCoordinator → RunStore → Prop
  /-- Nothing was written. -/
  | refused {result after} (hrefusal : result.Refusal)
      (hafter : after = coordinator ∨ after = coordinator.withState write.rollbackState) :
      WriteEnds unknown coordinator write store (result, after) store
  /-- A periodic checkpoint whose head was not written. -/
  | slotOnly {transaction result after} (hplans : coordinator.Plans write transaction)
      (hperiodic : transaction.preparedBytes = none)
      (hfailed : result.status.Refusing) (hdurability : result.durability = .changed)
      (hafter : after =
        (coordinator.afterSlotWrite transaction).withState write.rollbackState) :
      WriteEnds unknown coordinator write store (result, after)
        (transaction.slotStore store)
  | completed {transaction} (hplans : coordinator.Plans write transaction) :
      WriteEnds unknown coordinator write store
        ((coordinator.afterSlotWrite transaction).completeWrite write transaction)
        (transaction.finalStore store)
  /-- The boot ends here; the store may hold anything the transaction passes. -/
  | blocked {transaction result after left} (hplans : coordinator.Plans write transaction)
      (hfailed : result.status.Incomplete)
      (hstate : after.state = .blockedIndeterminate)
      (hmid : transaction.MidWrite store unknown left)
      (hunchanged : result.durability = .unchanged → left = store) :
      WriteEnds unknown coordinator write store (result, after) left

/-- The stores a write may leave when it is cut. -/
def CutStore (unknown : UnknownOutcome) (coordinator : RunPersistenceCoordinator)
    (write : SnapshotWrite) (store left : RunStore) : Prop :=
  left = store ∨ ∃ transaction, coordinator.Plans write transaction ∧
    transaction.MidWrite store unknown left

/-! ## The protocol -/

section Protocol

variable {transaction : CheckpointTransaction} {store : RunStore}
variable {oldSlot : Option Bytes}

/-- A failure before anything was written may be repeated. -/
theorem writeEnds_of_recoverable {outcome : RunPersistenceStoreWriteResult}
    {step : RunPersistenceStep} {after : RunStore}
    (hplans : coordinator.Plans write transaction) (hwritten : outcome ≠ .written)
    (hkept : outcome ≠ .indeterminate → after = store)
    (hmid : transaction.MidWrite store unknown after) :
    WriteEnds unknown coordinator write store
      (coordinator.recoverableFailure outcome write.rollbackState step .unchanged)
      after := by
  unfold recoverableFailure
  by_cases hunknown : outcome = .indeterminate
  · subst hunknown
    refine .blocked hplans (writeFailure_incomplete ..) rfl hmid fun h => ?_
    cases h
  · rw [hkept hunknown, if_neg hunknown]
    refine .refused ⟨writeFailure_refusing step .unchanged hunknown, ?_⟩ (.inr rfl)
    cases outcome with
    | indeterminate => exact absurd rfl hunknown
    | written => exact absurd rfl hwritten
    | _ => rfl

/-- A periodic checkpoint may be repeated after its head was not written. -/
theorem writeEnds_of_slotOnly {outcome : RunPersistenceStoreWriteResult}
    {after : RunStore} (hplans : coordinator.Plans write transaction)
    (hperiodic : transaction.preparedBytes = none) (hwritten : outcome ≠ .written)
    (hkept : outcome ≠ .indeterminate → after = transaction.slotStore store)
    (hmid : transaction.MidWrite store unknown after) :
    WriteEnds unknown coordinator write store
      ((coordinator.afterSlotWrite transaction).recoverableFailure outcome
        write.rollbackState .committedHead .changed) after := by
  unfold recoverableFailure
  by_cases hunknown : outcome = .indeterminate
  · subst hunknown
    refine .blocked hplans (writeFailure_incomplete ..) rfl hmid fun h => ?_
    cases h
  · rw [hkept hunknown, if_neg hunknown]
    refine .slotOnly hplans hperiodic
      (writeFailure_refusing .committedHead .changed hunknown) ?_ rfl
    cases outcome with
    | indeterminate => exact absurd rfl hunknown
    | written => exact absurd rfl hwritten
    | _ => rfl

/-- A failure after the announcement ends the boot. -/
theorem writeEnds_of_final {stored : RunPersistenceCoordinator}
    {outcome : RunPersistenceStoreWriteResult} {step : RunPersistenceStep}
    {after : RunStore} (hplans : coordinator.Plans write transaction)
    (hmid : transaction.MidWrite store unknown after) :
    WriteEnds unknown coordinator write store (stored.finalFailure outcome step)
      after := by
  refine .blocked hplans (writeFailure_incomplete ..) rfl hmid fun h => ?_
  cases outcome <;> cases h

theorem ensures_writePeriodic (hplans : coordinator.Plans write transaction)
    (hperiodic : transaction.preparedBytes = none)
    (hhead : store headKey = coordinator.currentHead.map (·.bytes))
    (hslot : store (slotKey transaction.target) = oldSlot)
    (hcrash : ∀ left, transaction.MidWrite store unknown left → crash left) :
    Program.Ensures (stateStore unknown) crash
      (fun ended after => WriteEnds unknown coordinator write store ended after)
      (coordinator.writePeriodic write transaction oldSlot) store := by
  -- The first write leaves the head alone, so the cached bytes still describe it.
  have hheadKept : transaction.slotStore store headKey =
      coordinator.currentHead.map (·.bytes) := by
    rw [← hhead]
    exact StoreContents.put_other (headKey_ne_slotKey _)
  have hslotMid := fun left hleft =>
    @CheckpointTransaction.MidWrite.periodicSlot transaction store unknown left hperiodic hleft
  have hheadMid := fun left hleft =>
    @CheckpointTransaction.MidWrite.periodicHead transaction store unknown left hperiodic hleft
  unfold writePeriodic
  rw [Program.ensures_bind]
  refine ensures_writeExact (hcrash _ .untouched)
    (fun left hleft => hcrash _ (hslotMid left hleft)) fun outcome after hslotWrite => ?_
  have hmid := writeExactAs_stays hslot hslotWrite .untouched hslotMid
  have hfailed : outcome ≠ .written → WriteEnds unknown coordinator write store
      (coordinator.recoverableFailure outcome write.rollbackState .checkpointSlot
        .unchanged) after := fun hwritten =>
    writeEnds_of_recoverable hplans hwritten
      (writeExactAs_definite hslot hslotWrite hwritten) hmid
  cases outcome with
  | written =>
      cases hslotWrite
      refine Program.ensures_bind.mpr (ensures_writeExact (hcrash _ hmid)
        (fun left hleft => hcrash _ (hheadMid left hleft)) fun outcome after hheadWrite => ?_)
      have hmid := writeExactAs_stays hheadKept hheadWrite hmid hheadMid
      have hfailed : outcome ≠ .written → WriteEnds unknown coordinator write store
          ((coordinator.afterSlotWrite transaction).recoverableFailure outcome
            write.rollbackState .committedHead .changed) after := fun hwritten =>
        writeEnds_of_slotOnly hplans hperiodic hwritten
          (writeExactAs_definite hheadKept hheadWrite hwritten) hmid
      cases outcome with
      | written =>
          cases hheadWrite
          exact ⟨hcrash _ hmid, .completed hplans⟩
      | _ => exact ⟨hcrash _ hmid, hfailed (by decide)⟩
  | _ => exact ⟨hcrash _ hmid, hfailed (by decide)⟩

theorem ensures_writePrepared {preparedBytes : Bytes}
    (hplans : coordinator.Plans write transaction)
    (hprepared : transaction.preparedBytes = some preparedBytes)
    (hhead : store headKey = coordinator.currentHead.map (·.bytes))
    (hslot : store (slotKey transaction.target) = oldSlot)
    (hcrash : ∀ left, transaction.MidWrite store unknown left → crash left) :
    Program.Ensures (stateStore unknown) crash
      (fun ended after => WriteEnds unknown coordinator write store ended after)
      (coordinator.writePrepared write transaction preparedBytes oldSlot) store := by
  have hslotKept :
      CheckpointTransaction.preparedStore store preparedBytes
        (slotKey transaction.target) = oldSlot := by
    rw [← hslot]
    exact StoreContents.put_other (slotKey_ne_headKey _)
  have hheadKept :
      transaction.slotStore (CheckpointTransaction.preparedStore store preparedBytes)
        headKey = some preparedBytes :=
    (StoreContents.put_other (headKey_ne_slotKey _)).trans (StoreContents.put_same ..)
  have hannounceMid := fun left hleft =>
    @CheckpointTransaction.MidWrite.announcement transaction store unknown preparedBytes left
      hprepared hleft
  have hslotMid := fun left hleft =>
    @CheckpointTransaction.MidWrite.announcedSlot transaction store unknown preparedBytes left
      hprepared hleft
  have hheadMid := fun left hleft =>
    @CheckpointTransaction.MidWrite.announcedHead transaction store unknown preparedBytes left
      hprepared hleft
  unfold writePrepared
  rw [Program.ensures_bind]
  refine ensures_writeExact (hcrash _ .untouched)
    (fun left hleft => hcrash _ (hannounceMid left hleft)) fun outcome after hwrite => ?_
  have hmid := writeExactAs_stays hhead hwrite .untouched hannounceMid
  have hfailed : outcome ≠ .written → WriteEnds unknown coordinator write store
      (coordinator.recoverableFailure outcome write.rollbackState .preparedHead
        .unchanged) after := fun hwritten =>
    writeEnds_of_recoverable hplans hwritten (writeExactAs_definite hhead hwrite hwritten)
      hmid
  cases outcome with
  | written =>
      cases hwrite
      refine Program.ensures_bind.mpr (ensures_writeExact (hcrash _ hmid)
        (fun left hleft => hcrash _ (hslotMid left hleft)) fun outcome after hwrite => ?_)
      have hmid := writeExactAs_stays hslotKept hwrite hmid hslotMid
      cases outcome with
      | written =>
          cases hwrite
          refine Program.ensures_bind.mpr (ensures_writeExact (hcrash _ hmid)
            (fun left hleft => hcrash _ (hheadMid left hleft))
            fun outcome after hwrite => ?_)
          have hmid := writeExactAs_stays hheadKept hwrite hmid hheadMid
          cases outcome with
          | written =>
              cases hwrite
              have hended : WriteEnds unknown coordinator write store
                  ((coordinator.afterSlotWrite transaction).completeWrite write
                    transaction) (transaction.finalStore store) := .completed hplans
              rw [← transaction.final_of_prepared store preparedBytes] at hended
              exact ⟨hcrash _ hmid, hended⟩
          | _ => exact ⟨hcrash _ hmid, writeEnds_of_final hplans hmid⟩
      | _ => exact ⟨hcrash _ hmid, writeEnds_of_final hplans hmid⟩
  | _ => exact ⟨hcrash _ hmid, hfailed (by decide)⟩

theorem physicalTarget_eq_some {reply : StateStoreReadResult} {key : RunStoreKey}
    {maxBytes : ℕ} (hreads : ReadsAs store key maxBytes reply)
    (h : physicalTarget reply = some oldSlot) : store key = oldSlot := by
  cases reply with
  | success value =>
      cases h
      exact hreads.1
  | notFound =>
      cases h
      exact hreads
  | readError => cases h
  | capacityError => cases h

theorem ensures_writeSnapshotTransaction (hplans : coordinator.Plans write transaction)
    (hhead : store headKey = coordinator.currentHead.map (·.bytes))
    (hcrash : ∀ left, transaction.MidWrite store unknown left → crash left) :
    Program.Ensures (stateStore unknown) crash
      (fun ended after => WriteEnds unknown coordinator write store ended after)
      (coordinator.writeSnapshotTransaction write transaction) store := by
  unfold writeSnapshotTransaction
  rw [Program.ensures_bind]
  refine ensures_readStore (hcrash _ .untouched) fun reply hreads => ?_
  cases hslot : physicalTarget reply with
  | none =>
      refine ⟨hcrash _ .untouched, ?_⟩
      refine .blocked hplans ?_ rfl .untouched fun _ => rfl
      simp only [result]
      split <;> decide
  | some oldSlot =>
      have hslotStored := physicalTarget_eq_some hreads hslot
      cases hprepared : transaction.preparedBytes with
      | none => exact ensures_writePeriodic hplans hprepared hhead hslotStored hcrash
      | some preparedBytes =>
          exact ensures_writePrepared hplans hprepared hhead hslotStored hcrash

/-- How a write ends, and where it may be cut, provided the cached head is the
stored one. -/
theorem ensures_writeSnapshotCore (unknown : UnknownOutcome) (write : SnapshotWrite)
    (hhead : store headKey = coordinator.currentHead.map (·.bytes)) :
    Program.Ensures (stateStore unknown) (CutStore unknown coordinator write store)
      (fun ended after => WriteEnds unknown coordinator write store ended after)
      (coordinator.writeSnapshotCore write) store := by
  unfold writeSnapshotCore
  cases hadmitted : coordinator.admitWrite write with
  | error refused =>
      exact ⟨.inl rfl, .refused (refuses_admitWrite _ hadmitted) (.inl rfl)⟩
  | ok highWater =>
      simp only
      cases hplan : coordinator.planTransaction write highWater with
      | error refused =>
          exact ⟨.inl rfl, .refused (refuses_planTransaction _ hplan) (.inr rfl)⟩
      | ok transaction =>
          have hplans : coordinator.Plans write transaction := ⟨highWater, hadmitted, hplan⟩
          exact ensures_writeSnapshotTransaction hplans hhead fun left hmid =>
            .inr ⟨transaction, hplans, hmid⟩

end Protocol

end RunPersistenceCoordinator

end Fermentationsschrank

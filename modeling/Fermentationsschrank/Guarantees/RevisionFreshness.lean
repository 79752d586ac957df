import Fermentationsschrank.Core.Runs
import Fermentationsschrank.Guarantees.DeviceRuns
import Fermentationsschrank.Recovery.CounterOverflow

/-!
# Fresh revisions

A record is known by its revision.  Every slot is written with a revision above all that
the store knows, every head with a revision above that of the stored head, and where
none is left the operation is refused.  A load has to find the revisions that are in the
store; `RevisionsVisible` says which of them it does not look at.
-/

namespace Fermentationsschrank

open RunPersistenceCoordinator

/-! ## The revisions of a store -/

section Revisions

variable (epoch : UInt64) (store : RunStore)

/-- A head of this epoch is stored. -/
def StoredHead (head : RunPersistenceHead) : Prop :=
  ∃ bytes, store headKey = some bytes ∧ decodeRunPersistenceHead bytes epoch = some head

/-- A slot holds a checkpoint record of this epoch. -/
def SlotRevision (key : RunStoreKey) (revision : UInt64) : Prop :=
  ∃ bytes, store key = some bytes ∧ physicalRevision epoch bytes = some revision

/-- The checkpoints a head refers to.  What a prepared head announces is not one yet. -/
def RunPersistenceHead.references (head : RunPersistenceHead) :
    List RunCheckpointReference :=
  match head.state with
  | .committed => head.current :: head.fallback.toList
  | .prepared => head.preparedCurrent.toList ++ head.preparedFallback.toList

/-- The revision of a record that is present, or that the stored head refers to. -/
def StoredRevision (revision : UInt64) : Prop :=
  (∃ key, key ≠ headKey ∧ SlotRevision epoch store key revision) ∨
    ∃ head, StoredHead epoch store head ∧
      ∃ reference ∈ head.references, reference.checkpointRevision = revision

/-- A write uses a revision above those it meets. -/
def FreshCall (store : RunStore) : StoreCall RunStoreKey → Prop
  | .read _ _ => True
  | .write key value =>
      if key = headKey then
        ∃ head, decodeRunPersistenceHead value epoch = some head ∧
          ∀ stored, StoredHead epoch store stored → stored.revision < head.revision
      else
        ∃ revision, physicalRevision epoch value = some revision ∧
          ∀ stored, StoredRevision epoch store stored → stored < revision

end Revisions

variable {epoch : UInt64} {store after : RunStore}
variable {coordinator next : RunPersistenceCoordinator}

theorem StoredHead.unique {head head' : RunPersistenceHead}
    (h : StoredHead epoch store head) (h' : StoredHead epoch store head') : head' = head := by
  obtain ⟨bytes, hbytes, hdecodes⟩ := h
  obtain ⟨bytes', hbytes', hdecodes'⟩ := h'
  obtain rfl := Option.some.inj (hbytes.symm.trans hbytes')
  exact Option.some.inj (hdecodes'.symm.trans hdecodes)

theorem storedHead_congr {head : RunPersistenceHead} (h : after headKey = store headKey) :
    StoredHead epoch after head ↔ StoredHead epoch store head := by
  rw [StoredHead, StoredHead, h]

/-! ## Counters ahead of the store -/

/-- The next revisions are above all revisions of the store, unless they are used up. -/
structure CountersAhead (store : RunStore) (coordinator : RunPersistenceCoordinator) :
    Prop where
  checkpoint : coordinator.nextCheckpointRevision ≠ 0 → ∀ revision,
    StoredRevision coordinator.epoch store revision →
      revision < coordinator.nextCheckpointRevision
  head : coordinator.nextHeadRevision ≠ 0 → ∀ head,
    StoredHead coordinator.epoch store head → head.revision < coordinator.nextHeadRevision

theorem CountersAhead.sameStorage (h : CountersAhead store coordinator)
    (hstorage : SameStorage coordinator next) : CountersAhead store next := by
  obtain ⟨hcheckpoint, hhead⟩ := h
  constructor
  · rw [hstorage.epoch, hstorage.nextCheckpointRevision]
    exact hcheckpoint
  · rw [hstorage.epoch, hstorage.nextHeadRevision]
    exact hhead

theorem lt_add_one_of_ne_max {revision : UInt64} (h : revision ≠ maxUInt64) :
    revision < revision + 1 := by
  have hmaximum : maxUInt64.toNat = 18446744073709551615 := rfl
  have hsize := revision.toNat_lt
  have hbelow : revision.toNat ≠ maxUInt64.toNat := fun hsame =>
    h (UInt64.toNat_inj.mp hsame)
  rw [UInt64.lt_iff_toNat_lt, UInt64.toNat_add]
  show _ < (revision.toNat + 1) % 2 ^ 64
  omega

theorem lt_nextRevision {revision : UInt64} (h : nextRevision revision ≠ 0) :
    revision < nextRevision revision := by
  rw [nextRevision] at h ⊢
  split at h
  · exact absurd rfl h
  · rename_i hroom
    rw [if_neg hroom]
    exact lt_add_one_of_ne_max hroom

theorem slotRevision_congr {key : RunStoreKey} {revision : UInt64}
    (h : after key = store key) :
    SlotRevision epoch after key revision ↔ SlotRevision epoch store key revision := by
  rw [SlotRevision, SlotRevision, h]

/-- What a known head refers to is in the store. -/
theorem storedRevision_of_known {head : RunPersistenceHead}
    {reference : RunCheckpointReference} (hknown : HeadKnown store coordinator)
    (hhead : coordinator.currentHead = some head)
    (hreference : reference = head.current ∨ head.fallback = some reference) :
    StoredRevision coordinator.epoch store reference.checkpointRevision := by
  rw [HeadKnown, hhead] at hknown
  obtain ⟨hstored, hdecodes, hcommitted⟩ := hknown
  refine .inr ⟨head, ⟨_, hstored, hdecodes⟩, reference, ?_, rfl⟩
  rw [RunPersistenceHead.references, hcommitted]
  rcases hreference with rfl | hfallback
  · exact List.mem_cons_self
  · rw [hfallback]
    exact List.mem_cons_of_mem _ List.mem_cons_self

/-! ## A transaction -/

section Transaction

variable {write : SnapshotWrite} {transaction : CheckpointTransaction}
variable {highWater : Option CommandId}

namespace RunPersistenceCoordinator.TransactionPlanned

variable (h : coordinator.TransactionPlanned write highWater transaction)
include h

theorem record_revision :
    transaction.record.checkpointRevision = coordinator.nextCheckpointRevision ∧
      physicalRevision coordinator.epoch transaction.record.bytes =
        some coordinator.nextCheckpointRevision := by
  obtain ⟨payload, -, hopen, -⟩ := prepareSnapshotRecord_opens h.record
  obtain ⟨-, hrevision, -⟩ := prepareSnapshotRecord_eq_ok h.record
  refine ⟨hrevision, ?_⟩
  rw [physicalRevision, hopen, ← hrevision]
  rfl

theorem head_revision :
    transaction.head.revision =
      if write.periodic then coordinator.nextHeadRevision
      else coordinator.nextHeadRevision + 1 := by
  rw [h.head]
  rfl

/-- The announcement refers to what the known head refers to. -/
theorem storedRevision_announced (hknown : HeadKnown store coordinator)
    {preparedBytes : Bytes} (hprepared : transaction.preparedBytes = some preparedBytes)
    {revision : UInt64}
    (hstored : StoredRevision coordinator.epoch
      (CheckpointTransaction.preparedStore store preparedBytes) revision) :
    StoredRevision coordinator.epoch store revision := by
  obtain ⟨-, hdecodes⟩ := h.announcement_decodes hprepared
  rcases hstored with ⟨key, hkey, hslot⟩ | ⟨head, hhead, reference, hreference, rfl⟩
  · refine .inl ⟨key, hkey, ?_⟩
    exact (slotRevision_congr (StoreContents.put_other hkey)).mp hslot
  · have hannounced : StoredHead coordinator.epoch
        (CheckpointTransaction.preparedStore store preparedBytes) _ :=
      ⟨preparedBytes, StoreContents.put_same .., hdecodes⟩
    obtain rfl := hannounced.unique hhead
    have hmember : reference ∈ (coordinator.currentHead.map (·.current)).toList ++
        (coordinator.currentHead.bind (·.fallback)).toList := hreference
    rw [List.mem_append, Option.mem_toList, Option.mem_toList] at hmember
    rcases hmember with hcurrent | hfallback
    · obtain ⟨known, hknownHead, rfl⟩ := Option.map_eq_some_iff.mp hcurrent
      exact storedRevision_of_known hknown hknownHead (.inl rfl)
    · obtain ⟨known, hknownHead, hreference⟩ := Option.bind_eq_some_iff.mp hfallback
      exact storedRevision_of_known hknown hknownHead (.inr hreference)

/-- A written slot adds the revision of its record. -/
theorem storedRevision_slotStore {revision : UInt64}
    (hstored : StoredRevision coordinator.epoch (transaction.slotStore store) revision) :
    StoredRevision coordinator.epoch store revision ∨
      revision = coordinator.nextCheckpointRevision := by
  rcases hstored with ⟨key, hkey, hslot⟩ | ⟨head, hhead, hreferences⟩
  · by_cases htarget : key = slotKey transaction.target
    · obtain ⟨bytes, hbytes, hrevision⟩ := hslot
      rw [htarget, CheckpointTransaction.slotStore, StoreContents.put_same] at hbytes
      cases hbytes
      exact .inr (Option.some.inj (hrevision.symm.trans h.record_revision.2))
    · exact .inl (.inl ⟨key, hkey,
        (slotRevision_congr (StoreContents.put_other htarget)).mp hslot⟩)
  · exact .inl (.inr ⟨head, (storedHead_congr (slotStore_headKey transaction store)).mp
      hhead, hreferences⟩)

/-- A committed head adds no other revision. -/
theorem storedRevision_finalStore (hknown : HeadKnown store coordinator)
    {revision : UInt64}
    (hstored : StoredRevision coordinator.epoch (transaction.finalStore store) revision) :
    StoredRevision coordinator.epoch store revision ∨
      revision = coordinator.nextCheckpointRevision := by
  rcases hstored with ⟨key, hkey, hslot⟩ | ⟨head, hhead, reference, hreference, rfl⟩
  · refine h.storedRevision_slotStore (.inl ⟨key, hkey, ?_⟩)
    exact (slotRevision_congr (StoreContents.put_other hkey)).mp hslot
  · have hcommitted : StoredHead coordinator.epoch (transaction.finalStore store) _ :=
      ⟨transaction.committedBytes, StoreContents.put_same .., h.committed_decodes⟩
    obtain rfl := hcommitted.unique hhead
    have hmember : reference ∈
        transaction.head.current :: transaction.head.fallback.toList := by
      have hreferences := hreference
      rw [RunPersistenceHead.references,
        show ({ transaction.head with bytes := transaction.committedBytes } :
          RunPersistenceHead).state = .committed from h.head_committed] at hreferences
      exact hreferences
    rw [List.mem_cons, Option.mem_toList] at hmember
    rcases hmember with rfl | hfallback
    · exact .inr (h.current_matches.2.2.2.trans h.record_revision.1)
    · obtain ⟨known, hknownHead, hreference⟩ := h.fallback_known hfallback
      exact .inl (storedRevision_of_known hknown hknownHead hreference)

end RunPersistenceCoordinator.TransactionPlanned

/-! ### Its writes -/

theorem freshCall_slot {key : RunStoreKey} {bytes : Bytes} {revision : UInt64}
    (hkey : key ≠ headKey) (hrevision : physicalRevision epoch bytes = some revision)
    (hfresh : ∀ stored, StoredRevision epoch store stored → stored < revision) :
    FreshCall epoch store (.write key bytes) := by
  rw [FreshCall, if_neg hkey]
  exact ⟨revision, hrevision, hfresh⟩

theorem freshCall_head {bytes : Bytes} {head : RunPersistenceHead}
    (hdecodes : decodeRunPersistenceHead bytes epoch = some head)
    (hfresh : ∀ stored, StoredHead epoch store stored → stored.revision < head.revision) :
    FreshCall epoch store (.write headKey bytes) := by
  rw [FreshCall, if_pos rfl]
  exact ⟨head, hdecodes, hfresh⟩

/-- All writes of a planned transaction use fresh revisions. -/
theorem allowsTransaction_fresh
    (h : coordinator.TransactionPlanned write highWater transaction)
    (hknown : HeadKnown store coordinator) (hahead : CountersAhead store coordinator) :
    AllowsTransaction (FreshCall coordinator.epoch) transaction store := by
  have hcheckpoint := hahead.checkpoint h.checkpointCounter
  have hhead := hahead.head h.headCounter.1
  constructor
  · intro hperiodic
    exact freshCall_slot (slotKey_ne_headKey _) h.record_revision.2 hcheckpoint
  · intro hperiodic
    refine freshCall_head h.committed_decodes fun stored hstored => ?_
    rw [storedHead_congr (slotStore_headKey transaction store)] at hstored
    show stored.revision < transaction.head.revision
    have hwritten : write.periodic = true := by
      by_contra hprepared
      have hannounced := h.announced (Bool.not_eq_true _ ▸ hprepared)
      rw [hperiodic] at hannounced
      cases hannounced
    rw [h.head_revision, hwritten, if_pos rfl]
    exact hhead stored hstored
  · intro preparedBytes hprepared
    obtain ⟨-, hdecodes⟩ := h.announcement_decodes hprepared
    exact freshCall_head hdecodes hhead
  · intro preparedBytes hprepared
    refine freshCall_slot (slotKey_ne_headKey _) h.record_revision.2 fun stored hstored => ?_
    exact hcheckpoint stored (h.storedRevision_announced hknown hprepared hstored)
  · intro preparedBytes hprepared
    obtain ⟨hperiodic, hdecodes⟩ := h.announcement_decodes hprepared
    refine freshCall_head h.committed_decodes fun stored hstored => ?_
    rw [storedHead_congr (slotStore_headKey transaction _)] at hstored
    have hannounced : StoredHead coordinator.epoch
        (CheckpointTransaction.preparedStore store preparedBytes) _ :=
      ⟨preparedBytes, StoreContents.put_same .., hdecodes⟩
    obtain rfl := hannounced.unique hstored
    show coordinator.nextHeadRevision < transaction.head.revision
    rw [h.head_revision, hperiodic, if_neg Bool.false_ne_true]
    apply lt_add_one_of_ne_max
    rcases h.headCounter.2 with hwritten | hroom
    · rw [hperiodic] at hwritten
      cases hwritten
    · exact hroom

/-! ### The counters after it -/

theorem afterSlotWrite_counters
    (h : coordinator.TransactionPlanned write highWater transaction) :
    (coordinator.afterSlotWrite transaction).epoch = coordinator.epoch ∧
      (coordinator.afterSlotWrite transaction).nextHeadRevision =
        coordinator.nextHeadRevision ∧
      (coordinator.afterSlotWrite transaction).nextCheckpointRevision =
        nextRevision coordinator.nextCheckpointRevision := by
  refine ⟨withSlotRecord_epoch .., ?_, congrArg nextRevision h.record_revision.1⟩
  rw [afterSlotWrite, withSlotRecord]
  split <;> rfl

/-- The revision after the written one is above the written one and all before. -/
theorem lt_revision_afterSlotWrite
    (h : coordinator.TransactionPlanned write highWater transaction)
    (hahead : CountersAhead store coordinator) {revision : UInt64}
    (hroom : (coordinator.afterSlotWrite transaction).nextCheckpointRevision ≠ 0)
    (hstored : StoredRevision coordinator.epoch store revision ∨
      revision = coordinator.nextCheckpointRevision) :
    revision < (coordinator.afterSlotWrite transaction).nextCheckpointRevision := by
  rw [(afterSlotWrite_counters h).2.2] at hroom ⊢
  have hwritten := lt_nextRevision hroom
  rcases hstored with hstored | rfl
  · exact UInt64.lt_trans (hahead.checkpoint h.checkpointCounter revision hstored) hwritten
  · exact hwritten

theorem countersAhead_afterSlotWrite
    (h : coordinator.TransactionPlanned write highWater transaction)
    (hahead : CountersAhead store coordinator) :
    CountersAhead (transaction.slotStore store) (coordinator.afterSlotWrite transaction) := by
  obtain ⟨hepoch, hhead, -⟩ := afterSlotWrite_counters h
  constructor
  · intro hroom revision hstored
    rw [hepoch] at hstored
    exact lt_revision_afterSlotWrite h hahead hroom (h.storedRevision_slotStore hstored)
  · intro hroom head hstored
    rw [hepoch, storedHead_congr (slotStore_headKey transaction store)] at hstored
    rw [hhead]
    exact hahead.head h.headCounter.1 head hstored

theorem countersAhead_completeWrite
    (h : coordinator.TransactionPlanned write highWater transaction)
    (hknown : HeadKnown store coordinator) (hahead : CountersAhead store coordinator) :
    CountersAhead (transaction.finalStore store)
      ((coordinator.afterSlotWrite transaction).completeWrite write transaction).2 := by
  obtain ⟨hepoch, -, -⟩ := afterSlotWrite_counters h
  have hcompleted : CountersAhead (transaction.finalStore store)
      { coordinator.afterSlotWrite transaction with
        nextHeadRevision := nextRevision transaction.head.revision } := by
    constructor
    · intro hroom revision hstored
      exact lt_revision_afterSlotWrite h hahead hroom
        (h.storedRevision_finalStore hknown (hepoch ▸ hstored))
    · intro hroom head hstored
      have hcommitted : StoredHead coordinator.epoch (transaction.finalStore store) _ :=
        ⟨transaction.committedBytes, StoreContents.put_same .., h.committed_decodes⟩
      obtain rfl := hcommitted.unique (hepoch ▸ hstored)
      exact lt_nextRevision hroom
  rw [completeWrite]
  split
  · exact ⟨hcompleted.checkpoint, hcompleted.head⟩
  · exact ⟨hcompleted.checkpoint, hcompleted.head⟩

end Transaction

/-! ## An operation -/

/-- A coordinator that may write knows the head, and its revisions are unused. -/
def Device.Fresh (device : Device) : Prop :=
  device.coordinator.Accepting → HeadKnown device.store device.coordinator ∧
    CountersAhead device.store device.coordinator

theorem Device.Fresh.synced {device : Device} (h : device.Fresh) : device.Synced :=
  fun haccepting => (h haccepting).1

section Operation

variable {unknown : UnknownOutcome} {operation : RunOperation}
variable {current : RunCommandState}

theorem countersAhead_of_writeEnds {write : SnapshotWrite}
    {ended : RunPersistenceResult × RunPersistenceCoordinator}
    (hknown : HeadKnown store coordinator) (hahead : CountersAhead store coordinator)
    (h : WriteEnds unknown coordinator write store ended after)
    (haccepting : ended.2.Accepting) : CountersAhead after ended.2 := by
  cases h with
  | refused hrefusal hafter =>
      rcases hafter with rfl | rfl
      · exact hahead
      · exact hahead.sameStorage ((SameStorage.refl coordinator).withState _)
  | @slotOnly transaction result left hplans hperiodic hfailed hdurability hafter =>
      obtain ⟨highWater, hplanned⟩ := hplans.planned
      rw [hafter]
      exact (countersAhead_afterSlotWrite hplanned hahead).sameStorage
        ((SameStorage.refl _).withState _)
  | @completed transaction hplans =>
      obtain ⟨highWater, hplanned⟩ := hplans.planned
      exact countersAhead_completeWrite hplanned hknown hahead
  | blocked hplans hfailed hstate => exact absurd haccepting (not_accepting_of_blocked hstate)

theorem countersAhead_of_operationEnds {outcome : RunPersistenceOutcome}
    (hfresh : coordinator.Accepting → HeadKnown store coordinator ∧
      CountersAhead store coordinator)
    (h : OperationEnds unknown operation coordinator current store outcome after)
    (haccepting : outcome.coordinator.Accepting) :
    CountersAhead after outcome.coordinator := by
  cases h with
  | refused hfailed hunknown hdurability hcurrent hstorage hids hstate =>
      rcases hstate with hstate | hstate
      · exact (hfresh (accepting_of_state hstate haccepting)).2.sameStorage hstorage
      · exact absurd haccepting (not_accepting_of_blocked hstate)
  | ramOnly hbefore hdurability happlied hstorage =>
      exact (hfresh hbefore).2.sameStorage hstorage
  | @wrote planned checkpointRevision runRevision ended _ _ hplans hends houtcome =>
      have hadmissible := admissible_of_plans hplans
      obtain ⟨hstorage, hstate⟩ := settled_storage hadmissible.settles houtcome
      rcases hstate with hstate | hstate
      · obtain ⟨hknown, hahead⟩ := hfresh hadmissible.accepting
        have hstart : SameStorage coordinator
            (coordinator.withPendingR1 checkpointRevision runRevision) :=
          (SameStorage.refl coordinator).withPendingR1 _ _
        exact (countersAhead_of_writeEnds (hknown.sameStorage hstart)
          (hahead.sameStorage hstart) hends
          (accepting_of_state hstate haccepting)).sameStorage hstorage
      · rw [Accepting, hstate] at haccepting
        simp at haccepting

/-- Every write an operation issues is fresh in the store it meets. -/
theorem freshCall_of_issued {device : Device} (hfresh : device.Fresh)
    {request : StoreCall RunStoreKey}
    (hissued : Program.Issues (stateStore unknown)
      (operation.perform device.coordinator current) device.store request store) :
    FreshCall device.coordinator.epoch store request := by
  refine (respects_perform ?_ ?_).issued hissued
  · intro store request hread
    cases request with
    | read key maxBytes => trivial
    | write key value => exact hread.elim
  · intro planned hplans transaction htransaction
    obtain ⟨hknown, hahead⟩ := hfresh (admissible_of_plans hplans).accepting
    obtain ⟨highWater, hplanned⟩ := htransaction.planned
    exact allowsTransaction_fresh hplanned hknown hahead

end Operation

/-! ## Loading -/

/-- A load sees every revision it has to stay above.  Without that it would miss the
revision of a fallback that it does not read back, and that of a record in the slot of a
current checkpoint that is lost. -/
structure RevisionsVisible (epoch : UInt64) (store : RunStore) : Prop where
  dangling : ∀ head record fallback, CommittedHeadRead (ReadsAs store) epoch head →
    ReferencedRead (ReadsAs store) epoch head.current record →
    head.fallback = some fallback →
    (store (slotKey (otherSlot head.current.slot.toNat)) = none →
      fallback.checkpointRevision ≤ head.current.checkpointRevision) ∧
    ∀ revision, SlotRevision epoch store (slotKey (otherSlot head.current.slot.toNat))
      revision → fallback.checkpointRevision ≤ head.current.checkpointRevision ∨
        fallback.checkpointRevision ≤ revision
  orphaned : ∀ head record fallback, CommittedHeadRead (ReadsAs store) epoch head →
    head.fallback = some fallback → ReferencedRead (ReadsAs store) epoch fallback record →
    record.snapshot.variant ≠ .noActiveRun →
    ∀ revision, SlotRevision epoch store (slotKey head.current.slot.toNat) revision →
      revision ≤ head.current.checkpointRevision ∨ revision ≤ fallback.checkpointRevision

theorem raiseCheckpointHighWatermark_ahead {current revision : UInt64}
    (h : raiseCheckpointHighWatermark current revision ≠ 0) :
    current ≠ 0 ∧ current ≤ raiseCheckpointHighWatermark current revision ∧
      revision < raiseCheckpointHighWatermark current revision := by
  rw [raiseCheckpointHighWatermark] at h ⊢
  split at h
  · exact absurd rfl h
  · rename_i hroom
    rw [not_or] at hroom
    have hmaximum : max current (revision + 1) =
        if current ≤ revision + 1 then revision + 1 else current := rfl
    have hwritten := lt_add_one_of_ne_max hroom.2
    rw [if_neg (not_or.mpr hroom), hmaximum]
    refine ⟨hroom.1, ?_⟩
    split
    · rename_i hbelow
      exact ⟨hbelow, hwritten⟩
    · rename_i habove
      exact ⟨UInt64.le_refl _, UInt64.lt_trans hwritten (UInt64.not_le.mp habove)⟩

/-- The next revision is above the record of the other slot, if there is one. -/
theorem scanOtherSlot_ahead {next found : UInt64} {key : RunStoreKey} {maxBytes : ℕ}
    {reply : StateStoreReadResult} (hread : ReadsAs store key maxBytes reply)
    (h : scanOtherSlot epoch next reply = .ok found) (hroom : found ≠ 0) :
    next ≠ 0 ∧ next ≤ found ∧
      (store key = none ∨ ∃ revision, SlotRevision epoch store key revision) ∧
      ∀ revision, SlotRevision epoch store key revision → revision < found := by
  cases reply with
  | readError => cases h
  | capacityError => cases h
  | notFound =>
      cases h
      refine ⟨hroom, UInt64.le_refl _, .inl hread, ?_⟩
      rintro revision ⟨bytes, hbytes, -⟩
      rw [show store key = none from hread] at hbytes
      cases hbytes
  | success bytes =>
      rw [scanOtherSlot] at h
      split at h
      · cases h
      · rename_i revision hrevision
        cases h
        obtain ⟨hnext, hraised, habove⟩ := raiseCheckpointHighWatermark_ahead hroom
        refine ⟨hnext, hraised, .inr ⟨revision, bytes, hread.1, hrevision⟩, ?_⟩
        rintro other ⟨otherBytes, hother, hotherRevision⟩
        obtain rfl := Option.some.inj (hread.1.symm.trans hother)
        rwa [Option.some.inj (hotherRevision.symm.trans hrevision)]

/-- The slot of a referenced record holds its revision, which is the referenced one. -/
theorem ReferencedRead.revision {reference : RunCheckpointReference}
    {record : RunPersistenceRawRecord}
    (h : ReferencedRead (ReadsAs store) epoch reference record) :
    reference.checkpointRevision = record.checkpointRevision ∧
      ∀ revision, SlotRevision epoch store (slotKey reference.slot.toNat) revision →
        revision = record.checkpointRevision := by
  obtain ⟨envelope, hopen, -, -, hrevision, -⟩ :=
    decodeRunPersistenceRecord_eq_some.mp h.referenced.decodes
  obtain ⟨hdecodes, -⟩ := openRecord_eq_some.mp hopen
  constructor
  · have hnamed := h.referenced.named
    rw [runCheckpointReferenceMatches, hdecodes] at hnamed
    simp only [decide_eq_true_eq] at hnamed
    exact hnamed.2.2.2.1
  · rintro revision ⟨bytes, hbytes, hphysical⟩
    obtain rfl := Option.some.inj (h.read.1.symm.trans hbytes)
    rw [physicalRevision, hopen] at hphysical
    rw [hrevision]
    exact (Option.some.inj hphysical).symm

/-- A key that is not the head is the one slot or the other. -/
theorem slotKey_cases {key : RunStoreKey} (slot : ℕ) (hkey : key ≠ headKey) :
    key = slotKey slot ∨ key = slotKey (otherSlot slot) := by
  rcases slot with _ | slot
  · cases key with
    | rh0 => exact absurd rfl hkey
    | rc0 => exact .inl rfl
    | rc1 => exact .inr rfl
  · have hother : slotKey (otherSlot (slot + 1)) = .rc0 := by
      rw [otherSlot, Nat.sub_eq_zero_of_le (Nat.le_add_left 1 slot)]
      rfl
    rw [hother]
    cases key with
    | rh0 => exact absurd rfl hkey
    | rc0 => exact .inr rfl
    | rc1 => exact .inl rfl

theorem CommittedHeadRead.stored {head : RunPersistenceHead}
    (h : CommittedHeadRead (ReadsAs store) epoch head) : StoredHead epoch store head :=
  ⟨head.bytes, h.read.1, h.decodes⟩

theorem CommittedHeadRead.references {head : RunPersistenceHead}
    (h : CommittedHeadRead (ReadsAs store) epoch head) :
    head.references = head.current :: head.fallback.toList := by
  rw [RunPersistenceHead.references, h.committed]

/-- The fallback of a committed head is in the other slot. -/
theorem CommittedHeadRead.fallback_slot {head : RunPersistenceHead}
    {fallback : RunCheckpointReference} {reads : StoreReads}
    (h : CommittedHeadRead reads epoch head) (hfallback : head.fallback = some fallback) :
    fallback.slot.toNat = otherSlot head.current.slot.toNat := by
  obtain ⟨hvalid, -⟩ := decodeRunPersistenceHead_valid h.decodes
  simp only [validHead, h.committed, validCommittedHead, hfallback, validReference,
    Option.all_some, Bool.and_eq_true, decide_eq_true_eq] at hvalid
  obtain ⟨⟨⟨⟨⟨⟨hcurrent, -⟩, -⟩, -⟩, -⟩, -⟩, ⟨-, hslot, -⟩, hdiffers⟩ := hvalid
  rw [UInt8.le_iff_toNat_le] at hcurrent hslot
  have hdiffers : fallback.slot.toNat ≠ head.current.slot.toNat := fun hsame =>
    hdiffers (UInt8.toNat_inj.mp hsame)
  have hone : (1 : UInt8).toNat = 1 := rfl
  rw [otherSlot]
  omega

section Load

variable {fresh : RunPersistenceCoordinator} {head : RunPersistenceHead}
variable {record : RunPersistenceRawRecord}

/-- A coordinator whose next checkpoint revision is above what was read, after a load
that has read the stored head. -/
theorem countersAhead_of_read {installed : RunPersistenceCoordinator}
    (hhead : CommittedHeadRead (ReadsAs store) installed.epoch head)
    (hnextHead : installed.nextHeadRevision = nextRevision head.revision)
    (hslots : installed.nextCheckpointRevision ≠ 0 → ∀ key, key ≠ headKey →
      ∀ revision, SlotRevision installed.epoch store key revision →
        revision < installed.nextCheckpointRevision)
    (hcurrent : installed.nextCheckpointRevision ≠ 0 →
      head.current.checkpointRevision < installed.nextCheckpointRevision)
    (hfallback : installed.nextCheckpointRevision ≠ 0 → ∀ fallback,
      head.fallback = some fallback →
        fallback.checkpointRevision < installed.nextCheckpointRevision) :
    CountersAhead store installed := by
  constructor
  · intro hroom revision hstored
    rcases hstored with ⟨key, hkey, hslot⟩ | ⟨stored, hstored, reference, hreference, rfl⟩
    · exact hslots hroom key hkey revision hslot
    · obtain rfl := hhead.stored.unique hstored
      rw [hhead.references, List.mem_cons, Option.mem_toList] at hreference
      rcases hreference with rfl | hreference
      · exact hcurrent hroom
      · exact hfallback hroom reference hreference
  · intro hroom stored hstored
    obtain rfl := hhead.stored.unique hstored
    rw [hnextHead] at hroom ⊢
    exact lt_nextRevision hroom

theorem countersAhead_current {next : UInt64}
    (hvisible : RevisionsVisible fresh.epoch store)
    (hhead : CommittedHeadRead (ReadsAs store) fresh.epoch head)
    (hrecord : ReferencedRead (ReadsAs store) fresh.epoch head.current record)
    (hscan : ∃ reply, SlotReads (ReadsAs store) (otherSlot head.current.slot.toNat) reply ∧
      scanOtherSlot fresh.epoch (nextRevision record.checkpointRevision) reply = .ok next) :
    CountersAhead store (installCurrent
      ((withHead fresh head).withSlotRecord head.current.slot.toNat record) record next).2 := by
  obtain ⟨reply, hread, hscan⟩ := hscan
  obtain ⟨hreference, hpresent⟩ := hrecord.revision
  have hinstalled : (installCurrent
      ((withHead fresh head).withSlotRecord head.current.slot.toNat record) record next).2.epoch
        = fresh.epoch ∧ (installCurrent
      ((withHead fresh head).withSlotRecord head.current.slot.toNat record) record
        next).2.nextHeadRevision = nextRevision head.revision ∧ (installCurrent
      ((withHead fresh head).withSlotRecord head.current.slot.toNat record) record
        next).2.nextCheckpointRevision = next := by
    rw [installCurrent, withSlotRecord]
    split <;> split <;> exact ⟨rfl, rfl, rfl⟩
  generalize (installCurrent
      ((withHead fresh head).withSlotRecord head.current.slot.toNat record) record next).2 =
    installed at hinstalled
  obtain ⟨hepoch, hnextHead, hnext⟩ := hinstalled
  have hbelow : next ≠ 0 → record.checkpointRevision < next := fun hroom => by
    obtain ⟨hnonzero, hraised, -⟩ := scanOtherSlot_ahead hread hscan hroom
    exact UInt64.lt_of_lt_of_le (lt_nextRevision hnonzero) hraised
  refine countersAhead_of_read (hepoch ▸ hhead) hnextHead ?_ ?_ ?_
  · rw [hnext, hepoch]
    intro hroom key hkey revision hslot
    rcases slotKey_cases head.current.slot.toNat hkey with rfl | rfl
    · rw [hpresent revision hslot]
      exact hbelow hroom
    · exact (scanOtherSlot_ahead hread hscan hroom).2.2.2 revision hslot
  · rw [hnext, hreference]
    exact hbelow
  · rw [hnext]
    intro hroom fallback hfallback
    obtain ⟨-, -, hother, hscanned⟩ := scanOtherSlot_ahead hread hscan hroom
    obtain ⟨hempty, hfull⟩ := hvisible.dangling head record fallback hhead hrecord hfallback
    rw [hreference] at hempty hfull
    rcases hother with hnone | ⟨revision, hrevision⟩
    · exact UInt64.lt_of_le_of_lt (hempty hnone) (hbelow hroom)
    · rcases hfull revision hrevision with hle | hle
      · exact UInt64.lt_of_le_of_lt hle (hbelow hroom)
      · exact UInt64.lt_of_le_of_lt hle (hscanned revision hrevision)

theorem countersAhead_fallback {fallback : RunCheckpointReference}
    (hvisible : RevisionsVisible fresh.epoch store)
    (hhead : CommittedHeadRead (ReadsAs store) fresh.epoch head)
    (hfallback : head.fallback = some fallback)
    (hrecord : ReferencedRead (ReadsAs store) fresh.epoch fallback record)
    (hactive : record.snapshot.variant ≠ .noActiveRun) :
    CountersAhead store (installFallback (withHead fresh head) head fallback record).2 := by
  obtain ⟨hreference, hpresent⟩ := hrecord.revision
  have hinstalled :
      (installFallback (withHead fresh head) head fallback record).2.epoch = fresh.epoch ∧
        (installFallback (withHead fresh head) head fallback record).2.nextHeadRevision =
          nextRevision head.revision := by
    rw [installFallback, withSlotRecord]
    split <;> exact ⟨rfl, rfl⟩
  have hraised :
      (installFallback (withHead fresh head) head fallback record).2.nextCheckpointRevision ≠
        0 → head.current.checkpointRevision <
          (installFallback (withHead fresh head) head fallback record).2.nextCheckpointRevision
        ∧ fallback.checkpointRevision <
          (installFallback (withHead fresh head) head fallback
            record).2.nextCheckpointRevision := by
    intro hroom
    obtain ⟨hroom', hraised, hlast⟩ := raiseCheckpointHighWatermark_ahead hroom
    obtain ⟨-, -, hmiddle⟩ := raiseCheckpointHighWatermark_ahead hroom'
    exact ⟨UInt64.lt_of_lt_of_le hmiddle hraised, hlast⟩
  generalize (installFallback (withHead fresh head) head fallback record).2 = installed
    at hinstalled hraised
  obtain ⟨hepoch, hnextHead⟩ := hinstalled
  refine countersAhead_of_read (hepoch ▸ hhead) hnextHead ?_
    (fun hroom => (hraised hroom).1) ?_
  · rw [hepoch]
    intro hroom key hkey revision hslot
    obtain ⟨hcurrent, hlast⟩ := hraised hroom
    have hslots : slotKey fallback.slot.toNat = slotKey (otherSlot head.current.slot.toNat) :=
      congrArg slotKey (hhead.fallback_slot hfallback)
    rcases slotKey_cases head.current.slot.toNat hkey with rfl | rfl
    · rcases hvisible.orphaned head record fallback hhead hfallback hrecord hactive revision
        hslot with hle | hle
      · exact UInt64.lt_of_le_of_lt hle hcurrent
      · exact UInt64.lt_of_le_of_lt hle hlast
    · rw [← hslots] at hslot
      rw [hpresent revision hslot, ← hreference]
      exact hlast
  · intro hroom found hfound
    obtain rfl := Option.some.inj (hfallback.symm.trans hfound)
    exact (hraised hroom).2

theorem countersAhead_of_loadEnds
    {loaded : RunPersistenceLoadResult × RunPersistenceCoordinator}
    (hvisible : RevisionsVisible fresh.epoch store)
    (h : LoadEnds (ReadsAs store) fresh loaded) (haccepting : loaded.2.Accepting) :
    CountersAhead store loaded.2 := by
  cases h with
  | failed hstatus hstate => exact absurd haccepting (not_accepting_of_blocked hstate)
  | empty hhead hslot0 hslot1 =>
      have hempty : ∀ key, store key = none := by
        intro key
        cases key with
        | rh0 => exact hhead
        | rc0 => exact hslot0
        | rc1 => exact hslot1
      have hnoHead : ∀ epoch head, ¬ StoredHead epoch store head := by
        rintro epoch head ⟨bytes, hbytes, -⟩
        rw [hempty] at hbytes
        cases hbytes
      constructor
      · rintro - revision (⟨key, -, bytes, hbytes, -⟩ | ⟨head, hhead, -⟩)
        · rw [hempty] at hbytes
          cases hbytes
        · exact absurd hhead (hnoHead _ _)
      · exact fun _ head hhead => absurd hhead (hnoHead _ _)
  | current hhead hrecord hscan => exact countersAhead_current hvisible hhead hrecord hscan
  | fallback hhead hfallback hlost hrecord hactive =>
      exact countersAhead_fallback hvisible hhead hfallback hrecord hactive

end Load

/-! ## Runs -/

section Runs

variable {unknown : UnknownOutcome} {device last : Device} {event : DeviceEvent}

/-- A step; where it is the first load of a boot, the load sees every revision. -/
def VisibleStep (unknown : UnknownOutcome) (device : Device) (event : DeviceEvent)
    (last : Device) : Prop :=
  DeviceStep (stateStore unknown) device event last ∧
    ((∃ result, event = .loaded result) → device.coordinator.state = .uninitialized →
      RevisionsVisible device.coordinator.epoch device.store)

theorem Device.fresh_boot (store : RunStore) (epoch : UInt64)
    (schedule : RunCheckpointSchedule) : (Device.boot store epoch schedule).Fresh := by
  intro haccepting
  rw [Accepting] at haccepting
  simp [Device.boot] at haccepting

theorem Device.Fresh.step (h : device.Fresh) (hstep : VisibleStep unknown device event last) :
    last.Fresh := by
  obtain ⟨hstep, hvisible⟩ := hstep
  have hsynced := h.synced.step hstep
  refine fun haccepting => ⟨hsynced haccepting, ?_⟩
  cases hstep with
  | @load result next store hrun =>
      by_cases hfirst : device.coordinator.commandBorrowed = false ∧
          device.coordinator.state = .uninitialized
      · have hloads := loads_loadAndInitialize
          (answersReads_stateStore unknown device.store) hfirst.1 hfirst.2
        obtain ⟨rfl, hends⟩ := hloads.finishes hrun
        have hstart : RevisionsVisible (beginLoad device.coordinator).epoch device.store :=
          hvisible ⟨result, rfl⟩ hfirst.2
        exact countersAhead_of_loadEnds hstart hends haccepting
      · rcases loadAndInitialize_again hfirst with hagain | hagain
        · rw [hagain] at hrun
          cases hrun
          exact (h haccepting).2
        · rw [hagain] at hrun
          cases hrun
          exact (h haccepting).2.sameStorage ((SameStorage.refl _).withPendingR1 none none)
  | operate hrun =>
      exact countersAhead_of_operationEnds h
        ((ensures_perform _ h.synced.headCached).finishes hrun) haccepting
  | cut schedule hcut => exact absurd haccepting (by
      rw [Accepting]
      simp [Device.boot])
  | reboot schedule => exact absurd haccepting (by
      rw [Accepting]
      simp [Device.boot])
  | borrow commandBorrowed =>
      exact (h haccepting).2.sameStorage ⟨rfl, rfl, rfl, rfl, rfl, rfl, rfl⟩

/-- In any run whose loads see every revision, the counters stay ahead. -/
theorem Device.fresh_of_run {initial : RunStore} {epoch : UInt64}
    {schedule : RunCheckpointSchedule} {events : List DeviceEvent}
    (hrun : Steps (VisibleStep unknown) (Device.boot initial epoch schedule) events device) :
    device.Fresh :=
  hrun.invariant (Device.fresh_boot initial epoch schedule) fun h hstep => h.step hstep

/-! ### Exhausted counters -/

/-- No revision is left above those of the store, for the slot or for the heads.  Only
the periodic checkpoint gets by with one head. -/
def RevisionsExhausted (epoch : UInt64) (store : RunStore) (periodic : Bool) : Prop :=
  StoredRevision epoch store maxUInt64 ∨ ∃ head, StoredHead epoch store head ∧
    (head.revision = maxUInt64 ∨ periodic = false ∧ head.revision + 1 = maxUInt64)

theorem not_maxUInt64_lt (revision : UInt64) : ¬ maxUInt64 < revision := by
  rw [UInt64.lt_iff_toNat_lt]
  have hmaximum : maxUInt64.toNat = 18446744073709551615 := rfl
  have hsize := revision.toNat_lt
  omega

theorem countersFull_of_exhausted {periodic : Bool} (h : CountersAhead store coordinator)
    (hexhausted : RevisionsExhausted coordinator.epoch store periodic) :
    coordinator.CountersFull periodic := by
  rcases hexhausted with hstored | ⟨head, hhead, hmaximum | ⟨hperiodic, hlast⟩⟩
  · refine .inl (by_contra fun hroom => ?_)
    exact not_maxUInt64_lt _ (h.checkpoint hroom _ hstored)
  · refine .inr (.inl (by_contra fun hroom => ?_))
    have habove := h.head hroom head hhead
    rw [hmaximum] at habove
    exact not_maxUInt64_lt _ habove
  · by_cases hroom : coordinator.nextHeadRevision = 0
    · exact .inr (.inl hroom)
    · refine .inr (.inr ⟨hperiodic, ?_⟩)
      have habove := h.head hroom head hhead
      have hone : head.revision.toNat + 1 = maxUInt64.toNat := by
        have hsize := head.revision.toNat_lt
        have hmaximum : maxUInt64.toNat = 18446744073709551615 := rfl
        have hsum := congrArg UInt64.toNat hlast
        rw [UInt64.toNat_add] at hsum
        have hvalue : (1 : UInt64).toNat = 1 := rfl
        omega
      apply UInt64.toNat_inj.mp
      rw [UInt64.lt_iff_toNat_lt] at habove
      have hsize := coordinator.nextHeadRevision.toNat_lt
      have hmaximum : maxUInt64.toNat = 18446744073709551615 := rfl
      omega

/-- Without a revision that is left no operation writes. -/
theorem issues_no_write_full {operation : RunOperation} {current : RunCommandState}
    (hfull : coordinator.CountersFull operation.isPeriodic) {key : RunStoreKey}
    {value : Bytes} {left : RunStore} :
    ¬ Program.Issues (stateStore unknown) (operation.perform coordinator current) store
      (.write key value) left := by
  intro hissued
  have hreads : AllowsReads fun _ => IsRead := fun _ _ hread => hread
  have hplanless : AllowsPlans (fun _ => IsRead) operation coordinator current store := by
    intro planned hplans transaction htransaction
    exfalso
    obtain ⟨highWater, hplanned⟩ := htransaction.planned
    rw [← periodic_of_plans hplans] at hfull
    rcases hfull with hfull | hfull | ⟨hprepared, hfull⟩
    · exact hplanned.checkpointCounter hfull
    · exact hplanned.headCounter.1 hfull
    · rcases hplanned.headCounter.2 with hperiodic | hroom
      · rw [hprepared] at hperiodic
        cases hperiodic
      · exact hroom hfull
  exact (respects_perform hreads hplanless).issued hissued

/-- A coordinator that accepts no write plans none. -/
theorem issues_no_write_blocked {operation : RunOperation} {current : RunCommandState}
    {key : RunStoreKey} {value : Bytes} {left : RunStore} (h : ¬ coordinator.Accepting) :
    ¬ Program.Issues (stateStore unknown) (operation.perform coordinator current) store
      (.write key value) left := by
  intro hissued
  have hreads : AllowsReads fun _ => IsRead := fun _ _ hread => hread
  exact (respects_perform hreads fun planned hplans =>
    absurd (admissible_of_plans hplans).accepting h).issued hissued

/-- In every run over any store, under any faults, whose loads see the revisions of the
store, every write is fresh in the store it meets; and when no revision is left nothing
is written, and what would have been written with revisions left is refused with
`CounterOverflow`. -/
theorem writes_are_fresh {initial : RunStore} {epoch : UInt64}
    {schedule : RunCheckpointSchedule} {events : List DeviceEvent}
    (hrun : Steps (VisibleStep unknown) (Device.boot initial epoch schedule) events device)
    (operation : RunOperation) (current : RunCommandState) :
    (∀ key value met, Program.Issues (stateStore unknown)
        (operation.perform device.coordinator current) device.store (.write key value) met →
      FreshCall device.coordinator.epoch met (.write key value)) ∧
    (RevisionsExhausted device.coordinator.epoch device.store operation.isPeriodic →
      (∀ key value met, ¬ Program.Issues (stateStore unknown)
        (operation.perform device.coordinator current) device.store (.write key value)
          met) ∧
      ∀ handler : RunStore → (request : StoreCall RunStoreKey) →
          StoreReply request × RunStore,
        (∀ world request, stateStore unknown world request (handler world request).1
          (handler world request).2) →
        (∃ key value met, Program.Issues
          (fun world request reply left => handler world request = (reply, left))
          (operation.perform device.coordinator.replenished current) device.store
          (.write key value) met) →
        ((operation.perform device.coordinator current).run handler
            device.store).1.result.status = .counterOverflow ∧
          ((operation.perform device.coordinator current).run handler device.store).2 =
            device.store) := by
  have hfresh := Device.fresh_of_run hrun
  refine ⟨fun key value met hissued => freshCall_of_issued hfresh hissued, ?_⟩
  intro hexhausted
  by_cases haccepting : device.coordinator.Accepting
  · have hfull := countersFull_of_exhausted (hfresh haccepting).2 hexhausted
    refine ⟨fun key value met => issues_no_write_full hfull, ?_⟩
    rintro handler hallowed ⟨key, value, met, hissued⟩
    refine (givesWay_perform operation hfull).refuses ?_ hissued
    intro world request hread
    exact quiet_reads world request _ _ hread (hallowed world request)
  · refine ⟨fun key value met => issues_no_write_blocked haccepting, ?_⟩
    rintro handler hallowed ⟨key, value, met, hissued⟩
    have hwrites : Program.Issues (stateStore unknown)
        (operation.perform device.coordinator.replenished current) device.store
        (.write key value) met := by
      refine hissued.mono fun world request reply left hreply => ?_
      have hanswer := hallowed world request
      rw [hreply] at hanswer
      exact hanswer
    have hblocked : ¬ device.coordinator.replenished.Accepting := haccepting
    exact absurd hwrites (issues_no_write_blocked hblocked)

theorem revisionsVisible_emptyStore (epoch : UInt64) : RevisionsVisible epoch emptyStore := by
  have hnone : ∀ head, ¬ CommittedHeadRead (ReadsAs emptyStore) epoch head := by
    intro head hhead
    cases hhead.read.1
  exact ⟨fun head _ _ hhead => absurd hhead (hnone head),
    fun head _ _ hhead => absurd hhead (hnone head)⟩

theorem steps_fresh (unknown : UnknownOutcome) :
    Steps (VisibleStep unknown) (Device.boot emptyStore 1 { intervalMinutes := 5 })
      [.loaded (Device.boot emptyStore 1 { intervalMinutes := 5 }).load.1] freshDevice :=
  .step .start ⟨Device.step_load unknown, fun _ _ => revisionsVisible_emptyStore 1⟩

theorem forall_calls_fresh {operation : RunOperation} {current : RunCommandState}
    (h : ∀ key value met, Program.Issues (stateStore anyOutcome)
        (operation.perform device.coordinator current) device.store (.write key value) met →
      FreshCall device.coordinator.epoch met (.write key value)) :
    ∀ call ∈ (operation.perform device.coordinator current).calls faultlessStore
      device.store, FreshCall device.coordinator.epoch call.1 call.2 := by
  rintro ⟨met, request⟩ hcall
  have hissued := Program.issues_of_calls (faultlessStore_stateStore anyOutcome) hcall
  cases request with
  | read key maxBytes => trivial
  | write key value => exact h key value met hissued

set_option maxRecDepth 1000000 in
/-- The calls of the first start. -/
theorem writes_are_fresh_first_run :
    ((startHolding.perform freshDevice.coordinator standby).calls faultlessStore
      freshDevice.store).isEmpty = false ∧
    ∀ call ∈ (startHolding.perform freshDevice.coordinator standby).calls faultlessStore
      freshDevice.store, FreshCall freshDevice.coordinator.epoch call.1 call.2 :=
  ⟨by decide +kernel, forall_calls_fresh
    (writes_are_fresh (steps_fresh anyOutcome) startHolding standby).1⟩

end Runs

/-! ### A head that lands late -/

/-- A store whose heads stay unresolved and leave a given value. -/
def lateHeads (left : Option Bytes) (store : RunStore) :
    (request : StoreCall RunStoreKey) → StoreReply request × RunStore
  | .read key maxBytes => (readReply store key maxBytes, store)
  | .write key value =>
      if key = headKey then (.commitOutcomeUnknown, store.put key left)
      else (.success, store.put key (some value))

theorem lateHeads_stateStore (left : Option Bytes) (store : RunStore)
    (request : StoreCall RunStoreKey) :
    stateStore anyOutcome store request (lateHeads left store request).1
      (lateHeads left store request).2 := by
  cases request with
  | read key maxBytes => exact faultlessStore_stateStore anyOutcome store (.read key maxBytes)
  | write key value =>
      rw [lateHeads]
      split
      · exact ⟨left, trivial, rfl⟩
      · rfl

def Device.operateLate (device : Device) (left : Option Bytes) (operation : RunOperation)
    (current : RunCommandState) : RunPersistenceOutcome × Device :=
  let performed :=
    (operation.perform device.coordinator current).run (lateHeads left) device.store
  (performed.1, ⟨performed.2, performed.1.coordinator⟩)

theorem Device.step_operateLate {device : Device} (left : Option Bytes)
    (operation : RunOperation) (current : RunCommandState) :
    DeviceStep (stateStore anyOutcome) device
      (.operated operation (device.operateLate left operation current).1)
      (device.operateLate left operation current).2 :=
  .operate (Program.finishes_run (lateHeads_stateStore left) _ _)

/-- A run that preheats before it holds. -/
def preheatStart : CommandDecision :=
  decideManualStart standby {
    envelope := { id := 1, monotonicMillis := 1000, expectedRunRevision := some 0, confirmed := true }
    plan := { holdingPlan with
      preheatEnabled := true
      maximumProductWaitMinutes := some 30 }
    safetyAllowsStart := true
    airSensorValid := true
    coolingSensorValid := true
    productSensorValid := true }

def startPreheating : RunOperation :=
  .persistCommand preheatStart ⟨1000, some 1700000000⟩ none

def checkpointAt (monotonicMillis : UInt64) : RunOperation :=
  .checkpointPeriodic ⟨monotonicMillis, some 1700000000⟩ none

/-- Slot 0 is current. -/
def preheating : Device := (freshDevice.operate startPreheating standby).2

/-- The head of the first checkpoint is reported as not written. -/
def unwritten : Device :=
  (preheating.operateLate (preheating.store headKey) (checkpointAt 301000)
    preheatStart.after).2

/-- The head that names slot 1 with the first checkpoint. -/
def lateHead : Option Bytes :=
  (preheating.operate (checkpointAt 301000) preheatStart.after).2.store headKey

/-- It lands when slot 1 already holds the second checkpoint. -/
def overtaken : Device :=
  (unwritten.operateLate lateHead (checkpointAt 601000) preheatStart.after).2

def recovered : RunPersistenceLoadResult × Device :=
  (Device.boot overtaken.store overtaken.coordinator.epoch { intervalMinutes := 5 }).load

def recoveredRun : RunCommandState :=
  (recovered.1.snapshot.bind restoreRunPersistenceSnapshot).getD standby

def activateRecovered : RunOperation :=
  .activateFallbackRecoveredRun ⟨1000, some 1700000900⟩ {}

/-- A record is written over one of the same revision. -/
def reusesRevision (epoch : UInt64) (met : RunStore) : StoreCall RunStoreKey → Bool
  | .read _ _ => false
  | .write key value => decide (key ≠ headKey) &&
      ((met key).bind (physicalRevision epoch)).any fun present =>
        physicalRevision epoch value = some present

theorem not_freshCall_of_reuses {request : StoreCall RunStoreKey}
    (h : reusesRevision epoch store request = true) : ¬ FreshCall epoch store request := by
  cases request with
  | read key maxBytes => cases h
  | write key value =>
      simp only [reusesRevision, Bool.and_eq_true, decide_eq_true_eq,
        Option.any_eq_true] at h
      obtain ⟨hkey, present, hpresent, hwritten⟩ := h
      obtain ⟨bytes, hbytes, hrevision⟩ := Option.bind_eq_some_iff.mp hpresent
      intro hfresh
      rw [FreshCall, if_neg hkey] at hfresh
      obtain ⟨revision, hvalue, habove⟩ := hfresh
      obtain rfl := Option.some.inj (hwritten.symm.trans hvalue)
      exact absurd (habove present (.inl ⟨key, hkey, bytes, hbytes, hrevision⟩))
        (UInt64.lt_irrefl present)

theorem deviceRun_recovered : ∃ events,
    DeviceRun (stateStore anyOutcome) (Device.boot emptyStore 1 { intervalMinutes := 5 })
      events recovered.2 := by
  have hstarted : DeviceStep (stateStore anyOutcome) freshDevice _ preheating :=
    Device.step_operate anyOutcome startPreheating standby
  have hunwritten : DeviceStep (stateStore anyOutcome) preheating _ unwritten :=
    Device.step_operateLate (preheating.store headKey) (checkpointAt 301000)
      preheatStart.after
  have hovertaken : DeviceStep (stateStore anyOutcome) unwritten _ overtaken :=
    Device.step_operateLate lateHead (checkpointAt 601000) preheatStart.after
  have hrebooted : DeviceStep (stateStore anyOutcome) overtaken _ _ :=
    .reboot { intervalMinutes := 5 }
  have hrecovered : DeviceStep (stateStore anyOutcome) (Device.boot overtaken.store
      overtaken.coordinator.epoch { intervalMinutes := 5 }) _ recovered.2 :=
    Device.step_load anyOutcome
  exact ⟨_, (((((deviceRun_fresh anyOutcome).step hstarted).step hunwritten).step
    hovertaken).step hrebooted).step hrecovered⟩

theorem issues_of_reuses {device : Device} {operation : RunOperation}
    {current : RunCommandState}
    (h : ((operation.perform device.coordinator current).calls faultlessStore
      device.store).any (fun call => reusesRevision device.coordinator.epoch call.1 call.2) =
        true) :
    ∃ key value met, Program.Issues (stateStore anyOutcome)
        (operation.perform device.coordinator current) device.store (.write key value) met ∧
      ¬ FreshCall device.coordinator.epoch met (.write key value) := by
  obtain ⟨⟨met, request⟩, hcall, hreuses⟩ := List.any_eq_true.mp h
  have hissued := Program.issues_of_calls (faultlessStore_stateStore anyOutcome) hcall
  cases request with
  | read key maxBytes => cases hreuses
  | write key value => exact ⟨key, value, met, hissued, not_freshCall_of_reuses hreuses⟩

set_option maxRecDepth 1000000 in
/-- After a late head the fallback is recovered over an orphan of the same revision. -/
theorem late_head_reuses_revision :
    ¬ ∀ (device : Device) (events : List DeviceEvent),
      DeviceRun (stateStore anyOutcome) (Device.boot emptyStore 1 { intervalMinutes := 5 })
        events device → ∀ operation current key value met,
      Program.Issues (stateStore anyOutcome)
        (RunOperation.perform operation device.coordinator current) device.store
        (.write key value) met →
      FreshCall device.coordinator.epoch met (.write key value) := by
  intro hfresh
  obtain ⟨events, hrun⟩ := deviceRun_recovered
  have hreuses : ((activateRecovered.perform recovered.2.coordinator recoveredRun).calls
      faultlessStore recovered.2.store).any
        (fun call => reusesRevision recovered.2.coordinator.epoch call.1 call.2) = true := by
    decide +kernel
  obtain ⟨key, value, met, hissued, hreused⟩ := issues_of_reuses hreuses
  exact hreused (hfresh _ events hrun _ _ key value met hissued)

end Fermentationsschrank

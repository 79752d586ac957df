import Fermentationsschrank.Persistence.LoadFacts
import Fermentationsschrank.Persistence.WriteProtocol

/-!
# What a transaction writes

A planned transaction knows all its bytes.  The heads decode to what was planned,
the committed one names the new record, and the new record is read back.
-/

namespace Fermentationsschrank

open Envelope

variable {coordinator : RunPersistenceCoordinator} {write : SnapshotWrite}
variable {transaction : CheckpointTransaction} {highWater : Option CommandId}

namespace RunPersistenceCoordinator

/-- Everything that has been checked when a transaction is planned. -/
structure TransactionPlanned (coordinator : RunPersistenceCoordinator)
    (write : SnapshotWrite) (highWater : Option CommandId)
    (transaction : CheckpointTransaction) : Prop where
  timed : isActiveFermentingSnapshot write.snapshot = true →
    write.time.utcUnixSeconds.isSome = true
  checkpointCounter : coordinator.nextCheckpointRevision ≠ 0
  headCounter : coordinator.nextHeadRevision ≠ 0 ∧
    (write.periodic = true ∨ coordinator.nextHeadRevision ≠ maxUInt64)
  schedule : coordinator.schedule.validate write.time.monotonicMillis = .success
  raised : coordinator.nextCommandIdHighWater write = .ok highWater
  accepted : coordinator.targetAccepted write = true
  target : transaction.target = coordinator.targetSlot write
  record : coordinator.prepareSnapshotRecord write = .ok transaction.record
  head : transaction.head = coordinator.committedHead write
    (makeRunCheckpointReference transaction.target transaction.record coordinator.epoch)
    highWater
  committed : encodeRunPersistenceHead transaction.head coordinator.epoch =
    some transaction.committedBytes
  prepared : transaction.preparedBytes =
    if write.periodic then none
    else encodeRunPersistenceHead (coordinator.preparedHead write
      (makeRunCheckpointReference transaction.target transaction.record coordinator.epoch)
      highWater) coordinator.epoch
  announced : write.periodic = false → transaction.preparedBytes.isSome = true

theorem Plans.planned (h : coordinator.Plans write transaction) :
    ∃ highWater, coordinator.TransactionPlanned write highWater transaction := by
  obtain ⟨highWater, hadmitted, hplan⟩ := h
  simp only [admitWrite, bind_eq_ok, require_eq_ok, Bool.not_eq_true',
    Bool.and_eq_false_iff, decide_eq_true_eq] at hadmitted
  obtain ⟨-, htimed, -, ⟨hcheckpoint, hhead, hperiodic⟩, -, -, -, hschedule, hhigh⟩ := hadmitted
  simp only [planTransaction, bind_eq_ok, require_eq_ok] at hplan
  obtain ⟨-, haccepted, hplan⟩ := hplan
  cases hrecord : coordinator.prepareSnapshotRecord write with
  | error failure =>
      rw [hrecord] at hplan
      cases failure <;> cases hplan
  | ok record =>
      rw [hrecord] at hplan
      simp only [encodeHeads, bind_eq_ok, require_eq_ok, orFail_eq_ok,
        Bool.or_eq_true] at hplan
      obtain ⟨-, hannounced, committedBytes, hcommitted, htransaction⟩ := hplan
      cases htransaction
      refine ⟨highWater, {
        timed := fun hfermenting => ?_
        checkpointCounter := hcheckpoint
        headCounter := ⟨hhead, hperiodic⟩
        schedule := hschedule
        raised := hhigh
        accepted := haccepted
        target := rfl
        record := hrecord
        head := rfl
        committed := hcommitted
        prepared := rfl
        announced := fun hprepared => ?_ }⟩
      · rcases htimed with htimed | htimed
        · rw [hfermenting] at htimed
          cases htimed
        · cases hutc : write.time.utcUnixSeconds with
          | none =>
              rw [hutc] at htimed
              cases htimed
          | some _ => rfl
      · rcases hannounced with hperiodic | hsome
        · rw [hperiodic] at hprepared
          cases hprepared
        · simpa [hprepared] using hsome

/-! ## The record -/

theorem prepareSnapshotRecord_eq_ok {record : RunPersistenceRawRecord}
    (h : coordinator.prepareSnapshotRecord write = .ok record) :
    record.snapshot = write.snapshot ∧
      record.checkpointRevision = coordinator.nextCheckpointRevision ∧
      record.utcUnixSeconds = write.time.utcUnixSeconds ∧
      ∃ payload, encodeRunPersistenceSnapshot write.snapshot = .ok payload ∧
        encodeEnvelope ⟨kCheckpointRecordType, kCurrentRunPersistenceSchema,
          coordinator.epoch, coordinator.nextCheckpointRevision,
          write.time.utcUnixSeconds, payload⟩ kMaximumCheckpointRecordBytes =
            .ok record.bytes := by
  unfold prepareSnapshotRecord at h
  cases hpayload : encodeRunPersistenceSnapshot write.snapshot with
  | error failure =>
      rw [hpayload] at h
      cases h
  | ok payload =>
      rw [hpayload] at h
      simp only at h
      split at h
      · cases h
      · rename_i bytes hbytes
        cases h
        exact ⟨rfl, rfl, rfl, payload, rfl, hbytes⟩

theorem prepareSnapshotRecord_opens {record : RunPersistenceRawRecord}
    (h : coordinator.prepareSnapshotRecord write = .ok record) :
    ∃ payload, encodeRunPersistenceSnapshot write.snapshot = .ok payload ∧
      openRecord kCheckpointRecordType record.bytes coordinator.epoch =
        some ⟨kCheckpointRecordType, kCurrentRunPersistenceSchema, coordinator.epoch,
          record.checkpointRevision, record.utcUnixSeconds, payload⟩ ∧
      record.bytes.length ≤ kMaximumCheckpointRecordBytes := by
  obtain ⟨-, hrevision, hutc, payload, hpayload, hencode⟩ := prepareSnapshotRecord_eq_ok h
  refine ⟨payload, hpayload, ?_, (encodeEnvelope_eq_ok hencode).2.2.1⟩
  rw [hrevision, hutc]
  exact openRecord_encodeEnvelope hencode
    (show knownRunPersistenceSchema kCurrentRunPersistenceSchema = true by decide)

/-- A written record is read back, provided its texts can be. -/
theorem decodeRunPersistenceRecord_prepared {record : RunPersistenceRawRecord}
    (h : coordinator.prepareSnapshotRecord write = .ok record)
    (htexts : write.snapshot.textsReadable) :
    decodeRunPersistenceRecord record.bytes coordinator.epoch = some record := by
  obtain ⟨payload, hpayload, hopen, -⟩ := prepareSnapshotRecord_opens h
  obtain ⟨hsnapshot, -⟩ := prepareSnapshotRecord_eq_ok h
  refine decodeRunPersistenceRecord_eq_some.mpr ⟨_, hopen, ?_, rfl, rfl, rfl⟩
  rw [hsnapshot]
  exact decodeRunPersistenceSnapshot_encode htexts hpayload

/-- The reference made for a record names it. -/
theorem makeRunCheckpointReference_matches {record : RunPersistenceRawRecord} {slot : ℕ}
    (h : coordinator.prepareSnapshotRecord write = .ok record) (hslot : slot ≤ 1)
    (hpayload : ∀ payload, encodeRunPersistenceSnapshot write.snapshot = .ok payload →
      payload.length ≤ kMaximumRunPersistencePayloadBytes) :
    let reference := makeRunCheckpointReference slot record coordinator.epoch
    runCheckpointReferenceMatches reference record slot = true ∧
      reference.slot.toNat = slot ∧ reference.variant = write.snapshot.variant ∧
      reference.checkpointRevision = record.checkpointRevision := by
  obtain ⟨payload, hencoded, hopen, -⟩ := prepareSnapshotRecord_opens h
  obtain ⟨hsnapshot, -⟩ := prepareSnapshotRecord_eq_ok h
  obtain ⟨hdecode, -⟩ := openRecord_eq_some.mp hopen
  have hsize := hpayload payload hencoded
  have hslotByte : (UInt8.ofNat slot).toNat = slot :=
    UInt8.toNat_ofNat_of_lt' (lt_of_le_of_lt hslot (by decide))
  have hlength : (UInt32.ofNat payload.length).toNat = payload.length :=
    UInt32.toNat_ofNat_of_lt' (lt_of_le_of_lt hsize (by decide))
  simp [makeRunCheckpointReference, runCheckpointReferenceMatches, hdecode, hslotByte,
    hlength, hsnapshot]

end RunPersistenceCoordinator

theorem encodeRunPersistenceSnapshot_length {snapshot : RunPersistenceSnapshot}
    {payload : Bytes} (h : encodeRunPersistenceSnapshot snapshot = .ok payload) :
    payload.length ≤ kMaximumRunPersistencePayloadBytes := by
  simp only [encodeRunPersistenceSnapshot, bind_eq_ok, require_eq_ok, orFail_eq_ok,
    decide_eq_true_eq] at h
  obtain ⟨-, -, out, -, -, hsize, hout⟩ := h
  cases hout
  exact hsize

namespace RunPersistenceCoordinator.TransactionPlanned

variable (h : coordinator.TransactionPlanned write highWater transaction)
include h

/-! ## The committed head -/

theorem target_le : transaction.target ≤ 1 := by
  have haccepted := h.accepted
  simp only [targetAccepted, decide_eq_true_eq] at haccepted
  rw [h.target]
  exact haccepted.1

/-- The new head names the new record. -/
theorem current_matches :
    runCheckpointReferenceMatches transaction.head.current transaction.record
        transaction.target = true ∧
      transaction.head.current.slot.toNat = transaction.target ∧
      transaction.head.current.variant = write.snapshot.variant ∧
      transaction.head.current.checkpointRevision =
        transaction.record.checkpointRevision := by
  rw [h.head]
  exact makeRunCheckpointReference_matches h.record h.target_le
    fun payload => encodeRunPersistenceSnapshot_length

theorem head_committed : transaction.head.state = .committed := by
  rw [h.head]
  rfl

/-- The bytes of the new head decode to it. -/
theorem committed_decodes :
    decodeRunPersistenceHead transaction.committedBytes coordinator.epoch =
      some { transaction.head with bytes := transaction.committedBytes } := by
  have hwritten : transaction.head.asWritten = { transaction.head with bytes := [] } := by
    rw [h.head]
    rfl
  rw [decodeRunPersistenceHead_encode h.committed, hwritten]

/-- The announcement decodes to the prepared head. -/
theorem announcement_decodes {preparedBytes : Bytes}
    (hprepared : transaction.preparedBytes = some preparedBytes) :
    write.periodic = false ∧
      decodeRunPersistenceHead preparedBytes coordinator.epoch = some
        { (coordinator.preparedHead write
            (makeRunCheckpointReference transaction.target transaction.record
              coordinator.epoch) highWater).asWritten with bytes := preparedBytes } := by
  have hbytes := h.prepared.symm.trans hprepared
  cases hperiodic : write.periodic with
  | true =>
      rw [hperiodic] at hbytes
      cases hbytes
  | false =>
      rw [hperiodic] at hbytes
      exact ⟨rfl, decodeRunPersistenceHead_encode hbytes⟩

/-- The fallback of the new head is one the old head refers to. -/
theorem fallback_known {reference : RunCheckpointReference}
    (hfallback : transaction.head.fallback = some reference) :
    ∃ head, coordinator.currentHead = some head ∧
      (reference = head.current ∨ head.fallback = some reference) := by
  rw [h.head] at hfallback
  have hnext : coordinator.nextFallback write = some reference := hfallback
  rw [nextFallback] at hnext
  split at hnext
  · cases hnext
  · rename_i head hhead
    refine ⟨head, hhead, ?_⟩
    split at hnext
    · cases hnext
    · split at hnext
      · rename_i hmode
        have haccepted := h.accepted
        simp only [targetAccepted, directiveValid, hmode, explicitFallbackValid, hnext,
          decide_eq_true_eq, Option.any_some, hhead, Option.bind_some] at haccepted
        exact .inr haccepted.2.1.2.2
      · exact .inl (Option.some.inj hnext).symm
      · cases hnext

end RunPersistenceCoordinator.TransactionPlanned

end Fermentationsschrank

import Fermentationsschrank.Persistence.EpochHandoff
import Fermentationsschrank.Persistence.LoadFacts
import Fermentationsschrank.Recovery.OperationEnds

/-!
# Loading never fabricates

Whatever the three keys hold, a snapshot that loading exposes is the decoding of
the one record its head names.  In every other case but the empty store the
coordinator is blocked for the rest of the boot.
-/

namespace Fermentationsschrank

open Envelope RunPersistenceCoordinator

/-- The slot a reference names holds a record that agrees with it throughout. -/
structure LoadsFrom (store : RunStore) (epoch : UInt64) (reference : RunCheckpointReference)
    (envelope : StorageEnvelope) (snapshot : RunPersistenceSnapshot) : Prop where
  stored : ∃ bytes, store (slotKey reference.slot.toNat) = some bytes ∧
    bytes.length ≤ kMaximumCheckpointRecordBytes ∧ decodeEnvelope bytes = .ok envelope
  recordType : envelope.recordTypeId = kCheckpointRecordType
  knownSchema : knownRunPersistenceSchema envelope.schemaVersion = true
  decodes : decodeRunPersistenceSnapshot envelope.payload envelope.schemaVersion =
    .ok snapshot
  epoch : envelope.storageEpoch = epoch
  referenceEpoch : reference.storageEpoch = envelope.storageEpoch
  schema : reference.schemaVersion = envelope.schemaVersion
  revision : reference.checkpointRevision = envelope.versionValue
  counted : envelope.versionValue ≠ 0
  payloadLength : reference.payloadLength.toNat = envelope.payload.length
  payloadCrc : reference.payloadCrc = Crc32.computeCrc32IsoHdlc envelope.payload
  variant : reference.variant = snapshot.variant

/-- Neither an operation nor an epoch handoff changes anything, now or later. -/
def AcceptsNoWrite (coordinator : RunPersistenceCoordinator) : Prop :=
  (∀ unknown store current (operation : RunOperation),
    Program.Ensures (stateStore unknown) (· = store)
      (fun outcome after => after = store ∧ outcome.current = current ∧
        outcome.result.status.Incomplete ∧
        outcome.coordinator.state = .blockedIndeterminate)
      (operation.perform coordinator current) store) ∧
  ∀ proof, (∃ outcome, coordinator.prepareAuthorizedEpochHandoff proof = .done outcome ∧
      outcome.completed = none) ∧
    ∃ outcome, coordinator.finalizeAuthorizedEpochHandoff proof = .done outcome ∧
      outcome.completed = none

variable {store : RunStore} {epoch : UInt64} {reference : RunCheckpointReference}

theorem handoff_refused {coordinator : RunPersistenceCoordinator}
    (hstate : coordinator.state ≠ .uninitialized)
    (proof : AuthorizedRunEpochHandoffProof) :
    (∃ outcome, coordinator.prepareAuthorizedEpochHandoff proof = .done outcome ∧
        outcome.completed = none) ∧
      ∃ outcome, coordinator.finalizeAuthorizedEpochHandoff proof = .done outcome ∧
        outcome.completed = none := by
  have hrefused : ∀ phase, handoffAuthorized coordinator proof phase = false := by
    intro phase
    simp [handoffAuthorized, hstate]
  unfold prepareAuthorizedEpochHandoff finalizeAuthorizedEpochHandoff
  constructor
  · split
    · exact ⟨_, rfl, rfl⟩
    · rw [hrefused]
      exact ⟨_, rfl, rfl⟩
  · split
    · exact ⟨_, rfl, rfl⟩
    · rw [hrefused]
      exact ⟨_, rfl, rfl⟩

theorem acceptsNoWrite_of_blocked {coordinator : RunPersistenceCoordinator}
    (h : coordinator.state = .blockedIndeterminate) : AcceptsNoWrite coordinator := by
  have hblocked : ¬ coordinator.Accepting := by
    unfold Accepting
    simp [h]
  refine ⟨fun unknown store current operation => ?_, handoff_refused (by rw [h]; decide)⟩
  refine (ensures_perform_blocked operation hblocked).mono (fun _ hleft => hleft) ?_
  rintro outcome after - ⟨hstore, hcurrent, hfailed, -, hstate⟩
  exact ⟨hstore, hcurrent, hfailed, hstate.elim (·.trans h) id⟩

/-! ## References -/

/-- A store without errors answers every read with what the key holds. -/
def storeReads (store : RunStore) : StoreReads :=
  fun key maxBytes reply => reply = readReply store key maxBytes

theorem answersReads_faultless (store : RunStore) :
    AnswersReads (fun world request reply after =>
      faultlessStore world request = (reply, after)) (storeReads store) store := by
  rintro key maxBytes reply after h
  cases h
  exact ⟨rfl, rfl⟩

theorem readReply_eq_success {key : RunStoreKey} {maxBytes : ℕ} {bytes : Bytes} :
    readReply store key maxBytes = .success bytes ↔
      store key = some bytes ∧ bytes.length ≤ maxBytes := by
  unfold readReply
  cases store key with
  | none => simp
  | some value =>
      by_cases hfits : value.length ≤ maxBytes
      · simp only [hfits, if_true, StateStoreReadResult.success.injEq, Option.some.injEq]
        constructor
        · rintro rfl
          exact ⟨rfl, hfits⟩
        · exact fun h => h.1
      · simp only [hfits, if_false, Option.some.injEq, reduceCtorEq, false_iff, not_and]
        rintro rfl
        exact hfits

theorem loadsFrom_iff {snapshot : RunPersistenceSnapshot} :
    (∃ envelope, LoadsFrom store epoch reference envelope snapshot) ↔
      ∃ record, ReferencedRead (storeReads store) epoch reference record ∧
        record.snapshot = snapshot := by
  constructor
  · rintro ⟨envelope, ⟨bytes, hstored, hfits, hopen⟩, htype, hknown, hdecodes, hepoch,
      hreference, hschema, hrevision, hcounted, hlength, hcrc, hvariant⟩
    let record : RunPersistenceRawRecord :=
      ⟨bytes, snapshot, envelope.versionValue, envelope.utcUnixSeconds⟩
    have hrecord : decodeRunPersistenceRecord bytes epoch = some record :=
      decodeRunPersistenceRecord_eq_some.mpr ⟨envelope,
        openRecord_eq_some.mpr ⟨hopen, htype, hknown, hepoch, hcounted⟩, hdecodes, rfl, rfl,
        rfl⟩
    have hnamed : runCheckpointReferenceMatches reference record reference.slot.toNat =
        true := by
      simp only [runCheckpointReferenceMatches, record, hopen, decide_eq_true_eq]
      exact ⟨trivial, hschema, hreference, hrevision, hlength, hcrc, hvariant⟩
    exact ⟨record, ⟨(readReply_eq_success.mpr ⟨hstored, hfits⟩).symm, hrecord, hnamed⟩, rfl⟩
  · rintro ⟨record, ⟨hread, hdecodes, hnamed⟩, rfl⟩
    obtain ⟨envelope, hopen, hsnapshot, -, hrevision, -⟩ :=
      decodeRunPersistenceRecord_eq_some.mp hdecodes
    obtain ⟨hdecode, htype, hknown, hepoch, hcounted⟩ := openRecord_eq_some.mp hopen
    simp only [runCheckpointReferenceMatches, hdecode, decide_eq_true_eq] at hnamed
    obtain ⟨-, hschema, hreference, hversion, hlength, hcrc, hvariant⟩ := hnamed
    obtain ⟨hstored, hfits⟩ := readReply_eq_success.mp hread.symm
    exact ⟨envelope, ⟨record.bytes, hstored, hfits, hdecode⟩, htype, hknown, hsnapshot,
      hepoch, hreference, hschema, hversion.trans hrevision, hcounted, hlength, hcrc,
      hvariant⟩

/-- A current reference that was refused does not load at all. -/
theorem not_loadsFrom_of_refused {reply : StateStoreReadResult}
    {status : RunPersistenceLoadStatus}
    (hread : SlotReads (storeReads store) reference.slot.toNat reply)
    (hrefused : acceptReferenced epoch reference reply = .error status) :
    ¬ ∃ envelope snapshot, LoadsFrom store epoch reference envelope snapshot := by
  rintro ⟨envelope, snapshot, hloads⟩
  obtain ⟨record, ⟨hrecord, hreferenced⟩, -⟩ := loadsFrom_iff.mp ⟨envelope, hloads⟩
  have haccept : acceptReferenced epoch reference (.success record.bytes) = .ok record :=
    acceptReferenced_eq_ok.mpr ⟨rfl, hreferenced⟩
  have hsame : StateStoreReadResult.success record.bytes = reply :=
    hrecord.trans hread.symm
  rw [hsame, hrefused] at haccept
  cases haccept

/-! ## The three keys -/

/-- The head names what the exposed snapshot was decoded from. -/
def Exposes (store : RunStore) (epoch : UInt64)
    (select : RunPersistenceHead → Option RunCheckpointReference)
    (head : RunPersistenceHead) (snapshot : RunPersistenceSnapshot) : Prop :=
  store headKey = some head.bytes ∧
    decodeRunPersistenceHead head.bytes epoch = some head ∧ head.state = .committed ∧
    ∃ reference envelope, select head = some reference ∧
      LoadsFrom store epoch reference envelope snapshot

theorem exposes_of_read {head : RunPersistenceHead}
    {select : RunPersistenceHead → Option RunCheckpointReference}
    {record : RunPersistenceRawRecord}
    (hhead : CommittedHeadRead (storeReads store) epoch head)
    (hselect : select head = some reference)
    (hrecord : ReferencedRead (storeReads store) epoch reference record) :
    Exposes store epoch select head record.snapshot := by
  obtain ⟨envelope, hloads⟩ := loadsFrom_iff.mpr ⟨record, hrecord, rfl⟩
  exact ⟨(readReply_eq_success.mp hhead.read.symm).1, hhead.decodes, hhead.committed,
    reference, envelope, hselect, hloads⟩

theorem readReply_eq_notFound {key : RunStoreKey} {maxBytes : ℕ} :
    readReply store key maxBytes = .notFound ↔ store key = none := by
  unfold readReply
  cases store key with
  | none => simp
  | some value =>
      simp only [reduceCtorEq, iff_false]
      split <;> exact fun h => (nomatch h)

/-- What each status of a first load says about the three keys. -/
def LoadTells (store : RunStore) (epoch : UInt64)
    (loaded : RunPersistenceLoadResult × RunPersistenceCoordinator) : Prop :=
  match loaded.1.status with
  | .current => ∃ head snapshot, loaded.1.snapshot = some snapshot ∧
      snapshot.variant ≠ .noActiveRun ∧
      Exposes store epoch (some ·.current) head snapshot
  | .noActiveRun => ∃ head snapshot, loaded.1.snapshot = some snapshot ∧
      snapshot.variant = .noActiveRun ∧
      Exposes store epoch (some ·.current) head snapshot
  | .fallbackRecovered => ∃ head snapshot, loaded.1.snapshot = some snapshot ∧
      snapshot.variant ≠ .noActiveRun ∧
      Exposes store epoch (·.fallback) head snapshot ∧
      ¬ ∃ envelope lost, LoadsFrom store epoch head.current envelope lost
  | .noPersistedRun => loaded.1.snapshot = none ∧ ∀ key, store key = none
  | _ => loaded.1.snapshot = none ∧ AcceptsNoWrite loaded.2

theorem loadTells_of_ends {fresh : RunPersistenceCoordinator}
    {loaded : RunPersistenceLoadResult × RunPersistenceCoordinator}
    (h : LoadEnds (storeReads store) fresh loaded) :
    LoadTells store fresh.epoch loaded := by
  cases h with
  | @failed status after hstatus hstate =>
      have hblocked : (none : Option RunPersistenceSnapshot) = none ∧
          AcceptsNoWrite after := ⟨rfl, acceptsNoWrite_of_blocked hstate⟩
      cases status <;> first | exact hblocked | exact absurd hstatus id
  | empty hhead hslot0 hslot1 =>
      refine ⟨rfl, fun key => ?_⟩
      cases key with
      | rh0 => exact readReply_eq_notFound.mp hhead.symm
      | rc0 => exact readReply_eq_notFound.mp hslot0.symm
      | rc1 => exact readReply_eq_notFound.mp hslot1.symm
  | @current head record next hhead hrecord =>
      have hexposes : Exposes store fresh.epoch (some ·.current) head record.snapshot :=
        exposes_of_read hhead rfl hrecord
      unfold installCurrent
      split
      · rename_i hvariant
        exact ⟨head, record.snapshot, rfl, hvariant, hexposes⟩
      · rename_i hvariant
        exact ⟨head, record.snapshot, rfl, hvariant, hexposes⟩
  | @fallback head reference record hhead hfallback hlost hrecord hactive =>
      obtain ⟨reply, status, hread, hrefused⟩ := hlost
      exact ⟨head, record.snapshot, rfl, hactive,
        exposes_of_read hhead hfallback hrecord,
        not_loadsFrom_of_refused hread hrefused⟩

/-- For every content of the three keys, a first load tells the truth about them
and changes none. -/
theorem loadAndInitialize_fabricates_nothing (epoch : UInt64)
    (schedule : RunCheckpointSchedule) (store : RunStore) :
    let loaded := (loadAndInitialize { epoch, schedule }).run faultlessStore store
    loaded.2 = store ∧ LoadTells store epoch loaded.1 := by
  have hborrowed : ({ epoch, schedule } : RunPersistenceCoordinator).commandBorrowed = false :=
    rfl
  have hloads := loads_loadAndInitialize (answersReads_faultless store) hborrowed rfl
  obtain ⟨hstore, hends⟩ := hloads.run fun _ _ => rfl
  exact ⟨hstore, loadTells_of_ends hends⟩

end Fermentationsschrank

import Fermentationsschrank.Persistence.Load

/-!
# What loading finds

`LoadsFrom` says that a reference names a record that can be read back, and
`LoadEnds` lists the ways in which loading returns.  Loading never writes.
-/

namespace Fermentationsschrank

open Envelope

variable {epoch : UInt64} {reference : RunCheckpointReference}

/-! ## Referenced records -/

/-- A slot content that a reference names and that decodes. -/
structure Referenced (epoch : UInt64) (reference : RunCheckpointReference)
    (record : RunPersistenceRawRecord) : Prop where
  decodes : decodeRunPersistenceRecord record.bytes epoch = some record
  named : runCheckpointReferenceMatches reference record reference.slot.toNat = true

theorem decodeRunPersistenceRecord_eq_some {bytes : Bytes}
    {record : RunPersistenceRawRecord} :
    decodeRunPersistenceRecord bytes epoch = some record ↔
      ∃ envelope, openRecord kCheckpointRecordType bytes epoch = some envelope ∧
        decodeRunPersistenceSnapshot envelope.payload envelope.schemaVersion =
          .ok record.snapshot ∧
        record.bytes = bytes ∧ record.checkpointRevision = envelope.versionValue ∧
        record.utcUnixSeconds = envelope.utcUnixSeconds := by
  simp only [decodeRunPersistenceRecord, Option.bind_eq_bind, Option.bind_eq_some_iff,
    Option.some.injEq, toOption_eq_some]
  constructor
  · rintro ⟨envelope, hopen, snapshot, hsnapshot, rfl⟩
    exact ⟨envelope, hopen, hsnapshot, rfl, rfl, rfl⟩
  · rintro ⟨envelope, hopen, hsnapshot, rfl, hrevision, hutc⟩
    refine ⟨envelope, hopen, record.snapshot, hsnapshot, ?_⟩
    rw [← hrevision, ← hutc]

theorem checkEnvelopeOrigin_of_open {recordTypeId : UInt16} {bytes : Bytes}
    {envelope : StorageEnvelope}
    (h : openRecord recordTypeId bytes epoch = some envelope) :
    checkEnvelopeOrigin bytes epoch = .ok () := by
  obtain ⟨hdecode, -, hschema, hepoch, -⟩ := openRecord_eq_some.mp h
  simp [checkEnvelopeOrigin, hdecode, hschema, hepoch]

theorem acceptReferenced_eq_ok {reply : StateStoreReadResult}
    {record : RunPersistenceRawRecord} :
    acceptReferenced epoch reference reply = .ok record ↔
      reply = .success record.bytes ∧ Referenced epoch reference record := by
  cases reply with
  | notFound => exact ⟨fun h => (nomatch h), fun h => (nomatch h.1)⟩
  | capacityError => exact ⟨fun h => (nomatch h), fun h => (nomatch h.1)⟩
  | readError => exact ⟨fun h => (nomatch h), fun h => (nomatch h.1)⟩
  | success bytes =>
      simp only [acceptReferenced, bind_eq_ok, orFail_eq_ok, require_eq_ok,
        StateStoreReadResult.success.injEq]
      constructor
      · rintro ⟨-, -, found, hdecode, -, hnamed, hfound⟩
        cases hfound
        obtain ⟨-, -, -, hbytes, -⟩ := decodeRunPersistenceRecord_eq_some.mp hdecode
        exact ⟨hbytes.symm, by rw [hbytes]; exact hdecode, hnamed⟩
      · rintro ⟨rfl, hdecodes, hnamed⟩
        obtain ⟨envelope, hopen, -⟩ := decodeRunPersistenceRecord_eq_some.mp hdecodes
        exact ⟨(), checkEnvelopeOrigin_of_open hopen, record, hdecodes, (), hnamed, rfl⟩

theorem acceptHead_eq_ok {bytes : Bytes} {head : RunPersistenceHead} :
    acceptHead epoch bytes = .ok head ↔
      decodeRunPersistenceHead bytes epoch = some head := by
  simp only [acceptHead, bind_eq_ok, orFail_eq_ok]
  constructor
  · rintro ⟨-, -, h⟩
    exact h
  · intro h
    obtain ⟨envelope, hopen, -⟩ := Option.bind_eq_some_iff.mp h
    exact ⟨(), checkEnvelopeOrigin_of_open hopen, h⟩

theorem decodeRunPersistenceHead_valid {bytes : Bytes} {head : RunPersistenceHead}
    (h : decodeRunPersistenceHead bytes epoch = some head) :
    validHead head epoch = true ∧ head.bytes = bytes := by
  simp only [decodeRunPersistenceHead, Option.bind_eq_bind, Option.bind_eq_some_iff] at h
  obtain ⟨_, -, _, -, ⟨found, rest⟩, -, hfound⟩ := h
  split at hfound
  · rename_i hchecks
    cases hfound
    rw [Bool.and_eq_true] at hchecks
    refine ⟨?_, rfl⟩
    have hvalid := hchecks.2
    unfold validHead at hvalid ⊢
    exact hvalid
  · cases hfound

/-! ## How loading ends -/

/-- The replies that the three keys may give. -/
abbrev StoreReads := RunStoreKey → ℕ → StateStoreReadResult → Prop

section LoadEnds

variable (reads : StoreReads)

def HeadReads (reply : StateStoreReadResult) : Prop :=
  reads headKey kMaximumHeadRecordBytes reply

def SlotReads (slot : ℕ) (reply : StateStoreReadResult) : Prop :=
  reads (slotKey slot) kMaximumCheckpointRecordBytes reply

/-- A committed head was read. -/
structure CommittedHeadRead (epoch : UInt64) (head : RunPersistenceHead) : Prop where
  read : HeadReads reads (.success head.bytes)
  decodes : decodeRunPersistenceHead head.bytes epoch = some head
  committed : head.state = .committed

/-- A referenced record was read. -/
structure ReferencedRead (epoch : UInt64) (reference : RunCheckpointReference)
    (record : RunPersistenceRawRecord) : Prop where
  read : SlotReads reads reference.slot.toNat (.success record.bytes)
  referenced : Referenced epoch reference record

/-- The statuses that expose no snapshot and block the coordinator. -/
def RunPersistenceLoadStatus.Failure : RunPersistenceLoadStatus → Prop
  | .noPersistedRun | .current | .noActiveRun | .fallbackRecovered => False
  | _ => True

inductive LoadEnds (fresh : RunPersistenceCoordinator) :
    RunPersistenceLoadResult × RunPersistenceCoordinator → Prop
  | failed {status after} (hstatus : status.Failure)
      (hstate : after.state = .blockedIndeterminate) :
      LoadEnds fresh ({ status }, after)
  | empty (hhead : HeadReads reads .notFound) (hslot0 : SlotReads reads 0 .notFound)
      (hslot1 : SlotReads reads 1 .notFound) :
      LoadEnds fresh ({ status := .noPersistedRun }, fresh.withState .readyEmpty)
  | current {head record next} (hhead : CommittedHeadRead reads fresh.epoch head)
      (hrecord : ReferencedRead reads fresh.epoch head.current record)
      (hscan : ∃ reply, SlotReads reads (otherSlot head.current.slot.toNat) reply ∧
        scanOtherSlot fresh.epoch (nextRevision record.checkpointRevision) reply =
          .ok next) :
      LoadEnds fresh (installCurrent
        ((withHead fresh head).withSlotRecord head.current.slot.toNat record) record next)
  | fallback {head reference record} (hhead : CommittedHeadRead reads fresh.epoch head)
      (hfallback : head.fallback = some reference)
      (hlost : ∃ reply status, SlotReads reads head.current.slot.toNat reply ∧
        acceptReferenced fresh.epoch head.current reply = .error status)
      (hrecord : ReferencedRead reads fresh.epoch reference record)
      (hactive : record.snapshot.variant ≠ .noActiveRun) :
      LoadEnds fresh (installFallback (withHead fresh head) head reference record)

end LoadEnds

/-! ## Loading only reads -/

section Loading

variable {environment : RunStoreEnvironment}
variable {reads : StoreReads} {store : RunStore} {fresh : RunPersistenceCoordinator}

/-- The environment answers reads of this store by `reads`. -/
def AnswersReads (environment : RunStoreEnvironment) (reads : StoreReads)
    (store : RunStore) : Prop :=
  ∀ key maxBytes reply after, environment store (.read key maxBytes) reply after →
    reads key maxBytes reply ∧ after = store

/-- Nothing but the result is known of a routine that only reads. -/
abbrev Loads {α : Type} (environment : RunStoreEnvironment) (store : RunStore)
    (post : α → Prop) (routine : RunStoreProgram α) : Prop :=
  Program.Ensures environment (· = store) (fun result after => after = store ∧ post result)
    routine store

theorem loads_done {α : Type} {post : α → Prop} {result : α} (h : post result) :
    Loads environment store post (.done result) := ⟨rfl, rfl, h⟩

theorem loads_bind {α β : Type} {post : β → Prop} {middle : α → Prop}
    {routine : RunStoreProgram α} {next : α → RunStoreProgram β}
    (hfirst : Loads environment store middle routine)
    (hnext : ∀ result, middle result → Loads environment store post (next result)) :
    Loads environment store post (routine >>= next) := by
  refine Program.ensures_bind.mpr (hfirst.mono (fun _ h => h) ?_)
  rintro result after - ⟨rfl, hmiddle⟩
  exact hnext result hmiddle

theorem loads_read (hreads : AnswersReads environment reads store) (key : RunStoreKey)
    (maxBytes : ℕ) :
    Loads environment store (reads key maxBytes) (readStore key maxBytes) := by
  refine ⟨rfl, fun reply after hreply => ?_⟩
  obtain ⟨hread, rfl⟩ := hreads key maxBytes reply after hreply
  exact ⟨rfl, rfl, hread⟩

theorem failsWith_checkEnvelopeOrigin {bytes : Bytes} :
    FailsWith RunPersistenceLoadStatus.Failure (checkEnvelopeOrigin bytes epoch) := by
  unfold checkEnvelopeOrigin
  split
  · exact failsWith_ok ()
  · exact failsWith_bind (failsWith_require trivial) fun _ => failsWith_require trivial

theorem failsWith_acceptHead {bytes : Bytes} :
    FailsWith RunPersistenceLoadStatus.Failure (acceptHead epoch bytes) :=
  failsWith_bind failsWith_checkEnvelopeOrigin fun _ => failsWith_orFail trivial

theorem failsWith_acceptReferenced {reply : StateStoreReadResult} :
    FailsWith RunPersistenceLoadStatus.Failure (acceptReferenced epoch reference reply) := by
  cases reply with
  | notFound => exact failsWith_error trivial
  | capacityError => exact failsWith_error trivial
  | readError => exact failsWith_error trivial
  | success bytes =>
      refine failsWith_bind failsWith_checkEnvelopeOrigin fun _ => ?_
      refine failsWith_bind (failsWith_orFail trivial) fun _ => ?_
      exact failsWith_bind (failsWith_require trivial) fun _ => failsWith_ok _

theorem failsWith_scanOtherSlot {next : UInt64} {reply : StateStoreReadResult} :
    FailsWith RunPersistenceLoadStatus.Failure (scanOtherSlot epoch next reply) := by
  cases reply with
  | notFound => exact failsWith_ok next
  | capacityError => exact failsWith_error trivial
  | readError => exact failsWith_error trivial
  | success bytes =>
      simp only [scanOtherSlot]
      cases physicalRevision epoch bytes with
      | none => exact failsWith_error trivial
      | some revision => exact failsWith_ok _

theorem fallbackFailure_failure {status other : RunPersistenceLoadStatus}
    (h : status.Failure) : (fallbackFailure status other).Failure := by
  cases other <;> first | exact h | trivial

theorem loadEnds_loadFailed {coordinator : RunPersistenceCoordinator}
    {status : RunPersistenceLoadStatus} (h : status.Failure) :
    LoadEnds reads fresh (loadFailed coordinator status) := .failed h rfl

/-- A slot probe tells presence or a failure. -/
theorem loads_probeSlot (hreads : AnswersReads environment reads store) (slot : ℕ) :
    Loads environment store (fun probed =>
        (∀ status, probed = .error status → status.Failure) ∧
          (probed = .ok false → SlotReads reads slot .notFound))
      (probeSlot slot) := by
  refine loads_bind (loads_read hreads _ _) fun reply hreply => ?_
  cases reply with
  | success bytes => exact loads_done ⟨failsWith_ok true, fun h => (nomatch h)⟩
  | notFound => exact loads_done ⟨failsWith_ok false, fun _ => hreply⟩
  | capacityError => exact loads_done ⟨failsWith_error trivial, fun h => (nomatch h)⟩
  | readError => exact loads_done ⟨failsWith_error trivial, fun h => (nomatch h)⟩

theorem loads_withoutHead (hreads : AnswersReads environment reads store)
    (hhead : HeadReads reads .notFound) :
    Loads environment store (LoadEnds reads fresh) (loadWithoutHead fresh) := by
  refine loads_bind (loads_probeSlot hreads 0) fun first hfirst => ?_
  cases first with
  | error status => exact loads_done (loadEnds_loadFailed (hfirst.1 status rfl))
  | ok firstPresent =>
      refine loads_bind (loads_probeSlot hreads 1) fun second hsecond => ?_
      cases second with
      | error status => exact loads_done (loadEnds_loadFailed (hsecond.1 status rfl))
      | ok secondPresent =>
          cases firstPresent with
          | true => exact loads_done (loadEnds_loadFailed trivial)
          | false =>
              cases secondPresent with
              | true => exact loads_done (loadEnds_loadFailed trivial)
              | false => exact loads_done (.empty hhead (hfirst.2 rfl) (hsecond.2 rfl))

/-- A reference loads what was read, or tells why not. -/
theorem loads_loadReference (hreads : AnswersReads environment reads store)
    (epoch : UInt64) (reference : RunCheckpointReference) :
    Loads environment store (fun loaded => ∃ reply,
        SlotReads reads reference.slot.toNat reply ∧
          loaded = acceptReferenced epoch reference reply)
      (loadReference epoch reference) := by
  refine loads_bind (loads_read hreads _ _) fun reply hreply => ?_
  exact loads_done ⟨reply, hreply, rfl⟩

theorem referencedRead_of_accept {reply : StateStoreReadResult}
    {record : RunPersistenceRawRecord} (hread : SlotReads reads reference.slot.toNat reply)
    (haccept : acceptReferenced epoch reference reply = .ok record) :
    ReferencedRead reads epoch reference record := by
  obtain ⟨rfl, hreferenced⟩ := acceptReferenced_eq_ok.mp haccept
  exact ⟨hread, hreferenced⟩

theorem loads_fallbackConsistent (hreads : AnswersReads environment reads store)
    (fallback : Option RunCheckpointReference) (record : RunPersistenceRawRecord) :
    Loads environment store (fun _ => True) (fallbackConsistent epoch fallback record) := by
  cases fallback with
  | none => exact loads_done trivial
  | some reference =>
      refine loads_bind (loads_loadReference hreads epoch reference) fun loaded _ => ?_
      cases loaded with
      | ok other => exact loads_done trivial
      | error status => exact loads_done trivial

theorem loads_current (hreads : AnswersReads environment reads store)
    {head : RunPersistenceHead} {record : RunPersistenceRawRecord}
    (hhead : CommittedHeadRead reads fresh.epoch head)
    (hrecord : ReferencedRead reads fresh.epoch head.current record) :
    Loads environment store (LoadEnds reads fresh)
      (loadCurrent (withHead fresh head) head record) := by
  refine loads_bind (loads_fallbackConsistent hreads head.fallback record)
    fun consistent _ => ?_
  cases consistent with
  | false => exact loads_done (loadEnds_loadFailed trivial)
  | true =>
      refine loads_bind (loads_read hreads _ _) fun reply hreply => ?_
      cases hscan : scanOtherSlot (withHead fresh head).epoch
          (nextRevision record.checkpointRevision) reply with
      | error status =>
          exact loads_done (loadEnds_loadFailed (failsWith_scanOtherSlot status hscan))
      | ok next => exact loads_done (.current hhead hrecord ⟨reply, hreply, hscan⟩)

theorem loads_fallback (hreads : AnswersReads environment reads store)
    {head : RunPersistenceHead} {status : RunPersistenceLoadStatus}
    (hhead : CommittedHeadRead reads fresh.epoch head)
    (hlost : ∃ reply, SlotReads reads head.current.slot.toNat reply ∧
      acceptReferenced fresh.epoch head.current reply = .error status) :
    Loads environment store (LoadEnds reads fresh)
      (loadFallback (withHead fresh head) head status) := by
  obtain ⟨lost, hlostRead, hrefused⟩ := hlost
  have hfailure := failsWith_acceptReferenced status hrefused
  unfold loadFallback
  cases hfallback : head.fallback with
  | none => exact loads_done (loadEnds_loadFailed hfailure)
  | some reference =>
      refine loads_bind (loads_loadReference hreads _ reference) ?_
      rintro loaded ⟨reply, hread, hloaded⟩
      cases loaded with
      | error other =>
          exact loads_done (loadEnds_loadFailed (fallbackFailure_failure hfailure))
      | ok record =>
          have hrecord := referencedRead_of_accept hread hloaded.symm
          simp only
          split
          · exact loads_done (loadEnds_loadFailed trivial)
          · rename_i hactive
            exact loads_done
              (.fallback hhead hfallback ⟨lost, status, hlostRead, hrefused⟩ hrecord hactive)

theorem loads_fromHead (hreads : AnswersReads environment reads store) {bytes : Bytes}
    (hread : HeadReads reads (.success bytes)) :
    Loads environment store (LoadEnds reads fresh) (loadFromHead fresh bytes) := by
  unfold loadFromHead
  cases haccept : acceptHead fresh.epoch bytes with
  | error status => exact loads_done (loadEnds_loadFailed (failsWith_acceptHead _ haccept))
  | ok head =>
      have hdecodes := acceptHead_eq_ok.mp haccept
      obtain ⟨-, rfl⟩ := decodeRunPersistenceHead_valid hdecodes
      simp only
      split
      · exact loads_done (loadEnds_loadFailed trivial)
      · rename_i hprepared
        have hcommitted : head.state = .committed := by
          cases hstate : head.state with
          | prepared => exact absurd hstate hprepared
          | committed => rfl
        have hhead : CommittedHeadRead reads fresh.epoch head :=
          ⟨hread, hdecodes, hcommitted⟩
        refine loads_bind (loads_loadReference hreads _ head.current) ?_
        rintro loaded ⟨reply, hslot, hloaded⟩
        cases loaded with
        | ok record =>
            exact loads_current hreads hhead (referencedRead_of_accept hslot hloaded.symm)
        | error status => exact loads_fallback hreads hhead ⟨reply, hslot, hloaded.symm⟩

/-- How the first load of a coordinator ends. -/
theorem loads_loadAndInitialize (hreads : AnswersReads environment reads store)
    {coordinator : RunPersistenceCoordinator} (hborrowed : coordinator.commandBorrowed = false)
    (hstate : coordinator.state = .uninitialized) :
    Loads environment store (LoadEnds reads (beginLoad coordinator))
      (loadAndInitialize coordinator) := by
  unfold loadAndInitialize
  simp only [hborrowed, Bool.false_eq_true, if_false, hstate, ne_eq, not_true_eq_false]
  refine loads_bind (loads_read hreads _ _) fun reply hreply => ?_
  cases reply with
  | notFound => exact loads_withoutHead hreads hreply
  | capacityError => exact loads_done (loadEnds_loadFailed trivial)
  | readError => exact loads_done (loadEnds_loadFailed trivial)
  | success bytes => exact loads_fromHead hreads hreply

end Loading

end Fermentationsschrank

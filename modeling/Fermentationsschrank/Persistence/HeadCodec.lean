import Fermentationsschrank.Persistence.CheckpointCodec
import Fermentationsschrank.Storage.StorageEnvelope

/-!
# Head and checkpoint records

The head names the slot that holds the current checkpoint.  A prepared head
announces a mutation, a committed one completes it.  Both records travel in a
storage envelope whose version value is the revision of the record.
-/

namespace Fermentationsschrank

open Envelope

def kCheckpointRecordType : UInt16 := 7
def kHeadRecordType : UInt16 := 8
def kMaximumHeadPayloadBytes : ℕ := 200
def kMaximumHeadRecordBytes : ℕ := 256
def kMaximumCheckpointRecordBytes : ℕ := 8240

/-! ## Wire fields -/

def referenceFields : Format RunCheckpointReference :=
  (Format.uint8.pair <| Format.uint32.pair <| Format.uint64.pair <|
    Format.uint64.pair <| Format.uint32.pair <| Format.uint32.pair variantFormat).equiv
    ⟨fun (slot, schema, epoch, revision, length, crc, variant) =>
        ⟨slot, schema, epoch, revision, length, crc, variant⟩,
      fun r => (r.slot, r.schemaVersion, r.storageEpoch, r.checkpointRevision,
        r.payloadLength, r.payloadCrc, r.variant),
      fun _ => rfl, fun _ => rfl⟩

instance : referenceFields.Total := by unfold referenceFields; infer_instance

def readableReference (reference : RunCheckpointReference) : Bool :=
  reference.slot ≤ 1 ∧ knownRunPersistenceSchema reference.schemaVersion ∧
    reference.storageEpoch ≠ 0 ∧ reference.checkpointRevision ≠ 0

def referenceFormat : Format RunCheckpointReference :=
  referenceFields.readGuard readableReference

def headStateFormat : Format RunPersistenceHeadState :=
  .tagged 1 [.prepared, .committed] (by intro value; cases value <;> decide) (by decide)
    (by decide)

/-- The recovery mutation is only known since schema 3. -/
def mutationKindFormat (schemaVersion : UInt32) : Format RunPersistenceMutationKind :=
  (Format.tagged 1 [.command, .transition, .sensorSelection, .recovery]
    (by intro value; cases value <;> decide) (by decide) (by decide)).readGuard
    fun kind => kind ≠ .recovery ∨ 3 ≤ schemaVersion

def commandIdFormat : Format CommandId := Format.uint64.guard (· ≠ 0)

def commandHighWaterFormat (schemaVersion : UInt32) : Format (Option CommandId) :=
  .since (4 ≤ schemaVersion) none optionalUint64

def revisionsFormat : Format (UInt32 × UInt32 × UInt32 × UInt32) :=
  Format.uint32.pair <| Format.uint32.pair <| Format.uint32.pair Format.uint32

def preparedFormat (schemaVersion : UInt32) :
    Format (Option RunCheckpointReference × Option RunCheckpointReference ×
      RunCheckpointReference × RunPersistenceMutationKind × Option CommandId ×
      (UInt32 × UInt32 × UInt32 × UInt32) × Option CommandId) :=
  referenceFormat.optional.pair <| referenceFormat.optional.pair <|
    referenceFormat.pair <| (mutationKindFormat schemaVersion).pair <|
    commandIdFormat.optional.pair <| revisionsFormat.pair
      (commandHighWaterFormat schemaVersion)

def committedFormat (schemaVersion : UInt32) :
    Format (RunCheckpointReference × Option RunCheckpointReference × Option CommandId) :=
  referenceFormat.pair <| referenceFormat.optional.pair
    (commandHighWaterFormat schemaVersion)

/-! ## Validity of a head -/

def validReference (reference : RunCheckpointReference) (epoch : UInt64) : Bool :=
  reference.slot ≤ 1 ∧ knownRunPersistenceSchema reference.schemaVersion ∧
    reference.storageEpoch = epoch ∧ reference.checkpointRevision ≠ 0 ∧
    reference.payloadLength.toNat ≤ kMaximumRunPersistencePayloadBytes

/-- A recovery may overwrite the slot of the current checkpoint as long as the
fallback in the other slot stays. -/
def validSameSlotRecovery (head : RunPersistenceHead) (epoch : UInt64) : Bool :=
  decide (head.mutationKind = .recovery) &&
    head.preparedFallback.any fun fallback =>
      validReference fallback epoch && decide (fallback.slot ≠ head.target.slot)

def validPreparedCurrent (head : RunPersistenceHead) (epoch : UInt64)
    (current : RunCheckpointReference) : Bool :=
  validReference current epoch &&
    (decide (current.slot ≠ head.target.slot) || validSameSlotRecovery head epoch) &&
    !(decide (current.variant = .noActiveRun) && head.preparedFallback.isSome)

def validPreparedFallback (head : RunPersistenceHead) (epoch : UInt64)
    (fallback : RunCheckpointReference) : Bool :=
  head.preparedCurrent.any fun current =>
    validReference fallback epoch && decide (fallback.slot ≠ current.slot)

def validPreparedHead (head : RunPersistenceHead) (epoch : UInt64) : Bool :=
  validReference head.target epoch && head.fallback.isNone &&
    decide (head.current.schemaVersion = 0 ∧ head.oldRunRevision ≤ head.newRunRevision ∧
      head.oldTransitionSequence ≤ head.newTransitionSequence ∧
      (head.mutationKind = .command ↔ head.commandId.isSome) ∧
      head.commandId ≠ some 0) &&
    head.preparedCurrent.all (validPreparedCurrent head epoch) &&
    (head.preparedCurrent.isSome || decide (head.target.slot = 0)) &&
    head.preparedFallback.all (validPreparedFallback head epoch)

def validCommittedHead (head : RunPersistenceHead) (epoch : UInt64) : Bool :=
  validReference head.current epoch && head.preparedCurrent.isNone &&
    head.preparedFallback.isNone && head.commandId.isNone &&
    decide (head.target.schemaVersion = 0 ∧ head.oldRunRevision = 0 ∧
      head.newRunRevision = 0 ∧ head.oldTransitionSequence = 0 ∧
      head.newTransitionSequence = 0) &&
    head.fallback.all fun fallback =>
      decide (head.current.variant ≠ .noActiveRun) && validReference fallback epoch &&
        decide (fallback.slot ≠ head.current.slot)

/-! ## Head record -/

def validHead (head : RunPersistenceHead) (epoch : UInt64) : Bool :=
  match head.state with
  | .prepared => validPreparedHead head epoch
  | .committed => validCommittedHead head epoch

def writeHeadFields (head : RunPersistenceHead) : Option Bytes :=
  match head.state with
  | .prepared =>
      (preparedFormat kCurrentRunPersistenceSchema).write
        (head.preparedCurrent, head.preparedFallback, head.target, head.mutationKind,
          head.commandId, (head.oldRunRevision, head.newRunRevision,
            head.oldTransitionSequence, head.newTransitionSequence),
          head.commandIdHighWater)
  | .committed =>
      (committedFormat kCurrentRunPersistenceSchema).write
        (head.current, head.fallback, head.commandIdHighWater)

def writeHeadPayload (head : RunPersistenceHead) (epoch : UInt64) : Option Bytes := do
  let state ← headStateFormat.write head.state
  let fields ← (writeHeadFields head).filter fun _ => validHead head epoch
  return state ++ fields

def encodeRunPersistenceHead (head : RunPersistenceHead) (epoch : UInt64) :
    Option Bytes :=
  if head.revision = 0 ∨ epoch = 0 then none
  else
    ((writeHeadPayload head epoch).filter (·.length ≤ kMaximumHeadPayloadBytes)).bind
      fun payload => (encodeEnvelope {
        recordTypeId := kHeadRecordType
        schemaVersion := kCurrentRunPersistenceSchema
        storageEpoch := epoch
        versionValue := head.revision
        utcUnixSeconds := none
        payload } kMaximumHeadRecordBytes).toOption

def readHeadFields (revision : UInt64) (schemaVersion : UInt32)
    (state : RunPersistenceHeadState) (bytes : Bytes) :
    Option (RunPersistenceHead × Bytes) :=
  match state with
  | .prepared => do
      let ((preparedCurrent, preparedFallback, target, mutationKind, commandId,
          (oldRunRevision, newRunRevision, oldTransitionSequence,
            newTransitionSequence), commandIdHighWater), rest) ←
        (preparedFormat schemaVersion).read bytes
      some ({
        state, revision, preparedCurrent, preparedFallback, target, mutationKind
        commandId, oldRunRevision, newRunRevision, oldTransitionSequence
        newTransitionSequence, commandIdHighWater }, rest)
  | .committed => do
      let ((current, fallback, commandIdHighWater), rest) ←
        (committedFormat schemaVersion).read bytes
      some ({ state, revision, current, fallback, commandIdHighWater }, rest)

/-- The envelope checks shared by both record types. -/
def openRecord (recordTypeId : UInt16) (bytes : Bytes) (epoch : UInt64) :
    Option StorageEnvelope :=
  (decodeEnvelope bytes).toOption.filter fun envelope =>
    envelope.recordTypeId = recordTypeId ∧
      knownRunPersistenceSchema envelope.schemaVersion ∧
      envelope.storageEpoch = epoch ∧ envelope.versionValue ≠ 0

def decodeRunPersistenceHead (bytes : Bytes) (epoch : UInt64) :
    Option RunPersistenceHead := do
  let envelope ← openRecord kHeadRecordType bytes epoch
  let (state, rest) ← headStateFormat.read envelope.payload
  let (head, rest) ← readHeadFields envelope.versionValue envelope.schemaVersion state rest
  if rest.isEmpty && validHead head epoch then some { head with bytes } else none

/-- The head without the fields its state does not store. -/
def RunPersistenceHead.asWritten (head : RunPersistenceHead) : RunPersistenceHead :=
  match head.state with
  | .prepared => { head with current := {}, fallback := none, bytes := [] }
  | .committed => {
      state := .committed
      revision := head.revision
      current := head.current
      fallback := head.fallback
      commandIdHighWater := head.commandIdHighWater }

theorem referenceFormat_readable {reference : RunCheckpointReference} {epoch : UInt64}
    (hepoch : epoch ≠ 0) (h : validReference reference epoch = true) :
    referenceFormat.Readable reference := by
  refine ⟨Format.Total.readable reference, ?_⟩
  simp only [validReference, readableReference, decide_eq_true_eq] at h ⊢
  obtain ⟨hslot, hschema, hreference, hrevision, -⟩ := h
  exact ⟨hslot, hschema, hreference ▸ hepoch, hrevision⟩

theorem referenceFormat_optional_readable {reference : Option RunCheckpointReference}
    {epoch : UInt64} (hepoch : epoch ≠ 0)
    (h : ∀ found ∈ reference, validReference found epoch = true) :
    referenceFormat.optional.Readable reference := by
  cases reference with
  | none => exact Format.readable_optional_none _
  | some found =>
      exact (Format.readable_optional_some _ _).mpr
        (referenceFormat_readable hepoch (h found rfl))

theorem preparedFormat_readable {head : RunPersistenceHead} {epoch : UInt64}
    (hepoch : epoch ≠ 0) (h : validPreparedHead head epoch = true) :
    (preparedFormat kCurrentRunPersistenceSchema).Readable
      (head.preparedCurrent, head.preparedFallback, head.target, head.mutationKind,
        head.commandId, (head.oldRunRevision, head.newRunRevision,
          head.oldTransitionSequence, head.newTransitionSequence),
        head.commandIdHighWater) := by
  simp only [validPreparedHead, Bool.and_eq_true, decide_eq_true_eq,
    Option.all_eq_true] at h
  obtain ⟨⟨⟨⟨⟨htarget, -⟩, -⟩, hcurrent⟩, -⟩, hfallback⟩ := h
  have hcurrentValid : ∀ found ∈ head.preparedCurrent, validReference found epoch = true := by
    intro found hfound
    have hvalid := hcurrent found hfound
    simp only [validPreparedCurrent, Bool.and_eq_true] at hvalid
    exact hvalid.1.1
  have hfallbackValid :
      ∀ found ∈ head.preparedFallback, validReference found epoch = true := by
    intro found hfound
    have hvalid := hfallback found hfound
    simp only [validPreparedFallback, Option.any_eq_true, Bool.and_eq_true] at hvalid
    obtain ⟨_, _, hvalid, _⟩ := hvalid
    exact hvalid
  have hid : commandIdFormat.optional.Readable head.commandId := by
    cases head.commandId with
    | none => exact Format.readable_optional_none _
    | some id =>
        exact (Format.readable_optional_some _ _).mpr (Format.readable_uint64 id)
  exact ⟨referenceFormat_optional_readable hepoch hcurrentValid,
    referenceFormat_optional_readable hepoch hfallbackValid,
    referenceFormat_readable hepoch htarget,
    ⟨trivial, by simp [kCurrentRunPersistenceSchema]⟩, hid,
    Format.readable_total (Format.uint32.pair <| Format.uint32.pair <|
      Format.uint32.pair Format.uint32) _,
    Format.readable_total optionalUint64 _⟩

theorem committedFormat_readable {head : RunPersistenceHead} {epoch : UInt64}
    (hepoch : epoch ≠ 0) (h : validCommittedHead head epoch = true) :
    (committedFormat kCurrentRunPersistenceSchema).Readable
      (head.current, head.fallback, head.commandIdHighWater) := by
  simp only [validCommittedHead, Bool.and_eq_true, Option.all_eq_true] at h
  obtain ⟨⟨⟨⟨⟨hcurrent, -⟩, -⟩, -⟩, -⟩, hfallback⟩ := h
  exact ⟨referenceFormat_readable hepoch hcurrent,
    referenceFormat_optional_readable hepoch fun found hfound =>
      ((hfallback found hfound).1).2,
    Format.readable_total optionalUint64 _⟩

/-- What was written is opened again. -/
theorem openRecord_encodeEnvelope {envelope : StorageEnvelope} {limit : ℕ} {bytes : Bytes}
    (hencode : encodeEnvelope envelope limit = .ok bytes)
    (hschema : knownRunPersistenceSchema envelope.schemaVersion = true) :
    openRecord envelope.recordTypeId bytes envelope.storageEpoch = some envelope := by
  obtain ⟨⟨-, -, -, hversion⟩, -⟩ := encodeEnvelope_eq_ok hencode
  simp [openRecord, decodeEnvelope_encodeEnvelope hencode, Except.toOption, hschema,
    hversion]

theorem openRecord_eq_some {recordTypeId : UInt16} {bytes : Bytes} {epoch : UInt64}
    {envelope : StorageEnvelope} :
    openRecord recordTypeId bytes epoch = some envelope ↔
      decodeEnvelope bytes = .ok envelope ∧ envelope.recordTypeId = recordTypeId ∧
        knownRunPersistenceSchema envelope.schemaVersion = true ∧
        envelope.storageEpoch = epoch ∧ envelope.versionValue ≠ 0 := by
  simp only [openRecord, Option.filter_eq_some_iff, toOption_eq_some, decide_eq_true_eq]

theorem encodeRunPersistenceHead_eq_some {head : RunPersistenceHead} {epoch : UInt64}
    {bytes : Bytes} (h : encodeRunPersistenceHead head epoch = some bytes) :
    head.revision ≠ 0 ∧ epoch ≠ 0 ∧ ∃ payload,
      writeHeadPayload head epoch = some payload ∧
        encodeEnvelope ⟨kHeadRecordType, kCurrentRunPersistenceSchema, epoch,
          head.revision, none, payload⟩ kMaximumHeadRecordBytes = .ok bytes := by
  unfold encodeRunPersistenceHead at h
  split at h
  · cases h
  · rename_i hzero
    rw [not_or] at hzero
    obtain ⟨payload, hpayload, hencode⟩ := Option.bind_eq_some_iff.mp h
    exact ⟨hzero.1, hzero.2, payload, (Option.filter_eq_some_iff.mp hpayload).1,
      toOption_eq_some.mp hencode⟩

theorem validHead_asWritten {head : RunPersistenceHead} {epoch : UInt64}
    (h : validHead head epoch = true) : validHead head.asWritten epoch = true := by
  rcases head with ⟨_ | _, _, _, _, _, _, _, _, _, _, _, _, _, _, _⟩
  · simp only [validHead, RunPersistenceHead.asWritten, validPreparedHead,
      Bool.and_eq_true, decide_eq_true_eq] at h ⊢
    obtain ⟨⟨⟨⟨⟨htarget, -⟩, -, hrest⟩, hcurrent⟩, hslot⟩, hfallback⟩ := h
    exact ⟨⟨⟨⟨⟨htarget, rfl⟩, trivial, hrest⟩, hcurrent⟩, hslot⟩, hfallback⟩
  · simp only [validHead, RunPersistenceHead.asWritten, validCommittedHead,
      Bool.and_eq_true, decide_eq_true_eq] at h ⊢
    exact ⟨⟨⟨⟨⟨h.1.1.1.1.1, rfl⟩, rfl⟩, rfl⟩, by decide⟩, h.2⟩

theorem readHeadFields_write {head : RunPersistenceHead} {epoch : UInt64} {fields : Bytes}
    (hepoch : epoch ≠ 0) (hvalid : validHead head epoch = true)
    (hwrite : writeHeadFields head = some fields) :
    readHeadFields head.revision kCurrentRunPersistenceSchema head.state fields =
      some (head.asWritten, []) := by
  unfold writeHeadFields at hwrite
  unfold validHead at hvalid
  unfold readHeadFields RunPersistenceHead.asWritten
  cases hstate : head.state with
  | prepared =>
      rw [hstate] at hwrite hvalid
      have hread := (preparedFormat kCurrentRunPersistenceSchema).read_write
        (preparedFormat_readable hepoch hvalid) hwrite []
      rw [List.append_nil] at hread
      simp [hread]
  | committed =>
      rw [hstate] at hwrite hvalid
      have hread := (committedFormat kCurrentRunPersistenceSchema).read_write
        (committedFormat_readable hepoch hvalid) hwrite []
      rw [List.append_nil] at hread
      simp [hread]

/-- A head that could be written is read back with the fields it stores. -/
theorem decodeRunPersistenceHead_encode {head : RunPersistenceHead} {epoch : UInt64}
    {bytes : Bytes} (h : encodeRunPersistenceHead head epoch = some bytes) :
    decodeRunPersistenceHead bytes epoch = some { head.asWritten with bytes } := by
  obtain ⟨-, hepoch, payload, hpayload, hencode⟩ := encodeRunPersistenceHead_eq_some h
  have hopen := openRecord_encodeEnvelope hencode
    (show knownRunPersistenceSchema kCurrentRunPersistenceSchema = true by decide)
  simp only [writeHeadPayload, Option.pure_def, Option.bind_eq_bind,
    Option.bind_eq_some_iff, Option.some.injEq] at hpayload
  obtain ⟨state, hstate, fields, hfields, rfl⟩ := hpayload
  obtain ⟨hfields, hvalid⟩ := Option.filter_eq_some_iff.mp hfields
  have hreadState := headStateFormat.read_write trivial hstate fields
  have hreadFields := readHeadFields_write hepoch hvalid hfields
  simp [decodeRunPersistenceHead, hopen, hreadState, hreadFields,
    validHead_asWritten hvalid]

/-! ## Checkpoint record -/

def decodeRunPersistenceRecord (bytes : Bytes) (epoch : UInt64) :
    Option RunPersistenceRawRecord := do
  let envelope ← openRecord kCheckpointRecordType bytes epoch
  let snapshot ← (decodeRunPersistenceSnapshot envelope.payload
    envelope.schemaVersion).toOption
  some ⟨bytes, snapshot, envelope.versionValue, envelope.utcUnixSeconds⟩

def runCheckpointReferenceMatches (reference : RunCheckpointReference)
    (record : RunPersistenceRawRecord) (slot : ℕ) : Bool :=
  match decodeEnvelope record.bytes with
  | .error _ => false
  | .ok envelope =>
      reference.slot.toNat = slot ∧ reference.schemaVersion = envelope.schemaVersion ∧
        reference.storageEpoch = envelope.storageEpoch ∧
        reference.checkpointRevision = record.checkpointRevision ∧
        reference.payloadLength.toNat = envelope.payload.length ∧
        reference.payloadCrc = Crc32.computeCrc32IsoHdlc envelope.payload ∧
        reference.variant = record.snapshot.variant

/-- The source opens the envelope unchecked: the record was just encoded or
decoded. -/
def makeRunCheckpointReference (slot : ℕ) (record : RunPersistenceRawRecord)
    (epoch : UInt64) : RunCheckpointReference :=
  match decodeEnvelope record.bytes with
  | .error _ => {}
  | .ok envelope => {
      slot := UInt8.ofNat slot
      schemaVersion := envelope.schemaVersion
      storageEpoch := epoch
      checkpointRevision := record.checkpointRevision
      payloadLength := UInt32.ofNat envelope.payload.length
      payloadCrc := Crc32.computeCrc32IsoHdlc envelope.payload
      variant := record.snapshot.variant }

end Fermentationsschrank

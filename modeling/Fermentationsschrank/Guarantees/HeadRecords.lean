import Fermentationsschrank.Persistence.HeadCodec

/-!
# Heads and references on the wire

A valid head is written and read back with the fields its state stores, and an
accepted head record without a time is the only encoding of its head.  A
reference to a record finds that record and no other one.
-/

namespace Fermentationsschrank

open Envelope

/-! ## Sizes -/

instance : referenceFields.Bounded 30 := by rw [referenceFields]; infer_instance
instance : referenceFormat.Bounded 30 := by rw [referenceFormat]; infer_instance
instance : headStateFormat.Bounded 1 := by rw [headStateFormat]; infer_instance
instance : commandIdFormat.Bounded 8 := by rw [commandIdFormat]; infer_instance
instance : revisionsFormat.Bounded 16 := by rw [revisionsFormat]; infer_instance
instance (schemaVersion : UInt32) : (mutationKindFormat schemaVersion).Bounded 1 := by
  rw [mutationKindFormat]; infer_instance
instance (schemaVersion : UInt32) : (commandHighWaterFormat schemaVersion).Bounded 9 := by
  rw [commandHighWaterFormat]; infer_instance
instance (schemaVersion : UInt32) : (preparedFormat schemaVersion).Bounded 127 := by
  rw [preparedFormat]; infer_instance
instance (schemaVersion : UInt32) : (committedFormat schemaVersion).Bounded 70 := by
  rw [committedFormat]; infer_instance

/-- Whatever its state, a head fits into its record. -/
theorem writeHeadFields_length {head : RunPersistenceHead} {fields : Bytes}
    (h : writeHeadFields head = some fields) : fields.length ≤ 127 := by
  rw [writeHeadFields] at h
  cases hstate : head.state with
  | prepared =>
      rw [hstate] at h
      exact Format.length_le h
  | committed =>
      rw [hstate] at h
      have hfields : fields.length ≤ 70 := Format.length_le h
      omega

/-! ## Writing a valid head -/

theorem writes_referenceFormat (reference : RunCheckpointReference) :
    referenceFormat.Writes reference := by
  simp [referenceFormat, referenceFields, variantFormat]

theorem writes_commandHighWaterFormat (highWater : Option CommandId) :
    (commandHighWaterFormat kCurrentRunPersistenceSchema).Writes highWater :=
  Format.writes_optional Format.uint64 fun id _ => Format.writes_uint64 id

/-- The writer refuses no field of a valid head. -/
theorem writes_headFields {head : RunPersistenceHead} {epoch : UInt64}
    (h : validHead head epoch = true) : ∃ fields, writeHeadFields head = some fields := by
  rw [validHead] at h
  rw [writeHeadFields]
  cases hstate : head.state with
  | committed =>
      simp only [committedFormat]
      have hwrites := (Format.writes_pair referenceFormat _
        (head.current, head.fallback, head.commandIdHighWater)).mpr
          ⟨writes_referenceFormat head.current, (Format.writes_pair _ _ _).mpr
            ⟨Format.writes_optional _ fun found _ => writes_referenceFormat found,
              writes_commandHighWaterFormat head.commandIdHighWater⟩⟩
      exact hwrites
  | prepared =>
      rw [hstate] at h
      have hcommand : commandIdFormat.optional.Writes head.commandId := by
        simp only [validPreparedHead, Bool.and_eq_true, decide_eq_true_eq] at h
        obtain ⟨⟨⟨⟨-, -, -, -, -, hid⟩, -⟩, -⟩, -⟩ := h
        apply Format.writes_optional
        rintro id hfound
        have hnonzero : id ≠ 0 := by
          rintro rfl
          exact hid hfound
        simp [commandIdFormat, hnonzero]
      have hkind : (mutationKindFormat kCurrentRunPersistenceSchema).Writes
          head.mutationKind := by
        simp [mutationKindFormat]
      have hwrites : (preparedFormat kCurrentRunPersistenceSchema).Writes
          (head.preparedCurrent, head.preparedFallback, head.target, head.mutationKind,
            head.commandId, (head.oldRunRevision, head.newRunRevision,
              head.oldTransitionSequence, head.newTransitionSequence),
            head.commandIdHighWater) := by
        simp only [preparedFormat, revisionsFormat, Format.writes_pair,
          Format.writes_uint32, and_true, true_and]
        exact ⟨Format.writes_optional _ fun found _ => writes_referenceFormat found,
          Format.writes_optional _ fun found _ => writes_referenceFormat found,
          writes_referenceFormat head.target, hkind, hcommand,
          writes_commandHighWaterFormat head.commandIdHighWater⟩
      exact hwrites

theorem encodeEnvelope_head {epoch revision : UInt64} {payload : Bytes}
    (hepoch : epoch ≠ 0) (hrevision : revision ≠ 0) (hlength : payload.length ≤ 128) :
    ∃ bytes, encodeEnvelope ⟨kHeadRecordType, kCurrentRunPersistenceSchema, epoch, revision,
      none, payload⟩ kMaximumHeadRecordBytes = .ok bytes := by
  have htype : kHeadRecordType ≠ 0 := by decide
  have hschema : kCurrentRunPersistenceSchema ≠ 0 := by decide
  refine ⟨_, encodeEnvelope_of_fits ⟨htype, hschema, hepoch, hrevision⟩ ?_ ?_⟩
  · show payload.length ≤ 4294967295
    omega
  · rw [length_headerBytes]
    show kHeaderBeforeCrcWithoutUtc + 0 + kCrcSize + payload.length ≤ kMaximumHeadRecordBytes
    rw [kHeaderBeforeCrcWithoutUtc, kCrcSize, kMaximumHeadRecordBytes]
    omega

theorem encodeRunPersistenceHead_of_payload {head : RunPersistenceHead} {epoch : UInt64}
    {payload bytes : Bytes} (hrevision : head.revision ≠ 0) (hepoch : epoch ≠ 0)
    (hpayload : writeHeadPayload head epoch = some payload)
    (hlength : payload.length ≤ 128)
    (hencode : encodeEnvelope ⟨kHeadRecordType, kCurrentRunPersistenceSchema, epoch,
      head.revision, none, payload⟩ kMaximumHeadRecordBytes = .ok bytes) :
    encodeRunPersistenceHead head epoch = some bytes := by
  have hfits : payload.length ≤ kMaximumHeadPayloadBytes := by
    rw [kMaximumHeadPayloadBytes]
    omega
  rw [encodeRunPersistenceHead, if_neg (not_or.mpr ⟨hrevision, hepoch⟩), hpayload,
    Option.filter_some, if_pos (decide_eq_true hfits), Option.bind_some, hencode]
  rfl

theorem writeHeadPayload_of_fields {head : RunPersistenceHead} {epoch : UInt64}
    {state fields : Bytes} (hvalid : validHead head epoch = true)
    (hstate : headStateFormat.write head.state = some state)
    (hfields : writeHeadFields head = some fields) :
    writeHeadPayload head epoch = some (state ++ fields) := by
  rw [writeHeadPayload, hstate, hfields, hvalid]
  rfl

theorem headPayload_length {head : RunPersistenceHead} {state fields : Bytes}
    (hstate : headStateFormat.write head.state = some state)
    (hfields : writeHeadFields head = some fields) : (state ++ fields).length ≤ 128 := by
  have hstateLength : state.length ≤ 1 := Format.length_le hstate
  have hfieldsLength := writeHeadFields_length hfields
  rw [List.length_append]
  omega

/-- A valid head with a revision is encoded. -/
theorem encodeRunPersistenceHead_of_valid {head : RunPersistenceHead} {epoch : UInt64}
    (hrevision : head.revision ≠ 0) (hepoch : epoch ≠ 0)
    (hvalid : validHead head epoch = true) :
    ∃ bytes, encodeRunPersistenceHead head epoch = some bytes := by
  obtain ⟨fields, hfields⟩ := writes_headFields hvalid
  have hstates : headStateFormat.Writes head.state := Format.writes_tagged ..
  obtain ⟨state, hstate⟩ := hstates
  have hlength := headPayload_length hstate hfields
  obtain ⟨bytes, hencode⟩ := encodeEnvelope_head hepoch hrevision hlength
  exact ⟨bytes, encodeRunPersistenceHead_of_payload hrevision hepoch
    (writeHeadPayload_of_fields hvalid hstate hfields) hlength hencode⟩

/-! ## Encoding an accepted head -/

/-- What was read of a head is what the writer makes of it. -/
theorem writeHeadFields_read {revision : UInt64} {state : RunPersistenceHeadState}
    {bytes rest : Bytes} {head : RunPersistenceHead}
    (h : readHeadFields revision kCurrentRunPersistenceSchema state bytes =
      some (head, rest)) :
    head.state = state ∧ head.revision = revision ∧
      ∃ fields, writeHeadFields head = some fields ∧ bytes = fields ++ rest := by
  cases state with
  | prepared =>
      simp only [readHeadFields, Option.bind_eq_bind, Option.bind_eq_some_iff, Prod.exists,
        Option.some.injEq, Prod.mk.injEq] at h
      obtain ⟨_, _, _, _, _, _, _, _, _, _, _, hread, rfl, rfl⟩ := h
      obtain ⟨fields, hfields, hbytes⟩ :=
        (preparedFormat kCurrentRunPersistenceSchema).write_read hread
      exact ⟨rfl, rfl, fields, hfields, hbytes⟩
  | committed =>
      simp only [readHeadFields, Option.bind_eq_bind, Option.bind_eq_some_iff, Prod.exists,
        Option.some.injEq, Prod.mk.injEq] at h
      obtain ⟨_, _, _, _, hread, rfl, rfl⟩ := h
      obtain ⟨fields, hfields, hbytes⟩ :=
        (committedFormat kCurrentRunPersistenceSchema).write_read hread
      exact ⟨rfl, rfl, fields, hfields, hbytes⟩

/-- The encoding ignores the bytes a head was read from. -/
theorem encodeRunPersistenceHead_bytes (head : RunPersistenceHead) (epoch : UInt64)
    (bytes : Bytes) : encodeRunPersistenceHead { head with bytes } epoch =
      encodeRunPersistenceHead head epoch := rfl

/-- An accepted head record without a time is reproduced by encoding its head. -/
theorem encodeRunPersistenceHead_decode {bytes : Bytes} {epoch : UInt64}
    {head : RunPersistenceHead} {envelope : StorageEnvelope}
    (hdecode : decodeRunPersistenceHead bytes epoch = some head)
    (hopen : decodeEnvelope bytes = .ok envelope)
    (hschema : envelope.schemaVersion = kCurrentRunPersistenceSchema)
    (htime : envelope.utcUnixSeconds = none) :
    encodeRunPersistenceHead head epoch = some bytes := by
  simp only [decodeRunPersistenceHead, Option.bind_eq_bind, Option.bind_eq_some_iff,
    Prod.exists, Option.ite_none_right_eq_some, Bool.and_eq_true, List.isEmpty_iff,
    Option.some.injEq] at hdecode
  obtain ⟨found, hfound, state, tail, hstate, read, _, hfields, ⟨rfl, hvalid⟩, rfl⟩ := hdecode
  obtain ⟨hsame, htype, -, hepoch, hversion⟩ := openRecord_eq_some.mp hfound
  rw [hopen, Except.ok.injEq] at hsame
  subst hsame
  obtain ⟨recordTypeId, schemaVersion, storageEpoch, versionValue, utcUnixSeconds,
    payload⟩ := envelope
  dsimp only at htype hepoch hversion hstate hfields hschema htime
  subst htype hepoch hschema htime
  obtain ⟨rfl, rfl, fields, hwritten, htail⟩ := writeHeadFields_read hfields
  obtain ⟨front, hfront, hpayload⟩ := headStateFormat.write_read hstate
  rw [List.append_nil] at htail
  subst htail hpayload
  have hlength := headPayload_length hfront hwritten
  obtain ⟨-, -, hstored, -⟩ := decodeEnvelope_eq_ok hopen
  obtain ⟨other, hencode⟩ := encodeEnvelope_head hstored hversion hlength
  have hreopen := decodeEnvelope_encodeEnvelope hencode
  rw [encodeRunPersistenceHead_bytes, encodeRunPersistenceHead_of_payload hversion hstored
    (writeHeadPayload_of_fields hvalid hfront hwritten) hlength hencode]
  rw [(bytes_of_decodeEnvelope hopen).1, (bytes_of_decodeEnvelope hreopen).1]

/-! ## Epochs and references -/

/-- A record opens under one epoch only. -/
theorem decodeRunPersistenceHead_epoch {bytes : Bytes} {epoch other : UInt64}
    {head : RunPersistenceHead} (h : decodeRunPersistenceHead bytes epoch = some head)
    (hother : other ≠ epoch) : decodeRunPersistenceHead bytes other = none := by
  simp only [decodeRunPersistenceHead, Option.bind_eq_bind, Option.bind_eq_some_iff] at h
  obtain ⟨envelope, hopen, -⟩ := h
  obtain ⟨hdecode, -, -, hepoch, -⟩ := openRecord_eq_some.mp hopen
  have hclosed : openRecord kHeadRecordType bytes other = none := by
    rw [openRecord, hdecode, Except.toOption, Option.filter_some, if_neg]
    simp only [decide_eq_true_eq, not_and]
    intro _ _ hsame
    exact absurd (hsame.symm.trans hepoch) hother
  rw [decodeRunPersistenceHead, hclosed]
  rfl

/-- Two records that a reference cannot tell apart. -/
structure SameReferenced (slot otherSlot : ℕ) (record other : RunPersistenceRawRecord) :
    Prop where
  slot : otherSlot = slot
  checkpointRevision : other.checkpointRevision = record.checkpointRevision
  variant : other.snapshot.variant = record.snapshot.variant
  envelope : ∃ envelope otherEnvelope, decodeEnvelope record.bytes = .ok envelope ∧
    decodeEnvelope other.bytes = .ok otherEnvelope ∧
    otherEnvelope.schemaVersion = envelope.schemaVersion ∧
    otherEnvelope.storageEpoch = envelope.storageEpoch ∧
    otherEnvelope.payload.length = envelope.payload.length ∧
    Crc32.computeCrc32IsoHdlc otherEnvelope.payload =
      Crc32.computeCrc32IsoHdlc envelope.payload

/-- A reference to a decoded record matches the records it cannot be told apart
from, the record itself among them, and no other one. -/
theorem makeRunCheckpointReference_matches_iff {bytes : Bytes} {epoch : UInt64}
    {record other : RunPersistenceRawRecord} {slot otherSlot : ℕ}
    (hdecode : decodeRunPersistenceRecord bytes epoch = some record) (hslot : slot ≤ 255) :
    runCheckpointReferenceMatches (makeRunCheckpointReference slot record epoch) other
        otherSlot = true ↔ SameReferenced slot otherSlot record other := by
  simp only [decodeRunPersistenceRecord, Option.bind_eq_bind, Option.bind_eq_some_iff,
    Option.some.injEq] at hdecode
  obtain ⟨envelope, hopened, snapshot, -, rfl⟩ := hdecode
  obtain ⟨hopen, -, -, rfl, -⟩ := openRecord_eq_some.mp hopened
  have hword := (bytes_of_decodeEnvelope hopen).2
  have hbyte : (UInt8.ofNat slot).toNat = slot :=
    UInt8.toNat_ofNat_of_lt' (show slot < 256 by omega)
  have hlength : (UInt32.ofNat envelope.payload.length).toNat = envelope.payload.length :=
    UInt32.toNat_ofNat_of_lt' (show envelope.payload.length < 4294967296 by omega)
  rw [runCheckpointReferenceMatches]
  cases hother : decodeEnvelope other.bytes with
  | error status =>
      simp only [Bool.false_eq_true, false_iff]
      rintro ⟨-, -, -, _, found, -, hfound, -⟩
      rw [hother] at hfound
      cases hfound
  | ok found =>
      simp only [makeRunCheckpointReference, hopen, decide_eq_true_eq, hbyte, hlength]
      constructor
      · rintro ⟨rfl, hschema, hepoch, hrevision, hsize, hcrc, hvariant⟩
        exact ⟨rfl, hrevision.symm, hvariant.symm, envelope, found, hopen, hother,
          hschema.symm, hepoch.symm, hsize.symm, hcrc.symm⟩
      · rintro ⟨rfl, hrevision, hvariant, _, _, hfirst, hsecond, hschema, hepoch, hsize, hcrc⟩
        rw [hopen, Except.ok.injEq] at hfirst
        rw [hother, Except.ok.injEq] at hsecond
        subst hfirst hsecond
        exact ⟨rfl, hschema.symm, hepoch.symm, hrevision.symm, hsize.symm, hcrc.symm,
          hvariant.symm⟩

theorem SameReferenced.refl_of_decode {bytes : Bytes} {epoch : UInt64}
    {record : RunPersistenceRawRecord} (slot : ℕ)
    (hdecode : decodeRunPersistenceRecord bytes epoch = some record) :
    SameReferenced slot slot record record := by
  simp only [decodeRunPersistenceRecord, Option.bind_eq_bind, Option.bind_eq_some_iff,
    Option.some.injEq] at hdecode
  obtain ⟨envelope, hopened, snapshot, -, rfl⟩ := hdecode
  have hopen := (openRecord_eq_some.mp hopened).1
  exact ⟨rfl, rfl, rfl, envelope, envelope, hopen, hopen, rfl, rfl, rfl, rfl⟩

/-! ## The bijection -/

/-- A head that is valid for its state comes back from its encoding with what its
state stores; an accepted head of the current schema without a time is reproduced
byte for byte; no head opens under another epoch; and a reference to a record
matches exactly the records it cannot be told apart from. -/
theorem runHead_encoding :
    (∀ head epoch, head.revision ≠ 0 → epoch ≠ 0 → validHead head epoch = true →
      ∃ bytes, encodeRunPersistenceHead head epoch = some bytes ∧
        decodeRunPersistenceHead bytes epoch = some { head.asWritten with bytes }) ∧
    (∀ bytes epoch head envelope, decodeRunPersistenceHead bytes epoch = some head →
      decodeEnvelope bytes = .ok envelope →
      envelope.schemaVersion = kCurrentRunPersistenceSchema →
      envelope.utcUnixSeconds = none → encodeRunPersistenceHead head epoch = some bytes) ∧
    (∀ bytes epoch head other, decodeRunPersistenceHead bytes epoch = some head →
      other ≠ epoch → decodeRunPersistenceHead bytes other = none) ∧
    (∀ bytes epoch record slot, decodeRunPersistenceRecord bytes epoch = some record →
      slot ≤ 255 →
      runCheckpointReferenceMatches (makeRunCheckpointReference slot record epoch) record
          slot = true ∧
        ∀ other otherSlot, runCheckpointReferenceMatches
            (makeRunCheckpointReference slot record epoch) other otherSlot = true →
          SameReferenced slot otherSlot record other) := by
  refine ⟨?_, ?_, ?_, ?_⟩
  · intro head epoch hrevision hepoch hvalid
    obtain ⟨bytes, hencode⟩ := encodeRunPersistenceHead_of_valid hrevision hepoch hvalid
    exact ⟨bytes, hencode, decodeRunPersistenceHead_encode hencode⟩
  · intro bytes epoch head envelope hdecode hopen hschema htime
    exact encodeRunPersistenceHead_decode hdecode hopen hschema htime
  · intro bytes epoch head other hdecode hother
    exact decodeRunPersistenceHead_epoch hdecode hother
  · intro bytes epoch record slot hdecode hslot
    have hmatches := @makeRunCheckpointReference_matches_iff bytes epoch record
    exact ⟨(hmatches hdecode hslot).mpr (.refl_of_decode slot hdecode),
      fun other otherSlot => (hmatches hdecode hslot).mp⟩

/-- A committed head of the first epoch. -/
def committedSample (revision : UInt64) : RunPersistenceHead where
  state := .committed
  revision := revision
  current := ⟨0, kCurrentRunPersistenceSchema, 1, 1, 0, 0, .noActiveRun⟩

/-- A head that prepares the first run of the epoch by a command. -/
def preparedSample : RunPersistenceHead where
  state := .prepared
  revision := 2
  preparedCurrent := some ⟨0, kCurrentRunPersistenceSchema, 1, 1, 0, 0, .noActiveRun⟩
  target := ⟨1, kCurrentRunPersistenceSchema, 1, 2, 300, 7, .programRun⟩
  commandId := some 5
  commandIdHighWater := some 4
  newRunRevision := 1
  newTransitionSequence := 1

theorem runHead_encoding_samples :
    (∃ bytes, encodeRunPersistenceHead (committedSample 1) 1 = some bytes ∧
      decodeRunPersistenceHead bytes 1 = some { (committedSample 1).asWritten with bytes }) ∧
    ∃ bytes, encodeRunPersistenceHead preparedSample 1 = some bytes ∧
      decodeRunPersistenceHead bytes 1 = some { preparedSample.asWritten with bytes } :=
  ⟨runHead_encoding.1 (committedSample 1) 1 (by decide) (by decide) (by decide +kernel),
    runHead_encoding.1 preparedSample 1 (by decide) (by decide) (by decide +kernel)⟩

/-- The record of a head with a time, which the writer never sets. -/
def timedHeadRecord : Bytes :=
  let payload := ((writeHeadPayload (committedSample 1) 1).getD [])
  ((encodeEnvelope ⟨kHeadRecordType, kCurrentRunPersistenceSchema, 1, 1, some 0, payload⟩
    kMaximumHeadRecordBytes).toOption).getD []

set_option maxRecDepth 100000 in
/-- A valid head without a revision is not encoded, and a head record with a time
is accepted but not reproduced. -/
theorem runHead_encoding_limits :
    (validCommittedHead (committedSample 0) 1 = true ∧
      encodeRunPersistenceHead (committedSample 0) 1 = none) ∧
    ((decodeEnvelope timedHeadRecord).toOption.map (·.schemaVersion) =
        some kCurrentRunPersistenceSchema ∧
      ∃ head, decodeRunPersistenceHead timedHeadRecord 1 = some head ∧
        encodeRunPersistenceHead head 1 ≠ some timedHeadRecord) := by
  refine ⟨by decide +kernel, by decide +kernel, ?_⟩
  have haccepted : ((decodeRunPersistenceHead timedHeadRecord 1).any fun head =>
      encodeRunPersistenceHead head 1 ≠ some timedHeadRecord) = true := by
    decide +kernel
  obtain ⟨head, hhead, hdiffers⟩ := Option.any_eq_true _ _ |>.mp haccepted
  exact ⟨head, hhead, of_decide_eq_true hdiffers⟩

end Fermentationsschrank

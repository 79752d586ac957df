import Fermentationsschrank.Core.Fallible
import Fermentationsschrank.Core.FormatWriting
import Fermentationsschrank.Storage.Crc32

/-!
# Storage envelope, version 1

The frame around every stored record: magic, envelope version, record type,
schema, epoch, version value, payload length, optional UTC seconds, CRC,
payload.  The CRC covers the header before it and the payload after it.
-/

namespace Fermentationsschrank.Envelope

open Fermentationsschrank.Format
open Fermentationsschrank.Crc32

/-- ASCII `DPRF`. -/
def kMagic : Bytes := [68, 80, 82, 70]

def kStorageEnvelopeVersion1 : UInt16 := 1
def kHeaderBeforeCrcWithoutUtc : ℕ := 33
def kUtcValueSize : ℕ := 8
def kCrcSize : ℕ := 4

structure StorageEnvelope where
  recordTypeId : UInt16
  schemaVersion : UInt32
  storageEpoch : UInt64
  versionValue : UInt64
  utcUnixSeconds : Option Int64
  payload : Bytes
  deriving DecidableEq, Repr

inductive EnvelopeEncodeStatus
  | success
  | invalidField
  | capacityExceeded
  deriving DecidableEq, Repr

inductive EnvelopeDecodeStatus
  | success
  | invalidMagic
  | unknownEnvelopeVersion
  | invalidRecordType
  | invalidSchemaVersion
  | invalidStorageEpoch
  | invalidVersionValue
  | invalidUtcTag
  | lengthMismatch
  | crcMismatch
  deriving DecidableEq, Repr

/-! ## Encoding -/

/-- Sizes are natural numbers, so the additions cannot wrap; what remains of
`checkedAddSize` is the comparison with the permitted total. -/
def checkedAddSize (a b maxAllowed : ℕ) : Option ℕ :=
  if a + b ≤ maxAllowed then some (a + b) else none

def checkEnvelopeEncodedSize (payloadSize : ℕ) (hasUtc : Bool)
    (maxTotalBytes : ℕ) : Except EnvelopeEncodeStatus ℕ := do
  require (payloadSize ≤ 4294967295) .capacityExceeded
  let headerBeforeCrc ←
    if hasUtc then
      orFail (checkedAddSize kHeaderBeforeCrcWithoutUtc kUtcValueSize maxTotalBytes)
        .capacityExceeded
    else .ok kHeaderBeforeCrcWithoutUtc
  let headerWithCrc ←
    orFail (checkedAddSize headerBeforeCrc kCrcSize maxTotalBytes) .capacityExceeded
  orFail (checkedAddSize headerWithCrc payloadSize maxTotalBytes) .capacityExceeded

/-- The optional UTC field writes a tag and, when present, the seconds. -/
def utcField (utcUnixSeconds : Option Int64) : Bytes :=
  match utcUnixSeconds with
  | none => [0]
  | some seconds => 1 :: bigEndian 8 seconds.toUInt64.toNat

/-- The header bytes in front of the CRC field. -/
def headerBytes (envelope : StorageEnvelope) : Bytes :=
  kMagic ++ bigEndian 2 kStorageEnvelopeVersion1.toNat ++
    bigEndian 2 envelope.recordTypeId.toNat ++
    bigEndian 4 envelope.schemaVersion.toNat ++
    bigEndian 8 envelope.storageEpoch.toNat ++
    bigEndian 8 envelope.versionValue.toNat ++
    bigEndian 4 envelope.payload.length ++
    utcField envelope.utcUnixSeconds

def encodeEnvelope (envelope : StorageEnvelope) (maxTotalBytes : ℕ) :
    Except EnvelopeEncodeStatus Bytes := do
  require (envelope.recordTypeId ≠ 0 ∧ envelope.schemaVersion ≠ 0 ∧
    envelope.storageEpoch ≠ 0 ∧ envelope.versionValue ≠ 0) .invalidField
  let _ ← checkEnvelopeEncodedSize envelope.payload.length
    envelope.utcUnixSeconds.isSome maxTotalBytes
  let header := headerBytes envelope
  let crc := finalize (update (update 0xFFFFFFFF header) envelope.payload)
  return header ++ bigEndian 4 crc.toNat ++ envelope.payload

/-! ## Decoding -/

structure CoreFields where
  recordTypeRaw : UInt16
  schemaVersion : UInt32
  storageEpochRaw : UInt64
  versionValue : UInt64
  payloadLength : UInt32
  deriving DecidableEq, Repr

def readCoreFields (bytes : Bytes) :
    Except EnvelopeDecodeStatus (CoreFields × Bytes) := do
  let (recordTypeRaw, rest) ← orFail (uint16.read bytes) .lengthMismatch
  require (recordTypeRaw ≠ 0) .invalidRecordType
  let (schemaVersion, rest) ← orFail (uint32.read rest) .lengthMismatch
  require (schemaVersion ≠ 0) .invalidSchemaVersion
  let (storageEpochRaw, rest) ← orFail (uint64.read rest) .lengthMismatch
  require (storageEpochRaw ≠ 0) .invalidStorageEpoch
  let (versionValue, rest) ← orFail (uint64.read rest) .lengthMismatch
  require (versionValue ≠ 0) .invalidVersionValue
  let (payloadLength, rest) ← orFail (uint32.read rest) .lengthMismatch
  return (⟨recordTypeRaw, schemaVersion, storageEpochRaw, versionValue,
    payloadLength⟩, rest)

def readUtcField (bytes : Bytes) :
    Except EnvelopeDecodeStatus (Option Int64 × Bytes) := do
  let (hasUtc, rest) ← orFail (bool.read bytes) .invalidUtcTag
  if hasUtc then
    let (value, rest) ← orFail (int64.read rest) .lengthMismatch
    return (some value, rest)
  else return (none, rest)

structure ValidatedEnvelope where
  core : CoreFields
  utcUnixSeconds : Option Int64
  /-- The bytes from the payload offset to the end. -/
  payload : Bytes
  deriving DecidableEq, Repr

def validateEnvelope (bytes : Bytes) :
    Except EnvelopeDecodeStatus ValidatedEnvelope := do
  require (kHeaderBeforeCrcWithoutUtc + kCrcSize ≤ bytes.length) .lengthMismatch
  require (bytes.take 4 = kMagic) .invalidMagic
  let (envelopeVersion, rest) ← orFail (uint16.read (bytes.drop 4)) .lengthMismatch
  require (envelopeVersion = kStorageEnvelopeVersion1) .unknownEnvelopeVersion
  let (core, rest) ← readCoreFields rest
  let (utcUnixSeconds, rest) ← readUtcField rest
  let header := bytes.take (bytes.length - rest.length)
  require (kCrcSize ≤ rest.length) .lengthMismatch
  require (rest.length - kCrcSize = core.payloadLength.toNat) .lengthMismatch
  let (storedCrc, payload) ← orFail (uint32.read rest) .lengthMismatch
  require (finalize (update (update 0xFFFFFFFF header) payload) = storedCrc) .crcMismatch
  return ⟨core, utcUnixSeconds, payload⟩

def decodeEnvelope (bytes : Bytes) : Except EnvelopeDecodeStatus StorageEnvelope := do
  let validated ← validateEnvelope bytes
  return {
    recordTypeId := validated.core.recordTypeRaw
    schemaVersion := validated.core.schemaVersion
    storageEpoch := validated.core.storageEpochRaw
    versionValue := validated.core.versionValue
    utcUnixSeconds := validated.utcUnixSeconds
    payload := validated.payload }

/-! ## Round trip -/

theorem checkEnvelopeEncodedSize_eq_ok {payloadSize maxTotalBytes total : ℕ}
    {hasUtc : Bool}
    (h : checkEnvelopeEncodedSize payloadSize hasUtc maxTotalBytes = .ok total) :
    payloadSize ≤ 4294967295 ∧ total ≤ maxTotalBytes ∧
      total = kHeaderBeforeCrcWithoutUtc + (if hasUtc then kUtcValueSize else 0) +
        kCrcSize + payloadSize := by
  cases hasUtc <;>
    simp [checkEnvelopeEncodedSize, checkedAddSize, ite_eq_iff] at h ⊢ <;> omega

@[simp]
theorem length_headerBytes (envelope : StorageEnvelope) :
    (headerBytes envelope).length = kHeaderBeforeCrcWithoutUtc +
      (if envelope.utcUnixSeconds.isSome then kUtcValueSize else 0) := by
  cases h : envelope.utcUnixSeconds <;>
    simp [headerBytes, utcField, h, kMagic, kHeaderBeforeCrcWithoutUtc, kUtcValueSize]

theorem readUtcField_utcField (utcUnixSeconds : Option Int64) (rest : Bytes) :
    readUtcField (utcField utcUnixSeconds ++ rest) = .ok (utcUnixSeconds, rest) := by
  cases utcUnixSeconds with
  | none => rfl
  | some seconds =>
      have htag : bool.read (1 :: (bigEndian 8 seconds.toUInt64.toNat ++ rest)) =
          some (true, bigEndian 8 seconds.toUInt64.toNat ++ rest) := rfl
      simp only [readUtcField, utcField, List.cons_append, htag, orFail_some, ok_bind,
        if_true, int64_read_bigEndian]
      rfl

/-- What a successful encoding guarantees. -/
theorem encodeEnvelope_eq_ok {envelope : StorageEnvelope} {maxTotalBytes : ℕ}
    {bytes : Bytes} (h : encodeEnvelope envelope maxTotalBytes = .ok bytes) :
    (envelope.recordTypeId ≠ 0 ∧ envelope.schemaVersion ≠ 0 ∧
      envelope.storageEpoch ≠ 0 ∧ envelope.versionValue ≠ 0) ∧
      envelope.payload.length ≤ 4294967295 ∧ bytes.length ≤ maxTotalBytes ∧
      bytes = headerBytes envelope ++
        (bigEndian 4 (finalize (update (update 0xFFFFFFFF (headerBytes envelope))
          envelope.payload)).toNat ++ envelope.payload) := by
  simp only [encodeEnvelope, bind_eq_ok, require_eq_ok, decide_eq_true_eq] at h
  obtain ⟨_, hfields, total, hsize, hbytes⟩ := h
  obtain ⟨hpayload, htotal, hsum⟩ := checkEnvelopeEncodedSize_eq_ok hsize
  cases hbytes
  refine ⟨hfields, hpayload, ?_, by simp⟩
  simp only [List.length_append, length_headerBytes, length_bigEndian]
  simp only [kCrcSize] at hsum
  omega

/-- Decoding what was encoded returns the envelope. -/
theorem decodeEnvelope_encodeEnvelope {envelope : StorageEnvelope}
    {maxTotalBytes : ℕ} {bytes : Bytes}
    (h : encodeEnvelope envelope maxTotalBytes = .ok bytes) :
    decodeEnvelope bytes = .ok envelope := by
  obtain ⟨⟨htype, hschema, hepoch, hversion⟩, hpayload, -, hbytes⟩ :=
    encodeEnvelope_eq_ok h
  set crc := finalize (update (update 0xFFFFFFFF (headerBytes envelope))
    envelope.payload) with hcrc
  set tail := bigEndian 4 crc.toNat ++ envelope.payload with htail
  have hlength : (UInt32.ofNat envelope.payload.length).toNat =
      envelope.payload.length :=
    UInt32.toNat_ofNat_of_lt' (show envelope.payload.length < 4294967296 by omega)
  have hcore : ∀ rest, readCoreFields
      (bigEndian 2 envelope.recordTypeId.toNat ++
        (bigEndian 4 envelope.schemaVersion.toNat ++
          (bigEndian 8 envelope.storageEpoch.toNat ++
            (bigEndian 8 envelope.versionValue.toNat ++
              (bigEndian 4 envelope.payload.length ++ rest))))) =
      .ok (⟨envelope.recordTypeId, envelope.schemaVersion, envelope.storageEpoch,
        envelope.versionValue, UInt32.ofNat envelope.payload.length⟩, rest) := by
    intro rest
    have hpayloadLength :=
      uint32_read_bigEndian (UInt32.ofNat envelope.payload.length) rest
    rw [hlength] at hpayloadLength
    simp [readCoreFields, htype, hschema, hepoch, hversion, hpayloadLength, pure,
      Except.pure]
  have hmin : kHeaderBeforeCrcWithoutUtc + kCrcSize ≤ bytes.length := by
    rw [hbytes]
    simp [htail, kCrcSize]
    omega
  have hmagic : bytes.take 4 = kMagic := by
    rw [hbytes, headerBytes]
    rfl
  have hdrop : bytes.drop 4 =
      bigEndian 2 kStorageEnvelopeVersion1.toNat ++
        (bigEndian 2 envelope.recordTypeId.toNat ++
          (bigEndian 4 envelope.schemaVersion.toNat ++
            (bigEndian 8 envelope.storageEpoch.toNat ++
              (bigEndian 8 envelope.versionValue.toNat ++
                (bigEndian 4 envelope.payload.length ++
                  (utcField envelope.utcUnixSeconds ++ tail)))))) := by
    rw [hbytes, headerBytes]
    simp [kMagic]
  have hheader : bytes.take (bytes.length - tail.length) = headerBytes envelope := by
    rw [hbytes, List.length_append, Nat.add_sub_cancel, List.take_left]
  have htailLength : tail.length = 4 + envelope.payload.length := by simp [htail]
  have hread : uint32.read tail = some (crc, envelope.payload) := by
    rw [htail]
    exact uint32_read_bigEndian crc envelope.payload
  have hvalid : validateEnvelope bytes = .ok
      ⟨⟨envelope.recordTypeId, envelope.schemaVersion, envelope.storageEpoch,
        envelope.versionValue, UInt32.ofNat envelope.payload.length⟩,
        envelope.utcUnixSeconds, envelope.payload⟩ := by
    simp only [validateEnvelope, hmin, hmagic, hdrop, decide_true, require_true, ok_bind,
      uint16_read_bigEndian, orFail_some, hcore, readUtcField_utcField, hheader, hread,
      hlength]
    simp [htailLength, kCrcSize, ← hcrc, pure, Except.pure]
  simp [decodeEnvelope, hvalid, pure, Except.pure]

theorem readCoreFields_eq_ok {bytes rest : Bytes} {core : CoreFields}
    (h : readCoreFields bytes = .ok (core, rest)) :
    core.recordTypeRaw ≠ 0 ∧ core.schemaVersion ≠ 0 ∧ core.storageEpochRaw ≠ 0 ∧
      core.versionValue ≠ 0 := by
  simp only [readCoreFields, bind_eq_ok, orFail_eq_ok, require_eq_ok,
    decide_eq_true_eq, Prod.exists] at h
  obtain ⟨_, _, _, _, htype, _, _, _, _, hschema, _, _, _, _, hepoch, _, _, _, _,
    hversion, _, _, _, h⟩ := h
  cases h
  exact ⟨htype, hschema, hepoch, hversion⟩

/-- An accepted envelope carries no zero identifier. -/
theorem decodeEnvelope_eq_ok {bytes : Bytes} {envelope : StorageEnvelope}
    (h : decodeEnvelope bytes = .ok envelope) :
    envelope.recordTypeId ≠ 0 ∧ envelope.schemaVersion ≠ 0 ∧
      envelope.storageEpoch ≠ 0 ∧ envelope.versionValue ≠ 0 := by
  simp only [decodeEnvelope, validateEnvelope, bind_eq_ok, orFail_eq_ok,
    require_eq_ok, Prod.exists] at h
  obtain ⟨validated, ⟨_, _, _, _, _, _, _, _, _, core, rest, hcore, _, _, _, _, _, _,
    _, _, _, _, _, _, hvalid⟩, h⟩ := h
  cases hvalid
  cases h
  exact readCoreFields_eq_ok hcore

/-! ## Canonical bytes -/

theorem readUtcField_eq_ok {bytes rest : Bytes} {utcUnixSeconds : Option Int64}
    (h : readUtcField bytes = .ok (utcUnixSeconds, rest)) :
    bytes = utcField utcUnixSeconds ++ rest := by
  simp only [readUtcField, bind_eq_ok, orFail_eq_ok, Prod.exists] at h
  obtain ⟨hasUtc, tail, hflag, h⟩ := h
  rw [bool_read_eq_some hflag]
  cases hasUtc with
  | false =>
      cases h
      rfl
  | true =>
      simp only [if_true, bind_eq_ok, orFail_eq_ok, Prod.exists] at h
      obtain ⟨value, rest, hvalue, h⟩ := h
      cases h
      rw [int64_read_eq_some hvalue]
      rfl

/-- The core fields stand at the front of what they were read from. -/
theorem readCoreFields_bytes {bytes rest : Bytes} {core : CoreFields}
    (h : readCoreFields bytes = .ok (core, rest)) :
    bytes = bigEndian 2 core.recordTypeRaw.toNat ++
      (bigEndian 4 core.schemaVersion.toNat ++
        (bigEndian 8 core.storageEpochRaw.toNat ++
          (bigEndian 8 core.versionValue.toNat ++
            (bigEndian 4 core.payloadLength.toNat ++ rest)))) := by
  simp only [readCoreFields, bind_eq_ok, orFail_eq_ok, require_eq_ok,
    decide_eq_true_eq, Prod.exists] at h
  obtain ⟨_, _, htype, _, _, _, _, hschema, _, _, _, _, hepoch, _, _, _, _, hversion, _, _,
    _, _, hlength, h⟩ := h
  cases h
  rw [uint16_read_eq_some htype, uint32_read_eq_some hschema, uint64_read_eq_some hepoch,
    uint64_read_eq_some hversion, uint32_read_eq_some hlength]

/-- An accepted envelope is exactly what the encoder makes of it. -/
theorem bytes_of_decodeEnvelope {bytes : Bytes} {envelope : StorageEnvelope}
    (h : decodeEnvelope bytes = .ok envelope) :
    bytes = headerBytes envelope ++
      (bigEndian 4 (finalize (update (update 0xFFFFFFFF (headerBytes envelope))
        envelope.payload)).toNat ++ envelope.payload) ∧
      envelope.payload.length ≤ 4294967295 := by
  simp only [decodeEnvelope, validateEnvelope, bind_eq_ok, orFail_eq_ok, require_eq_ok,
    decide_eq_true_eq, Prod.exists] at h
  obtain ⟨validated, ⟨_, hmin, _, hmagic, version, afterVersion, hversion, _, rfl, core,
    afterCore, hcore, utc, rest, hutc, _, hsize, _, hlength, crc, payload, hcrc, _, hcheck,
    hvalidated⟩, henvelope⟩ := h
  cases hvalidated
  cases henvelope
  have hpayload : payload.length = core.payloadLength.toNat := by
    have hrest := congrArg List.length (uint32_read_eq_some hcrc)
    simp only [List.length_append, length_bigEndian] at hrest
    rw [← hlength, hrest, kCrcSize]
    omega
  have hheader : bytes = headerBytes ⟨core.recordTypeRaw, core.schemaVersion,
      core.storageEpochRaw, core.versionValue, utc, payload⟩ ++ rest := by
    calc bytes = bytes.take 4 ++ bytes.drop 4 := (List.take_append_drop 4 bytes).symm
      _ = _ := by
        rw [hmagic, uint16_read_eq_some hversion, readCoreFields_bytes hcore,
          readUtcField_eq_ok hutc, headerBytes, hpayload]
        simp only [List.append_assoc]
  constructor
  · have hfront : bytes.take (bytes.length - rest.length) =
        headerBytes ⟨core.recordTypeRaw, core.schemaVersion, core.storageEpochRaw,
          core.versionValue, utc, payload⟩ := by
      rw [hheader, List.length_append, Nat.add_sub_cancel, List.take_left]
    rw [hfront] at hcheck
    rw [hcheck, ← uint32_read_eq_some hcrc]
    exact hheader
  · show payload.length ≤ 4294967295
    have hword := core.payloadLength.toNat_lt
    omega

theorem checkEnvelopeEncodedSize_of_le {payloadSize maxTotalBytes : ℕ} {hasUtc : Bool}
    (hpayload : payloadSize ≤ 4294967295)
    (hfits : kHeaderBeforeCrcWithoutUtc + (if hasUtc then kUtcValueSize else 0) + kCrcSize +
      payloadSize ≤ maxTotalBytes) :
    checkEnvelopeEncodedSize payloadSize hasUtc maxTotalBytes =
      .ok (kHeaderBeforeCrcWithoutUtc + (if hasUtc then kUtcValueSize else 0) + kCrcSize +
        payloadSize) := by
  have hadd : ∀ a b, a + b ≤ maxTotalBytes →
      checkedAddSize a b maxTotalBytes = some (a + b) := fun _ _ h => if_pos h
  cases hasUtc with
  | false =>
      simp only [Bool.false_eq_true, if_false, Nat.add_zero] at hfits ⊢
      have hheader := hadd kHeaderBeforeCrcWithoutUtc kCrcSize (by omega)
      simp only [checkEnvelopeEncodedSize, decide_eq_true hpayload, Bool.false_eq_true,
        if_false, require_true, ok_bind, hheader, orFail_some, hadd _ _ hfits]
  | true =>
      simp only [if_true] at hfits ⊢
      have hutc := hadd kHeaderBeforeCrcWithoutUtc kUtcValueSize (by omega)
      have hheader := hadd _ kCrcSize
        (show kHeaderBeforeCrcWithoutUtc + kUtcValueSize + kCrcSize ≤ _ by omega)
      simp only [checkEnvelopeEncodedSize, decide_eq_true hpayload, if_true, require_true,
        ok_bind, hutc, hheader, orFail_some, hadd _ _ hfits]

/-- An envelope with a name for everything is encoded when it fits. -/
theorem encodeEnvelope_of_fits {envelope : StorageEnvelope} {maxTotalBytes : ℕ}
    (hfields : envelope.recordTypeId ≠ 0 ∧ envelope.schemaVersion ≠ 0 ∧
      envelope.storageEpoch ≠ 0 ∧ envelope.versionValue ≠ 0)
    (hpayload : envelope.payload.length ≤ 4294967295)
    (hfits : (headerBytes envelope).length + kCrcSize + envelope.payload.length ≤
      maxTotalBytes) :
    encodeEnvelope envelope maxTotalBytes = .ok (headerBytes envelope ++
      (bigEndian 4 (finalize (update (update 0xFFFFFFFF (headerBytes envelope))
        envelope.payload)).toNat ++ envelope.payload)) := by
  rw [length_headerBytes] at hfits
  rw [encodeEnvelope, checkEnvelopeEncodedSize_of_le hpayload hfits, decide_eq_true hfields]
  simp only [require_true, ok_bind, List.append_assoc]
  rfl

/-- Encoding an accepted envelope yields the bytes it was decoded from, provided
they fit. -/
theorem encodeEnvelope_decodeEnvelope {bytes : Bytes} {envelope : StorageEnvelope}
    {maxTotalBytes : ℕ} (h : decodeEnvelope bytes = .ok envelope)
    (hfits : bytes.length ≤ maxTotalBytes) :
    encodeEnvelope envelope maxTotalBytes = .ok bytes := by
  obtain ⟨hbytes, hpayload⟩ := bytes_of_decodeEnvelope h
  have hlength := congrArg List.length hbytes
  simp only [List.length_append, length_bigEndian] at hlength
  rw [encodeEnvelope_of_fits (decodeEnvelope_eq_ok h) hpayload, ← hbytes]
  rw [kCrcSize]
  omega
end Fermentationsschrank.Envelope

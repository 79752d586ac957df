import Fermentationsschrank.Core.BufferScan
import Fermentationsschrank.Storage.StorageEnvelope

/-!
# Reading an envelope in its buffer

The decoders of the envelope as they run on a buffer, with positions and sizes of the
machine.  They never leave the buffer and no size wraps, whatever the buffer holds.
-/

namespace Fermentationsschrank.Envelope

open Fermentationsschrank.Format
open Fermentationsschrank.Crc32
open Scan

abbrev EnvelopeScan (α : Type) := Scan EnvelopeDecodeStatus α

/-! ## Fields -/

section

variable (size : SizeType) (bytes : Bytes)

def scanUint16 (position : ℕ) : EnvelopeScan (UInt16 × ℕ) := do
  let (value, next) ← readNumber size bytes .lengthMismatch 2 position
  return (UInt16.ofNat value, next)

def scanUint32 (position : ℕ) : EnvelopeScan (UInt32 × ℕ) := do
  let (value, next) ← readNumber size bytes .lengthMismatch 4 position
  return (UInt32.ofNat value, next)

def scanUint64 (position : ℕ) : EnvelopeScan (UInt64 × ℕ) := do
  let (value, next) ← readNumber size bytes .lengthMismatch 8 position
  return (UInt64.ofNat value, next)

def scanCoreFields (position : ℕ) : EnvelopeScan (CoreFields × ℕ) := do
  let (recordTypeRaw, position) ← scanUint16 size bytes position
  check (recordTypeRaw ≠ 0) .invalidRecordType
  let (schemaVersion, position) ← scanUint32 size bytes position
  check (schemaVersion ≠ 0) .invalidSchemaVersion
  let (storageEpochRaw, position) ← scanUint64 size bytes position
  check (storageEpochRaw ≠ 0) .invalidStorageEpoch
  let (versionValue, position) ← scanUint64 size bytes position
  check (versionValue ≠ 0) .invalidVersionValue
  let (payloadLength, position) ← scanUint32 size bytes position
  return (⟨recordTypeRaw, schemaVersion, storageEpochRaw, versionValue, payloadLength⟩,
    position)

/-- `readOptionalTag`: one byte, zero or one. -/
def scanOptionalTag (position : ℕ) : EnvelopeScan (Bool × ℕ) := do
  let (raw, next) ← readNumber size bytes .invalidUtcTag 1 position
  check (raw = 0 ∨ raw = 1) .invalidUtcTag
  return (raw = 1, next)

def scanUtcField (position : ℕ) : EnvelopeScan (Option Int64 × ℕ) := do
  let (hasUtc, position) ← scanOptionalTag size bytes position
  if hasUtc then
    let (value, position) ← scanUint64 size bytes position
    return (some value.toInt64, position)
  else return (none, position)

/-! ## The decoders -/

structure EnvelopePosition where
  core : CoreFields
  utcUnixSeconds : Option Int64
  payloadOffset : ℕ
  deriving DecidableEq, Repr

/-- `validateEnvelope` on the buffer; the payload is not copied. -/
def scanEnvelope : EnvelopeScan EnvelopePosition := do
  let minimum ← unfaulted (addSize size kHeaderBeforeCrcWithoutUtc kCrcSize)
  check (minimum ≤ bytes.length) .lengthMismatch
  let (magic, position) ← readBytes size bytes .lengthMismatch 4 0
  check (magic = kMagic) .invalidMagic
  let (envelopeVersion, position) ← scanUint16 size bytes position
  check (envelopeVersion = kStorageEnvelopeVersion1) .unknownEnvelopeVersion
  let (core, position) ← scanCoreFields size bytes position
  let (utcUnixSeconds, headerBeforeCrcLen) ← scanUtcField size bytes position
  let remaining ← unfaulted (subtractSize bytes.length headerBeforeCrcLen)
  check (kCrcSize ≤ remaining) .lengthMismatch
  let behindCrc ← unfaulted (subtractSize remaining kCrcSize)
  check (behindCrc = core.payloadLength.toNat) .lengthMismatch
  let (storedCrc, _) ← scanUint32 size bytes headerBeforeCrcLen
  let payloadOffset ← unfaulted (addSize size headerBeforeCrcLen kCrcSize)
  let header ← unfaulted (load bytes 0 headerBeforeCrcLen)
  let payload ← unfaulted (load bytes payloadOffset core.payloadLength.toNat)
  check (finalize (update (update 0xFFFFFFFF header) payload) = storedCrc) .crcMismatch
  return ⟨core, utcUnixSeconds, payloadOffset⟩

def scanDecodeEnvelope : EnvelopeScan StorageEnvelope := do
  let validated ← scanEnvelope size bytes
  let core := validated.core
  let payload ← unfaulted
    (if 0 < core.payloadLength then
      load bytes validated.payloadOffset core.payloadLength.toNat
    else some [])
  return {
    recordTypeId := core.recordTypeRaw
    schemaVersion := core.schemaVersion
    storageEpoch := core.storageEpochRaw
    versionValue := core.versionValue
    utcUnixSeconds := validated.utcUnixSeconds
    payload }

structure EnvelopeMetadata where
  recordTypeId : UInt16
  schemaVersion : UInt32
  storageEpoch : UInt64
  versionValue : UInt64
  utcUnixSeconds : Option Int64
  payloadLength : UInt32
  deriving DecidableEq, Repr

def scanEnvelopeMetadata : EnvelopeScan EnvelopeMetadata := do
  let validated ← scanEnvelope size bytes
  let core := validated.core
  return {
    recordTypeId := core.recordTypeRaw
    schemaVersion := core.schemaVersion
    storageEpoch := core.storageEpochRaw
    versionValue := core.versionValue
    utcUnixSeconds := validated.utcUnixSeconds
    payloadLength := core.payloadLength }

end

/-! ## No faults -/

section

variable {size : SizeType} {bytes : Bytes} {position : ℕ}

theorem mirrors_scanUint16 (hfits : bytes.length < size.limit)
    (hposition : position ≤ bytes.length) :
    Mirrors (AtRest bytes) (scanUint16 size bytes position)
      (orFail (uint16.read (bytes.drop position)) .lengthMismatch) :=
  mirrors_readWord (fun _ => rfl) hfits hposition

theorem mirrors_scanUint32 (hfits : bytes.length < size.limit)
    (hposition : position ≤ bytes.length) :
    Mirrors (AtRest bytes) (scanUint32 size bytes position)
      (orFail (uint32.read (bytes.drop position)) .lengthMismatch) :=
  mirrors_readWord (fun _ => rfl) hfits hposition

theorem mirrors_scanUint64 (hfits : bytes.length < size.limit)
    (hposition : position ≤ bytes.length) :
    Mirrors (AtRest bytes) (scanUint64 size bytes position)
      (orFail (uint64.read (bytes.drop position)) .lengthMismatch) :=
  mirrors_readWord (fun _ => rfl) hfits hposition

theorem mirrors_scanCoreFields (hfits : bytes.length < size.limit)
    (hposition : position ≤ bytes.length) :
    Mirrors (AtRest bytes) (scanCoreFields size bytes position)
      (readCoreFields (bytes.drop position)) := by
  rw [scanCoreFields, readCoreFields]
  refine (mirrors_scanUint16 hfits hposition).bindAt fun recordType position hposition => ?_
  refine .check fun _ => ?_
  refine (mirrors_scanUint32 hfits hposition).bindAt fun schema position hposition => ?_
  refine .check fun _ => ?_
  refine (mirrors_scanUint64 hfits hposition).bindAt fun epoch position hposition => ?_
  refine .check fun _ => ?_
  refine (mirrors_scanUint64 hfits hposition).bindAt fun version position hposition => ?_
  refine .check fun _ => ?_
  refine (mirrors_scanUint32 hfits hposition).bindAt fun length position hposition => ?_
  exact .pure ⟨rfl, rfl, hposition⟩

/-- A tag is a byte that is zero or one. -/
theorem bool_read_eq (found : Bytes) :
    bool.read found = ((number 1).read found).bind fun read =>
      if read.1 = 0 ∨ read.1 = 1 then some (decide (read.1 = 1), read.2) else none := by
  cases found with
  | nil => rfl
  | cons byte rest =>
      have hnumber : (number 1).read (byte :: rest) = some (byte.toNat, rest) := by
        show some (ofBigEndian [byte], rest) = _
        rw [ofBigEndian, List.foldl_cons, List.foldl_nil, Nat.zero_mul, Nat.zero_add]
      have hzero : byte = 0 ↔ byte.toNat = 0 := UInt8.toNat_inj.symm
      have hone : byte = 1 ↔ byte.toNat = 1 := UInt8.toNat_inj.symm
      rw [hnumber, Option.bind_some]
      show (if byte = 0 then some false else if byte = 1 then some true else none).map
        (fun value => (value, rest)) = _
      by_cases hfalse : byte = 0
      · rw [if_pos hfalse, if_pos (.inl (hzero.mp hfalse)), hzero.mp hfalse]
        rfl
      · by_cases htrue : byte = 1
        · rw [if_neg hfalse, if_pos htrue, if_pos (.inr (hone.mp htrue)), hone.mp htrue]
          rfl
        · rw [if_neg hfalse, if_neg htrue, if_neg]
          · rfl
          · rw [← hzero, ← hone]
            exact fun h => h.elim hfalse htrue

theorem mirrors_scanOptionalTag (hfits : bytes.length < size.limit)
    (hposition : position ≤ bytes.length) :
    Mirrors (AtRest bytes) (scanOptionalTag size bytes position)
      (orFail (bool.read (bytes.drop position)) .invalidUtcTag) := by
  have hreader : orFail (bool.read (bytes.drop position)) EnvelopeDecodeStatus.invalidUtcTag =
      orFail ((number 1).read (bytes.drop position)) .invalidUtcTag >>= fun found =>
        require (found.1 = 0 ∨ found.1 = 1) .invalidUtcTag >>= fun _ =>
          .ok (decide (found.1 = 1), found.2) := by
    rw [bool_read_eq]
    cases (number 1).read (bytes.drop position) with
    | none => rfl
    | some found =>
        rw [Option.bind_some]
        by_cases htag : found.1 = 0 ∨ found.1 = 1
        · rw [if_pos htag, orFail_some, orFail_some, ok_bind, decide_eq_true htag]
          rfl
        · rw [if_neg htag, orFail_some, ok_bind, decide_eq_false htag]
          rfl
  rw [hreader, scanOptionalTag]
  refine (mirrors_readNumber hfits hposition).bindAt fun raw position hposition => ?_
  refine .check fun _ => ?_
  exact .pure ⟨rfl, rfl, hposition⟩

theorem mirrors_scanUtcField (hfits : bytes.length < size.limit)
    (hposition : position ≤ bytes.length) :
    Mirrors (AtRest bytes) (scanUtcField size bytes position)
      (readUtcField (bytes.drop position)) := by
  rw [scanUtcField, readUtcField]
  refine (mirrors_scanOptionalTag hfits hposition).bindAt fun hasUtc position hposition => ?_
  cases hasUtc with
  | false => exact .pure ⟨rfl, rfl, hposition⟩
  | true =>
      have hseconds : Mirrors (AtRest bytes)
          (scanUint64 size bytes position >>= fun found =>
            Pure.pure (some found.1.toInt64, found.2))
          (orFail (int64.read (bytes.drop position)) EnvelopeDecodeStatus.lengthMismatch >>=
            fun found => .ok (some found.1, found.2)) := by
        have hreader : orFail (int64.read (bytes.drop position))
            EnvelopeDecodeStatus.lengthMismatch >>= (fun found =>
              .ok (some found.1, found.2)) =
            orFail (uint64.read (bytes.drop position)) .lengthMismatch >>= fun found =>
              .ok (some found.1.toInt64, found.2) := by
          show orFail ((uint64.read (bytes.drop position)).map _) _ >>= _ = _
          cases uint64.read (bytes.drop position) <;> rfl
        rw [hreader]
        refine (mirrors_scanUint64 hfits hposition).bindAt fun value position hposition => ?_
        exact .pure ⟨rfl, rfl, hposition⟩
      exact hseconds

/-- The checksum is inside the buffer. -/
theorem scanUint32_inside (hfits : bytes.length < size.limit)
    (hinside : position + kCrcSize ≤ bytes.length) :
    ∃ value, (scanUint32 size bytes position).run =
        some (.ok (value, position + kCrcSize)) ∧
      uint32.read (bytes.drop position) = some (value, bytes.drop (position + kCrcSize)) := by
  have hread := @run_readBytes _ size bytes EnvelopeDecodeStatus.lengthMismatch _ _ hfits
    hinside
  refine ⟨UInt32.ofNat (ofBigEndian ((bytes.drop position).take kCrcSize)), ?_, ?_⟩
  · apply Mirrors.run_eq
    exact .step (Mirrors.run_eq (.step hread (.pure rfl))) (.pure rfl)
  · have hroom : 4 ≤ (bytes.drop position).length := by
      rw [List.length_drop]
      rw [kCrcSize] at hinside
      omega
    show ((number 4).read (bytes.drop position)).map _ = _
    have hnumber : (number 4).read (bytes.drop position) =
        some (ofBigEndian ((bytes.drop position).take 4), (bytes.drop position).drop 4) :=
      if_pos hroom
    rw [hnumber, List.drop_drop]
    rfl

/-- Where the payload of an accepted envelope lies. -/
structure EnvelopePosition.Locates (bytes : Bytes) (found : EnvelopePosition)
    (validated : ValidatedEnvelope) : Prop where
  core : found.core = validated.core
  utcUnixSeconds : found.utcUnixSeconds = validated.utcUnixSeconds
  payload : load bytes found.payloadOffset found.core.payloadLength.toNat =
    some validated.payload
  length : validated.payload.length = found.core.payloadLength.toNat

theorem mirrors_scanEnvelope (hfits : bytes.length < size.limit) :
    Mirrors (EnvelopePosition.Locates bytes) (scanEnvelope size bytes)
      (validateEnvelope bytes) := by
  have hwide := size.wide
  have hminimum : addSize size kHeaderBeforeCrcWithoutUtc kCrcSize =
      some (kHeaderBeforeCrcWithoutUtc + kCrcSize) := by
    apply if_pos
    rw [kHeaderBeforeCrcWithoutUtc, kCrcSize]
    omega
  rw [scanEnvelope, validateEnvelope]
  refine .unfaulted hminimum (.check fun hlength => ?_)
  rw [decide_eq_true_eq, kHeaderBeforeCrcWithoutUtc, kCrcSize] at hlength
  have hmagic := @run_readBytes _ size bytes EnvelopeDecodeStatus.lengthMismatch 4 0 hfits
    (by omega)
  refine .step hmagic (.check fun _ => ?_)
  refine (mirrors_scanUint16 hfits (by omega)).bindAt fun version position hposition => ?_
  refine .check fun _ => ?_
  refine (mirrors_scanCoreFields hfits hposition).bindAt fun core position hposition => ?_
  refine (mirrors_scanUtcField hfits hposition).bindAt fun utc position hposition => ?_
  have hremaining : subtractSize bytes.length position = some (bytes.length - position) :=
    if_pos hposition
  refine .unfaulted hremaining ?_
  simp only [List.length_drop]
  refine .check fun hcrc => ?_
  rw [decide_eq_true_eq, kCrcSize] at hcrc
  have hbehind : subtractSize (bytes.length - position) kCrcSize =
      some (bytes.length - position - kCrcSize) := if_pos hcrc
  refine .unfaulted hbehind (.check fun hpayload => ?_)
  rw [decide_eq_true_eq, kCrcSize] at hpayload
  have hinside : position + kCrcSize ≤ bytes.length := by
    rw [kCrcSize]
    omega
  obtain ⟨crc, hscan, hread⟩ := scanUint32_inside hfits hinside
  rw [hread, orFail_some, ok_bind]
  have hoffset : addSize size position kCrcSize = some (position + kCrcSize) :=
    if_pos (by omega)
  have hheader : load bytes 0 position = some (bytes.take position) := if_pos (by omega)
  have hload : load bytes (position + kCrcSize) core.payloadLength.toNat =
      some (bytes.drop (position + kCrcSize)) := by
    rw [load, if_pos (by rw [kCrcSize]; omega), List.take_of_length_le]
    rw [List.length_drop, kCrcSize]
    omega
  have hfront : bytes.length - (bytes.length - position) = position := by omega
  refine .step hscan (.unfaulted hoffset (.unfaulted hheader (.unfaulted hload ?_)))
  rw [hfront]
  refine .check fun _ => .pure ⟨rfl, rfl, hload, ?_⟩
  rw [List.length_drop, kCrcSize]
  omega

/-- The decoder does not fault, and decodes what the list holds. -/
theorem run_scanDecodeEnvelope (hfits : bytes.length < size.limit) :
    (scanDecodeEnvelope size bytes).run = some (decodeEnvelope bytes) := by
  apply Mirrors.run_eq
  rw [scanDecodeEnvelope, decodeEnvelope]
  refine (mirrors_scanEnvelope hfits).bind fun found validated hfound => ?_
  obtain ⟨hcore, hutc, hpayload, hlength⟩ := hfound
  have hcopied : (if 0 < found.core.payloadLength then
      load bytes found.payloadOffset found.core.payloadLength.toNat
    else some []) = some validated.payload := by
    by_cases hempty : 0 < found.core.payloadLength
    · rw [if_pos hempty, hpayload]
    · have hzero : found.core.payloadLength.toNat = 0 := by
        rw [UInt32.lt_iff_toNat_lt] at hempty
        have hnat : (0 : UInt32).toNat = 0 := rfl
        omega
      rw [if_neg hempty, List.length_eq_zero_iff.mp (hlength.trans hzero)]
  refine .unfaulted hcopied ?_
  rw [hcore, hutc]
  exact .pure rfl

/-- The fields of an envelope without its payload. -/
def StorageEnvelope.metadata (envelope : StorageEnvelope) : EnvelopeMetadata where
  recordTypeId := envelope.recordTypeId
  schemaVersion := envelope.schemaVersion
  storageEpoch := envelope.storageEpoch
  versionValue := envelope.versionValue
  utcUnixSeconds := envelope.utcUnixSeconds
  payloadLength := UInt32.ofNat envelope.payload.length

theorem run_scanEnvelopeMetadata (hfits : bytes.length < size.limit) :
    (scanEnvelopeMetadata size bytes).run =
      some ((decodeEnvelope bytes).map StorageEnvelope.metadata) := by
  have hmap : (decodeEnvelope bytes).map StorageEnvelope.metadata =
      validateEnvelope bytes >>= fun validated => .ok {
        recordTypeId := validated.core.recordTypeRaw
        schemaVersion := validated.core.schemaVersion
        storageEpoch := validated.core.storageEpochRaw
        versionValue := validated.core.versionValue
        utcUnixSeconds := validated.utcUnixSeconds
        payloadLength := UInt32.ofNat validated.payload.length } := by
    rw [decodeEnvelope]
    cases validateEnvelope bytes <;> rfl
  apply Mirrors.run_eq
  rw [hmap, scanEnvelopeMetadata]
  refine (mirrors_scanEnvelope hfits).bind fun found validated hfound => ?_
  obtain ⟨hcore, hutc, -, hlength⟩ := hfound
  rw [hlength, UInt32.ofNat_toNat, hcore, hutc]
  exact .pure rfl

end

end Fermentationsschrank.Envelope

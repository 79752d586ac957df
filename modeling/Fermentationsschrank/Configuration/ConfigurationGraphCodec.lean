import Fermentationsschrank.Configuration.ConfigurationGraph
import Fermentationsschrank.Storage.StorageEnvelope

/-!
# Codec of manifests and roots

Both payloads have a fixed layout; the fallback of a root is optional.  Every
direction asks for plausibility itself.
-/

namespace Fermentationsschrank

open Envelope
open Format

inductive ConfigurationGraphCodecStatus
  | success
  | invalidModel
  | capacityExceeded
  | truncated
  | trailingBytes
  | invalidOptionalTag
  | invalidEnvelope
  | recordIdentityMismatch
  | payloadCrcMismatch
  deriving DecidableEq, Repr

def kConfigurationRootPayloadWithoutFallbackBytes : ℕ := 35
def kConfigurationRootPayloadWithFallbackBytes : ℕ := 69
def kMaximumConfigurationManifestEnvelopeBytes : ℕ := 149
def kMaximumConfigurationRootEnvelopeBytes : ℕ := 114

/-! ## Wire fields -/

def configurationReferenceFormat : Format ConfigurationRecordReference :=
  (uint16.pair <| uint32.pair <| uint64.pair <| uint32.pair <| uint32.pair <|
    uint32.pair uint64).equiv
    ⟨fun (recordType, slot, version, schema, length, crc, epoch) =>
        ⟨recordType, slot, version, schema, length, crc, epoch⟩,
      fun r => (r.recordType, r.slot, r.version, r.schemaVersion, r.payloadLength, r.payloadCrc,
        r.storageEpoch),
      fun _ => rfl, fun _ => rfl⟩

instance : configurationReferenceFormat.Total := by
  unfold configurationReferenceFormat
  infer_instance

instance : configurationReferenceFormat.Exact 34 := by
  unfold configurationReferenceFormat
  infer_instance

def manifestFields : Format (UInt8 × UInt8 × ConfigurationRecordReference ×
    ConfigurationRecordReference × ConfigurationRecordReference) :=
  uint8.pair <| uint8.pair <| configurationReferenceFormat.pair <|
    configurationReferenceFormat.pair configurationReferenceFormat

instance : manifestFields.Total := by
  unfold manifestFields
  infer_instance

instance : manifestFields.Exact kConfigurationManifestPayloadBytes := by
  have h : manifestFields.Exact (1 + (1 + (34 + (34 + 34)))) := by
    unfold manifestFields
    infer_instance
  exact h

/-! ## Manifest -/

def ConfigurationManifest.fields (manifest : ConfigurationManifest) :
    UInt8 × UInt8 × ConfigurationRecordReference × ConfigurationRecordReference ×
      ConfigurationRecordReference :=
  (manifest.origin.wireValue, manifest.operation.wireValue, manifest.userConfiguration,
    manifest.serviceConfiguration, manifest.programCatalog)

def encodeConfigurationManifestPayload (manifest : ConfigurationManifest) :
    Except ConfigurationGraphCodecStatus Bytes := do
  require manifest.isPlausible .invalidModel
  let encoded ← orFail (manifestFields.write manifest.fields) .capacityExceeded
  require (encoded.length = kConfigurationManifestPayloadBytes) .capacityExceeded
  return encoded

def decodeConfigurationManifestPayload (payload : Bytes) :
    Except ConfigurationGraphCodecStatus ConfigurationManifest := do
  require (kConfigurationManifestPayloadBytes ≤ payload.length) .truncated
  require (payload.length ≤ kConfigurationManifestPayloadBytes) .trailingBytes
  let ((origin, operation, userConfiguration, serviceConfiguration, programCatalog), _) ←
    orFail (manifestFields.read payload) .truncated
  let manifest : ConfigurationManifest := {
    origin := decodeChangeOrigin origin
    operation := decodeChangeOperation operation
    userConfiguration, serviceConfiguration, programCatalog }
  require manifest.isPlausible .invalidModel
  return manifest

/-! ## Root -/

def fallbackBytes (fallback : Option ConfigurationRecordReference) : Option Bytes :=
  match fallback with
  | none => some [0]
  | some reference => (configurationReferenceFormat.write reference).map (1 :: ·)

def encodeConfigurationRootPayload (root : ConfigurationRootRecord) :
    Except ConfigurationGraphCodecStatus Bytes := do
  require root.isPlausible .invalidModel
  let active ← orFail (configurationReferenceFormat.write root.active) .capacityExceeded
  let fallback ← orFail (fallbackBytes root.fallback) .capacityExceeded
  let encoded := active ++ fallback
  require (encoded.length = if root.fallback.isSome then
      kConfigurationRootPayloadWithFallbackBytes
    else kConfigurationRootPayloadWithoutFallbackBytes) .capacityExceeded
  return encoded

def readFallback (tag : UInt8) (bytes : Bytes) :
    Option (Option ConfigurationRecordReference × Bytes) :=
  if tag = 1 then do
    let (reference, rest) ← configurationReferenceFormat.read bytes
    return (some reference, rest)
  else some (none, bytes)

def decodeConfigurationRootPayload (payload : Bytes) :
    Except ConfigurationGraphCodecStatus ConfigurationRootRecord := do
  require (kConfigurationRootPayloadWithoutFallbackBytes ≤ payload.length) .truncated
  let (active, rest) ← orFail (configurationReferenceFormat.read payload) .truncated
  let (tag, rest) ← orFail (uint8.read rest) .truncated
  require (tag ≤ 1) .invalidOptionalTag
  let (fallback, rest) ← orFail (readFallback tag rest) .truncated
  require rest.isEmpty .trailingBytes
  let root : ConfigurationRootRecord := { active, fallback }
  require root.isPlausible .invalidModel
  return root

/-! ## Records -/

def mapEnvelopeStatus (encoded : Except EnvelopeEncodeStatus Bytes) :
    Except ConfigurationGraphCodecStatus Bytes :=
  match encoded with
  | .ok bytes => .ok bytes
  | .error .capacityExceeded => .error .capacityExceeded
  | .error _ => .error .invalidModel

/-- The payload in the envelope of its record. -/
def encodeConfigurationRecord (payload : Except ConfigurationGraphCodecStatus Bytes)
    (version storageEpoch : UInt64) (utcUnixSeconds : Option Int64) (recordType : UInt16)
    (schemaVersion : UInt32) (maxEnvelopeBytes : ℕ) :
    Except ConfigurationGraphCodecStatus Bytes := do
  let payload ← payload
  mapEnvelopeStatus (encodeEnvelope ⟨recordType, schemaVersion, storageEpoch, version,
    utcUnixSeconds, payload⟩ maxEnvelopeBytes)

def encodeConfigurationManifestRecord (manifest : ConfigurationManifest)
    (generation storageEpoch : UInt64) (utcUnixSeconds : Option Int64) :
    Except ConfigurationGraphCodecStatus Bytes :=
  encodeConfigurationRecord (encodeConfigurationManifestPayload manifest) generation storageEpoch
    utcUnixSeconds kConfigurationManifestRecordType kConfigurationManifestSchemaVersion1
    kMaximumConfigurationManifestEnvelopeBytes

def encodeConfigurationRootRecord (root : ConfigurationRootRecord)
    (sequence storageEpoch : UInt64) (utcUnixSeconds : Option Int64) :
    Except ConfigurationGraphCodecStatus Bytes :=
  encodeConfigurationRecord (encodeConfigurationRootPayload root) sequence storageEpoch
    utcUnixSeconds kConfigurationRootRecordType kConfigurationRootSchemaVersion1
    kMaximumConfigurationRootEnvelopeBytes

/-- A record as the graph store opens it: the envelope must be the expected one. -/
def openConfigurationRecord (bytes : Bytes) (version storageEpoch : UInt64)
    (recordType : UInt16) (schemaVersion : UInt32) :
    Except ConfigurationGraphCodecStatus StorageEnvelope :=
  match decodeEnvelope bytes with
  | .error _ => .error .invalidEnvelope
  | .ok envelope => do
      require (envelope.recordTypeId = recordType ∧ envelope.storageEpoch = storageEpoch ∧
        envelope.versionValue = version ∧ envelope.schemaVersion = schemaVersion)
        .recordIdentityMismatch
      return envelope

def decodeConfigurationManifestRecord (bytes : Bytes) (generation storageEpoch : UInt64) :
    Except ConfigurationGraphCodecStatus ConfigurationManifest := do
  let envelope ← openConfigurationRecord bytes generation storageEpoch
    kConfigurationManifestRecordType kConfigurationManifestSchemaVersion1
  decodeConfigurationManifestPayload envelope.payload

def decodeConfigurationRootRecord (bytes : Bytes) (sequence storageEpoch : UInt64) :
    Except ConfigurationGraphCodecStatus ConfigurationRootRecord := do
  let envelope ← openConfigurationRecord bytes sequence storageEpoch
    kConfigurationRootRecordType kConfigurationRootSchemaVersion1
  decodeConfigurationRootPayload envelope.payload

/-! ## Payloads both ways -/

section Payload

variable {manifest : ConfigurationManifest} {root : ConfigurationRootRecord} {payload : Bytes}

theorem encodeConfigurationManifestPayload_eq_ok :
    encodeConfigurationManifestPayload manifest = .ok payload ↔
      manifest.isPlausible = true ∧ manifestFields.write manifest.fields = some payload := by
  simp only [encodeConfigurationManifestPayload, bind_eq_ok, require_eq_ok, orFail_eq_ok,
    decide_eq_true_eq]
  constructor
  · rintro ⟨_, hlegal, encoded, hwrite, _, -, h⟩
    cases h
    exact ⟨hlegal, hwrite⟩
  · rintro ⟨hlegal, hwrite⟩
    exact ⟨(), hlegal, payload, hwrite, (), length_eq hwrite, rfl⟩

/-- The wire values of a plausible manifest determine its origin and operation. -/
theorem wireValues_of_isPlausible (h : manifest.isPlausible = true) :
    decodeChangeOrigin manifest.origin.wireValue = manifest.origin ∧
      decodeChangeOperation manifest.operation.wireValue = manifest.operation := by
  simp only [ConfigurationManifest.isPlausible, Bool.and_eq_true] at h
  exact ⟨validChangeOrigin_iff.mp h.1.1.1.1.1, validChangeOperation_iff.mp h.1.1.1.1.2⟩

theorem decodeConfigurationManifestPayload_eq_ok :
    decodeConfigurationManifestPayload payload = .ok manifest ↔
      encodeConfigurationManifestPayload manifest = .ok payload := by
  rw [encodeConfigurationManifestPayload_eq_ok]
  simp only [decodeConfigurationManifestPayload, bind_eq_ok, require_eq_ok, orFail_eq_ok,
    decide_eq_true_eq, Prod.exists]
  constructor
  · rintro ⟨_, hlower, _, hupper, origin, operation, user, service, catalog, rest, hread, _,
      hlegal, h⟩
    cases h
    obtain ⟨-, hwrite⟩ := rest_of_read hread (Nat.le_antisymm hupper hlower)
    refine ⟨hlegal, ?_⟩
    rw [ConfigurationManifest.fields, decodeChangeOrigin_wireValue,
      decodeChangeOperation_wireValue]
    exact hwrite
  · rintro ⟨hlegal, hwrite⟩
    obtain ⟨horigin, hoperation⟩ := wireValues_of_isPlausible hlegal
    have hlength := length_eq hwrite
    have hread := Total.read_write hwrite []
    rw [List.append_nil] at hread
    refine ⟨(), hlength.ge, (), hlength.le, _, _, _, _, _, _, hread, (), ?_⟩
    rw [horigin, hoperation]
    exact ⟨hlegal, rfl⟩

theorem length_fallbackBytes {fallback : Option ConfigurationRecordReference} {bytes : Bytes}
    (h : fallbackBytes fallback = some bytes) :
    bytes.length = if fallback.isSome then 35 else 1 := by
  cases fallback with
  | none =>
      cases h
      rfl
  | some reference =>
      rw [fallbackBytes] at h
      obtain ⟨written, hwrite, rfl⟩ := Option.map_eq_some_iff.mp h
      rw [List.length_cons, length_eq hwrite]
      rfl

theorem encodeConfigurationRootPayload_eq_ok :
    encodeConfigurationRootPayload root = .ok payload ↔
      root.isPlausible = true ∧ ∃ active fallback,
        configurationReferenceFormat.write root.active = some active ∧
          fallbackBytes root.fallback = some fallback ∧ payload = active ++ fallback := by
  simp only [encodeConfigurationRootPayload, bind_eq_ok, require_eq_ok, orFail_eq_ok,
    decide_eq_true_eq]
  constructor
  · rintro ⟨_, hlegal, active, hactive, fallback, hfallback, _, -, h⟩
    cases h
    exact ⟨hlegal, active, fallback, hactive, hfallback, rfl⟩
  · rintro ⟨hlegal, active, fallback, hactive, hfallback, rfl⟩
    refine ⟨(), hlegal, active, hactive, fallback, hfallback, (), ?_, rfl⟩
    rw [List.length_append, length_eq hactive, length_fallbackBytes hfallback]
    split_ifs <;> rfl

/-- Tag and fallback are read as they are written. -/
theorem readFallback_iff {fallback : Option ConfigurationRecordReference} {bytes : Bytes} :
    (∃ tag rest, uint8.read bytes = some (tag, rest) ∧ tag ≤ 1 ∧
      readFallback tag rest = some (fallback, [])) ↔ fallbackBytes fallback = some bytes := by
  constructor
  · rintro ⟨tag, rest, htag, hknown, hread⟩
    rw [uint8_read_eq_some htag]
    unfold readFallback at hread
    split at hread
    · rename_i hone
      simp only [Option.pure_def, Option.bind_eq_bind, Option.bind_eq_some_iff, Option.some.injEq,
        Prod.exists, Prod.mk.injEq] at hread
      obtain ⟨reference, last, hreference, rfl, rfl⟩ := hread
      obtain ⟨out, hout, rfl⟩ := configurationReferenceFormat.write_read hreference
      rw [fallbackBytes, hout, hone, List.append_nil]
      rfl
    · rename_i hne
      simp only [Option.some.injEq, Prod.mk.injEq] at hread
      obtain ⟨rfl, rfl⟩ := hread
      have hzero : tag = 0 := by
        rw [UInt8.le_iff_toNat_le, show (1 : UInt8).toNat = 1 from rfl] at hknown
        rw [← UInt8.toNat_inj, show (1 : UInt8).toNat = 1 from rfl] at hne
        rw [← UInt8.toNat_inj, show (0 : UInt8).toNat = 0 from rfl]
        omega
      rw [hzero]
      rfl
  · intro h
    cases fallback with
    | none =>
        cases h
        exact ⟨0, [], rfl, by decide, rfl⟩
    | some reference =>
        rw [fallbackBytes] at h
        obtain ⟨written, hwrite, rfl⟩ := Option.map_eq_some_iff.mp h
        have hread := Total.read_write hwrite []
        rw [List.append_nil] at hread
        refine ⟨1, written, ?_, by decide, ?_⟩
        · exact Total.read_write (show uint8.write 1 = some [1] from rfl) written
        · rw [readFallback, if_pos rfl, hread]
          rfl

theorem decodeConfigurationRootPayload_eq_ok :
    decodeConfigurationRootPayload payload = .ok root ↔
      encodeConfigurationRootPayload root = .ok payload := by
  rw [encodeConfigurationRootPayload_eq_ok]
  simp only [decodeConfigurationRootPayload, bind_eq_ok, require_eq_ok, orFail_eq_ok,
    decide_eq_true_eq, Prod.exists]
  constructor
  · rintro ⟨_, -, active, middle, hactive, tag, rest, htag, _, hknown, fallback, last, hfallback,
      _, hlast, _, hlegal, h⟩
    cases h
    cases List.isEmpty_iff.mp hlast
    obtain ⟨written, hwrite, rfl⟩ := configurationReferenceFormat.write_read hactive
    exact ⟨hlegal, written, middle, hwrite,
      readFallback_iff.mp ⟨tag, rest, htag, hknown, hfallback⟩, rfl⟩
  · rintro ⟨hlegal, active, fallback, hactive, hfallback, rfl⟩
    obtain ⟨tag, rest, htag, hknown, hread⟩ := readFallback_iff.mpr hfallback
    refine ⟨(), ?_, root.active, fallback, Total.read_write hactive fallback, tag, rest, htag, (),
      hknown, root.fallback, [], hread, (), rfl, (), hlegal, rfl⟩
    rw [List.length_append, length_eq hactive, length_fallbackBytes hfallback]
    split_ifs <;> decide

end Payload

/-! ## Records both ways -/

section Record

variable {payload bytes : Bytes} {version storageEpoch : UInt64} {recordType : UInt16}
  {schemaVersion : UInt32} {maxEnvelopeBytes : ℕ}

theorem openConfigurationRecord_eq_ok {envelope : StorageEnvelope} :
    openConfigurationRecord bytes version storageEpoch recordType schemaVersion = .ok envelope ↔
      decodeEnvelope bytes = .ok envelope ∧ envelope.recordTypeId = recordType ∧
        envelope.storageEpoch = storageEpoch ∧ envelope.versionValue = version ∧
        envelope.schemaVersion = schemaVersion := by
  unfold openConfigurationRecord
  cases decodeEnvelope bytes with
  | error status => exact ⟨nofun, fun h => nomatch h.1⟩
  | ok found =>
      simp only [bind_eq_ok, require_eq_ok, decide_eq_true_eq]
      constructor
      · rintro ⟨_, hfields, h⟩
        cases h
        exact ⟨rfl, hfields⟩
      · rintro ⟨h, hfields⟩
        cases h
        exact ⟨(), hfields, rfl⟩

theorem mapEnvelopeStatus_eq_ok {encoded : Except EnvelopeEncodeStatus Bytes} :
    mapEnvelopeStatus encoded = .ok bytes ↔ encoded = .ok bytes := by
  cases encoded with
  | ok found => simp only [mapEnvelopeStatus, Except.ok.injEq]
  | error status => cases status <;> exact ⟨nofun, nofun⟩

/-- A record opens exactly when it is the framed payload. -/
theorem opened_iff_framed (hfits : 45 + payload.length ≤ maxEnvelopeBytes) :
    (∃ envelope, openConfigurationRecord bytes version storageEpoch recordType schemaVersion =
        .ok envelope ∧ envelope.payload = payload) ↔
      ∃ utcUnixSeconds, encodeConfigurationRecord (.ok payload) version storageEpoch
        utcUnixSeconds recordType schemaVersion maxEnvelopeBytes = .ok bytes := by
  simp only [encodeConfigurationRecord, ok_bind, mapEnvelopeStatus_eq_ok,
    openConfigurationRecord_eq_ok]
  constructor
  · rintro ⟨envelope, ⟨hopen, rfl, rfl, rfl, rfl⟩, rfl⟩
    refine ⟨envelope.utcUnixSeconds, encodeEnvelope_decodeEnvelope hopen ?_⟩
    obtain ⟨hbytes, -⟩ := bytes_of_decodeEnvelope hopen
    rw [hbytes, List.length_append, List.length_append, length_headerBytes, length_bigEndian,
      kHeaderBeforeCrcWithoutUtc, kUtcValueSize]
    split_ifs <;> omega
  · rintro ⟨utcUnixSeconds, h⟩
    exact ⟨_, ⟨decodeEnvelope_encodeEnvelope h, rfl, rfl, rfl, rfl⟩, rfl⟩

/-- Every identified payload can be framed. -/
theorem framed_of_identified (utcUnixSeconds : Option Int64) (hversion : version ≠ 0)
    (hepoch : storageEpoch ≠ 0) (htype : recordType ≠ 0) (hschema : schemaVersion ≠ 0)
    (hfits : 45 + payload.length ≤ maxEnvelopeBytes) (hlimit : maxEnvelopeBytes ≤ 4294967295) :
    ∃ bytes, encodeConfigurationRecord (.ok payload) version storageEpoch utcUnixSeconds
      recordType schemaVersion maxEnvelopeBytes = .ok bytes := by
  refine ⟨_, mapEnvelopeStatus_eq_ok.mpr
    (encodeEnvelope_of_fits ⟨htype, hschema, hepoch, hversion⟩ ?_ ?_)⟩
  · show payload.length ≤ 4294967295
    omega
  · rw [length_headerBytes, kHeaderBeforeCrcWithoutUtc, kUtcValueSize, kCrcSize]
    show _ + 4 + payload.length ≤ _
    split_ifs <;> omega

end Record

end Fermentationsschrank

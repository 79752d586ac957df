import Fermentationsschrank.Configuration.BootstrapRoundTrip
import Fermentationsschrank.Configuration.ConfigurationGraphCodec

/-!
# Records of the configuration store

What the store writes it reads back, and what it reads it would have written.
The one exception is a bootstrap of the first schema, which is only read.
-/

namespace Fermentationsschrank

open Envelope
open Format

/-! ## What the encoders accept -/

theorem writes_configurationReference (reference : ConfigurationRecordReference) :
    configurationReferenceFormat.Writes reference := by
  rw [configurationReferenceFormat, writes_equiv]
  simp

theorem encodeConfigurationManifestPayload_isOk {manifest : ConfigurationManifest} :
    (∃ payload, encodeConfigurationManifestPayload manifest = .ok payload) ↔
      manifest.isPlausible = true := by
  simp only [encodeConfigurationManifestPayload_eq_ok]
  constructor
  · rintro ⟨_, hlegal, _⟩
    exact hlegal
  · intro hlegal
    have hwrites : manifestFields.Writes manifest.fields := by
      simp [manifestFields, writes_configurationReference]
    obtain ⟨payload, hwrite⟩ := hwrites
    exact ⟨payload, hlegal, hwrite⟩

theorem encodeConfigurationRootPayload_isOk {root : ConfigurationRootRecord} :
    (∃ payload, encodeConfigurationRootPayload root = .ok payload) ↔
      root.isPlausible = true := by
  simp only [encodeConfigurationRootPayload_eq_ok]
  constructor
  · rintro ⟨_, hlegal, _⟩
    exact hlegal
  · intro hlegal
    obtain ⟨active, hactive⟩ := writes_configurationReference root.active
    have hfallback : ∃ fallback, fallbackBytes root.fallback = some fallback := by
      cases root.fallback with
      | none => exact ⟨_, rfl⟩
      | some reference =>
          obtain ⟨written, hwrite⟩ := writes_configurationReference reference
          exact ⟨1 :: written, by rw [fallbackBytes, hwrite]; rfl⟩
    obtain ⟨fallback, hfallback⟩ := hfallback
    exact ⟨active ++ fallback, hlegal, active, fallback, hactive, hfallback, rfl⟩

theorem length_manifestPayload {manifest : ConfigurationManifest} {payload : Bytes}
    (h : encodeConfigurationManifestPayload manifest = .ok payload) : payload.length = 104 :=
  length_eq (encodeConfigurationManifestPayload_eq_ok.mp h).2

theorem length_rootPayload {root : ConfigurationRootRecord} {payload : Bytes}
    (h : encodeConfigurationRootPayload root = .ok payload) : payload.length ≤ 69 := by
  obtain ⟨-, active, fallback, hactive, hfallback, rfl⟩ :=
    encodeConfigurationRootPayload_eq_ok.mp h
  rw [List.length_append, length_eq hactive, length_fallbackBytes hfallback]
  split_ifs <;> decide

/-! ## Records of one payload -/

section Record

variable {α : Type} {encode : Except ConfigurationGraphCodecStatus Bytes} {bytes : Bytes}
  {version storageEpoch : UInt64} {recordType : UInt16} {schemaVersion : UInt32}
  {maxEnvelopeBytes : ℕ}

theorem encodeConfigurationRecord_eq_ok {utcUnixSeconds : Option Int64} :
    encodeConfigurationRecord encode version storageEpoch utcUnixSeconds recordType schemaVersion
        maxEnvelopeBytes = .ok bytes ↔
      ∃ payload, encode = .ok payload ∧
        encodeConfigurationRecord (.ok payload) version storageEpoch utcUnixSeconds recordType
          schemaVersion maxEnvelopeBytes = .ok bytes := by
  simp only [encodeConfigurationRecord, bind_eq_ok, Except.ok.injEq, exists_eq_left']

/-- A payload that fits is framed exactly when its record can be named. -/
theorem encodeConfigurationRecord_isOk {utcUnixSeconds : Option Int64} (htype : recordType ≠ 0)
    (hschema : schemaVersion ≠ 0) (hlimit : maxEnvelopeBytes ≤ 4294967295)
    (hfits : ∀ payload, encode = .ok payload → 45 + payload.length ≤ maxEnvelopeBytes) :
    (∃ bytes, encodeConfigurationRecord encode version storageEpoch utcUnixSeconds recordType
        schemaVersion maxEnvelopeBytes = .ok bytes) ↔
      version ≠ 0 ∧ storageEpoch ≠ 0 ∧ ∃ payload, encode = .ok payload := by
  constructor
  · rintro ⟨bytes, h⟩
    obtain ⟨payload, hpayload, hframed⟩ := encodeConfigurationRecord_eq_ok.mp h
    rw [encodeConfigurationRecord, ok_bind, mapEnvelopeStatus_eq_ok] at hframed
    obtain ⟨⟨-, -, hepoch, hversion⟩, -⟩ := encodeEnvelope_eq_ok hframed
    exact ⟨hversion, hepoch, payload, hpayload⟩
  · rintro ⟨hversion, hepoch, payload, hpayload⟩
    obtain ⟨bytes, h⟩ := @framed_of_identified payload version storageEpoch recordType
      schemaVersion maxEnvelopeBytes utcUnixSeconds hversion hepoch htype hschema
      (hfits payload hpayload) hlimit
    exact ⟨bytes, encodeConfigurationRecord_eq_ok.mpr ⟨payload, hpayload, h⟩⟩

/-- A payload codec that is exact both ways gives such a record codec. -/
theorem opened_iff_encoded {decode : Bytes → Except ConfigurationGraphCodecStatus α} {value : α}
    (hboth : ∀ payload, decode payload = .ok value ↔ encode = .ok payload)
    (hfits : ∀ payload, encode = .ok payload → 45 + payload.length ≤ maxEnvelopeBytes) :
    (openConfigurationRecord bytes version storageEpoch recordType schemaVersion >>=
        fun envelope => decode envelope.payload) = .ok value ↔
      ∃ utcUnixSeconds, encodeConfigurationRecord encode version storageEpoch utcUnixSeconds
        recordType schemaVersion maxEnvelopeBytes = .ok bytes := by
  rw [bind_eq_ok]
  constructor
  · rintro ⟨envelope, hopen, hdecode⟩
    have hpayload := (hboth envelope.payload).mp hdecode
    obtain ⟨utcUnixSeconds, hframed⟩ :=
      (opened_iff_framed (hfits _ hpayload)).mp ⟨envelope, hopen, rfl⟩
    exact ⟨utcUnixSeconds, encodeConfigurationRecord_eq_ok.mpr ⟨_, hpayload, hframed⟩⟩
  · rintro ⟨utcUnixSeconds, h⟩
    obtain ⟨payload, hpayload, hframed⟩ := encodeConfigurationRecord_eq_ok.mp h
    obtain ⟨envelope, hopen, rfl⟩ :=
      (opened_iff_framed (hfits payload hpayload)).mpr ⟨utcUnixSeconds, hframed⟩
    exact ⟨envelope, hopen, (hboth _).mpr hpayload⟩

end Record

theorem encodeConfigurationManifestRecord_isOk {manifest : ConfigurationManifest}
    {generation storageEpoch : UInt64} {utcUnixSeconds : Option Int64} :
    (∃ bytes, encodeConfigurationManifestRecord manifest generation storageEpoch utcUnixSeconds =
        .ok bytes) ↔ generation ≠ 0 ∧ storageEpoch ≠ 0 ∧ manifest.isPlausible = true := by
  rw [← encodeConfigurationManifestPayload_isOk]
  apply encodeConfigurationRecord_isOk (by decide) (by decide) (by decide)
  intro payload hpayload
  rw [length_manifestPayload hpayload]
  decide

theorem decodeConfigurationManifestRecord_eq_ok {manifest : ConfigurationManifest}
    {generation storageEpoch : UInt64} {bytes : Bytes} :
    decodeConfigurationManifestRecord bytes generation storageEpoch = .ok manifest ↔
      ∃ utcUnixSeconds, encodeConfigurationManifestRecord manifest generation storageEpoch
        utcUnixSeconds = .ok bytes := by
  apply opened_iff_encoded
  · intro payload
    exact decodeConfigurationManifestPayload_eq_ok
  · intro payload hpayload
    rw [length_manifestPayload hpayload]
    decide

theorem encodeConfigurationRootRecord_isOk {root : ConfigurationRootRecord}
    {sequence storageEpoch : UInt64} {utcUnixSeconds : Option Int64} :
    (∃ bytes, encodeConfigurationRootRecord root sequence storageEpoch utcUnixSeconds =
        .ok bytes) ↔ sequence ≠ 0 ∧ storageEpoch ≠ 0 ∧ root.isPlausible = true := by
  rw [← encodeConfigurationRootPayload_isOk]
  apply encodeConfigurationRecord_isOk (by decide) (by decide) (by decide)
  intro payload hpayload
  have hlength := length_rootPayload hpayload
  rw [kMaximumConfigurationRootEnvelopeBytes]
  omega

theorem decodeConfigurationRootRecord_eq_ok {root : ConfigurationRootRecord}
    {sequence storageEpoch : UInt64} {bytes : Bytes} :
    decodeConfigurationRootRecord bytes sequence storageEpoch = .ok root ↔
      ∃ utcUnixSeconds, encodeConfigurationRootRecord root sequence storageEpoch
        utcUnixSeconds = .ok bytes := by
  apply opened_iff_encoded
  · intro payload
    exact decodeConfigurationRootPayload_eq_ok
  · intro payload hpayload
    have hlength := length_rootPayload hpayload
    rw [kMaximumConfigurationRootEnvelopeBytes]
    omega

/-! ## Every record of the store -/

/-- Both directions of the three codecs: the encoder accepts exactly the plausible
values, and a byte string is decoded to a value exactly when it encodes it.  Only
bootstraps of the first schema are read without being written. -/
theorem configuration_records_round_trip :
    (∀ record : ConfigurationBootstrapRecord,
      ((∃ bytes, encodeConfigurationBootstrapRecord record = .ok bytes) ↔
        record.Written ∧ record.isPlausible = true) ∧
      (∀ bytes, encodeConfigurationBootstrapRecord record = .ok bytes ↔
        record.Written ∧ decodeConfigurationBootstrapRecord bytes = .ok record) ∧
      ∀ bytes, decodeConfigurationBootstrapRecord bytes = .ok record →
        record.isPlausible = true) ∧
    (∀ (manifest : ConfigurationManifest) (generation storageEpoch : UInt64),
      (∀ utcUnixSeconds, (∃ bytes, encodeConfigurationManifestRecord manifest generation
          storageEpoch utcUnixSeconds = .ok bytes) ↔
        generation ≠ 0 ∧ storageEpoch ≠ 0 ∧ manifest.isPlausible = true) ∧
      ∀ bytes, decodeConfigurationManifestRecord bytes generation storageEpoch = .ok manifest ↔
        ∃ utcUnixSeconds, encodeConfigurationManifestRecord manifest generation storageEpoch
          utcUnixSeconds = .ok bytes) ∧
    (∀ (root : ConfigurationRootRecord) (sequence storageEpoch : UInt64),
      (∀ utcUnixSeconds, (∃ bytes, encodeConfigurationRootRecord root sequence storageEpoch
          utcUnixSeconds = .ok bytes) ↔
        sequence ≠ 0 ∧ storageEpoch ≠ 0 ∧ root.isPlausible = true) ∧
      ∀ bytes, decodeConfigurationRootRecord bytes sequence storageEpoch = .ok root ↔
        ∃ utcUnixSeconds, encodeConfigurationRootRecord root sequence storageEpoch
          utcUnixSeconds = .ok bytes) := by
  refine ⟨fun record => ⟨ConfigurationBootstrapRecord.encode_isOk_iff, fun bytes => ?_,
      fun bytes h => (ConfigurationBootstrapRecord.decode_eq_ok h).1⟩,
    fun manifest generation storageEpoch =>
      ⟨fun _ => encodeConfigurationManifestRecord_isOk,
        fun _ => decodeConfigurationManifestRecord_eq_ok⟩,
    fun root sequence storageEpoch =>
      ⟨fun _ => encodeConfigurationRootRecord_isOk,
        fun _ => decodeConfigurationRootRecord_eq_ok⟩⟩
  constructor
  · intro h
    exact ⟨(ConfigurationBootstrapRecord.encode_eq_ok h).1,
      ConfigurationBootstrapRecord.decode_encode h⟩
  · rintro ⟨hwritten, h⟩
    exact ConfigurationBootstrapRecord.encode_decode hwritten h

/-- A record as the first schema starts a store. -/
def firstSchemaBootstrap : ConfigurationBootstrapRecord where
  sequence := 1
  storageFormatVersion := kConfigurationStorageFormatVersion1
  storageEpoch := 1
  state := .initializing
  schemaVersion := kConfigurationBootstrapSchemaVersion1

set_option maxRecDepth 1000000 in
/-- It is plausible and decoded, and yet never encoded. -/
theorem firstSchema_is_only_read :
    firstSchemaBootstrap.isPlausible = true ∧
      encodeConfigurationBootstrapRecord firstSchemaBootstrap = .error .invalidModel ∧
      (encodeEnvelope (firstSchemaBootstrap.envelope [0, 0, 0, 1, 1])
        kMaximumConfigurationBootstrapEnvelopeBytes).toOption.map
        decodeConfigurationBootstrapRecord = some (.ok firstSchemaBootstrap) := by
  refine ⟨by decide, by decide, ?_⟩
  decide +kernel

end Fermentationsschrank

import Fermentationsschrank.Configuration.ConfigurationGraph
import Fermentationsschrank.Core.FormatSizes
import Fermentationsschrank.Persistence.CheckpointEncodable
import Fermentationsschrank.Sensors.SensorCommissioning

/-!
# Service configuration codec

The parameters of the planner and the commissioning of the sensors, each behind a tag.  The first
schema carries nothing, the second one the parameters only.
-/

namespace Fermentationsschrank

open SensorCommissioning

structure ServiceConfiguration where
  actuatorPlannerParameters : Option ActuatorPlannerParameters := none
  sensorCommissioning : Option SensorCommissioningRecord := none
  deriving DecidableEq

/-! ## Sections -/

theorem SensorOffset.create_celsius (offset : SensorOffset) :
    SensorOffset.create offset.celsius = .ok offset := dif_pos offset.inRange

/-- A probe and its offset.  The reader refuses the probe zero and an offset that the firmware
does not take. -/
def sensorRomOffsetFormat : Format SensorRomOffset :=
  ((Format.uint64.pair Format.binary64).readGuard fun found =>
      found.1 ≠ 0 && inFirmwareRange found.2).embed
    (fun found => ⟨found.1, (SensorOffset.create found.2).toOption.getD .zero⟩)
    (fun entry => some (entry.rom, entry.offset.celsius))
    (by
      intro found bytes rest hread
      have haccepted := (Format.readable_of_read _ hread).2
      simp only [Bool.and_eq_true] at haccepted
      simp [SensorOffset.create, haccepted.2, Except.toOption])
    (by
      rintro entry found ⟨⟩
      simp [SensorOffset.create_celsius, Except.toOption])

/-- The entries of a record with both roles. -/
def sensorRecordParts (record : SensorCommissioningRecord) :
    Option (SensorRomOffset × SensorRomOffset × List SensorRomOffset) :=
  match record.chamberAir, record.heatsink with
  | some chamberAir, some heatsink => some (chamberAir, heatsink, record.productProbes)
  | _, _ => none

theorem sensorRecordParts_eq_some {record : SensorCommissioningRecord}
    {parts : SensorRomOffset × SensorRomOffset × List SensorRomOffset} :
    sensorRecordParts record = some parts ↔ record = ⟨some parts.1, some parts.2.1, parts.2.2⟩ := by
  obtain ⟨_ | chamberAir, _ | heatsink, productProbes⟩ := record <;> obtain ⟨_, _, _⟩ := parts <;>
    simp [sensorRecordParts]

/-- A record with both roles; its probes of the product are counted. -/
def sensorRecordFormat : Format SensorCommissioningRecord :=
  ((sensorRomOffsetFormat.pair <| sensorRomOffsetFormat.pair <|
      sensorRomOffsetFormat.counted kMaximumKnownProductProbes (by decide)).embed
    (fun found => ⟨some found.1, some found.2.1, found.2.2⟩)
    sensorRecordParts
    (fun _ _ _ _ => rfl)
    (fun _ _ h => (sensorRecordParts_eq_some.mp h).symm)).guard
  fun record => validateSensorCommissioning record = .success

/-- The payload with or without the section of the sensors. -/
def serviceConfigurationFormat (withSensors : Bool) : Format ServiceConfiguration :=
  (plannerParametersFormat.optional.pair
      (Format.since withSensors none sensorRecordFormat.optional)).equiv
    ⟨fun found => ⟨found.1, found.2⟩,
      fun configuration =>
        (configuration.actuatorPlannerParameters, configuration.sensorCommissioning),
      fun _ => rfl, fun _ => rfl⟩

/-! ## Encoding and decoding -/

def encodeServiceConfigurationPayload (configuration : ServiceConfiguration) :
    Except ConfigurationCodecStatus Bytes := do
  let out ← orFail ((serviceConfigurationFormat true).write configuration) .invalidDocument
  require (out.length ≤ kMaximumServiceConfigurationPayloadBytes) .invalidDocument
  return out

/-- The second schema is the third one without the last tag. -/
def encodeServiceConfigurationPayloadSchema2 (configuration : ServiceConfiguration) :
    Except ConfigurationCodecStatus Bytes := do
  require configuration.sensorCommissioning.isNone .invalidDocument
  let out ← encodeServiceConfigurationPayload configuration
  require (out ≠ []) .invalidDocument
  return out.dropLast

def decodeServiceConfigurationPayload (schemaVersion : UInt32) (payload : Bytes) :
    Except ConfigurationCodecStatus ServiceConfiguration :=
  if schemaVersion = 1 then
    if payload = [] then .ok {} else .error .trailingBytes
  else if schemaVersion ≠ 2 ∧ schemaVersion ≠ 3 then .error .unsupportedSchema
  else do
    let withSensors := schemaVersion ≠ 2
    require (payload.length ≤
      if withSensors then kMaximumServiceConfigurationPayloadBytes
      else kServiceConfigurationSchema2MaximumPayloadBytes) .capacityExceeded
    let (configuration, rest) ←
      orFail ((serviceConfigurationFormat withSensors).read payload) .invalidWireValue
    require rest.isEmpty .trailingBytes
    return configuration

/-! ## What is written -/

variable {configuration : ServiceConfiguration} {record : SensorCommissioningRecord}
variable {entry : SensorRomOffset} {payload : Bytes}

instance : sensorRomOffsetFormat.Exact 16 := by
  unfold sensorRomOffsetFormat
  infer_instance

instance : plannerParametersFormat.Exact 80 := by
  unfold plannerParametersFormat
  infer_instance

theorem readable_sensorRomOffset (hrom : entry.rom ≠ 0) :
    sensorRomOffsetFormat.Readable entry := by
  rintro found ⟨⟩
  exact ⟨⟨Format.readable_uint64 _, Format.readable_binary64 _⟩, by
    simp [hrom, entry.offset.inRange]⟩

theorem writes_sensorRomOffset : sensorRomOffsetFormat.Writes entry := by
  have hfinite : entry.offset.celsius.isFinite = true := by
    have hrange := entry.offset.inRange
    rw [inFirmwareRange, Bool.and_eq_true] at hrange
    exact hrange.1
  have hwrites : (Format.uint64.pair Format.binary64).Writes (entry.rom, entry.offset.celsius) := by
    simp [hfinite]
  exact hwrites

theorem exists_parts (h : record.Valid) : ∃ parts, sensorRecordParts record = some parts := by
  obtain ⟨chamberAir, hchamberAir⟩ := Option.isSome_iff_exists.mp h.chamberAir
  obtain ⟨heatsink, hheatsink⟩ := Option.isSome_iff_exists.mp h.heatsink
  exact ⟨(chamberAir, heatsink, record.productProbes), by
    rw [sensorRecordParts, hchamberAir, hheatsink]⟩

theorem writes_sensorRecord (h : record.Valid) : sensorRecordFormat.Writes record := by
  obtain ⟨parts, hparts⟩ := exists_parts h
  rw [sensorRecordFormat, Format.writes_guard]
  refine ⟨decide_eq_true (validateSensorCommissioning_eq_success.mpr h), ?_⟩
  apply Format.writes_embed _ hparts
  rw [Format.writes_pair, Format.writes_pair]
  exact ⟨writes_sensorRomOffset, writes_sensorRomOffset,
    Format.writes_counted _ _ _ fun _ _ => writes_sensorRomOffset⟩

theorem readable_sensorRecord (h : record.Valid) : sensorRecordFormat.Readable record := by
  intro parts hparts
  have hrecord := sensorRecordParts_eq_some.mp hparts
  have hnonzero := h.nonzero
  have hprobes := h.probes
  rw [hrecord] at hnonzero hprobes
  exact ⟨readable_sensorRomOffset (hnonzero _ (by simp [SensorCommissioningRecord.entries])),
    readable_sensorRomOffset (hnonzero _ (by simp [SensorCommissioningRecord.entries])), hprobes,
    fun entry hmem => readable_sensorRomOffset
      (hnonzero _ (by simp [SensorCommissioningRecord.entries, hmem]))⟩

theorem valid_of_write {out : Bytes} (h : sensorRecordFormat.write record = some out) :
    record.Valid := by
  rw [sensorRecordFormat, Format.guard, Option.ite_none_right_eq_some] at h
  exact validateSensorCommissioning_eq_success.mp (of_decide_eq_true h.1)

theorem sensorRecord_length {out : Bytes} (h : sensorRecordFormat.write record = some out) :
    out.length = 33 + record.productProbes.length * 16 := by
  rw [sensorRecordFormat, Format.guard, Option.ite_none_right_eq_some] at h
  obtain ⟨-, h⟩ := h
  obtain ⟨found, hfound, hwrite⟩ := Option.bind_eq_some_iff.mp h
  obtain ⟨chamberAir, rest, hchamberAir, hrest, rfl⟩ := Format.pair_write_eq_some.mp hwrite
  obtain ⟨heatsink, probes, hheatsink, hprobes, rfl⟩ := Format.pair_write_eq_some.mp hrest
  have hcounted := sensorRomOffsetFormat.counted_length_eq hprobes
  have hsame : found.2.2 = record.productProbes := by
    rw [sensorRecordParts_eq_some.mp hfound]
  rw [List.length_append, List.length_append, Format.length_eq hchamberAir,
    Format.length_eq hheatsink, hcounted, hsame]
  omega

/-! ## Round trips -/

/-- What a payload can hold. -/
structure ServiceConfiguration.Valid (configuration : ServiceConfiguration) : Prop where
  parameters : ∀ parameters ∈ configuration.actuatorPlannerParameters,
    classifyActuatorPlannerParameters parameters = .valid
  sensors : ∀ record ∈ configuration.sensorCommissioning, record.Valid

variable {withSensors : Bool} {out : Bytes}

theorem serviceConfiguration_write_eq_some :
    (serviceConfigurationFormat withSensors).write configuration = some out ↔
      ∃ front back,
        plannerParametersFormat.optional.write configuration.actuatorPlannerParameters =
          some front ∧
        (Format.since withSensors none sensorRecordFormat.optional).write
          configuration.sensorCommissioning = some back ∧ out = front ++ back :=
  Format.pair_write_eq_some

theorem optional_write_valid {α : Type} {format : Format α} {value : Option α}
    (h : format.optional.write value = some out) :
    ∀ found ∈ value, ∃ back, format.write found = some back := by
  rintro found ⟨⟩
  rw [Format.optional_write_some] at h
  obtain ⟨back, hback, -⟩ := Option.map_eq_some_iff.mp h
  exact ⟨back, hback⟩

theorem parameters_valid_of_write
    (h : plannerParametersFormat.optional.write configuration.actuatorPlannerParameters =
      some out) : ∀ parameters ∈ configuration.actuatorPlannerParameters,
      classifyActuatorPlannerParameters parameters = .valid := by
  intro parameters hmem
  obtain ⟨back, hback⟩ := optional_write_valid h parameters hmem
  rw [plannerParametersFormat, Format.guard, Option.ite_none_right_eq_some] at hback
  exact of_decide_eq_true hback.1

theorem valid_of_encode (h : encodeServiceConfigurationPayload configuration = .ok payload) :
    configuration.Valid := by
  simp only [encodeServiceConfigurationPayload, bind_eq_ok, orFail_eq_ok, require_eq_ok] at h
  obtain ⟨out, hwrite, -⟩ := h
  obtain ⟨front, back, hfront, hback, -⟩ := serviceConfiguration_write_eq_some.mp hwrite
  refine ⟨parameters_valid_of_write hfront, fun record hmem => ?_⟩
  obtain ⟨_, hrecord⟩ := optional_write_valid hback record hmem
  exact valid_of_write hrecord

theorem readable_sensorSection {sensors : Option SensorCommissioningRecord}
    (h : ∀ record ∈ sensors, record.Valid) : sensorRecordFormat.optional.Readable sensors := by
  cases sensors with
  | none => exact Format.readable_optional_none _
  | some record =>
      exact (Format.readable_optional_some _ _).mpr (readable_sensorRecord (h record rfl))

theorem readable_serviceConfiguration (h : configuration.Valid) :
    (serviceConfigurationFormat true).Readable configuration :=
  ⟨Format.Total.readable _, readable_sensorSection h.sensors⟩

theorem parameters_length {parameters : Option ActuatorPlannerParameters}
    (h : plannerParametersFormat.optional.write parameters = some out) :
    out.length = 1 ∨ out.length = kServiceConfigurationSchema2MaximumPayloadBytes := by
  rw [plannerParametersFormat.optional_length h]
  cases parameters with
  | none => exact Or.inl rfl
  | some _ => exact Or.inr rfl

/-- The plausible lengths are those of the written payloads. -/
theorem serviceConfiguration_length
    (h : (serviceConfigurationFormat true).write configuration = some out) :
    ConfigurationRecordReference.sensorPayloadLength out.length = true := by
  obtain ⟨front, back, hfront, hback, rfl⟩ := serviceConfiguration_write_eq_some.mp h
  have hplanner : front.length ∈ [1, kServiceConfigurationSchema2MaximumPayloadBytes] := by
    simpa using parameters_length hfront
  rw [ConfigurationRecordReference.sensorPayloadLength, List.any_eq_true, List.length_append]
  refine ⟨front.length, hplanner, ?_⟩
  cases hsensors : configuration.sensorCommissioning with
  | none =>
      rw [hsensors] at hback
      cases hback
      simp
  | some record =>
      have hoptional : sensorRecordFormat.optional.write (some record) = some back := by
        rw [← hsensors]
        exact hback
      rw [Format.optional_write_some] at hoptional
      obtain ⟨written, hwritten, rfl⟩ := Option.map_eq_some_iff.mp hoptional
      have hprobes := (valid_of_write hwritten).probes
      rw [Bool.or_eq_true, List.any_eq_true]
      refine Or.inr ⟨record.productProbes.length, List.mem_range.mpr ?_, decide_eq_true ?_⟩
      · exact Nat.lt_succ_of_le hprobes
      · rw [List.length_cons, sensorRecord_length hwritten]
        omega

theorem sensorPayloadLength_le {length : ℕ}
    (h : ConfigurationRecordReference.sensorPayloadLength length = true) :
    length ≤ kMaximumServiceConfigurationPayloadBytes := by
  rw [ConfigurationRecordReference.sensorPayloadLength, List.any_eq_true] at h
  obtain ⟨planner, hplanner, h⟩ := h
  rw [Bool.or_eq_true, List.any_eq_true] at h
  have hplanner : planner ≤ 81 := by
    rcases List.mem_pair.mp hplanner with rfl | rfl <;> decide
  rw [kMaximumServiceConfigurationPayloadBytes]
  rcases h with h | ⟨probes, hprobes, h⟩
  · have hlength := of_decide_eq_true h
    omega
  · have hlength := of_decide_eq_true h
    have hprobes := List.mem_range.mp hprobes
    rw [kMaximumKnownProductProbes] at hprobes
    omega

theorem encode_eq_ok_iff :
    encodeServiceConfigurationPayload configuration = .ok payload ↔
      (serviceConfigurationFormat true).write configuration = some payload := by
  simp only [encodeServiceConfigurationPayload, bind_eq_ok, orFail_eq_ok, require_eq_ok,
    decide_eq_true_eq, exists_const]
  constructor
  · rintro ⟨out, hwrite, -, hout⟩
    cases hout
    exact hwrite
  · intro hwrite
    exact ⟨payload, hwrite, sensorPayloadLength_le (serviceConfiguration_length hwrite), rfl⟩

/-- A valid configuration is written, whatever it holds. -/
theorem encodeServiceConfigurationPayload_valid (h : configuration.Valid) :
    ∃ out, encodeServiceConfigurationPayload configuration = .ok out := by
  obtain ⟨front, hfront⟩ := Format.writes_optional plannerParametersFormat fun parameters hmem =>
    writes_plannerParameters (h.parameters parameters hmem)
  obtain ⟨back, hback⟩ := Format.writes_optional sensorRecordFormat fun record hmem =>
    writes_sensorRecord (h.sensors record hmem)
  have hwrite : (serviceConfigurationFormat true).write configuration = some (front ++ back) :=
    serviceConfiguration_write_eq_some.mpr ⟨front, back, hfront, hback, rfl⟩
  exact ⟨front ++ back, encode_eq_ok_iff.mpr hwrite⟩

theorem decode_eq_ok_iff {schemaVersion : UInt32}
    (hversion : schemaVersion = 2 ∨ schemaVersion = 3) :
    decodeServiceConfigurationPayload schemaVersion payload = .ok configuration ↔
      payload.length ≤ (if schemaVersion ≠ 2 then kMaximumServiceConfigurationPayloadBytes
        else kServiceConfigurationSchema2MaximumPayloadBytes) ∧
      (serviceConfigurationFormat (schemaVersion ≠ 2)).read payload = some (configuration, []) := by
  have hfirst : schemaVersion ≠ 1 := by
    rcases hversion with rfl | rfl <;> decide
  have hknown : ¬(schemaVersion ≠ 2 ∧ schemaVersion ≠ 3) := by
    rcases hversion with rfl | rfl <;> decide
  rw [decodeServiceConfigurationPayload, if_neg hfirst, if_neg hknown]
  simp only [bind_eq_ok, orFail_eq_ok, require_eq_ok, decide_eq_true_eq, exists_const,
    Prod.exists, List.isEmpty_iff]
  constructor
  · rintro ⟨hlength, found, rest, hread, rfl, hfound⟩
    cases hfound
    exact ⟨hlength, hread⟩
  · rintro ⟨hlength, hread⟩
    exact ⟨hlength, configuration, [], hread, rfl, rfl⟩

/-- Every payload of the third schema is the one of its configuration. -/
theorem decode_iff_encode :
    decodeServiceConfigurationPayload 3 payload = .ok configuration ↔
      encodeServiceConfigurationPayload configuration = .ok payload := by
  rw [decode_eq_ok_iff (Or.inr rfl), encode_eq_ok_iff]
  constructor
  · rintro ⟨-, hread⟩
    exact Format.write_of_read_all _ hread
  · intro hwrite
    refine ⟨sensorPayloadLength_le (serviceConfiguration_length hwrite), ?_⟩
    exact Format.read_of_write_all _
      (readable_serviceConfiguration (valid_of_encode (encode_eq_ok_iff.mpr hwrite))) hwrite

theorem since_false_write {α : Type} {absent : α} {format : Format α} {value : α} :
    (Format.since false absent format).write value = some out ↔ out = [] := by
  have hwrite : (Format.since false absent format).write value = some [] := rfl
  rw [hwrite, Option.some.injEq]
  exact eq_comm

theorem schema2_write_eq_some :
    (serviceConfigurationFormat false).write configuration = some out ↔
      plannerParametersFormat.optional.write configuration.actuatorPlannerParameters =
        some out := by
  rw [serviceConfiguration_write_eq_some]
  constructor
  · rintro ⟨front, back, hfront, hback, rfl⟩
    rw [since_false_write.mp hback, List.append_nil]
    exact hfront
  · intro hfront
    exact ⟨out, [], hfront, since_false_write.mpr rfl, (List.append_nil out).symm⟩

/-- The second schema drops the tag of a configuration without a section of the sensors. -/
theorem encodeSchema2_eq_ok_iff :
    encodeServiceConfigurationPayloadSchema2 configuration = .ok payload ↔
      configuration.sensorCommissioning = none ∧
        (serviceConfigurationFormat false).write configuration = some payload := by
  rw [schema2_write_eq_some]
  simp only [encodeServiceConfigurationPayloadSchema2, bind_eq_ok, require_eq_ok, exists_const,
    Option.isNone_iff_eq_none, decide_eq_true_eq, encode_eq_ok_iff,
    serviceConfiguration_write_eq_some]
  constructor
  · rintro ⟨hsensors, out, ⟨front, back, hfront, hback, rfl⟩, -, hpayload⟩
    have htag : back = [0] := by
      rw [hsensors] at hback
      cases hback
      rfl
    cases hpayload
    refine ⟨hsensors, ?_⟩
    rw [htag, List.dropLast_concat]
    exact hfront
  · rintro ⟨hsensors, hfront⟩
    refine ⟨hsensors, payload ++ [0], ⟨payload, [0], hfront, ?_, rfl⟩, by simp, ?_⟩
    · rw [hsensors]
      rfl
    · rw [List.dropLast_concat]
      rfl

theorem decode_iff_encodeSchema2 :
    decodeServiceConfigurationPayload 2 payload = .ok configuration ↔
      encodeServiceConfigurationPayloadSchema2 configuration = .ok payload := by
  rw [decode_eq_ok_iff (Or.inl rfl), encodeSchema2_eq_ok_iff]
  constructor
  · rintro ⟨-, hread⟩
    have hreadable := Format.readable_of_read _ hread
    exact ⟨hreadable.2, Format.write_of_read_all _ hread⟩
  · rintro ⟨hsensors, hwrite⟩
    refine ⟨?_, Format.read_of_write_all _ ⟨Format.Total.readable _, hsensors⟩ hwrite⟩
    rcases parameters_length (schema2_write_eq_some.mp hwrite) with hlength | hlength
    · rw [hlength]
      decide
    · rw [hlength]
      rfl

theorem decode_schema1 :
    decodeServiceConfigurationPayload 1 payload = .ok configuration ↔
      payload = [] ∧ configuration = {} := by
  rw [decodeServiceConfigurationPayload, if_pos rfl]
  by_cases hempty : payload = []
  · rw [if_pos hempty, Except.ok.injEq, and_iff_right hempty]
    exact eq_comm
  · rw [if_neg hempty]
    exact iff_of_false nofun fun h => hempty h.1

/-- The length of a payload that can be decoded is one that a reference may name. -/
theorem reference_of_decode {reference : ConfigurationRecordReference}
    (htype : reference.recordType = kServiceConfigurationRecordType)
    (hversion : reference.version ≠ 0) (hepoch : reference.storageEpoch ≠ 0)
    (hslot : reference.slot.toNat < kConfigurationDocumentSlotCount)
    (hlength : reference.payloadLength.toNat = payload.length)
    (h : decodeServiceConfigurationPayload reference.schemaVersion payload = .ok configuration) :
    reference.validServiceConfigurationReference kConfigurationDocumentSlotCount = true := by
  obtain ⟨recordType, slot, version, schemaVersion, payloadLength, payloadCrc, storageEpoch⟩ :=
    reference
  dsimp only at htype hversion hepoch hslot hlength h
  have hknown : schemaVersion = 1 ∨ schemaVersion = 2 ∨ schemaVersion = 3 := by
    by_contra hunknown
    rw [not_or, not_or] at hunknown
    rw [decodeServiceConfigurationPayload, if_neg hunknown.1, if_pos hunknown.2] at h
    cases h
  rw [ConfigurationRecordReference.validServiceConfigurationReference,
    ConfigurationRecordReference.validReference]
  simp only [htype, hversion, hepoch, hslot, hlength, ne_eq, not_false_eq_true, true_and, and_true,
    Option.all_none, Bool.and_true]
  rcases hknown with rfl | rfl | rfl
  · obtain ⟨rfl, -⟩ := decode_schema1.mp h
    have hzero : payloadLength = 0 := UInt32.toNat_inj.mp hlength
    simp [hzero, kCurrentServiceConfigurationSchemaVersion]
  · obtain ⟨-, hwrite⟩ := encodeSchema2_eq_ok_iff.mp (decode_iff_encodeSchema2.mp h)
    rcases parameters_length (schema2_write_eq_some.mp hwrite) with hpayload | hpayload
    · rw [hpayload]
      rfl
    · rw [hpayload]
      rfl
  · have hallowed :=
      serviceConfiguration_length (encode_eq_ok_iff.mp (decode_iff_encode.mp h))
    have hbound := sensorPayloadLength_le hallowed
    simp [hallowed, hbound, kCurrentServiceConfigurationSchemaVersion]

end Fermentationsschrank

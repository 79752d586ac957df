import Fermentationsschrank.Configuration.ProgramCatalogCodec
import Fermentationsschrank.Configuration.ServiceConfigurationCodec
import Fermentationsschrank.Configuration.UserConfigurationCodec

/-!
# Documents of the configuration

What is stored of the three documents is what is loaded, and in the layout of a schema there is
one payload for each document.  The catalog is checked after it was written without decoding it a
second time; that check takes what the decoder takes.
-/

namespace Fermentationsschrank

/-! ## User configuration -/

/-- In every schema the valid configurations are the ones that are written, and a payload is read
as the configuration that is written to it. -/
theorem userConfiguration_payload_unique (configuration : UserConfiguration)
    (prepare : Bytes → TimeZonePrepareResult) (schemaVersion : UInt32) :
    ((∃ payload, encodeUserConfigurationPayload configuration schemaVersion prepare =
          .ok payload) ↔
        (1 ≤ schemaVersion ∧ schemaVersion ≤ 3) ∧
          validateUserConfiguration configuration prepare = .success) ∧
      ∀ payload, decodeUserConfigurationPayload schemaVersion payload prepare =
          .ok configuration ↔
        encodeUserConfigurationPayload configuration schemaVersion prepare = .ok payload ∧
          (¬2 ≤ schemaVersion → configuration.activeThemeId = kDefaultThemeId) ∧
          (¬3 ≤ schemaVersion → configuration.networkMode = .unselected) := by
  have hsupported : supportedUserSchema schemaVersion = true ↔
      1 ≤ schemaVersion ∧ schemaVersion ≤ 3 := decide_eq_true_iff
  rw [exists_encodeUserConfigurationPayload, hsupported]
  exact ⟨Iff.rfl, fun _ => decodeUserConfigurationPayload_eq_ok⟩

/-! ## Service configuration -/

/-- In every schema a configuration has one payload, and its length is one that a reference to
the record may name. -/
theorem serviceConfiguration_payload_unique (configuration : ServiceConfiguration)
    (payload : Bytes) :
    (decodeServiceConfigurationPayload 1 payload = .ok configuration ↔
        payload = [] ∧ configuration = {}) ∧
      (decodeServiceConfigurationPayload 2 payload = .ok configuration ↔
        encodeServiceConfigurationPayloadSchema2 configuration = .ok payload) ∧
      (decodeServiceConfigurationPayload 3 payload = .ok configuration ↔
        encodeServiceConfigurationPayload configuration = .ok payload) ∧
      ((∃ written, encodeServiceConfigurationPayload configuration = .ok written) ↔
        configuration.Valid) ∧
      ∀ reference : ConfigurationRecordReference,
        reference.recordType = kServiceConfigurationRecordType → reference.version ≠ 0 →
        reference.storageEpoch ≠ 0 → reference.slot.toNat < kConfigurationDocumentSlotCount →
        reference.payloadLength.toNat = payload.length →
        decodeServiceConfigurationPayload reference.schemaVersion payload = .ok configuration →
        reference.validServiceConfigurationReference kConfigurationDocumentSlotCount = true :=
  ⟨decode_schema1, decode_iff_encodeSchema2, decode_iff_encode,
    ⟨fun ⟨_, h⟩ => valid_of_encode h, encodeServiceConfigurationPayload_valid⟩,
    fun _ htype hversion hepoch hslot hlength h =>
      reference_of_decode htype hversion hepoch hslot hlength h⟩

/-- Parameters of the planner, and three probes with the offsets -0.5, 0 and 1. -/
def commissionedConfiguration : ServiceConfiguration where
  actuatorPlannerParameters := some {
    switchingWindowMillis := 60000
    minimumOnMillis := 5000
    minimumOffMillis := 5000
    polarityDeadTimeMillis := 10000
    pulseAccumulatorCapMillis := 60000
    counterDirectionConfirmationQuoteThreshold := fullQuote
    counterDirectionConfirmationDurationMillis := 30000
    requestWatchdogMillis := 5000
    outerFanPostRunMillis := 60000
    innerFanPostRunMillis := 0 }
  sensorCommissioning := some {
    chamberAir := some ⟨2161727821137838120, ⟨.ofBits 0xBFE0000000000000, by decide⟩⟩
    heatsink := some ⟨2954361355555045672, .zero⟩
    productProbes := [⟨8070450532247929384, ⟨.ofBits 0x3FF0000000000000, by decide⟩⟩] }

theorem valid_commissionedConfiguration : commissionedConfiguration.Valid where
  parameters := by
    rintro _ ⟨⟩
    decide
  sensors := by
    rintro _ ⟨⟩
    exact SensorCommissioning.validateSensorCommissioning_eq_success.mp (by decide +kernel)

/-- It is read again from its payload of 131 bytes, and a reference may name that length. -/
theorem serviceConfiguration_payload_unique_commissioned :
    (∃ payload, encodeServiceConfigurationPayload commissionedConfiguration = .ok payload ∧
      decodeServiceConfigurationPayload 3 payload = .ok commissionedConfiguration) ∧
      ConfigurationRecordReference.validServiceConfigurationReference ⟨2, 0, 1, 3, 131, 0, 1⟩
        kConfigurationDocumentSlotCount = true := by
  have hlength : (encodeServiceConfigurationPayload commissionedConfiguration).toOption.map
      List.length = some 131 := by decide +kernel
  obtain ⟨payload, hpayload⟩ :=
    (serviceConfiguration_payload_unique commissionedConfiguration []).2.2.2.1.mpr
      valid_commissionedConfiguration
  obtain ⟨-, -, hschema3, -, hreference⟩ :=
    serviceConfiguration_payload_unique commissionedConfiguration payload
  have hread := hschema3.mpr hpayload
  rw [hpayload] at hlength
  refine ⟨⟨payload, hpayload, hread⟩, ?_⟩
  exact hreference ⟨2, 0, 1, 3, 131, 0, 1⟩ rfl (by decide) (by decide) (by decide)
    (Option.some.inj hlength).symm hread

/-! ## Program catalog -/

/-- The valid catalogs are the ones that are written; the size is known before, and what is read
again is the catalog.  A payload in the current layouts is the one of its catalog. -/
theorem programCatalog_payload_unique (catalog : ProgramCatalog) :
    ((∃ payload, encodeProgramCatalogPayload catalog = .ok payload) ↔
        validateProgramCatalog catalog = .success) ∧
      (∀ payload, encodeProgramCatalogPayload catalog = .ok payload →
        calculateProgramCatalogPayloadSize catalog = .ok payload.length ∧
          payload.length ≤ 1 + catalog.programs.length * 1255 ∧
          decodeProgramCatalogPayload 1 payload = .ok catalog) ∧
      ∀ payload, decodeProgramCatalogPayload 1 payload = .ok catalog →
        validateProgramCatalog catalog = .success ∧
          (CurrentPrograms catalog.programs.length payload.tail →
            encodeProgramCatalogPayload catalog = .ok payload) := by
  refine ⟨⟨?_, exists_encodeProgramCatalogPayload⟩, fun payload h => ?_, fun payload h => ?_⟩
  · rintro ⟨payload, h⟩
    exact (encodeProgramCatalogPayload_eq_ok.mp h).1
  · obtain ⟨hsize, hlength⟩ := encodeProgramCatalogPayload_length h
    exact ⟨hsize, hlength, decodeProgramCatalogPayload_encode h⟩
  · obtain ⟨_, _, -, -, hvalid⟩ := decodeProgramCatalogPayload_eq_ok.mp h
    exact ⟨hvalid, encodeProgramCatalogPayload_decode h⟩

theorem programCatalog_payload_unique_factory :
    ∃ payload, encodeProgramCatalogPayload makeFactoryProgramCatalog = .ok payload ∧
      decodeProgramCatalogPayload 1 payload = .ok makeFactoryProgramCatalog := by
  obtain ⟨hvalid, hwritten, -⟩ := programCatalog_payload_unique makeFactoryProgramCatalog
  obtain ⟨payload, hpayload⟩ := hvalid.mpr (by decide +kernel)
  exact ⟨payload, hpayload, (hwritten payload hpayload).2.2⟩

/-- The check of a written payload takes what the decoder takes; with an expected catalog it
takes the payloads whose programs agree with that catalog up to the return strategies. -/
theorem programCatalog_streamed (schemaVersion : UInt32) (payload : Bytes) :
    (validateProgramCatalogPayload schemaVersion payload none = .ok () ↔
        ∃ catalog, decodeProgramCatalogPayload schemaVersion payload = .ok catalog) ∧
      ∀ (expected : ProgramCatalog) (strategy : ReturnStrategy),
        validateProgramCatalogPayload schemaVersion payload (some expected) = .ok () ↔
          ∃ catalog, decodeProgramCatalogPayload schemaVersion payload = .ok catalog ∧
            catalog.programs.map (·.withReturnStrategy strategy) =
              expected.programs.map (·.withReturnStrategy strategy) := by
  constructor
  · rw [validateProgramCatalogPayload_eq_ok]
    constructor
    · rintro ⟨catalog, hcatalog, -⟩
      exact ⟨catalog, hcatalog⟩
    · rintro ⟨catalog, hcatalog⟩
      exact ⟨catalog, hcatalog, nofun⟩
  · intro expected strategy
    have hequals : ∀ catalog, decodeProgramCatalogPayload schemaVersion payload = .ok catalog →
        (catalog.configurationContentEquals expected = true ↔
          catalog.programs.map (·.withReturnStrategy strategy) =
            expected.programs.map (·.withReturnStrategy strategy)) := by
      intro catalog hcatalog
      obtain ⟨_, _, -, -, hvalid⟩ := decodeProgramCatalogPayload_eq_ok.mp hcatalog
      obtain ⟨-, hentries⟩ := validateProgramCatalog_eq_success.mp hvalid
      exact catalogContentEquals_iff
        (fun document hmem => (contentsValid_of_entries hentries document hmem).finite) strategy
    rw [validateProgramCatalogPayload_eq_ok]
    constructor
    · rintro ⟨catalog, hcatalog, hexpected⟩
      exact ⟨catalog, hcatalog, (hequals catalog hcatalog).mp (hexpected expected rfl)⟩
    · rintro ⟨catalog, hcatalog, hsame⟩
      refine ⟨catalog, hcatalog, ?_⟩
      rintro other ⟨⟩
      exact (hequals catalog hcatalog).mpr hsame

end Fermentationsschrank

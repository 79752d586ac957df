import Fermentationsschrank.Core.FormatWriting
import Fermentationsschrank.Program.ProgramDocumentCodec

/-!
# Configuration graph

A root record names the active manifest and the one to fall back to; a manifest
names one record of each configuration document.  References carry everything
that identifies the record they point at.
-/

namespace Fermentationsschrank

inductive ChangeOriginKind
  | internalSystem
  | localDisplay
  | webInterface
  | unknown
  deriving DecidableEq, Repr

structure ChangeOrigin where
  kind : ChangeOriginKind := .unknown
  wireValue : UInt8 := 0
  deriving DecidableEq, Repr

inductive ChangeOperationKind
  | normalEdit
  | factoryInitialization
  | backupImport
  | schemaMigration
  | factoryReset
  | standardProgramReset
  | unknown
  deriving DecidableEq, Repr

structure ChangeOperation where
  kind : ChangeOperationKind := .unknown
  wireValue : UInt8 := 0
  deriving DecidableEq, Repr

/-- A reference to a record; the version counts in the unit of its type. -/
structure ConfigurationRecordReference where
  recordType : UInt16
  slot : UInt32
  version : UInt64
  schemaVersion : UInt32 := 0
  payloadLength : UInt32 := 0
  payloadCrc : UInt32 := 0
  storageEpoch : UInt64
  deriving DecidableEq, Repr

structure ConfigurationManifest where
  origin : ChangeOrigin
  operation : ChangeOperation
  userConfiguration : ConfigurationRecordReference
  serviceConfiguration : ConfigurationRecordReference
  programCatalog : ConfigurationRecordReference
  deriving DecidableEq, Repr

structure ConfigurationRootRecord where
  active : ConfigurationRecordReference
  fallback : Option ConfigurationRecordReference := none
  deriving DecidableEq, Repr

def kUserConfigurationRecordType : UInt16 := 1
def kServiceConfigurationRecordType : UInt16 := 2
def kProgramCatalogRecordType : UInt16 := 3
def kConfigurationManifestRecordType : UInt16 := 4
def kConfigurationRootRecordType : UInt16 := 5

def kCurrentUserConfigurationSchemaVersion : UInt32 := 3
def kCurrentServiceConfigurationSchemaVersion : UInt32 := 3
def kConfigurationManifestSchemaVersion1 : UInt32 := 1
def kConfigurationRootSchemaVersion1 : UInt32 := 1

def kConfigurationDocumentSlotCount : ℕ := 4
def kConfigurationManifestSlotCount : ℕ := 3
def kMaximumUserConfigurationPayloadBytes : ℕ := 256
def kServiceConfigurationSchema2MaximumPayloadBytes : ℕ := 81
def kMaximumServiceConfigurationPayloadBytes : ℕ := 179
def kMaximumKnownProductProbes : ℕ := 4
def kConfigurationManifestPayloadBytes : ℕ := 104

/-! ## Wire values -/

def decodeChangeOrigin (wireValue : UInt8) : ChangeOrigin :=
  if wireValue = 1 then ⟨.internalSystem, wireValue⟩
  else if wireValue = 2 then ⟨.localDisplay, wireValue⟩
  else if wireValue = 3 then ⟨.webInterface, wireValue⟩
  else ⟨.unknown, wireValue⟩

def decodeChangeOperation (wireValue : UInt8) : ChangeOperation :=
  if wireValue = 1 then ⟨.normalEdit, wireValue⟩
  else if wireValue = 2 then ⟨.factoryInitialization, wireValue⟩
  else if wireValue = 3 then ⟨.backupImport, wireValue⟩
  else if wireValue = 4 then ⟨.schemaMigration, wireValue⟩
  else if wireValue = 5 then ⟨.factoryReset, wireValue⟩
  else if wireValue = 6 then ⟨.standardProgramReset, wireValue⟩
  else ⟨.unknown, wireValue⟩

def validChangeOrigin (origin : ChangeOrigin) : Bool :=
  match origin.kind with
  | .internalSystem => origin.wireValue = 1
  | .localDisplay => origin.wireValue = 2
  | .webInterface => origin.wireValue = 3
  | .unknown => origin.wireValue ≠ 1 ∧ origin.wireValue ≠ 2 ∧ origin.wireValue ≠ 3

def validChangeOperation (operation : ChangeOperation) : Bool :=
  match operation.kind with
  | .normalEdit => operation.wireValue = 1
  | .factoryInitialization => operation.wireValue = 2
  | .backupImport => operation.wireValue = 3
  | .schemaMigration => operation.wireValue = 4
  | .factoryReset => operation.wireValue = 5
  | .standardProgramReset => operation.wireValue = 6
  | .unknown => operation.wireValue < 1 ∨ 6 < operation.wireValue

theorem decodeChangeOrigin_wireValue (wireValue : UInt8) :
    (decodeChangeOrigin wireValue).wireValue = wireValue := by
  unfold decodeChangeOrigin
  split_ifs <;> rfl

theorem decodeChangeOperation_wireValue (wireValue : UInt8) :
    (decodeChangeOperation wireValue).wireValue = wireValue := by
  unfold decodeChangeOperation
  split_ifs <;> rfl

/-- A valid origin is the one its wire value stands for. -/
theorem validChangeOrigin_iff {origin : ChangeOrigin} :
    validChangeOrigin origin = true ↔ decodeChangeOrigin origin.wireValue = origin := by
  obtain ⟨kind, wireValue⟩ := origin
  unfold decodeChangeOrigin validChangeOrigin
  split_ifs with h1 h2 h3 <;> cases kind <;> simp_all

theorem validChangeOperation_iff {operation : ChangeOperation} :
    validChangeOperation operation = true ↔
      decodeChangeOperation operation.wireValue = operation := by
  obtain ⟨kind, wireValue⟩ := operation
  have hlow : wireValue < 1 ↔ wireValue.toNat = 0 := by
    rw [UInt8.lt_iff_toNat_lt, show (1 : UInt8).toNat = 1 from rfl]
    omega
  have hhigh : 6 < wireValue ↔ 6 < wireValue.toNat := UInt8.lt_iff_toNat_lt
  have hvalue : ∀ known : UInt8, wireValue = known ↔ wireValue.toNat = known.toNat :=
    fun known => UInt8.toNat_inj.symm
  unfold decodeChangeOperation validChangeOperation
  split_ifs with h1 h2 h3 h4 h5 h6 <;> cases kind <;> (simp_all; try omega)

/-! ## Plausibility -/

namespace ConfigurationRecordReference

def validReference (reference : ConfigurationRecordReference) (expectedRecordType : UInt16)
    (slotCount : ℕ) (minimumSchema maximumSchema : UInt32) (maximumPayloadBytes : ℕ)
    (exactPayloadBytes : Option ℕ := none) : Bool :=
  decide (reference.recordType = expectedRecordType ∧ reference.slot.toNat < slotCount ∧
    reference.version ≠ 0 ∧ minimumSchema ≤ reference.schemaVersion ∧
    reference.schemaVersion ≤ maximumSchema ∧
    reference.payloadLength.toNat ≤ maximumPayloadBytes ∧ reference.storageEpoch ≠ 0) &&
    exactPayloadBytes.all fun exact => reference.payloadLength.toNat = exact

/-- Planner part of one or 81 bytes, then the sensor part: its tag alone, or with
two fixed roles and up to four product probes. -/
def sensorPayloadLength (length : ℕ) : Bool :=
  [1, kServiceConfigurationSchema2MaximumPayloadBytes].any fun planner =>
    decide (length = planner + 1) ||
      (List.range (kMaximumKnownProductProbes + 1)).any fun probes =>
        length = planner + 1 + 32 + 1 + 16 * probes

def validServiceConfigurationReference (reference : ConfigurationRecordReference)
    (slotCount : ℕ) : Bool :=
  reference.validReference kServiceConfigurationRecordType slotCount 1
    kCurrentServiceConfigurationSchemaVersion kMaximumServiceConfigurationPayloadBytes &&
  if reference.schemaVersion = 1 then reference.payloadLength = 0
  else if reference.schemaVersion = 2 then
    reference.payloadLength.toNat = 1 ∨
      reference.payloadLength.toNat = kServiceConfigurationSchema2MaximumPayloadBytes
  else if reference.schemaVersion = kCurrentServiceConfigurationSchemaVersion then
    sensorPayloadLength reference.payloadLength.toNat
  else false

/-- What a root asks of a reference to a manifest. -/
def validManifestReference (reference : ConfigurationRecordReference) : Bool :=
  reference.validReference kConfigurationManifestRecordType kConfigurationManifestSlotCount
    kConfigurationManifestSchemaVersion1 kConfigurationManifestSchemaVersion1
    kConfigurationManifestPayloadBytes (some kConfigurationManifestPayloadBytes)

end ConfigurationRecordReference

def ConfigurationManifest.isPlausible (manifest : ConfigurationManifest) : Bool :=
  validChangeOrigin manifest.origin && validChangeOperation manifest.operation &&
    manifest.userConfiguration.validReference kUserConfigurationRecordType
      kConfigurationDocumentSlotCount 1 kCurrentUserConfigurationSchemaVersion
      kMaximumUserConfigurationPayloadBytes &&
    manifest.serviceConfiguration.validServiceConfigurationReference
      kConfigurationDocumentSlotCount &&
    manifest.programCatalog.validReference kProgramCatalogRecordType
      kConfigurationDocumentSlotCount 1 1 kMaximumProgramCatalogPayloadBytes &&
    decide (manifest.userConfiguration.storageEpoch =
        manifest.serviceConfiguration.storageEpoch ∧
      manifest.userConfiguration.storageEpoch = manifest.programCatalog.storageEpoch)

def ConfigurationRootRecord.isPlausible (root : ConfigurationRootRecord) : Bool :=
  root.active.validManifestReference &&
    root.fallback.all fun fallback =>
      fallback.validManifestReference &&
        decide (fallback.storageEpoch = root.active.storageEpoch ∧
          fallback.version ≠ root.active.version)

end Fermentationsschrank

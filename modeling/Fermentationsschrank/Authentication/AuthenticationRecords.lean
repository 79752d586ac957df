import Fermentationsschrank.Core.FormatBlock
import Fermentationsschrank.Core.FormatSizes
import Fermentationsschrank.Storage.StorageEnvelope

/-!
# Authentication records

The credential record with the verifiers and lockouts of both secrets, the
provisioning root beside it, and the codec of either.
-/

namespace Fermentationsschrank

open Envelope
open Format

def kAuthenticationSaltBytes : ℕ := 16
def kAuthenticationVerifierBytes : ℕ := 32
def kAuthenticationPbkdf2Sha256Algorithm : UInt16 := 1
def kAuthenticationPbkdf2Sha256WorkFactor : UInt32 := 10000
def kAuthenticationRecordType : UInt16 := 11
def kAuthenticationRootRecordType : UInt16 := 12
def kAuthenticationSchemaVersion : UInt32 := 1
def kAuthenticationRootSchemaVersion : UInt32 := 1
def kCredentialPayloadBytes : ℕ := 155
def kAuthenticationRootPayloadBytes : ℕ := 17
def kMaximumCredentialEnvelopeBytes : ℕ := 192
def kMaximumAuthenticationRootEnvelopeBytes : ℕ := 54
def kMaximumLockoutDurationMs : UInt64 := 30 * 60 * 1000

inductive AuthProvisioningState
  | unprovisioned
  | provisioning
  | provisioned
  | indeterminate
  | recoveryRequired
  deriving DecidableEq, Repr

/-- The remaining time is a duration: after a reboot it starts again. -/
structure AuthLockoutState where
  failedAttempts : UInt32 := 0
  lockoutStage : UInt8 := 0
  lockoutRemainingMs : UInt64 := 0
  deriving DecidableEq, Repr

structure AuthVerifier where
  algorithmId : UInt16 := kAuthenticationPbkdf2Sha256Algorithm
  workFactor : UInt32 := kAuthenticationPbkdf2Sha256WorkFactor
  salt : Block kAuthenticationSaltBytes := .zero _
  verifier : Block kAuthenticationVerifierBytes := .zero _
  deriving DecidableEq, Repr

structure AuthenticationCredentialRecord where
  storageEpoch : UInt64
  recordSequence : UInt64 := 1
  webPasswordEnabled : Bool := true
  webPassword : AuthVerifier := {}
  servicePin : AuthVerifier := {}
  webCredentialEpoch : UInt64 := 1
  servicePinCredentialEpoch : UInt64 := 1
  webLockout : AuthLockoutState := {}
  servicePinLockout : AuthLockoutState := {}
  deriving DecidableEq, Repr

structure AuthProvisioningRoot where
  storageEpoch : UInt64
  recordSequence : UInt64 := 1
  state : AuthProvisioningState := .recoveryRequired
  authDomainGeneration : UInt64 := 1
  bootstrapSequenceBinding : UInt64 := 0
  deriving DecidableEq, Repr

inductive AuthenticationRecordCodecStatus
  | success
  | invalidModel
  | capacityExceeded
  | invalidEnvelope
  | unsupportedSchema
  | recordIdentityMismatch
  deriving DecidableEq, Repr

/-! ## Plausibility -/

def AuthLockoutState.validLockout (state : AuthLockoutState) (maximumFailures : UInt32) : Bool :=
  state.failedAttempts < maximumFailures ∧ state.lockoutStage ≤ 31 ∧
    state.lockoutRemainingMs ≤ kMaximumLockoutDurationMs ∧
    (state.lockoutRemainingMs = 0 ∨ state.failedAttempts = 0)

/-- Only one algorithm with one work factor is known. -/
def AuthVerifier.known (verifier : AuthVerifier) : Bool :=
  verifier.algorithmId = kAuthenticationPbkdf2Sha256Algorithm ∧
    verifier.workFactor = kAuthenticationPbkdf2Sha256WorkFactor

namespace AuthenticationCredentialRecord

def isPlausible (record : AuthenticationCredentialRecord) : Bool :=
  decide (record.storageEpoch ≠ 0 ∧ record.recordSequence ≠ 0 ∧ record.webCredentialEpoch ≠ 0 ∧
    record.servicePinCredentialEpoch ≠ 0) &&
    record.webPassword.known && record.servicePin.known &&
    record.webLockout.validLockout 5 && record.servicePinLockout.validLockout 3

end AuthenticationCredentialRecord

namespace AuthProvisioningRoot

def isPlausible (root : AuthProvisioningRoot) : Bool :=
  root.storageEpoch ≠ 0 ∧ root.recordSequence ≠ 0 ∧ root.authDomainGeneration ≠ 0 ∧
    root.bootstrapSequenceBinding ≠ 0

end AuthProvisioningRoot

/-! ## Wire fields -/

/-- One secret: its verifier, its epoch and its lockout. -/
def verifierFields : Format (AuthVerifier × UInt64 × AuthLockoutState) :=
  (uint16.pair <| uint32.pair <| uint64.pair <| (sizedBlock kAuthenticationSaltBytes).pair <|
    (sizedBlock kAuthenticationVerifierBytes).pair <| uint32.pair <| uint8.pair uint64).equiv
    ⟨fun (algorithm, factor, epoch, salt, verifier, failed, stage, remaining) =>
        (⟨algorithm, factor, salt, verifier⟩, epoch, ⟨failed, stage, remaining⟩),
      fun (verifier, epoch, lockout) => (verifier.algorithmId, verifier.workFactor, epoch,
        verifier.salt, verifier.verifier, lockout.failedAttempts, lockout.lockoutStage,
        lockout.lockoutRemainingMs),
      fun _ => rfl, fun _ => rfl⟩

def credentialFields : Format (Bool × (AuthVerifier × UInt64 × AuthLockoutState) ×
    (AuthVerifier × UInt64 × AuthLockoutState)) :=
  bool.pair <| verifierFields.pair verifierFields

instance : verifierFields.Total := by
  unfold verifierFields
  infer_instance

instance : credentialFields.Total := by
  unfold credentialFields
  infer_instance

instance : verifierFields.Exact 77 := by
  unfold verifierFields
  infer_instance

instance : credentialFields.Exact kCredentialPayloadBytes := by
  unfold credentialFields
  infer_instance

def AuthenticationCredentialRecord.fields (record : AuthenticationCredentialRecord) :
    Bool × (AuthVerifier × UInt64 × AuthLockoutState) ×
      (AuthVerifier × UInt64 × AuthLockoutState) :=
  (record.webPasswordEnabled,
    (record.webPassword, record.webCredentialEpoch, record.webLockout),
    (record.servicePin, record.servicePinCredentialEpoch, record.servicePinLockout))

/-- A verifier as it is written and read: known, with an epoch and a valid lockout. -/
def validVerifierFields (fields : AuthVerifier × UInt64 × AuthLockoutState)
    (maximumFailures : UInt32) : Bool :=
  fields.1.known && decide (fields.2.1 ≠ 0) && fields.2.2.validLockout maximumFailures

namespace AuthProvisioningState

def code : AuthProvisioningState → UInt8
  | .unprovisioned => 1
  | .provisioning => 2
  | .provisioned => 3
  | .indeterminate => 4
  | .recoveryRequired => 5

def ofCode (byte : UInt8) : Option AuthProvisioningState :=
  if byte = 1 then some .unprovisioned
  else if byte = 2 then some .provisioning
  else if byte = 3 then some .provisioned
  else if byte = 4 then some .indeterminate
  else if byte = 5 then some .recoveryRequired
  else none

theorem ofCode_code (state : AuthProvisioningState) : ofCode state.code = some state := by
  cases state <;> rfl

end AuthProvisioningState

def rootFields : Format (UInt8 × UInt64 × UInt64) := uint8.pair <| uint64.pair uint64

instance : rootFields.Total := by
  unfold rootFields
  infer_instance

/-! ## Envelopes -/

def mapAuthenticationEnvelope (encoded : Except EnvelopeEncodeStatus Bytes) :
    Except AuthenticationRecordCodecStatus Bytes :=
  match encoded with
  | .ok bytes => .ok bytes
  | .error .capacityExceeded => .error .capacityExceeded
  | .error _ => .error .invalidModel

/-- The payload of an envelope of this type, schema and size. -/
def openAuthenticationEnvelope (bytes : Bytes) (recordType : UInt16) (schemaVersion : UInt32)
    (payloadBytes : ℕ) : Except AuthenticationRecordCodecStatus StorageEnvelope :=
  match decodeEnvelope bytes with
  | .error .unknownEnvelopeVersion => .error .unsupportedSchema
  | .error _ => .error .invalidEnvelope
  | .ok envelope => do
      require (envelope.schemaVersion ≤ schemaVersion) .unsupportedSchema
      require (envelope.recordTypeId = recordType) .recordIdentityMismatch
      require (envelope.schemaVersion = schemaVersion ∧ envelope.utcUnixSeconds.isNone ∧
        envelope.payload.length = payloadBytes) .invalidModel
      return envelope

/-! ## Credentials -/

def encodeAuthenticationCredential (record : AuthenticationCredentialRecord) :
    Except AuthenticationRecordCodecStatus Bytes := do
  require record.isPlausible .invalidModel
  require (validVerifierFields record.fields.2.1 5 && validVerifierFields record.fields.2.2 3)
    .capacityExceeded
  let payload ← orFail (credentialFields.write record.fields) .capacityExceeded
  require (payload.length = kCredentialPayloadBytes) .capacityExceeded
  mapAuthenticationEnvelope (encodeEnvelope ⟨kAuthenticationRecordType,
    kAuthenticationSchemaVersion, record.storageEpoch, record.recordSequence, none, payload⟩
    kMaximumCredentialEnvelopeBytes)

def decodeAuthenticationCredential (bytes : Bytes) :
    Except AuthenticationRecordCodecStatus AuthenticationCredentialRecord := do
  let envelope ← openAuthenticationEnvelope bytes kAuthenticationRecordType
    kAuthenticationSchemaVersion kCredentialPayloadBytes
  let ((webPasswordEnabled, web, pin), rest) ←
    orFail (credentialFields.read envelope.payload) .invalidModel
  require (validVerifierFields web 5 && validVerifierFields pin 3 && rest.isEmpty) .invalidModel
  let record : AuthenticationCredentialRecord := {
    storageEpoch := envelope.storageEpoch
    recordSequence := envelope.versionValue
    webPasswordEnabled
    webPassword := web.1
    webCredentialEpoch := web.2.1
    webLockout := web.2.2
    servicePin := pin.1
    servicePinCredentialEpoch := pin.2.1
    servicePinLockout := pin.2.2 }
  require record.isPlausible .invalidModel
  return record

/-! ## Root -/

def encodeAuthProvisioningRoot (root : AuthProvisioningRoot) :
    Except AuthenticationRecordCodecStatus Bytes := do
  require root.isPlausible .invalidModel
  let payload ← orFail (rootFields.write (root.state.code, root.authDomainGeneration,
    root.bootstrapSequenceBinding)) .capacityExceeded
  require (payload.length = kAuthenticationRootPayloadBytes) .capacityExceeded
  mapAuthenticationEnvelope (encodeEnvelope ⟨kAuthenticationRootRecordType,
    kAuthenticationRootSchemaVersion, root.storageEpoch, root.recordSequence, none, payload⟩
    kMaximumAuthenticationRootEnvelopeBytes)

def decodeAuthProvisioningRoot (bytes : Bytes) :
    Except AuthenticationRecordCodecStatus AuthProvisioningRoot := do
  let envelope ← openAuthenticationEnvelope bytes kAuthenticationRootRecordType
    kAuthenticationRootSchemaVersion kAuthenticationRootPayloadBytes
  let ((state, authDomainGeneration, bootstrapSequenceBinding), rest) ←
    orFail (rootFields.read envelope.payload) .invalidModel
  require rest.isEmpty .invalidModel
  let state ← orFail (AuthProvisioningState.ofCode state) .invalidModel
  let root : AuthProvisioningRoot := {
    storageEpoch := envelope.storageEpoch
    recordSequence := envelope.versionValue
    state, authDomainGeneration, bootstrapSequenceBinding }
  require root.isPlausible .invalidModel
  return root

/-! ## Round trip -/

theorem openAuthenticationEnvelope_eq_ok {bytes : Bytes} {recordType : UInt16}
    {schemaVersion : UInt32} {payloadBytes : ℕ} {envelope : StorageEnvelope}
    (h : decodeEnvelope bytes = .ok envelope) (htype : envelope.recordTypeId = recordType)
    (hschema : envelope.schemaVersion = schemaVersion)
    (hutc : envelope.utcUnixSeconds = none) (hlength : envelope.payload.length = payloadBytes) :
    openAuthenticationEnvelope bytes recordType schemaVersion payloadBytes = .ok envelope := by
  rw [openAuthenticationEnvelope, h]
  simp only [htype, hschema, hutc, hlength, UInt32.le_refl, decide_true, require_true, ok_bind,
    Option.isNone_none, and_self]
  rfl

theorem mapAuthenticationEnvelope_eq_ok {encoded : Except EnvelopeEncodeStatus Bytes}
    {bytes : Bytes} : mapAuthenticationEnvelope encoded = .ok bytes ↔ encoded = .ok bytes := by
  cases encoded with
  | ok found => simp only [mapAuthenticationEnvelope, Except.ok.injEq]
  | error status => cases status <;> exact ⟨nofun, nofun⟩

/-- What was encoded is decoded. -/
theorem decode_encodeAuthenticationCredential {record : AuthenticationCredentialRecord}
    {bytes : Bytes} (h : encodeAuthenticationCredential record = .ok bytes) :
    decodeAuthenticationCredential bytes = .ok record := by
  simp only [encodeAuthenticationCredential, bind_eq_ok, require_eq_ok, orFail_eq_ok,
    decide_eq_true_eq, mapAuthenticationEnvelope_eq_ok] at h
  obtain ⟨_, hlegal, _, hfields, payload, hwrite, _, hlength, hencode⟩ := h
  have hopen := @openAuthenticationEnvelope_eq_ok bytes kAuthenticationRecordType
    kAuthenticationSchemaVersion kCredentialPayloadBytes _
    (decodeEnvelope_encodeEnvelope hencode) rfl rfl rfl hlength
  have hread := Total.read_write hwrite []
  rw [List.append_nil] at hread
  rw [decodeAuthenticationCredential, hopen, ok_bind, hread, orFail_some, ok_bind]
  simp only [AuthenticationCredentialRecord.fields] at hfields ⊢
  rw [hfields, List.isEmpty_nil, Bool.and_true, require_true, ok_bind, hlegal]
  rfl

theorem decode_encodeAuthProvisioningRoot {root : AuthProvisioningRoot} {bytes : Bytes}
    (h : encodeAuthProvisioningRoot root = .ok bytes) :
    decodeAuthProvisioningRoot bytes = .ok root := by
  simp only [encodeAuthProvisioningRoot, bind_eq_ok, require_eq_ok, orFail_eq_ok,
    decide_eq_true_eq, mapAuthenticationEnvelope_eq_ok] at h
  obtain ⟨_, hlegal, payload, hwrite, _, hlength, hencode⟩ := h
  have hopen := @openAuthenticationEnvelope_eq_ok bytes kAuthenticationRootRecordType
    kAuthenticationRootSchemaVersion kAuthenticationRootPayloadBytes _
    (decodeEnvelope_encodeEnvelope hencode) rfl rfl rfl hlength
  have hread := Total.read_write hwrite []
  rw [List.append_nil] at hread
  rw [decodeAuthProvisioningRoot, hopen, ok_bind, hread, orFail_some, ok_bind]
  simp only [List.isEmpty_nil, require_true, ok_bind, AuthProvisioningState.ofCode_code,
    orFail_some]
  rw [hlegal]
  rfl

/-- Every plausible record is encoded. -/
theorem encodeAuthenticationCredential_of_plausible {record : AuthenticationCredentialRecord}
    (h : record.isPlausible = true) :
    ∃ bytes, encodeAuthenticationCredential record = .ok bytes := by
  have hverifier : ∀ fields, verifierFields.Writes fields := fun fields => by
    simp [verifierFields]
  obtain ⟨payload, hwrite⟩ : credentialFields.Writes record.fields := by
    simp only [credentialFields, writes_pair, writes_bool, hverifier, and_self]
  have hlength : payload.length = kCredentialPayloadBytes := length_eq hwrite
  have hnamed := h
  simp only [AuthenticationCredentialRecord.isPlausible, Bool.and_eq_true, decide_eq_true_eq]
    at hnamed
  obtain ⟨⟨⟨⟨⟨hepoch, hsequence, hweb, hpin⟩, hknown⟩, hpinKnown⟩, hlockout⟩, hpinLockout⟩ := hnamed
  have hfields : (validVerifierFields record.fields.2.1 5 &&
      validVerifierFields record.fields.2.2 3) = true := by
    simp only [validVerifierFields, AuthenticationCredentialRecord.fields, Bool.and_eq_true]
    exact ⟨⟨⟨hknown, decide_eq_true hweb⟩, hlockout⟩, ⟨hpinKnown, decide_eq_true hpin⟩,
      hpinLockout⟩
  have htype : kAuthenticationRecordType ≠ 0 := by decide
  have hschema : kAuthenticationSchemaVersion ≠ 0 := by decide
  have hsmall : payload.length ≤ 4294967295 := by
    rw [hlength]
    decide
  have hfits : kHeaderBeforeCrcWithoutUtc + 0 + kCrcSize + payload.length ≤
      kMaximumCredentialEnvelopeBytes := by
    rw [hlength]
    decide
  have hencode := @encodeEnvelope_of_fits ⟨kAuthenticationRecordType,
    kAuthenticationSchemaVersion, record.storageEpoch, record.recordSequence, none, payload⟩
    kMaximumCredentialEnvelopeBytes ⟨htype, hschema, hepoch, hsequence⟩ hsmall
    (by rw [length_headerBytes]; exact hfits)
  rw [encodeAuthenticationCredential, h, hfields, hwrite, orFail_some]
  simp only [require_true, ok_bind, hlength, decide_true]
  exact ⟨_, mapAuthenticationEnvelope_eq_ok.mpr hencode⟩

theorem openAuthenticationEnvelope_inv {bytes : Bytes} {recordType : UInt16}
    {schemaVersion : UInt32} {payloadBytes : ℕ} {envelope : StorageEnvelope}
    (h : openAuthenticationEnvelope bytes recordType schemaVersion payloadBytes = .ok envelope) :
    decodeEnvelope bytes = .ok envelope ∧ envelope.recordTypeId = recordType ∧
      envelope.schemaVersion = schemaVersion ∧ envelope.utcUnixSeconds = none ∧
      envelope.payload.length = payloadBytes := by
  unfold openAuthenticationEnvelope at h
  split at h
  · cases h
  · cases h
  · rename_i hdecode
    simp only [bind_eq_ok, require_eq_ok, decide_eq_true_eq] at h
    obtain ⟨_, -, _, htype, _, ⟨hschema, hutc, hlength⟩, henvelope⟩ := h
    cases henvelope
    exact ⟨hdecode, htype, hschema, Option.isNone_iff_eq_none.mp hutc, hlength⟩

/-- What was decoded is encoded to the same bytes. -/
theorem encode_decodeAuthenticationCredential {record : AuthenticationCredentialRecord}
    {bytes : Bytes} (h : decodeAuthenticationCredential bytes = .ok record)
    (hfits : bytes.length ≤ kMaximumCredentialEnvelopeBytes) :
    encodeAuthenticationCredential record = .ok bytes := by
  simp only [decodeAuthenticationCredential, bind_eq_ok, require_eq_ok, orFail_eq_ok,
    Bool.and_eq_true] at h
  obtain ⟨envelope, hopen, ⟨⟨enabled, web, pin⟩, rest⟩, hread, _, ⟨⟨hweb, hpin⟩, hrest⟩, _, hlegal,
    hrecord⟩ := h
  obtain ⟨hdecode, htype, hschema, hutc, hlength⟩ := openAuthenticationEnvelope_inv hopen
  cases List.isEmpty_iff.mp hrest
  cases hrecord
  have hwrite := credentialFields.write_of_read_all hread
  have hencode := encodeEnvelope_decodeEnvelope hdecode hfits
  obtain ⟨recordType, schemaVersion, epoch, version, utc, payload⟩ := envelope
  cases htype
  cases hschema
  cases hutc
  rw [encodeAuthenticationCredential, hlegal]
  simp only [AuthenticationCredentialRecord.fields, hweb, hpin, Bool.and_self, require_true,
    ok_bind]
  rw [hwrite, orFail_some, ok_bind, hlength, decide_eq_true rfl, require_true, ok_bind]
  exact mapAuthenticationEnvelope_eq_ok.mpr hencode

/-- An encoded record fits the limit that it is read back with. -/
theorem length_encodeAuthenticationCredential {record : AuthenticationCredentialRecord}
    {bytes : Bytes} (h : encodeAuthenticationCredential record = .ok bytes) :
    bytes.length ≤ kMaximumCredentialEnvelopeBytes := by
  simp only [encodeAuthenticationCredential, bind_eq_ok, mapAuthenticationEnvelope_eq_ok] at h
  obtain ⟨_, -, _, -, _, -, _, -, hencode⟩ := h
  exact (encodeEnvelope_eq_ok hencode).2.2.1

theorem length_encodeAuthProvisioningRoot {root : AuthProvisioningRoot} {bytes : Bytes}
    (h : encodeAuthProvisioningRoot root = .ok bytes) :
    bytes.length ≤ kMaximumAuthenticationRootEnvelopeBytes := by
  simp only [encodeAuthProvisioningRoot, bind_eq_ok, mapAuthenticationEnvelope_eq_ok] at h
  obtain ⟨_, -, _, -, _, -, hencode⟩ := h
  exact (encodeEnvelope_eq_ok hencode).2.2.1

end Fermentationsschrank

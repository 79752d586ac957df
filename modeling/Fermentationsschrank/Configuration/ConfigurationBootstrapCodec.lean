import Fermentationsschrank.Configuration.ConfigurationBootstrap
import Fermentationsschrank.Storage.StorageEnvelope

/-!
# Bootstrap codec

The record in its envelope: format version, state and run handoff, the two
epochs of a bound handoff, and the authentication handoff since schema 3.  The
first schema has no run handoff either and is only read.
-/

namespace Fermentationsschrank

open Envelope
open Format

inductive ConfigurationBootstrapCodecStatus
  | success
  | invalidModel
  | capacityExceeded
  | invalidEnvelope
  | unsupportedNewerSchema
  | recordIdentityMismatch
  deriving DecidableEq, Repr

def kConfigurationBootstrapRecordType : UInt16 := 6
def kConfigurationBootstrapSchema1PayloadBytes : ℕ := 5
def kConfigurationBootstrapPayloadBytes : ℕ := 6
def kConfigurationBootstrapBoundPayloadBytes : ℕ := 22
def kConfigurationBootstrapSchema3PayloadBytes : ℕ := 15
def kConfigurationBootstrapSchema3BoundPayloadBytes : ℕ := 31
def kMaximumConfigurationBootstrapEnvelopeBytes : ℕ := 59
def kMaximumConfigurationBootstrapSchema3EnvelopeBytes : ℕ := 68

/-! ## Wire values -/

namespace ConfigurationBootstrapState

def code : ConfigurationBootstrapState → UInt8
  | .initializing => 1
  | .initialized => 2
  | .resetting => 3

def ofCode (byte : UInt8) : Option ConfigurationBootstrapState :=
  if byte = 1 then some .initializing
  else if byte = 2 then some .initialized
  else if byte = 3 then some .resetting
  else none

theorem ofCode_code (state : ConfigurationBootstrapState) : ofCode state.code = some state := by
  cases state <;> rfl

theorem code_of_ofCode {byte : UInt8} {state : ConfigurationBootstrapState}
    (h : ofCode byte = some state) : state.code = byte := by
  unfold ofCode at h
  split_ifs at h with h1 h2 h3 <;> cases h
  · exact h1.symm
  · exact h2.symm
  · exact h3.symm

end ConfigurationBootstrapState

namespace RunEpochHandoffState

def code : RunEpochHandoffState → UInt8
  | .none => 0
  | .pending => 1
  | .committed => 2
  | .consumed => 3
  | .unnamed code _ => code

def ofCode (byte : UInt8) : RunEpochHandoffState :=
  if byte = 0 then .none
  else if byte = 1 then .pending
  else if byte = 2 then .committed
  else if byte = 3 then .consumed
  else if h : 3 < byte then .unnamed byte h
  else .none

theorem ofCode_of_unnamed {byte : UInt8} (h : 3 < byte) : ofCode byte = .unnamed byte h := by
  have hne : ∀ known : UInt8, known ≤ 3 → byte ≠ known := fun known hknown heq =>
    absurd (heq ▸ h) (UInt8.not_lt.mpr hknown)
  rw [ofCode, if_neg (hne 0 (by decide)), if_neg (hne 1 (by decide)), if_neg (hne 2 (by decide)),
    if_neg (hne 3 (by decide)), dif_pos h]

theorem ofCode_code (handoff : RunEpochHandoffState) : ofCode handoff.code = handoff := by
  cases handoff with
  | unnamed code hcode => exact ofCode_of_unnamed hcode
  | _ => rfl

theorem code_ofCode (byte : UInt8) : (ofCode byte).code = byte := by
  unfold ofCode
  split_ifs with h0 h1 h2 h3 h
  · exact h0.symm
  · exact h1.symm
  · exact h2.symm
  · exact h3.symm
  · rfl
  · rw [UInt8.lt_iff_toNat_lt] at h
    rw [← UInt8.toNat_inj] at h0 h1 h2 h3
    exact absurd (show (0 : UInt8).toNat = 0 from rfl) (by
      simp only [show (0 : UInt8).toNat = 0 from rfl, show (1 : UInt8).toNat = 1 from rfl,
        show (2 : UInt8).toNat = 2 from rfl, show (3 : UInt8).toNat = 3 from rfl] at *
      omega)

theorem code_eq_zero {handoff : RunEpochHandoffState} :
    handoff.code = 0 ↔ handoff = .none := by
  constructor
  · intro h
    rw [← ofCode_code handoff, h]
    rfl
  · rintro rfl
    rfl

end RunEpochHandoffState

namespace AuthDomainHandoffState

def code : AuthDomainHandoffState → UInt8
  | .none => 0
  | .unconsumed => 1
  | .inProgress => 2
  | .consumed => 3
  | .indeterminate => 4

def ofCode (byte : UInt8) : Option AuthDomainHandoffState :=
  if byte = 0 then some .none
  else if byte = 1 then some .unconsumed
  else if byte = 2 then some .inProgress
  else if byte = 3 then some .consumed
  else if byte = 4 then some .indeterminate
  else Option.none

theorem ofCode_code (handoff : AuthDomainHandoffState) :
    ofCode handoff.code = some handoff := by
  cases handoff <;> rfl

theorem code_of_ofCode {byte : UInt8} {handoff : AuthDomainHandoffState}
    (h : ofCode byte = some handoff) : handoff.code = byte := by
  unfold ofCode at h
  split_ifs at h with h0 h1 h2 h3 h4 <;> cases h
  · exact h0.symm
  · exact h1.symm
  · exact h2.symm
  · exact h3.symm
  · exact h4.symm

end AuthDomainHandoffState

/-! ## Encoding -/

namespace ConfigurationBootstrapRecord

variable (record : ConfigurationBootstrapRecord)

def payloadSize : ℕ :=
  if record.schemaVersion = kConfigurationBootstrapSchemaVersion3 then
    if record.handoff = .none then kConfigurationBootstrapSchema3PayloadBytes
    else kConfigurationBootstrapSchema3BoundPayloadBytes
  else if record.handoff = .none then kConfigurationBootstrapPayloadBytes
  else kConfigurationBootstrapBoundPayloadBytes

def epochBytes : Option Bytes :=
  if record.handoff = .none then some []
  else
    match record.previousEpoch, record.currentEpoch with
    | some previous, some current =>
        some (bigEndian 8 previous.toNat ++ bigEndian 8 current.toNat)
    | _, _ => none

def authBytes : Bytes :=
  if record.schemaVersion = kConfigurationBootstrapSchemaVersion3 then
    record.authDomainHandoff.code :: bigEndian 8 record.authHandoffSequence.toNat
  else []

def payloadBytes (epochs : Bytes) : Bytes :=
  bigEndian 4 record.storageFormatVersion.toNat ++
    (record.state.code :: record.handoff.code :: (epochs ++ record.authBytes))

def envelope (payload : Bytes) : StorageEnvelope where
  recordTypeId := kConfigurationBootstrapRecordType
  schemaVersion := record.schemaVersion
  storageEpoch := record.storageEpoch
  versionValue := record.sequence
  utcUnixSeconds := none
  payload := payload

def maximumEnvelopeBytes : ℕ :=
  if record.schemaVersion = kConfigurationBootstrapSchemaVersion3 then
    kMaximumConfigurationBootstrapSchema3EnvelopeBytes
  else kMaximumConfigurationBootstrapEnvelopeBytes

/-- The schemas that are still written. -/
abbrev Written : Prop :=
  record.schemaVersion = kConfigurationBootstrapSchemaVersion2 ∨
    record.schemaVersion = kConfigurationBootstrapSchemaVersion3

end ConfigurationBootstrapRecord

def mapBootstrapEnvelope (encoded : Except EnvelopeEncodeStatus Bytes) :
    Except ConfigurationBootstrapCodecStatus Bytes :=
  match encoded with
  | .ok bytes => .ok bytes
  | .error .capacityExceeded => .error .capacityExceeded
  | .error _ => .error .invalidModel

def encodeConfigurationBootstrapRecord (record : ConfigurationBootstrapRecord) :
    Except ConfigurationBootstrapCodecStatus Bytes := do
  require (decide record.Written && record.isPlausible) .invalidModel
  let epochs ← orFail record.epochBytes .capacityExceeded
  let payload := record.payloadBytes epochs
  require (payload.length ≤ record.payloadSize) .capacityExceeded
  require (payload.length = record.payloadSize) .invalidModel
  mapBootstrapEnvelope
    (encodeEnvelope (record.envelope payload) record.maximumEnvelopeBytes)

/-! ## Decoding -/

def openBootstrapEnvelope (bytes : Bytes) :
    Except ConfigurationBootstrapCodecStatus StorageEnvelope :=
  match decodeEnvelope bytes with
  | .ok envelope => .ok envelope
  | .error .unknownEnvelopeVersion => .error .unsupportedNewerSchema
  | .error _ => .error .invalidEnvelope

/-- The payload sizes of a schema. -/
def validBootstrapPayloadSize (schemaVersion : UInt32) (size : ℕ) : Bool :=
  if schemaVersion = kConfigurationBootstrapSchemaVersion1 then
    size = kConfigurationBootstrapSchema1PayloadBytes
  else if schemaVersion = kConfigurationBootstrapSchemaVersion2 then
    size = kConfigurationBootstrapPayloadBytes ∨ size = kConfigurationBootstrapBoundPayloadBytes
  else
    size = kConfigurationBootstrapSchema3PayloadBytes ∨
      size = kConfigurationBootstrapSchema3BoundPayloadBytes

def checkBootstrapEnvelope (envelope : StorageEnvelope) :
    Except ConfigurationBootstrapCodecStatus Unit := do
  require (envelope.recordTypeId = kConfigurationBootstrapRecordType) .recordIdentityMismatch
  require (envelope.schemaVersion = kConfigurationBootstrapSchemaVersion1 ∨
    envelope.schemaVersion = kConfigurationBootstrapSchemaVersion2 ∨
    envelope.schemaVersion = kConfigurationBootstrapSchemaVersion3)
    (if kConfigurationBootstrapSchemaVersion3 < envelope.schemaVersion then
      .unsupportedNewerSchema else .invalidModel)
  require envelope.utcUnixSeconds.isNone .invalidModel
  require (validBootstrapPayloadSize envelope.schemaVersion envelope.payload.length)
    .invalidModel

def readHandoffByte (schemaVersion : UInt32) (bytes : Bytes) : Option (UInt8 × Bytes) :=
  if kConfigurationBootstrapSchemaVersion2 ≤ schemaVersion then uint8.read bytes
  else some (0, bytes)

def readHandoffEpochs (schemaVersion : UInt32) (handoff : UInt8) (bytes : Bytes) :
    Option ((Option UInt64 × Option UInt64) × Bytes) :=
  if kConfigurationBootstrapSchemaVersion2 ≤ schemaVersion ∧ handoff ≠ 0 then do
    let (previous, rest) ← uint64.read bytes
    let (current, rest) ← uint64.read rest
    return ((some previous, some current), rest)
  else some ((none, none), bytes)

def readAuthHandoff (schemaVersion : UInt32) (bytes : Bytes) :
    Option ((UInt8 × UInt64) × Bytes) :=
  if schemaVersion = kConfigurationBootstrapSchemaVersion3 then do
    let (handoff, rest) ← uint8.read bytes
    let (sequence, rest) ← uint64.read rest
    return ((handoff, sequence), rest)
  else some ((0, 0), bytes)

def decodeConfigurationBootstrapRecord (bytes : Bytes) :
    Except ConfigurationBootstrapCodecStatus ConfigurationBootstrapRecord := do
  let envelope ← openBootstrapEnvelope bytes
  checkBootstrapEnvelope envelope
  let (format, rest) ← orFail (uint32.read envelope.payload) .invalidModel
  let (state, rest) ← orFail (uint8.read rest) .invalidModel
  let (handoff, rest) ← orFail (readHandoffByte envelope.schemaVersion rest) .invalidModel
  require (format ≠ 0) .invalidModel
  require (format ≤ kConfigurationStorageFormatVersion1) .unsupportedNewerSchema
  let ((previousEpoch, currentEpoch), rest) ←
    orFail (readHandoffEpochs envelope.schemaVersion handoff rest) .invalidModel
  let ((authHandoff, authHandoffSequence), rest) ←
    orFail (readAuthHandoff envelope.schemaVersion rest) .invalidModel
  require rest.isEmpty .invalidModel
  -- The source casts these two bytes; a byte without a name is never plausible.
  let state ← orFail (ConfigurationBootstrapState.ofCode state) .invalidModel
  let authDomainHandoff ← orFail (AuthDomainHandoffState.ofCode authHandoff) .invalidModel
  let record : ConfigurationBootstrapRecord := {
    sequence := envelope.versionValue
    storageFormatVersion := format
    storageEpoch := envelope.storageEpoch
    state
    schemaVersion := envelope.schemaVersion
    handoff := RunEpochHandoffState.ofCode handoff
    previousEpoch, currentEpoch, authDomainHandoff, authHandoffSequence }
  require record.isPlausible .invalidModel
  return record

/-! ## Accepted bytes -/

theorem uint8_read_cons (value : UInt8) (rest : Bytes) :
    uint8.read (value :: rest) = some (value, rest) := by
  have hwrite : uint8.write value = some [value] := by
    show some (bigEndian 1 value.toNat) = some [value]
    simp [bigEndian]
  exact uint8.read_write (readable_uint8 value) hwrite rest

theorem openBootstrapEnvelope_eq_ok {bytes : Bytes} {envelope : StorageEnvelope} :
    openBootstrapEnvelope bytes = .ok envelope ↔ decodeEnvelope bytes = .ok envelope := by
  unfold openBootstrapEnvelope
  cases decodeEnvelope bytes with
  | ok found => simp only [Except.ok.injEq]
  | error status => cases status <;> exact ⟨nofun, nofun⟩

theorem checkBootstrapEnvelope_eq_ok {envelope : StorageEnvelope} {checked : Unit} :
    checkBootstrapEnvelope envelope = .ok checked ↔
      envelope.recordTypeId = kConfigurationBootstrapRecordType ∧
        (envelope.schemaVersion = kConfigurationBootstrapSchemaVersion1 ∨
          envelope.schemaVersion = kConfigurationBootstrapSchemaVersion2 ∨
          envelope.schemaVersion = kConfigurationBootstrapSchemaVersion3) ∧
        envelope.utcUnixSeconds = none ∧
        validBootstrapPayloadSize envelope.schemaVersion envelope.payload.length = true := by
  simp only [checkBootstrapEnvelope, bind_eq_ok, require_eq_ok, decide_eq_true_eq,
    Option.isNone_iff_eq_none]
  constructor
  · rintro ⟨_, htype, _, hschema, _, hutc, hsize⟩
    exact ⟨htype, hschema, hutc, hsize⟩
  · rintro ⟨htype, hschema, hutc, hsize⟩
    exact ⟨(), htype, (), hschema, (), hutc, hsize⟩

namespace ConfigurationBootstrapRecord

variable {record : ConfigurationBootstrapRecord}

theorem schema2_le (h : record.Written) :
    kConfigurationBootstrapSchemaVersion2 ≤ record.schemaVersion := by
  rcases h with h | h <;> rw [h] <;> decide

/-- The epochs that were read are the ones that would be written. -/
theorem epochBytes_of_read {handoff : UInt8} {bytes rest : Bytes} (hwritten : record.Written)
    (hhandoff : record.handoff = RunEpochHandoffState.ofCode handoff)
    (h : readHandoffEpochs record.schemaVersion handoff bytes =
      some ((record.previousEpoch, record.currentEpoch), rest)) :
    ∃ epochs, record.epochBytes = some epochs ∧ bytes = epochs ++ rest := by
  have hcode : handoff = 0 ↔ record.handoff = .none := by
    rw [hhandoff, ← RunEpochHandoffState.code_eq_zero, RunEpochHandoffState.code_ofCode]
  unfold readHandoffEpochs at h
  split at h
  · rename_i hbound
    simp only [Option.pure_def, Option.bind_eq_bind, Option.bind_eq_some_iff, Option.some.injEq,
      Prod.exists, Prod.mk.injEq] at h
    obtain ⟨previous, middle, hprevious, current, last, hcurrent, ⟨heqPrevious, heqCurrent⟩, rfl⟩ :=
      h
    refine ⟨bigEndian 8 previous.toNat ++ bigEndian 8 current.toNat, ?_, ?_⟩
    · rw [epochBytes, if_neg (fun hnone => hbound.2 (hcode.mpr hnone)), ← heqPrevious,
        ← heqCurrent]
    · rw [uint64_read_eq_some hprevious, uint64_read_eq_some hcurrent, List.append_assoc]
  · rename_i hunbound
    have hzero : handoff = 0 := by
      by_contra hne
      exact hunbound ⟨schema2_le hwritten, hne⟩
    simp only [Option.some.injEq, Prod.mk.injEq] at h
    exact ⟨[], if_pos (hcode.mp hzero), h.2⟩

theorem authBytes_of_read {handoff : UInt8} {bytes rest : Bytes}
    (hhandoff : AuthDomainHandoffState.ofCode handoff = some record.authDomainHandoff)
    (h : readAuthHandoff record.schemaVersion bytes =
      some ((handoff, record.authHandoffSequence), rest)) : bytes = record.authBytes ++ rest := by
  unfold readAuthHandoff at h
  rw [authBytes]
  split at h
  · rename_i hschema
    simp only [Option.pure_def, Option.bind_eq_bind, Option.bind_eq_some_iff, Option.some.injEq,
      Prod.exists, Prod.mk.injEq] at h
    obtain ⟨byte, middle, hbyte, sequence, last, hsequence, ⟨rfl, rfl⟩, rfl⟩ := h
    rw [if_pos hschema, uint8_read_eq_some hbyte, uint64_read_eq_some hsequence,
      AuthDomainHandoffState.code_of_ofCode hhandoff]
    rfl
  · rename_i hschema
    simp only [Option.some.injEq, Prod.mk.injEq] at h
    rw [if_neg hschema]
    exact h.2

/-- What an accepted record came from. -/
theorem decode_eq_ok {bytes : Bytes}
    (h : decodeConfigurationBootstrapRecord bytes = .ok record) :
    record.isPlausible = true ∧ ∃ payload,
      decodeEnvelope bytes = .ok (record.envelope payload) ∧
        validBootstrapPayloadSize record.schemaVersion payload.length = true ∧
        (record.Written → ∃ epochs, record.epochBytes = some epochs ∧
          payload = record.payloadBytes epochs) := by
  simp only [decodeConfigurationBootstrapRecord, bind_eq_ok, orFail_eq_ok, require_eq_ok,
    decide_eq_true_eq, Prod.exists, openBootstrapEnvelope_eq_ok, checkBootstrapEnvelope_eq_ok]
    at h
  obtain ⟨envelope, hopen, _, ⟨htype, -, hutc, hsize⟩, format, _, hformat, stateByte, _,
    hstateByte, handoffByte, _, hhandoffByte, _, -, _, -, previous, current, _, hepochs, authByte,
    authSequence, last, hauth, _, hlast, state, hstate, auth, hauthState, _, hlegal, h⟩ := h
  cases h
  refine ⟨hlegal, envelope.payload, ?_, hsize, fun hwritten => ?_⟩
  · rw [hopen]
    obtain ⟨_, _, _, _, _, _⟩ := envelope
    cases htype
    cases hutc
    rfl
  · obtain ⟨epochs, hepochBytes, rfl⟩ := epochBytes_of_read hwritten rfl hepochs
    have hauthBytes := @authBytes_of_read ⟨envelope.versionValue, format, envelope.storageEpoch,
      state, envelope.schemaVersion, RunEpochHandoffState.ofCode handoffByte, previous, current,
      auth, authSequence⟩ _ _ _ hauthState hauth
    refine ⟨epochs, hepochBytes, ?_⟩
    rw [readHandoffByte, if_pos (schema2_le hwritten)] at hhandoffByte
    rw [uint32_read_eq_some hformat, uint8_read_eq_some hstateByte,
      uint8_read_eq_some hhandoffByte, hauthBytes, List.isEmpty_iff.mp hlast, List.append_nil]
    show _ = bigEndian 4 format.toNat ++
      (state.code :: (RunEpochHandoffState.ofCode handoffByte).code :: _)
    rw [RunEpochHandoffState.code_ofCode, ConfigurationBootstrapState.code_of_ofCode hstate]

end ConfigurationBootstrapRecord

end Fermentationsschrank

import Fermentationsschrank.Core.FormatWriting
import Fermentationsschrank.Storage.StateStore
import Fermentationsschrank.Storage.StorageEnvelope

/-!
# Connectivity credentials

The one record that carries the home network and the password of the device's own
access point.  Records of schema 1 know no access point password, every record of schema 2
carries exactly one.
-/

namespace Fermentationsschrank

open Fermentationsschrank.Format
open Fermentationsschrank.Envelope

structure NetworkCredentials where
  ssid : Bytes
  password : Bytes
  deriving DecidableEq, Repr

structure ConnectivityCredential where
  homeWifi : Option NetworkCredentials := none
  softApPassword : Option Bytes := none
  deriving DecidableEq, Repr

def kMaximumHomeWifiSsidBytes : ℕ := 32
def kMinimumHomeWifiPasswordBytes : ℕ := 8
def kMaximumHomeWifiPasswordBytes : ℕ := 63
def kSoftApPasswordBytes : ℕ := 16

def kMaximumConnectivityCredentialV1PayloadBytes : ℕ :=
  1 + 2 + kMaximumHomeWifiSsidBytes + 2 + kMaximumHomeWifiPasswordBytes

def kMaximumConnectivityCredentialPayloadBytes : ℕ :=
  1 + 2 + kMaximumHomeWifiSsidBytes + 2 + kMaximumHomeWifiPasswordBytes + 2 +
    kSoftApPasswordBytes

def kMaximumConnectivityCredentialEnvelopeBytes : ℕ :=
  kMaximumConnectivityCredentialPayloadBytes + 45

def kConnectivityCredentialRecordType : UInt16 := 9
def kConnectivityCredentialSchemaVersionV1 : UInt32 := 1
def kConnectivityCredentialSchemaVersionV2 : UInt32 := 2
def kConnectivityCredentialSchemaVersion : UInt32 := kConnectivityCredentialSchemaVersionV2

/-! ## Validation -/

/-- `ACDEFHJKMNPQRTUVWXYacdefhjkmnpqrtuvwxy3479`. -/
def kSoftApPasswordAlphabet : Bytes :=
  [65, 67, 68, 69, 70, 72, 74, 75, 77, 78, 80, 81, 82, 84, 85, 86, 87, 88, 89,
    97, 99, 100, 101, 102, 104, 106, 107, 109, 110, 112, 113, 114, 116, 117, 118, 119, 120, 121,
    51, 52, 55, 57]

def kSoftApPasswordLength : ℕ := 16

def isValidSoftApPassword (password : Bytes) : Bool :=
  password.length = kSoftApPasswordLength ∧
    password.all (kSoftApPasswordAlphabet.contains ·)

inductive ConnectivityCredentialValidationStatus
  | success
  | invalidSsid
  | invalidPassword
  | invalidSoftApPassword
  | missingSoftApPassword
  deriving DecidableEq, Repr

def validSsid (ssid : Bytes) : Bool :=
  ssid ≠ [] ∧ ssid.length ≤ kMaximumHomeWifiSsidBytes ∧ ssid.all (· ≠ 0)

def validHomeWifiPassword (password : Bytes) : Bool :=
  kMinimumHomeWifiPasswordBytes ≤ password.length ∧
    password.length ≤ kMaximumHomeWifiPasswordBytes ∧
      password.all fun byte => 0x20 ≤ byte.toNat ∧ byte ≠ 0x7F

def validateConnectivityCredential (credential : ConnectivityCredential) :
    ConnectivityCredentialValidationStatus :=
  if !credential.homeWifi.all (validSsid ·.ssid) then .invalidSsid
  else if !credential.homeWifi.all (validHomeWifiPassword ·.password) then .invalidPassword
  else if !credential.softApPassword.all isValidSoftApPassword then .invalidSoftApPassword
  else .success

def validateConnectivityCredentialV2 (credential : ConnectivityCredential) :
    ConnectivityCredentialValidationStatus :=
  if credential.softApPassword.isNone then .missingSoftApPassword
  else validateConnectivityCredential credential

theorem validateConnectivityCredential_eq_success {credential : ConnectivityCredential} :
    validateConnectivityCredential credential = .success ↔
      (∀ home, credential.homeWifi = some home →
        validSsid home.ssid = true ∧ validHomeWifiPassword home.password = true) ∧
      ∀ password, credential.softApPassword = some password →
        isValidSoftApPassword password = true := by
  rw [validateConnectivityCredential]
  cases credential.homeWifi with
  | none => cases credential.softApPassword <;> simp
  | some home =>
      cases credential.softApPassword <;>
        cases hssid : validSsid home.ssid <;>
        cases hpassword : validHomeWifiPassword home.password <;>
        simp [hssid, hpassword]

theorem validateConnectivityCredentialV2_eq_success {credential : ConnectivityCredential}
    (h : validateConnectivityCredentialV2 credential = .success) :
    validateConnectivityCredential credential = .success ∧
      ∃ password, credential.softApPassword = some password := by
  rw [validateConnectivityCredentialV2] at h
  cases hpassword : credential.softApPassword with
  | none => simp [hpassword] at h
  | some password => exact ⟨by simpa [hpassword] using h, password, rfl⟩

/-! ## Payload -/

inductive ConnectivityCredentialCodecStatus
  | success
  | invalidCredential
  | unsupportedSchema
  | capacityExceeded
  | truncated
  | trailingBytes
  | invalidWireValue
  deriving DecidableEq, Repr

/-- The name and the password of the home network. -/
def homeWifiFormat : Format NetworkCredentials :=
  ((text kMaximumHomeWifiSsidBytes).pair (text kMaximumHomeWifiPasswordBytes)).equiv
    { toFun := fun fields => ⟨fields.1, fields.2⟩
      invFun := fun home => (home.ssid, home.password)
      left_inv := fun _ => rfl
      right_inv := fun _ => rfl }

def writeHomeWifi : Option NetworkCredentials → Option Bytes
  | none => some [0]
  | some home => (homeWifiFormat.write home).map (1 :: ·)

def encodeConnectivityCredentialPayload (credential : ConnectivityCredential) :
    Except ConnectivityCredentialCodecStatus Bytes := do
  require (validateConnectivityCredentialV2 credential = .success) .invalidCredential
  let home ← orFail (writeHomeWifi credential.homeWifi) .capacityExceeded
  let softAp ← orFail
    ((text kSoftApPasswordBytes).write (credential.softApPassword.getD [])) .capacityExceeded
  let payload := home ++ softAp
  require (payload.length ≤ kMaximumConnectivityCredentialPayloadBytes) .capacityExceeded
  return payload

def readHomeWifi (hasHomeWifi : Bool) (bytes : Bytes) :
    Except ConnectivityCredentialCodecStatus (Option NetworkCredentials × Bytes) :=
  if hasHomeWifi then do
    let (home, rest) ← orFail (homeWifiFormat.read bytes) .truncated
    return (some home, rest)
  else .ok (none, bytes)

def readSoftApPassword (schemaVersion : UInt32) (bytes : Bytes) :
    Except ConnectivityCredentialCodecStatus (Option Bytes × Bytes) :=
  if schemaVersion = kConnectivityCredentialSchemaVersionV2 then do
    let (password, rest) ← orFail ((text kSoftApPasswordBytes).read bytes) .truncated
    return (some password, rest)
  else .ok (none, bytes)

def decodeConnectivityCredentialPayload (schemaVersion : UInt32) (payload : Bytes) :
    Except ConnectivityCredentialCodecStatus ConnectivityCredential := do
  require (schemaVersion = kConnectivityCredentialSchemaVersionV1 ∨
    schemaVersion = kConnectivityCredentialSchemaVersionV2) .unsupportedSchema
  let maximumPayloadBytes :=
    if schemaVersion = kConnectivityCredentialSchemaVersionV1 then
      kMaximumConnectivityCredentialV1PayloadBytes
    else kMaximumConnectivityCredentialPayloadBytes
  require (payload.length ≤ maximumPayloadBytes) .capacityExceeded
  let (hasHomeWifi, rest) ← orFail (bool.read payload) .invalidWireValue
  let (homeWifi, rest) ← readHomeWifi hasHomeWifi rest
  let (softApPassword, rest) ← readSoftApPassword schemaVersion rest
  require rest.isEmpty .trailingBytes
  let candidate : ConnectivityCredential := { homeWifi, softApPassword }
  let validation :=
    if schemaVersion = kConnectivityCredentialSchemaVersionV2 then
      validateConnectivityCredentialV2 candidate
    else validateConnectivityCredential candidate
  require (validation = .success) .invalidCredential
  return candidate

theorem readHomeWifi_write {home : Option NetworkCredentials} {out : Bytes}
    (hwrite : writeHomeWifi home = some out)
    (hvalid : ∀ found, home = some found →
      validSsid found.ssid = true ∧ validHomeWifiPassword found.password = true)
    (rest : Bytes) :
    ∃ tail, bool.read (out ++ rest) = some (home.isSome, tail) ∧
      readHomeWifi home.isSome tail = .ok (home, rest) := by
  cases home with
  | none =>
      cases hwrite
      exact ⟨rest, rfl, rfl⟩
  | some found =>
      obtain ⟨fields, hfields, rfl⟩ := Option.map_eq_some_iff.mp hwrite
      obtain ⟨hssid, hpassword⟩ := hvalid found rfl
      rw [validSsid, decide_eq_true_iff] at hssid
      rw [validHomeWifiPassword, decide_eq_true_iff] at hpassword
      have hread : homeWifiFormat.read (fields ++ rest) = some (found, rest) :=
        @Format.read_write _ homeWifiFormat found fields ⟨hssid.2.1, hpassword.2.1⟩ hfields rest
      refine ⟨fields ++ rest, rfl, ?_⟩
      rw [readHomeWifi, Option.isSome_some, if_pos rfl, hread]
      rfl

/-- Decoding what was encoded returns the credential. -/
theorem decodeConnectivityCredentialPayload_encode {credential : ConnectivityCredential}
    {payload : Bytes} (h : encodeConnectivityCredentialPayload credential = .ok payload) :
    decodeConnectivityCredentialPayload kConnectivityCredentialSchemaVersion payload =
      .ok credential := by
  simp only [encodeConnectivityCredentialPayload, bind_eq_ok, require_eq_ok, orFail_eq_ok,
    decide_eq_true_eq] at h
  obtain ⟨_, hvalid, home, hhome, softAp, hsoftAp, _, hsize, hpayload⟩ := h
  cases hpayload
  obtain ⟨hsound, password, hpassword⟩ := validateConnectivityCredentialV2_eq_success hvalid
  obtain ⟨hhomeValid, hpasswordValid⟩ := validateConnectivityCredential_eq_success.mp hsound
  have hlength : password.length ≤ kSoftApPasswordBytes := by
    have hfound := hpasswordValid password hpassword
    rw [isValidSoftApPassword, decide_eq_true_iff] at hfound
    exact hfound.1.le
  obtain ⟨tail, htag, htail⟩ := readHomeWifi_write hhome hhomeValid (softAp ++ [])
  rw [hpassword, Option.getD_some] at hsoftAp
  have hread : (text kSoftApPasswordBytes).read (softAp ++ []) = some (password, []) :=
    @Format.read_write _ (text kSoftApPasswordBytes) password softAp hlength hsoftAp []
  have hpart : readSoftApPassword kConnectivityCredentialSchemaVersionV2 (softAp ++ []) =
      .ok (some password, []) := by
    rw [readSoftApPassword, if_pos rfl, hread]
    rfl
  have hsame : (⟨credential.homeWifi, some password⟩ : ConnectivityCredential) = credential := by
    rw [← hpassword]
  rw [List.append_nil] at htag htail hpart
  have hschema : (kConnectivityCredentialSchemaVersionV2 =
      kConnectivityCredentialSchemaVersionV1) = False := by decide
  rw [kConnectivityCredentialSchemaVersion]
  simp only [decodeConnectivityCredentialPayload, hschema, if_false, hsize, htag, htail, hpart,
    orFail_some, ok_bind, hsame, hvalid, or_true, decide_true, require_true, if_true,
    List.isEmpty_nil]
  rfl

/-- Only records of schema 1 go without an access point password. -/
theorem softApPassword_of_decode {schemaVersion : UInt32} {payload : Bytes}
    {credential : ConnectivityCredential}
    (h : decodeConnectivityCredentialPayload schemaVersion payload = .ok credential)
    (hmissing : ¬(schemaVersion = kConnectivityCredentialSchemaVersionV2 ∧
      credential.softApPassword.isSome)) :
    schemaVersion = kConnectivityCredentialSchemaVersionV1 := by
  simp only [decodeConnectivityCredentialPayload, bind_eq_ok, require_eq_ok,
    decide_eq_true_eq, Prod.exists] at h
  obtain ⟨_, hschema, _, _, _, _, _, _, _, _, _, _, _, _, _, _, hvalid, hcredential⟩ := h
  cases hcredential
  by_contra hother
  have hnewer : schemaVersion = kConnectivityCredentialSchemaVersionV2 := by
    rcases hschema with hfirst | hsecond
    · exact absurd hfirst hother
    · exact hsecond
  rw [if_pos hnewer] at hvalid
  obtain ⟨_, password, hpassword⟩ := validateConnectivityCredentialV2_eq_success hvalid
  exact hmissing ⟨hnewer, by rw [hpassword]; rfl⟩

/-! ## Records -/

/-- The key `cc0`. -/
inductive ConnectivityStoreKey
  | credential
  deriving DecidableEq, Repr

abbrev ConnectivityContents := StoreContents ConnectivityStoreKey

structure ConnectivityCredentialRecord where
  credential : ConnectivityCredential
  storageEpoch : UInt64
  recordSequence : UInt64
  schemaVersion : UInt32
  deriving DecidableEq, Repr

inductive ConnectivityCredentialLoadResult
  | available (record : ConnectivityCredentialRecord)
  | notFound
  | otherEpoch
  | readError
  | capacityError
  | invalidRecord
  deriving DecidableEq, Repr

inductive ConnectivityCredentialWriteStatus
  | committed
  | writeFailure
  | capacityFailure
  | indeterminate
  deriving DecidableEq, Repr

/-- What bytes under the key are to a device of the epoch. -/
def loadRecord (expectedEpoch : UInt64) (value : Bytes) : ConnectivityCredentialLoadResult :=
  match decodeEnvelope value with
  | .error _ => .invalidRecord
  | .ok envelope =>
      if envelope.recordTypeId ≠ kConnectivityCredentialRecordType ∨
          (envelope.schemaVersion ≠ kConnectivityCredentialSchemaVersionV1 ∧
            envelope.schemaVersion ≠ kConnectivityCredentialSchemaVersionV2) ∨
          envelope.versionValue = 0 then .invalidRecord
      else if envelope.storageEpoch ≠ expectedEpoch then .otherEpoch
      else
        match decodeConnectivityCredentialPayload envelope.schemaVersion envelope.payload with
        | .error _ => .invalidRecord
        | .ok credential =>
            .available ⟨credential, envelope.storageEpoch, envelope.versionValue,
              envelope.schemaVersion⟩

def loadResult (expectedEpoch : UInt64) :
    StateStoreReadResult → ConnectivityCredentialLoadResult
  | .notFound => .notFound
  | .capacityError => .capacityError
  | .readError => .readError
  | .success value => loadRecord expectedEpoch value

/-- What a load from a store without errors returns. -/
def loadStored (contents : ConnectivityContents) (expectedEpoch : UInt64) :
    ConnectivityCredentialLoadResult :=
  loadResult expectedEpoch
    (readReply contents .credential kMaximumConnectivityCredentialEnvelopeBytes)

/-- The bytes of a write, up to the call of the store. -/
def encodeConnectivityRecord (credential : ConnectivityCredential) (epoch recordSequence : UInt64) :
    Except ConnectivityCredentialWriteStatus Bytes := do
  require (recordSequence ≠ 0 ∧ validateConnectivityCredentialV2 credential = .success)
    .writeFailure
  let payload ← orFail (encodeConnectivityCredentialPayload credential).toOption .capacityFailure
  match encodeEnvelope ⟨kConnectivityCredentialRecordType, kConnectivityCredentialSchemaVersion,
      epoch, recordSequence, none, payload⟩ kMaximumConnectivityCredentialEnvelopeBytes with
  | .ok encoded => .ok encoded
  | .error .capacityExceeded => .error .capacityFailure
  | .error _ => .error .writeFailure

theorem encodeConnectivityRecord_eq_ok {credential : ConnectivityCredential}
    {epoch recordSequence : UInt64} {encoded : Bytes}
    (h : encodeConnectivityRecord credential epoch recordSequence = .ok encoded) :
    recordSequence ≠ 0 ∧ validateConnectivityCredentialV2 credential = .success ∧
      ∃ payload, encodeConnectivityCredentialPayload credential = .ok payload ∧
        encodeEnvelope ⟨kConnectivityCredentialRecordType, kConnectivityCredentialSchemaVersion,
          epoch, recordSequence, none, payload⟩
          kMaximumConnectivityCredentialEnvelopeBytes = .ok encoded := by
  simp only [encodeConnectivityRecord, bind_eq_ok, require_eq_ok, orFail_eq_ok,
    toOption_eq_some, decide_eq_true_eq] at h
  obtain ⟨_, ⟨hsequence, hvalid⟩, payload, hpayload, h⟩ := h
  refine ⟨hsequence, hvalid, payload, hpayload, ?_⟩
  split at h <;> cases h
  assumption

/-- What is not encoded was not written. -/
theorem failsWith_encodeConnectivityRecord (credential : ConnectivityCredential)
    (epoch recordSequence : UInt64) :
    FailsWith (fun status => status = .writeFailure ∨ status = .capacityFailure)
      (encodeConnectivityRecord credential epoch recordSequence) := by
  refine failsWith_bind (failsWith_require (.inl rfl)) fun _ => ?_
  refine failsWith_bind (failsWith_orFail (.inr rfl)) fun payload => ?_
  split
  · exact failsWith_ok _
  · exact failsWith_error (.inr rfl)
  · exact failsWith_error (.inl rfl)

/-- A written record is the one that the epoch loads. -/
theorem loadRecord_encode {credential : ConnectivityCredential} {epoch recordSequence : UInt64}
    {encoded : Bytes} (h : encodeConnectivityRecord credential epoch recordSequence = .ok encoded) :
    loadRecord epoch encoded =
      .available ⟨credential, epoch, recordSequence, kConnectivityCredentialSchemaVersion⟩ := by
  obtain ⟨hsequence, _, payload, hpayload, hencoded⟩ := encodeConnectivityRecord_eq_ok h
  have hschema : kConnectivityCredentialSchemaVersion =
      kConnectivityCredentialSchemaVersionV2 := rfl
  have hknown : ¬(kConnectivityCredentialRecordType ≠ kConnectivityCredentialRecordType ∨
      (kConnectivityCredentialSchemaVersion ≠ kConnectivityCredentialSchemaVersionV1 ∧
        kConnectivityCredentialSchemaVersion ≠ kConnectivityCredentialSchemaVersionV2) ∨
      recordSequence = 0) := by
    rintro (hother | ⟨_, hother⟩ | hzero)
    · exact hother rfl
    · exact hother hschema
    · exact hsequence hzero
  have hepoch : ¬epoch ≠ epoch := not_not.mpr rfl
  rw [loadRecord, decodeEnvelope_encodeEnvelope hencoded]
  dsimp only
  rw [if_neg hknown, if_neg hepoch, decodeConnectivityCredentialPayload_encode hpayload]

theorem loadStored_encode {contents : ConnectivityContents} {credential : ConnectivityCredential}
    {epoch recordSequence : UInt64} {encoded : Bytes}
    (h : encodeConnectivityRecord credential epoch recordSequence = .ok encoded)
    (hstored : contents .credential = some encoded) :
    loadStored contents epoch =
      .available ⟨credential, epoch, recordSequence, kConnectivityCredentialSchemaVersion⟩ := by
  obtain ⟨_, _, _, _, hencoded⟩ := encodeConnectivityRecord_eq_ok h
  rw [loadStored, readReply_of_some hstored (encodeEnvelope_eq_ok hencoded).2.2.1]
  exact loadRecord_encode h

/-- A load that succeeded, or found nothing of its epoch, found what is stored. -/
theorem loadStored_of_read {contents : ConnectivityContents} {expectedEpoch : UInt64}
    {reply : StateStoreReadResult}
    (h : ReadsAs contents .credential kMaximumConnectivityCredentialEnvelopeBytes reply)
    (herror : loadResult expectedEpoch reply ≠ .readError)
    (hcapacity : loadResult expectedEpoch reply ≠ .capacityError) :
    loadStored contents expectedEpoch = loadResult expectedEpoch reply := by
  cases reply with
  | success value => rw [loadStored, readReply_of_some h.1 h.2]
  | notFound => rw [loadStored, readReply_of_none h]
  | readError => exact absurd rfl herror
  | capacityError => exact absurd rfl hcapacity

/-- Only records of schema 1 are loaded without an access point password. -/
theorem schemaVersion_of_loadStored {contents : ConnectivityContents} {expectedEpoch : UInt64}
    {record : ConnectivityCredentialRecord}
    (h : loadStored contents expectedEpoch = .available record)
    (hmissing : ¬(record.schemaVersion = kConnectivityCredentialSchemaVersionV2 ∧
      record.credential.softApPassword.isSome)) :
    record.schemaVersion = kConnectivityCredentialSchemaVersionV1 := by
  rw [loadStored] at h
  cases hreply : readReply contents .credential kMaximumConnectivityCredentialEnvelopeBytes with
  | success value =>
      rw [hreply, loadResult, loadRecord] at h
      split at h
      · cases h
      · split_ifs at h
        split at h
        · cases h
        · rename_i credential hdecoded
          cases h
          exact softApPassword_of_decode hdecoded hmissing
  | notFound => rw [hreply] at h; cases h
  | readError => rw [hreply] at h; cases h
  | capacityError => rw [hreply] at h; cases h

end Fermentationsschrank

import Fermentationsschrank.Authentication.AuthenticationRecords
import Fermentationsschrank.Run.ProcessStateMachine
import Fermentationsschrank.Storage.StateStore

/-!
# Authentication store

Two keys hold the credential record and the provisioning root.  A record is
replaced only by its immediate successor, only while the store still holds the
expected bytes, and a write counts only when the read back bytes are the written
ones.
-/

namespace Fermentationsschrank

inductive AuthenticationStoreKey
  | credentials
  | root
  deriving DecidableEq, Repr

abbrev AuthenticationContents := StoreContents AuthenticationStoreKey
abbrev AuthenticationProgram := StoreProgram AuthenticationStoreKey

inductive AuthenticationReadStatus
  | success
  | notFound
  | differentEpoch
  | readError
  | capacityError
  | integrityFailure
  | unsupportedSchema
  deriving DecidableEq, Repr

inductive AuthenticationWriteStatus
  | success
  | invalidTransition
  | counterOverflow
  | writeError
  | capacityError
  | readbackFailure
  | integrityFailure
  | commitOutcomeUnknown
  deriving DecidableEq, Repr

structure AuthenticationReadResult (Record : Type) where
  status : AuthenticationReadStatus := .integrityFailure
  value : Option Record := none

namespace AuthenticationRecordStore

/-! ## Reads -/

variable {Record : Type}

/-- What was read, as a record of the expected epoch. -/
def readResult (decode : Bytes → Except AuthenticationRecordCodecStatus Record)
    (epochOf : Record → UInt64) (expectedEpoch : UInt64) :
    StateStoreReadResult → AuthenticationReadResult Record
  | .notFound => ⟨.notFound, none⟩
  | .readError => ⟨.readError, none⟩
  | .capacityError => ⟨.capacityError, none⟩
  | .success value =>
      match decode value with
      | .error .unsupportedSchema => ⟨.unsupportedSchema, none⟩
      | .error _ => ⟨.integrityFailure, none⟩
      | .ok record =>
          if epochOf record ≠ expectedEpoch then ⟨.differentEpoch, some record⟩
          else ⟨.success, some record⟩

def readCredentials (expectedEpoch : UInt64) :
    AuthenticationProgram (AuthenticationReadResult AuthenticationCredentialRecord) := do
  let read ← readStore .credentials kMaximumCredentialEnvelopeBytes
  return readResult decodeAuthenticationCredential (·.storageEpoch) expectedEpoch read

def readRoot (expectedEpoch : UInt64) :
    AuthenticationProgram (AuthenticationReadResult AuthProvisioningRoot) := do
  let read ← readStore .root kMaximumAuthenticationRootEnvelopeBytes
  return readResult decodeAuthProvisioningRoot (·.storageEpoch) expectedEpoch read

/-! ## Writes -/

def mapWrite : StateStoreWriteStatus → AuthenticationWriteStatus
  | .success => .success
  | .writeError => .writeError
  | .capacityError => .capacityError
  | .commitOutcomeUnknown => .commitOutcomeUnknown

/-- What a write reports whose readback does not show the written record. -/
def unconfirmed (writeStatus : StateStoreWriteStatus) (otherwise : AuthenticationWriteStatus) :
    AuthenticationWriteStatus :=
  if writeStatus = .commitOutcomeUnknown then .commitOutcomeUnknown else otherwise

/-- The verdict on a write after its readback. -/
def confirm [DecidableEq Record] (writeStatus : StateStoreWriteStatus) (encoded : Bytes)
    (decode : Bytes → Except AuthenticationRecordCodecStatus Record) (expected : Record) :
    StateStoreReadResult → AuthenticationWriteStatus
  | .success value =>
      if (decode value).toOption = some expected ∧ value = encoded then .success
      else unconfirmed writeStatus .integrityFailure
  | _ => unconfirmed writeStatus .readbackFailure

def writeExact [DecidableEq Record] (key : AuthenticationStoreKey) (encoded : Bytes)
    (maxBytes : ℕ) (decode : Bytes → Except AuthenticationRecordCodecStatus Record)
    (expected : Record) : AuthenticationProgram AuthenticationWriteStatus := do
  let writeStatus ← writeStore key encoded
  if writeStatus = .writeError ∨ writeStatus = .capacityError then
    return mapWrite writeStatus
  let readback ← readStore key maxBytes
  return confirm writeStatus encoded decode expected readback

/-- Replace the record only while the store holds exactly the expected one. -/
def compareAndWrite [DecidableEq Record] (key : AuthenticationStoreKey)
    (expected target : Record) (maxBytes : ℕ)
    (encode : Record → Except AuthenticationRecordCodecStatus Bytes)
    (decode : Bytes → Except AuthenticationRecordCodecStatus Record) :
    AuthenticationProgram AuthenticationWriteStatus :=
  match encode expected, encode target with
  | .ok oldEncoded, .ok newEncoded => do
      match ← readStore key maxBytes with
      | .readError => return .readbackFailure
      | .capacityError => return .capacityError
      | .notFound => return .invalidTransition
      | .success current =>
          if (decode current).toOption = some expected ∧ current = oldEncoded then
            writeExact key newEncoded maxBytes decode target
          else return .invalidTransition
  | _, _ => return .integrityFailure

def incremented (previous target : UInt64) : Bool :=
  previous ≠ maxUInt64 ∧ target = previous + 1

def validRootTransition (previous target : AuthProvisioningRoot) : Bool :=
  decide (previous.storageEpoch = target.storageEpoch ∧
    previous.authDomainGeneration = target.authDomainGeneration ∧
    previous.bootstrapSequenceBinding = target.bootstrapSequenceBinding) &&
  incremented previous.recordSequence target.recordSequence &&
  match previous.state with
  | .unprovisioned => target.state = .provisioning
  | .provisioning =>
      target.state = .provisioned ∨ target.state = .indeterminate ∨
        target.state = .recoveryRequired
  | .provisioned => target.state = .provisioning
  | .indeterminate | .recoveryRequired => false

def writeCredentials (expected target : AuthenticationCredentialRecord) :
    AuthenticationProgram AuthenticationWriteStatus :=
  if expected.isPlausible && target.isPlausible &&
      decide (expected.storageEpoch = target.storageEpoch) &&
      incremented expected.recordSequence target.recordSequence then
    compareAndWrite .credentials expected target kMaximumCredentialEnvelopeBytes
      encodeAuthenticationCredential decodeAuthenticationCredential
  else return .invalidTransition

def writeRoot (expected target : AuthProvisioningRoot) :
    AuthenticationProgram AuthenticationWriteStatus :=
  if expected.isPlausible && target.isPlausible && validRootTransition expected target then
    compareAndWrite .root expected target kMaximumAuthenticationRootEnvelopeBytes
      encodeAuthProvisioningRoot decodeAuthProvisioningRoot
  else return .invalidTransition

end AuthenticationRecordStore

end Fermentationsschrank

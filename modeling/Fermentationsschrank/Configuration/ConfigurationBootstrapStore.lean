import Fermentationsschrank.Configuration.ConfigurationBootstrapCodec
import Fermentationsschrank.Storage.StateStore

/-!
# Bootstrap store

Two slots hold the last two bootstrap records.  Every write goes to the slot
that does not hold the newest record, and only a record that the newest one
allows as its successor is written.
-/

namespace Fermentationsschrank

/-- The keys of the configuration store. -/
inductive ConfigurationStoreKey
  | userConfiguration (slot : Fin 4)
  | serviceConfiguration (slot : Fin 4)
  | programCatalog (slot : Fin 4)
  | configurationManifest (slot : Fin 3)
  | configurationRoot (slot : Fin 2)
  | configurationBootstrap (slot : Fin 2)
  deriving DecidableEq, Repr

abbrev ConfigurationStore := StoreContents ConfigurationStoreKey
abbrev ConfigurationStoreProgram := StoreProgram ConfigurationStoreKey

inductive ConfigurationBootstrapScanStatus
  | empty
  | available
  | readError
  | capacityError
  | integrityFailure
  | unsupportedNewerSchema
  deriving DecidableEq, Repr

structure LoadedConfigurationBootstrap where
  slot : Fin 2
  record : ConfigurationBootstrapRecord
  canonicalRecordBytes : Bytes
  highWater : UInt64
  duplicate : Bool := false
  deriving DecidableEq, Repr

structure ConfigurationBootstrapScanResult where
  status : ConfigurationBootstrapScanStatus
  loaded : Option LoadedConfigurationBootstrap := none
  deriving DecidableEq, Repr

inductive ConfigurationBootstrapWriteStatus
  | success
  | invalidTransition
  | counterOverflow
  | readError
  | capacityError
  | integrityFailure
  | unsupportedNewerSchema
  | writeError
  | writeCapacityError
  | commitNotEffective
  | bootstrapCommitIndeterminate
  deriving DecidableEq, Repr

structure ConfigurationBootstrapWriteResult where
  status : ConfigurationBootstrapWriteStatus
  loaded : Option LoadedConfigurationBootstrap := none
  deriving DecidableEq, Repr

def ConfigurationBootstrapCodecStatus.mapCodec :
    ConfigurationBootstrapCodecStatus → ConfigurationBootstrapScanStatus
  | .unsupportedNewerSchema => .unsupportedNewerSchema
  | _ => .integrityFailure

def ConfigurationBootstrapScanStatus.mapScan :
    ConfigurationBootstrapScanStatus → ConfigurationBootstrapWriteStatus
  | .readError => .readError
  | .capacityError => .capacityError
  | .unsupportedNewerSchema => .unsupportedNewerSchema
  | .integrityFailure | .empty | .available => .integrityFailure

/-! ## Scan -/

structure BootstrapCandidate where
  slot : Fin 2
  record : ConfigurationBootstrapRecord
  bytes : Bytes
  deriving DecidableEq, Repr

def BootstrapCandidate.loaded (candidate : BootstrapCandidate) (duplicate : Bool := false) :
    LoadedConfigurationBootstrap where
  slot := candidate.slot
  record := candidate.record
  canonicalRecordBytes := candidate.bytes
  highWater := candidate.record.sequence
  duplicate := duplicate

local instance neZeroBootstrapSlots : NeZero 2 := inferInstance

namespace ConfigurationBootstrapStore

def readSlot (slot : Fin 2) : ConfigurationStoreProgram StateStoreReadResult :=
  readStore (.configurationBootstrap slot) kMaximumConfigurationBootstrapSchema3EnvelopeBytes

/-- What one slot contributes to the scan. -/
def candidateOf (slot : Fin 2) (reply : StateStoreReadResult) :
    Except ConfigurationBootstrapScanStatus (Option BootstrapCandidate) :=
  match reply with
  | .notFound => .ok none
  | .readError => .error .readError
  | .capacityError => .error .capacityError
  | .success value =>
      match decodeConfigurationBootstrapRecord value with
      | .error status => .error status.mapCodec
      | .ok record => .ok (some ⟨slot, record, value⟩)

def selectBootstrap (left right : Option BootstrapCandidate) :
    ConfigurationBootstrapScanResult :=
  match left, right with
  | none, none => ⟨.empty, none⟩
  | some only, none | none, some only => ⟨.available, some only.loaded⟩
  | some left, some right =>
      if left.record.sequence = right.record.sequence then
        if left.bytes = right.bytes then ⟨.available, some (left.loaded true)⟩
        else ⟨.integrityFailure, none⟩
      else
        let (older, newer) :=
          if left.record.sequence < right.record.sequence then (left, right) else (right, left)
        if older.record.isAllowedBootstrapSuccessor newer.record then
          ⟨.available, some newer.loaded⟩
        else ⟨.integrityFailure, none⟩

def scan : ConfigurationStoreProgram ConfigurationBootstrapScanResult := do
  match candidateOf 0 (← readSlot 0) with
  | .error status => return ⟨status, none⟩
  | .ok left =>
      match candidateOf 1 (← readSlot 1) with
      | .error status => return ⟨status, none⟩
      | .ok right => return selectBootstrap left right

end ConfigurationBootstrapStore

/-! ## Successors -/

namespace ConfigurationBootstrapRecord

/-- The first record of a device. -/
def initial : ConfigurationBootstrapRecord where
  sequence := 1
  storageFormatVersion := kConfigurationStorageFormatVersion1
  storageEpoch := 1
  state := .initializing

/-- A handoff that is already bound keeps its epochs, a new one is bound to the
epoch of the successor. -/
def handoffEpochs (record : ConfigurationBootstrapRecord) (epoch : UInt64)
    (targetHandoff : RunEpochHandoffState) :
    Except ConfigurationBootstrapWriteStatus (Option UInt64 × Option UInt64) :=
  if targetHandoff = .none then .ok (none, none)
  else
    match record.previousEpoch, record.currentEpoch with
    | some previous, some current => .ok (some previous, some current)
    | _, _ =>
        if 1 < epoch then .ok (some (epoch - 1), some epoch) else .error .invalidTransition

def targetEpoch (record : ConfigurationBootstrapRecord)
    (targetState : ConfigurationBootstrapState) :
    Except ConfigurationBootstrapWriteStatus UInt64 :=
  if targetState = .resetting then orFail (checkedIncrement record.storageEpoch) .counterOverflow
  else .ok record.storageEpoch

/-- A reset clears the handoff of the authentication domain, every other
successor carries it on.  Only schema 3 stays what it is. -/
def targetRecord (record : ConfigurationBootstrapRecord) (sequence storageEpoch : UInt64)
    (epochs : Option UInt64 × Option UInt64) (targetState : ConfigurationBootstrapState)
    (targetHandoff : RunEpochHandoffState) : ConfigurationBootstrapRecord where
  sequence := sequence
  storageFormatVersion := record.storageFormatVersion
  storageEpoch := storageEpoch
  state := targetState
  schemaVersion :=
    if record.schemaVersion = kConfigurationBootstrapSchemaVersion3 then
      kConfigurationBootstrapSchemaVersion3
    else kConfigurationBootstrapSchemaVersion2
  handoff := targetHandoff
  previousEpoch := epochs.1
  currentEpoch := epochs.2
  authDomainHandoff := if targetState = .resetting then .none else record.authDomainHandoff
  authHandoffSequence := if targetState = .resetting then 0 else record.authHandoffSequence

def successorWithHandoff (record : ConfigurationBootstrapRecord)
    (targetState : ConfigurationBootstrapState) (targetHandoff : RunEpochHandoffState) :
    Except ConfigurationBootstrapWriteStatus ConfigurationBootstrapRecord := do
  let sequence ← orFail (checkedIncrement record.sequence) .counterOverflow
  require (targetHandoff = .none ∨ targetState = .initialized) .invalidTransition
  let storageEpoch ← record.targetEpoch targetState
  let epochs ← record.handoffEpochs storageEpoch targetHandoff
  let target := record.targetRecord sequence storageEpoch epochs targetState targetHandoff
  require (record.isAllowedBootstrapSuccessor target) .invalidTransition
  return target

def successor (record : ConfigurationBootstrapRecord)
    (targetState : ConfigurationBootstrapState) :
    Except ConfigurationBootstrapWriteStatus ConfigurationBootstrapRecord :=
  record.successorWithHandoff targetState
    (if record.state = .resetting ∧ targetState = .initialized then .pending else .none)

def handoffSuccessor (record : ConfigurationBootstrapRecord)
    (targetHandoff : RunEpochHandoffState) :
    Except ConfigurationBootstrapWriteStatus ConfigurationBootstrapRecord :=
  record.successorWithHandoff .initialized targetHandoff

def authDomainTarget (record : ConfigurationBootstrapRecord) (sequence : UInt64)
    (targetHandoff : AuthDomainHandoffState) : ConfigurationBootstrapRecord :=
  { record with
    sequence
    schemaVersion :=
      if record.schemaVersion = kConfigurationBootstrapSchemaVersion2 then
        kConfigurationBootstrapSchemaVersion3
      else record.schemaVersion
    authDomainHandoff := targetHandoff
    authHandoffSequence :=
      if targetHandoff = .unconsumed then sequence else record.authHandoffSequence }

def authDomainSuccessor (record : ConfigurationBootstrapRecord)
    (targetHandoff : AuthDomainHandoffState) :
    Except ConfigurationBootstrapWriteStatus ConfigurationBootstrapRecord := do
  require (record.state = .initialized ∧ record.Written) .invalidTransition
  let sequence ← orFail (checkedIncrement record.sequence) .invalidTransition
  let target := record.authDomainTarget sequence targetHandoff
  require (record.isAllowedBootstrapSuccessor target) .invalidTransition
  return target

end ConfigurationBootstrapRecord

/-! ## Writes -/

/-- The operations that continue a history. -/
inductive BootstrapOperation
  | successor (targetState : ConfigurationBootstrapState)
  | handoffSuccessor (targetHandoff : RunEpochHandoffState)
  | authDomainHandoff (targetHandoff : AuthDomainHandoffState)
  deriving DecidableEq, Repr

namespace BootstrapOperation

def target (operation : BootstrapOperation) (record : ConfigurationBootstrapRecord) :
    Except ConfigurationBootstrapWriteStatus ConfigurationBootstrapRecord :=
  match operation with
  | .successor targetState => record.successor targetState
  | .handoffSuccessor targetHandoff => record.handoffSuccessor targetHandoff
  | .authDomainHandoff targetHandoff => record.authDomainSuccessor targetHandoff

/-- The status when the newest record is not the expected one: the handoff of the
authentication domain does not tell a failed scan from a changed record. -/
def outdated (operation : BootstrapOperation) (scanned : ConfigurationBootstrapScanResult) :
    ConfigurationBootstrapWriteStatus :=
  match operation, scanned.status, scanned.loaded with
  | .authDomainHandoff _, _, _ => .invalidTransition
  | _, .available, some _ => .invalidTransition
  | _, status, _ => status.mapScan

end BootstrapOperation

namespace ConfigurationBootstrapStore

/-- The slot that does not hold the newest record, and what it held. -/
def targetSlot (loaded : Option LoadedConfigurationBootstrap) : Fin 2 :=
  match loaded with
  | none => 0
  | some loaded => if loaded.slot = 0 then 1 else 0

/-- The bytes of a reply; a key without a value reads as the empty string. -/
def replyValue : StateStoreReadResult → Bytes
  | .success value => value
  | _ => []

/-- The readback shows what was there before the write. -/
def priorConfirmed (previous : Option Bytes) (readback : StateStoreReadResult) : Bool :=
  match readback with
  | .notFound => previous.isNone
  | .success value => previous = some value
  | _ => false

def finishWrite (target : ConfigurationBootstrapRecord) (encoded : Bytes)
    (previous : Option Bytes) (unknown : Bool) (readback : StateStoreReadResult) :
    ConfigurationStoreProgram ConfigurationBootstrapWriteResult := do
  if readback = .readError ∨ readback = .capacityError then
    return ⟨.bootstrapCommitIndeterminate, none⟩
  else if unknown = false ∧ readback ≠ .success encoded then
    return ⟨.integrityFailure, none⟩
  else if priorConfirmed previous readback then
    return ⟨if unknown then .commitNotEffective else .integrityFailure, none⟩
  else if replyValue readback ≠ encoded then
    return ⟨.bootstrapCommitIndeterminate, none⟩
  else
    let rescanned ← scan
    match rescanned.status, rescanned.loaded with
    | .available, some loaded =>
        if loaded.record = target then return ⟨.success, some loaded⟩
        else return ⟨.integrityFailure, none⟩
    | _, _ => return ⟨.integrityFailure, none⟩

def writeEncoded (target : ConfigurationBootstrapRecord) (slot : Fin 2)
    (previous : Option Bytes) : ConfigurationStoreProgram ConfigurationBootstrapWriteResult :=
  match encodeConfigurationBootstrapRecord target with
  | .error _ => return ⟨.integrityFailure, none⟩
  | .ok encoded => do
      match ← writeStore (.configurationBootstrap slot) encoded with
      | .writeError => return ⟨.writeError, none⟩
      | .capacityError => return ⟨.writeCapacityError, none⟩
      | .success => finishWrite target encoded previous false (← readSlot slot)
      | .commitOutcomeUnknown => finishWrite target encoded previous true (← readSlot slot)

def writeBound (loaded : Option LoadedConfigurationBootstrap)
    (target : ConfigurationBootstrapRecord) :
    ConfigurationStoreProgram ConfigurationBootstrapWriteResult := do
  match loaded with
  | none => writeEncoded target (targetSlot none) none
  | some found =>
      match ← readSlot (targetSlot (some found)) with
      | .success value => writeEncoded target (targetSlot (some found)) (some value)
      | .notFound => writeEncoded target (targetSlot (some found)) none
      | .readError => return ⟨.readError, none⟩
      | .capacityError => return ⟨.capacityError, none⟩

/-- A consumed proof that the store is new replaces the scan. -/
def writeInitialInitializing (proofConsumed : Bool) :
    ConfigurationStoreProgram ConfigurationBootstrapWriteResult := do
  if proofConsumed then writeBound none .initial
  else
    let current ← scan
    match current.status with
    | .empty => writeBound current.loaded .initial
    | .available => return ⟨.invalidTransition, none⟩
    | status => return ⟨status.mapScan, none⟩

/-- Continue the history behind the expected newest record. -/
def write (operation : BootstrapOperation) (expected : LoadedConfigurationBootstrap) :
    ConfigurationStoreProgram ConfigurationBootstrapWriteResult := do
  let current ← scan
  match current.status, current.loaded with
  | .available, some loaded =>
      if loaded.record = expected.record ∧
          loaded.canonicalRecordBytes = expected.canonicalRecordBytes ∧
          loaded.slot = expected.slot then
        match operation.target expected.record with
        | .error status => return ⟨status, none⟩
        | .ok target => writeBound current.loaded target
      else return ⟨operation.outdated current, none⟩
  | _, _ => return ⟨operation.outdated current, none⟩

def writeSuccessor (expected : LoadedConfigurationBootstrap)
    (targetState : ConfigurationBootstrapState) :
    ConfigurationStoreProgram ConfigurationBootstrapWriteResult :=
  write (.successor targetState) expected

def writeHandoffSuccessor (expected : LoadedConfigurationBootstrap)
    (targetHandoff : RunEpochHandoffState) :
    ConfigurationStoreProgram ConfigurationBootstrapWriteResult :=
  write (.handoffSuccessor targetHandoff) expected

def writeAuthDomainHandoff (expected : LoadedConfigurationBootstrap)
    (targetHandoff : AuthDomainHandoffState) (leaseValid : Bool) :
    ConfigurationStoreProgram ConfigurationBootstrapWriteResult :=
  if leaseValid then write (.authDomainHandoff targetHandoff) expected
  else return ⟨.invalidTransition, none⟩

end ConfigurationBootstrapStore

end Fermentationsschrank

import Fermentationsschrank.Network.SoftApCredentials

/-!
# Network configuration

The service keeps one active credential and at most one candidate in memory.  It calls the
credential store and the network lifecycle, and everything that it calls may fail.  The
lifecycle is outside of the model: any reply is possible.
-/

namespace Fermentationsschrank

inductive NetworkMode
  | unselected
  | apOnly
  | homeWifi
  deriving DecidableEq, Repr

inductive NetworkOperationStatus
  | applied
  | invalidInput
  | busy
  | failed
  deriving DecidableEq, Repr

inductive NetworkConfigurationStatus
  | applied
  | selectionRequired
  | invalidMode
  | invalidCredential
  | credentialUnavailable
  | transportFailure
  | candidateRejected
  | persistenceFailure
  | commitIndeterminate
  | recoveryRequired
  | setupNotAvailable
  | notInitialized
  deriving DecidableEq, Repr

/-! ## Calls -/

inductive LifecycleCall
  | setAccessPointCredentials (ssid password : Bytes)
  | start (mode : NetworkMode) (homeCredentials : Option NetworkCredentials)
  | stop
  | testCandidate (candidate : NetworkCredentials)
  deriving DecidableEq, Repr

inductive NetworkCall
  | read
  | write (value : Bytes)
  | lifecycle (request : LifecycleCall)

def NetworkReply : NetworkCall → Type
  | .read => StateStoreReadResult
  | .write _ => StateStoreWriteStatus
  | .lifecycle _ => NetworkOperationStatus

abbrev NetworkProgram := Program NetworkReply

/-- An answered call. -/
inductive NetworkEvent
  | read (reply : StateStoreReadResult)
  | wrote (value : Bytes) (status : StateStoreWriteStatus)
  | lifecycle (request : LifecycleCall) (status : NetworkOperationStatus)
  deriving DecidableEq, Repr

/-- The stored bytes and the calls that were answered so far. -/
structure NetworkWorld where
  contents : ConnectivityContents
  events : List NetworkEvent := []

/-- The store writes as a whole or not at all and may fail at any call, the lifecycle
replies as it likes. -/
def networkEnvironment : Environment NetworkReply NetworkWorld := fun world request =>
  match request with
  | .read => fun reply next =>
      ReadsAs world.contents .credential kMaximumConnectivityCredentialEnvelopeBytes reply ∧
        next = ⟨world.contents, world.events ++ [.read reply]⟩
  | .write value => fun status next =>
      WritesAs allOrNothing world.contents .credential value next.contents status ∧
        next.events = world.events ++ [.wrote value status]
  | .lifecycle request => fun status next =>
      next = ⟨world.contents, world.events ++ [.lifecycle request status]⟩

def readRecord : NetworkProgram StateStoreReadResult := .call .read .done

def writeRecord (value : Bytes) : NetworkProgram StateStoreWriteStatus :=
  .call (.write value) .done

def callLifecycle (request : LifecycleCall) : NetworkProgram NetworkOperationStatus :=
  .call (.lifecycle request) .done

/-! ## Credential store -/

namespace ConnectivityCredentialStore

def load (expectedEpoch : UInt64) : NetworkProgram ConnectivityCredentialLoadResult := do
  let read ← readRecord
  return loadResult expectedEpoch read

/-- A write counts when the read back bytes are the written ones. -/
def write (credential : ConnectivityCredential) (epoch recordSequence : UInt64) :
    NetworkProgram ConnectivityCredentialWriteStatus :=
  match encodeConnectivityRecord credential epoch recordSequence with
  | .error failure => return failure
  | .ok encoded => do
      let writeStatus ← writeRecord encoded
      match writeStatus with
      | .writeError => return .writeFailure
      | .capacityError => return .capacityFailure
      | .success | .commitOutcomeUnknown => do
          let read ← readRecord
          return if read = .success encoded then .committed else .indeterminate

end ConnectivityCredentialStore

/-! ## Service -/

inductive NetworkStartupPath
  | selectionRequired
  | accessPointOnly
  | homeWifi
  | homeWifiSetup
  deriving DecidableEq, Repr

def decideNetworkStartup (mode : NetworkMode) (validHomeWifiCredentials : Bool)
    (explicitHomeWifiReconfiguration : Bool) : NetworkStartupPath :=
  match mode with
  | .apOnly => .accessPointOnly
  | .unselected => .selectionRequired
  | .homeWifi =>
      if explicitHomeWifiReconfiguration || !validHomeWifiCredentials then .homeWifiSetup
      else .homeWifi

structure NetworkConfigurationService where
  selectedMode : NetworkMode := .unselected
  storageEpoch : UInt64 := 0
  activeCredential : Option ConnectivityCredential := none
  candidate : Option ConnectivityCredential := none
  activeSoftApSsid : Bytes := []
  initialized : Bool := false
  setupFlowActive : Bool := false
  recoveryRequired : Bool := false
  deriving DecidableEq, Repr

namespace NetworkConfigurationService

open ConnectivityCredentialStore

def kMaximumRecordSequence : UInt64 := 18446744073709551615

/-- What a call of the service ends with. -/
abbrev Outcome := NetworkConfigurationStatus × NetworkConfigurationService

def mapLifecycleResult : NetworkOperationStatus → NetworkConfigurationStatus
  | .applied => .applied
  | .invalidInput => .invalidCredential
  | .busy | .failed => .transportFailure

/-- Its result is ignored by every caller. -/
def restoreActiveTransport (service : NetworkConfigurationService) :
    NetworkProgram NetworkConfigurationStatus :=
  match service.activeCredential with
  | none => return .transportFailure
  | some active =>
      match active.softApPassword with
      | none => return .transportFailure
      | some password =>
          if service.activeSoftApSsid = [] then return .transportFailure
          else do
            let named ← callLifecycle
              (.setAccessPointCredentials service.activeSoftApSsid password)
            if named ≠ .applied then return .transportFailure
            else do
              let started ← callLifecycle (.start service.selectedMode active.homeWifi)
              return mapLifecycleResult started

def writeNewCredential (service : NetworkConfigurationService)
    (credential : ConnectivityCredential) (epoch recordSequence : UInt64) :
    NetworkProgram Outcome := do
  let written ← write credential epoch recordSequence
  match written with
  | .committed => return (.applied, { service with activeCredential := some credential })
  | .indeterminate => return (.commitIndeterminate, service)
  | .writeFailure | .capacityFailure => return (.persistenceFailure, service)

/-- Generate the access point password and write it with the rest of the credential. -/
def writeGenerated (service : NetworkConfigurationService) (credential : ConnectivityCredential)
    (epoch recordSequence : UInt64) (canonicalDeviceName : Bytes)
    (randomSource : List (Block kSoftApPasswordLength)) : NetworkProgram Outcome :=
  match makeSoftApCredentials randomSource canonicalDeviceName with
  | none => return (.persistenceFailure, service)
  | some generated =>
      writeNewCredential service { credential with softApPassword := some generated.password }
        epoch recordSequence

def ensureCredential (service : NetworkConfigurationService) (storageEpoch : UInt64)
    (canonicalDeviceName : Bytes) (randomSource : List (Block kSoftApPasswordLength)) :
    NetworkProgram Outcome := do
  let loaded ← load storageEpoch
  match loaded with
  | .available record =>
      if record.schemaVersion = kConnectivityCredentialSchemaVersionV2 ∧
          record.credential.softApPassword.isSome then
        return (.applied, { service with activeCredential := some record.credential })
      else if record.recordSequence = kMaximumRecordSequence then
        return (.persistenceFailure, service)
      else
        writeGenerated service record.credential storageEpoch (record.recordSequence + 1)
          canonicalDeviceName randomSource
  | .notFound | .otherEpoch =>
      writeGenerated service {} storageEpoch 1 canonicalDeviceName randomSource
  | .capacityError => return (.credentialUnavailable, service)
  | .readError | .invalidRecord => return (.persistenceFailure, service)

/-- Leave the network off after a failed start. -/
def giveUp (service : NetworkConfigurationService) (status : NetworkConfigurationStatus) :
    NetworkProgram Outcome := do
  let _ ← callLifecycle .stop
  return (status, { service with initialized := false })

/-- The last part of a start, along the path that was decided. -/
def startAlong (service : NetworkConfigurationService) (active : ConnectivityCredential)
    (path : NetworkStartupPath) : NetworkProgram Outcome :=
  if path = .selectionRequired then
    return (.selectionRequired, { service with initialized := false })
  else do
    let service := { service with setupFlowActive := path = NetworkStartupPath.homeWifiSetup }
    let started ← callLifecycle
      (.start service.selectedMode (if path = .homeWifi then active.homeWifi else none))
    if started ≠ .applied then service.giveUp (mapLifecycleResult started)
    else return (.applied, { service with initialized := true })

/-- The part of a start that needs the active credential. -/
def startTransport (service : NetworkConfigurationService) (canonicalDeviceName : Bytes)
    (explicitHomeWifiReconfiguration : Bool) : NetworkProgram Outcome :=
  match deriveSoftApSsid canonicalDeviceName, service.activeCredential with
  | some softApSsid, some active =>
      match active.softApPassword with
      | none => service.giveUp .transportFailure
      | some password => do
          let named ← callLifecycle (.setAccessPointCredentials softApSsid password)
          if named ≠ .applied then service.giveUp .transportFailure
          else
            startAlong { service with activeSoftApSsid := softApSsid } active
              (decideNetworkStartup service.selectedMode active.homeWifi.isSome
                explicitHomeWifiReconfiguration)
  | _, _ => service.giveUp .transportFailure

/-- All three values of the mode are valid ones. -/
def start (service : NetworkConfigurationService) (selectedMode : NetworkMode)
    (storageEpoch : UInt64) (canonicalDeviceName : Bytes)
    (explicitHomeWifiReconfiguration : Bool)
    (randomSource : List (Block kSoftApPasswordLength)) : NetworkProgram Outcome :=
  if storageEpoch = 0 then return (.invalidMode, service)
  else
    let service := { service with
      selectedMode := selectedMode
      storageEpoch := storageEpoch
      candidate := none
      recoveryRequired := false
      setupFlowActive := false }
    if selectedMode = .unselected then
      return (.selectionRequired, { service with initialized := false })
    else do
      let (status, service) ← ensureCredential { service with activeCredential := none }
        storageEpoch canonicalDeviceName randomSource
      if status ≠ .applied then service.giveUp status
      else service.startTransport canonicalDeviceName explicitHomeWifiReconfiguration

def discardAfterFactoryReset (service : NetworkConfigurationService) :
    NetworkConfigurationService :=
  { service with
    activeCredential := none
    candidate := none
    activeSoftApSsid := []
    selectedMode := .unselected
    initialized := false
    setupFlowActive := false
    recoveryRequired := false }

def beginCandidate (service : NetworkConfigurationService) (ssid password : Bytes) : Outcome :=
  if ¬service.initialized ∨ ¬service.setupFlowActive ∨ service.selectedMode ≠ .homeWifi then
    (if service.initialized then .setupNotAvailable else .notInitialized, service)
  else
    match service.activeCredential with
    | none => (.persistenceFailure, service)
    | some active =>
        if active.softApPassword.isNone then (.persistenceFailure, service)
        else
          let candidate := { active with homeWifi := some ⟨ssid, password⟩ }
          if validateConnectivityCredential candidate ≠ .success then
            (.invalidCredential, service)
          else (.applied, { service with candidate := some candidate })

/-- Go on with the active credential. -/
def dropCandidate (service : NetworkConfigurationService) (status : NetworkConfigurationStatus) :
    NetworkProgram Outcome := do
  let _ ← service.restoreActiveTransport
  return (status, { service with candidate := none })

/-- Stop with the network in need of recovery. -/
def haltForRecovery (service : NetworkConfigurationService)
    (active : Option ConnectivityCredential) (status : NetworkConfigurationStatus) :
    NetworkProgram Outcome := do
  let _ ← callLifecycle .stop
  return (status, { service with
    activeCredential := active
    candidate := none
    initialized := false
    recoveryRequired := true })

/-- Run with the committed candidate.  A committed record carries its access point
password. -/
def adoptCommitted (service : NetworkConfigurationService) (committed : ConnectivityCredential) :
    NetworkProgram Outcome := do
  let named ← callLifecycle (.setAccessPointCredentials service.activeSoftApSsid
    (committed.softApPassword.getD []))
  if named ≠ .applied then service.haltForRecovery (some committed) .recoveryRequired
  else do
    let started ← callLifecycle (.start .homeWifi committed.homeWifi)
    if started ≠ .applied then service.haltForRecovery (some committed) .recoveryRequired
    else
      return (.applied, { service with
        activeCredential := some committed
        candidate := none
        setupFlowActive := false })

def commitCandidate (service : NetworkConfigurationService) (candidate : ConnectivityCredential)
    (nextSequence : UInt64) : NetworkProgram Outcome := do
  let written ← write candidate service.storageEpoch nextSequence
  match written with
  | .committed => service.adoptCommitted candidate
  | .indeterminate => service.haltForRecovery none .commitIndeterminate
  | .writeFailure | .capacityFailure => service.dropCandidate .persistenceFailure

def testCandidate (service : NetworkConfigurationService) : NetworkProgram Outcome :=
  match service.candidate, service.candidate.bind (·.homeWifi) with
  | some candidate, some home =>
      if ¬service.initialized ∨ ¬service.setupFlowActive then
        return (.candidateRejected, service)
      else do
        let tested ← callLifecycle (.testCandidate home)
        if tested ≠ .applied then service.dropCandidate .candidateRejected
        else do
          let current ← load service.storageEpoch
          match current with
          | .available record =>
              if record.recordSequence = kMaximumRecordSequence then
                service.dropCandidate .persistenceFailure
              else service.commitCandidate candidate (record.recordSequence + 1)
          | .notFound | .otherEpoch => service.commitCandidate candidate 1
          | .readError | .capacityError | .invalidRecord =>
              service.dropCandidate .persistenceFailure
  | _, _ => return (.candidateRejected, service)

def beginHomeWifiReconfiguration (service : NetworkConfigurationService)
    (canonicalDeviceName : Bytes) (randomSource : List (Block kSoftApPasswordLength)) :
    NetworkProgram Outcome :=
  if service.selectedMode ≠ .homeWifi ∨ service.storageEpoch = 0 then
    return (.setupNotAvailable, service)
  else service.start .homeWifi service.storageEpoch canonicalDeviceName true randomSource

def discardCandidate (service : NetworkConfigurationService) : NetworkConfigurationService :=
  { service with candidate := none }

end NetworkConfigurationService

/-! ## Entry points -/

inductive NetworkOperation
  | start (selectedMode : NetworkMode) (storageEpoch : UInt64) (canonicalDeviceName : Bytes)
      (explicitHomeWifiReconfiguration : Bool) (randomSource : List (Block kSoftApPasswordLength))
  | beginHomeWifiReconfiguration (canonicalDeviceName : Bytes)
      (randomSource : List (Block kSoftApPasswordLength))
  | beginCandidate (ssid password : Bytes)
  | testCandidate
  | discardCandidate
  | discardAfterFactoryReset
  deriving DecidableEq, Repr

/-- The two operations without a result count as applied. -/
def NetworkOperation.serve (service : NetworkConfigurationService) :
    NetworkOperation → NetworkProgram NetworkConfigurationService.Outcome
  | .start selectedMode storageEpoch canonicalDeviceName explicitHomeWifiReconfiguration
      randomSource =>
      service.start selectedMode storageEpoch canonicalDeviceName explicitHomeWifiReconfiguration
        randomSource
  | .beginHomeWifiReconfiguration canonicalDeviceName randomSource =>
      service.beginHomeWifiReconfiguration canonicalDeviceName randomSource
  | .beginCandidate ssid password => return service.beginCandidate ssid password
  | .testCandidate => service.testCandidate
  | .discardCandidate => return (.applied, service.discardCandidate)
  | .discardAfterFactoryReset => return (.applied, service.discardAfterFactoryReset)

end Fermentationsschrank

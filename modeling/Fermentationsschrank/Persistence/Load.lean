import Fermentationsschrank.Persistence.Coordinator

/-!
# Loading the stored run

What the coordinator does at boot.  The head alone decides which checkpoint is
current; a slot that is not referenced is only scanned for its revision.
-/

namespace Fermentationsschrank

open Envelope

inductive RunPersistenceLoadStatus
  | noPersistedRun
  | current
  | noActiveRun
  | fallbackRecovered
  | preparedInterrupted
  | notReconstructible
  | notReconstructibleOrphanedState
  | readFailed
  | capacityExceeded
  | unsupportedSchema
  | foreignEpoch
  | alreadyInitialized
  deriving DecidableEq, Repr

structure RunPersistenceLoadResult where
  status : RunPersistenceLoadStatus
  snapshot : Option RunPersistenceSnapshot := none
  deriving DecidableEq, Repr

/-! ## Checks on what was read -/

/-- A record that opens at all names its epoch and its schema. -/
def checkEnvelopeOrigin (bytes : Bytes) (epoch : UInt64) :
    Except RunPersistenceLoadStatus Unit :=
  match decodeEnvelope bytes with
  | .error _ => .ok ()
  | .ok envelope => do
      require (envelope.storageEpoch = epoch) .foreignEpoch
      require (knownRunPersistenceSchema envelope.schemaVersion) .unsupportedSchema

def acceptHead (epoch : UInt64) (bytes : Bytes) :
    Except RunPersistenceLoadStatus RunPersistenceHead := do
  checkEnvelopeOrigin bytes epoch
  orFail (decodeRunPersistenceHead bytes epoch) .notReconstructible

def acceptReferenced (epoch : UInt64) (reference : RunCheckpointReference) :
    StateStoreReadResult → Except RunPersistenceLoadStatus RunPersistenceRawRecord
  | .notFound => .error .notReconstructible
  | .capacityError => .error .capacityExceeded
  | .readError => .error .readFailed
  | .success bytes => do
      checkEnvelopeOrigin bytes epoch
      let record ← orFail (decodeRunPersistenceRecord bytes epoch) .notReconstructible
      require (runCheckpointReferenceMatches reference record reference.slot.toNat)
        .notReconstructible
      return record

def sameRunIdentity (left right : RunPersistenceSnapshot) : Bool :=
  left.variant ≠ .noActiveRun ∧ right.variant = left.variant ∧ left.activeRunId ≠ [] ∧
    left.activeRunId = right.activeRunId

/-- `==` on the optional parameters of the source. -/
def samePlannerParameters (left right : Option ActuatorPlannerParameters) : Bool :=
  match left, right with
  | none, none => true
  | some left, some right => left.eq right
  | _, _ => false

/-- One run has one set of planner parameters. -/
def plannerConsistent (left right : RunPersistenceSnapshot) : Bool :=
  !sameRunIdentity left right ||
    samePlannerParameters left.actuatorPlannerParametersSnapshot
      right.actuatorPlannerParametersSnapshot

/-- The revision after the last one is the exhausted counter zero. -/
def nextRevision (revision : UInt64) : UInt64 :=
  if revision = maxUInt64 then 0 else revision + 1

/-- The revision of a record nobody refers to; absent when it is none of ours. -/
def physicalRevision (epoch : UInt64) (bytes : Bytes) : Option UInt64 :=
  (openRecord kCheckpointRecordType bytes epoch).map (·.versionValue)

def raiseCheckpointHighWatermark (next checkpointRevision : UInt64) : UInt64 :=
  if next = 0 ∨ checkpointRevision = maxUInt64 then 0
  else max next (checkpointRevision + 1)

/-- The next revision with regard to the slot that is not current. -/
def scanOtherSlot (epoch next : UInt64) :
    StateStoreReadResult → Except RunPersistenceLoadStatus UInt64
  | .notFound => .ok next
  | .capacityError => .error .capacityExceeded
  | .readError => .error .readFailed
  | .success bytes =>
      match physicalRevision epoch bytes with
      | none => .error .notReconstructible
      | some revision => .ok (raiseCheckpointHighWatermark next revision)

/-! ## Loading -/

def loadFailed (coordinator : RunPersistenceCoordinator)
    (status : RunPersistenceLoadStatus) :
    RunPersistenceLoadResult × RunPersistenceCoordinator :=
  ({ status }, coordinator.enterBlockedIndeterminate)

def probeSlot (slot : ℕ) : RunStoreProgram (Except RunPersistenceLoadStatus Bool) := do
  match ← readSlot slot with
  | .success _ => pure (.ok true)
  | .notFound => pure (.ok false)
  | .capacityError => pure (.error .capacityExceeded)
  | .readError => pure (.error .readFailed)

/-- Without a head the store is empty or nothing in it can be trusted. -/
def loadWithoutHead (coordinator : RunPersistenceCoordinator) :
    RunStoreProgram (RunPersistenceLoadResult × RunPersistenceCoordinator) := do
  match ← probeSlot 0 with
  | .error status => pure (loadFailed coordinator status)
  | .ok firstPresent =>
      match ← probeSlot 1 with
      | .error status => pure (loadFailed coordinator status)
      | .ok secondPresent =>
          if firstPresent || secondPresent then
            pure (loadFailed coordinator .notReconstructibleOrphanedState)
          else
            pure ({ status := .noPersistedRun }, coordinator.withState .readyEmpty)

def loadReference (epoch : UInt64) (reference : RunCheckpointReference) :
    RunStoreProgram (Except RunPersistenceLoadStatus RunPersistenceRawRecord) := do
  let reply ← readSlot reference.slot.toNat
  pure (acceptReferenced epoch reference reply)

/-- The fallback is only compared here; a fallback that does not load is fine. -/
def fallbackConsistent (epoch : UInt64) (fallback : Option RunCheckpointReference)
    (record : RunPersistenceRawRecord) : RunStoreProgram Bool :=
  match fallback with
  | none => pure true
  | some reference => do
      match ← loadReference epoch reference with
      | .ok other => pure (plannerConsistent record.snapshot other.snapshot)
      | .error _ => pure true

def otherSlot (slot : ℕ) : ℕ := 1 - slot

/-- The state of a coordinator that has found its current checkpoint. -/
def installCurrent (coordinator : RunPersistenceCoordinator)
    (record : RunPersistenceRawRecord) (nextCheckpointRevision : UInt64) :
    RunPersistenceLoadResult × RunPersistenceCoordinator :=
  let installed := { coordinator with
    persistedIds := record.snapshot.persistedRunCommandIds
    nextCheckpointRevision }
  if record.snapshot.variant = .noActiveRun then
    (⟨.noActiveRun, some record.snapshot⟩, installed.withState .readyEmpty)
  else (⟨.current, some record.snapshot⟩, installed.withState .loadedActiveRun)

def loadCurrent (coordinator : RunPersistenceCoordinator) (head : RunPersistenceHead)
    (record : RunPersistenceRawRecord) :
    RunStoreProgram (RunPersistenceLoadResult × RunPersistenceCoordinator) := do
  let slot := head.current.slot.toNat
  let cached := coordinator.withSlotRecord slot record
  if ← fallbackConsistent coordinator.epoch head.fallback record then
    let reply ← readSlot (otherSlot slot)
    match scanOtherSlot coordinator.epoch (nextRevision record.checkpointRevision)
      reply with
    | .error status => pure (loadFailed cached status)
    | .ok next => pure (installCurrent cached record next)
  else pure (loadFailed cached .notReconstructible)

/-- The failures of a fallback that say more than the failure of the current
checkpoint. -/
def fallbackFailure (currentStatus : RunPersistenceLoadStatus) :
    RunPersistenceLoadStatus → RunPersistenceLoadStatus
  | .readFailed => .readFailed
  | .capacityExceeded => .capacityExceeded
  | .foreignEpoch => .foreignEpoch
  | .unsupportedSchema => .unsupportedSchema
  | _ => currentStatus

/-- The state of a coordinator that has lost its current checkpoint. -/
def installFallback (coordinator : RunPersistenceCoordinator) (head : RunPersistenceHead)
    (reference : RunCheckpointReference) (record : RunPersistenceRawRecord) :
    RunPersistenceLoadResult × RunPersistenceCoordinator :=
  let next := raiseCheckpointHighWatermark
    (raiseCheckpointHighWatermark
      (raiseCheckpointHighWatermark coordinator.nextCheckpointRevision
        record.checkpointRevision)
      head.current.checkpointRevision) reference.checkpointRevision
  (⟨.fallbackRecovered, some record.snapshot⟩,
    { coordinator.withSlotRecord reference.slot.toNat record with
      persistedIds := record.snapshot.persistedRunCommandIds
      nextCheckpointRevision := next
      state := .fallbackRecoveryPending })

def loadFallback (coordinator : RunPersistenceCoordinator) (head : RunPersistenceHead)
    (currentStatus : RunPersistenceLoadStatus) :
    RunStoreProgram (RunPersistenceLoadResult × RunPersistenceCoordinator) :=
  match head.fallback with
  | none => pure (loadFailed coordinator currentStatus)
  | some reference => do
      match ← loadReference coordinator.epoch reference with
      | .error status =>
          pure (loadFailed coordinator (fallbackFailure currentStatus status))
      | .ok record =>
          -- A tombstone cannot reconstruct the active run that was lost.
          if record.snapshot.variant = .noActiveRun then
            pure (loadFailed coordinator .notReconstructible)
          else pure (installFallback coordinator head reference record)

/-- The coordinator once it has read a head. -/
def withHead (coordinator : RunPersistenceCoordinator) (head : RunPersistenceHead) :
    RunPersistenceCoordinator :=
  { coordinator with
    currentHead := some head
    nextHeadRevision := nextRevision head.revision }

def loadFromHead (coordinator : RunPersistenceCoordinator) (bytes : Bytes) :
    RunStoreProgram (RunPersistenceLoadResult × RunPersistenceCoordinator) :=
  match acceptHead coordinator.epoch bytes with
  | .error status => pure (loadFailed coordinator status)
  | .ok head => do
      let headed := withHead coordinator head
      if head.state = .prepared then pure (loadFailed headed .preparedInterrupted)
      else
        match ← loadReference coordinator.epoch head.current with
        | .ok record => loadCurrent headed head record
        | .error status => loadFallback headed head status

/-- The coordinator as every boot starts it: monotonic time and cached records
never cross the boot. -/
def beginLoad (coordinator : RunPersistenceCoordinator) : RunPersistenceCoordinator :=
  { coordinator with
    schedule := coordinator.schedule.reset
    currentHead := none
    slot0 := none
    slot1 := none
    persistedIds := []
    pendingR1CheckpointRevision := none
    pendingR1RunRevision := none }

def loadAndInitialize (coordinator : RunPersistenceCoordinator) :
    RunStoreProgram (RunPersistenceLoadResult × RunPersistenceCoordinator) :=
  if coordinator.commandBorrowed then
    pure ({ status := .alreadyInitialized }, coordinator)
  else if coordinator.state ≠ .uninitialized then
    pure ({ status := .alreadyInitialized }, { coordinator with
      pendingR1CheckpointRevision := none
      pendingR1RunRevision := none })
  else do
    match ← readHead with
    | .notFound => loadWithoutHead (beginLoad coordinator)
    | .capacityError => pure (loadFailed (beginLoad coordinator) .capacityExceeded)
    | .readError => pure (loadFailed (beginLoad coordinator) .readFailed)
    | .success bytes => loadFromHead (beginLoad coordinator) bytes

end Fermentationsschrank

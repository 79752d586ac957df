import Fermentationsschrank.Persistence.Load

/-!
# Writing a snapshot

The write path shared by all operations.  Everything that can fail without the
store is decided first and yields a `CheckpointTransaction`; the transaction
then touches the store in a fixed order.  A periodic checkpoint writes its slot
and the committed head, every other mutation announces itself with a prepared
head before.
-/

namespace Fermentationsschrank

open Envelope

/-! ## Requests -/

inductive RunPersistenceFallbackMode
  | useStandardFallback
  | setExplicitReference
  | clearFallback
  deriving DecidableEq, Repr

structure RunPersistenceFallbackDirective where
  mode : RunPersistenceFallbackMode := .useStandardFallback
  reference : Option RunCheckpointReference := none
  deriving DecidableEq, Repr

/-- The revisions a prepared head remembers of the state before. -/
structure RunPersistenceBefore where
  runRevision : UInt32
  transitionSequence : UInt32
  deriving DecidableEq, Repr

def RunPersistenceBefore.ofState (state : RunCommandState) : RunPersistenceBefore :=
  ⟨state.runRevision, state.processState.transitionSequence⟩

/-- What the source passes from its operations to the write core. -/
structure SnapshotWrite where
  snapshot : RunPersistenceSnapshot
  time : RunCheckpointTime
  periodic : Bool := false
  before : RunPersistenceBefore
  mutationKind : RunPersistenceMutationKind
  commandId : Option CommandId := none
  targetSlotOverride : Option ℕ := none
  fallbackDirective : RunPersistenceFallbackDirective := {}
  rollbackState : RunPersistenceCoordinatorState
  deriving DecidableEq, Repr

def isActiveFermentingSnapshot (snapshot : RunPersistenceSnapshot) : Bool :=
  snapshot.variant ≠ .noActiveRun ∧ snapshot.processState.state = .fermenting

def clearFallbackAllowed (snapshot : RunPersistenceSnapshot) : Bool :=
  snapshot.variant = .noActiveRun ∨ snapshot.processState.state = .fault

/-! ## Preparation -/

namespace RunPersistenceCoordinator

variable (coordinator : RunPersistenceCoordinator) (write : SnapshotWrite)

def previousCommandIdHighWater : Option CommandId :=
  match coordinator.currentHead with
  | some head => head.commandIdHighWater
  | none => if coordinator.state = .readyEmpty then some 0 else none

/-- The high water the new head carries.  A command raises it. -/
def nextCommandIdHighWater : Except RunPersistenceResult (Option CommandId) :=
  let invalid := coordinator.result .blocked .candidateApply .invalidProjection
  match write.commandId with
  | none => .ok coordinator.previousCommandIdHighWater
  | some id => do
      let previous ← orFail coordinator.previousCommandIdHighWater invalid
      require (id ≠ 0) invalid
      require (previous ≠ maxUInt64) (coordinator.result .counterOverflow .candidateApply)
      require (previous = 0 ∨ previous < id) invalid
      return some (max previous id)

/-- The checks made before the coordinator counts as busy. -/
def admitWrite : Except RunPersistenceResult (Option CommandId) := do
  require (!(isActiveFermentingSnapshot write.snapshot &&
    write.time.utcUnixSeconds.isNone))
    (coordinator.result .blocked .candidateApply .trustedAbsoluteTimeRequired)
  require (coordinator.nextCheckpointRevision ≠ 0 ∧ coordinator.nextHeadRevision ≠ 0 ∧
    (write.periodic ∨ coordinator.nextHeadRevision ≠ maxUInt64))
    (coordinator.result .counterOverflow)
  let schedule := coordinator.schedule.validate write.time.monotonicMillis
  require (schedule ≠ .timeWentBackwards) (coordinator.result .timeWentBackwards)
  require (schedule = .success) (coordinator.result .invalidDecision)
  coordinator.nextCommandIdHighWater write

/-- The slot that is not current, unless the operation names one. -/
def targetSlot : ℕ :=
  write.targetSlotOverride.getD
    ((coordinator.currentSlot.map otherSlot).getD 0)

def sameCurrentSlot : Bool := coordinator.currentSlot = some (coordinator.targetSlot write)

def explicitFallbackValid : Bool :=
  write.fallbackDirective.mode = .setExplicitReference ∧
    write.fallbackDirective.reference.any fun reference =>
      reference.slot.toNat ≠ coordinator.targetSlot write ∧
        coordinator.currentHead.bind (·.fallback) = some reference

def directiveValid : Bool :=
  match write.fallbackDirective.mode with
  | .useStandardFallback => write.fallbackDirective.reference.isNone
  | .clearFallback =>
      write.fallbackDirective.reference.isNone && clearFallbackAllowed write.snapshot
  | .setExplicitReference => coordinator.explicitFallbackValid write

/-- Only the recovery from a fallback may overwrite the current slot. -/
def validFallbackRecoverySameSlot : Bool :=
  decide (¬ write.periodic ∧ write.rollbackState = .fallbackRecoveryPending ∧
    write.mutationKind = .recovery ∧ coordinator.sameCurrentSlot write ∧
    (coordinator.currentHead.bind (·.fallback)).isSome) &&
  match write.fallbackDirective.mode with
  | .clearFallback => clearFallbackAllowed write.snapshot
  | .setExplicitReference => coordinator.explicitFallbackValid write
  | .useStandardFallback => false

def targetAccepted : Bool :=
  coordinator.targetSlot write ≤ 1 ∧ coordinator.directiveValid write ∧
    (¬ coordinator.sameCurrentSlot write ∨
      coordinator.validFallbackRecoverySameSlot write)

inductive SnapshotRecordPreparation
  | invalidSnapshot
  | capacityExceeded

def prepareSnapshotRecord : Except SnapshotRecordPreparation RunPersistenceRawRecord :=
  match encodeRunPersistenceSnapshot write.snapshot with
  | .error _ => .error .invalidSnapshot
  | .ok payload =>
      match encodeEnvelope {
          recordTypeId := kCheckpointRecordType
          schemaVersion := kCurrentRunPersistenceSchema
          storageEpoch := coordinator.epoch
          versionValue := coordinator.nextCheckpointRevision
          utcUnixSeconds := write.time.utcUnixSeconds
          payload } kMaximumCheckpointRecordBytes with
      | .error _ => .error .capacityExceeded
      | .ok bytes => .ok {
          bytes
          snapshot := write.snapshot
          checkpointRevision := coordinator.nextCheckpointRevision
          utcUnixSeconds := write.time.utcUnixSeconds }

/-- The fallback of the new head: a tombstone and a first head have none. -/
def nextFallback : Option RunCheckpointReference :=
  match coordinator.currentHead with
  | none => none
  | some head =>
      if write.snapshot.variant = .noActiveRun then none
      else
        match write.fallbackDirective.mode with
        | .setExplicitReference => write.fallbackDirective.reference
        | .useStandardFallback => some head.current
        | .clearFallback => none

def committedHead (reference : RunCheckpointReference) (highWater : Option CommandId) :
    RunPersistenceHead where
  state := .committed
  revision :=
    if write.periodic then coordinator.nextHeadRevision
    else coordinator.nextHeadRevision + 1
  current := reference
  fallback := coordinator.nextFallback write
  commandIdHighWater := highWater

def preparedHead (reference : RunCheckpointReference) (highWater : Option CommandId) :
    RunPersistenceHead where
  state := .prepared
  revision := coordinator.nextHeadRevision
  target := reference
  mutationKind := write.mutationKind
  commandId := write.commandId
  oldRunRevision := write.before.runRevision
  newRunRevision := write.snapshot.runRevision
  oldTransitionSequence := write.before.transitionSequence
  newTransitionSequence := write.snapshot.processState.transitionSequence
  preparedCurrent := coordinator.currentHead.map (·.current)
  preparedFallback := coordinator.currentHead.bind (·.fallback)
  commandIdHighWater := highWater

end RunPersistenceCoordinator

/-- A write of which only the store can still fail. -/
structure CheckpointTransaction where
  target : ℕ
  record : RunPersistenceRawRecord
  preparedBytes : Option Bytes
  head : RunPersistenceHead
  committedBytes : Bytes
  deriving DecidableEq, Repr

namespace RunPersistenceCoordinator

variable (coordinator : RunPersistenceCoordinator) (write : SnapshotWrite)

/-- Both heads are encoded before the first store access. -/
def encodeHeads (record : RunPersistenceRawRecord) (highWater : Option CommandId) :
    Except RunPersistenceResult CheckpointTransaction := do
  let target := coordinator.targetSlot write
  let rolledBack := coordinator.withState write.rollbackState
  let reference := makeRunCheckpointReference target record coordinator.epoch
  let preparedBytes := encodeRunPersistenceHead
    (coordinator.preparedHead write reference highWater) coordinator.epoch
  require (write.periodic || preparedBytes.isSome)
    (rolledBack.result .capacityExceeded .preparedHead .codecError)
  let head := coordinator.committedHead write reference highWater
  let committedBytes ← orFail (encodeRunPersistenceHead head coordinator.epoch)
    (rolledBack.result .capacityExceeded .committedHead .codecError)
  return {
    target, record, head, committedBytes
    preparedBytes := if write.periodic then none else preparedBytes }

/-- The checks made while the coordinator is busy; they roll back when they
fail. -/
def planTransaction (highWater : Option CommandId) :
    Except RunPersistenceResult CheckpointTransaction := do
  let rolledBack := coordinator.withState write.rollbackState
  require (coordinator.targetAccepted write)
    (rolledBack.result .invalidDecision .candidateApply .invalidProjection)
  match coordinator.prepareSnapshotRecord write with
  | .error .invalidSnapshot =>
      .error (rolledBack.result .invalidDecision .checkpointSlot .codecError)
  | .error .capacityExceeded =>
      .error (rolledBack.result .capacityExceeded .checkpointSlot .codecError)
  | .ok record => coordinator.encodeHeads write record highWater

/-! ## Store access -/

def writeFailure (outcome : RunPersistenceStoreWriteResult) (step : RunPersistenceStep)
    (durability : RunPersistenceDurability) : RunPersistenceResult :=
  match outcome with
  | .indeterminate =>
      coordinator.result .persistenceIndeterminate step .storeOutcomeUnknown
        (if durability = .unchanged then .mayHaveChanged else .changed)
  | .capacityError =>
      coordinator.result .capacityExceeded step .storeCapacityError durability
  | .notWritten => coordinator.result .writeFailed step .storeNotWritten durability
  | .written | .writeError =>
      coordinator.result .writeFailed step .storeWriteError durability

/-- A failed write that may be repeated, unless its outcome is unknown. -/
def recoverableFailure (outcome : RunPersistenceStoreWriteResult)
    (rollbackState : RunPersistenceCoordinatorState) (step : RunPersistenceStep)
    (durability : RunPersistenceDurability) :
    RunPersistenceResult × RunPersistenceCoordinator :=
  let after :=
    if outcome = .indeterminate then coordinator.enterBlockedIndeterminate
    else coordinator.withState rollbackState
  (after.writeFailure outcome step durability, after)

/-- A failed write after a prepared head ends the boot. -/
def finalFailure (outcome : RunPersistenceStoreWriteResult) (step : RunPersistenceStep) :
    RunPersistenceResult × RunPersistenceCoordinator :=
  let after := coordinator.enterBlockedIndeterminate
  (after.writeFailure outcome step .changed, after)

/-- The state after a completed slot write. -/
def afterSlotWrite (transaction : CheckpointTransaction) : RunPersistenceCoordinator :=
  { coordinator.withSlotRecord transaction.target transaction.record with
    nextCheckpointRevision := nextRevision transaction.record.checkpointRevision }

/-- The state and the result after a completed transaction. -/
def completeWrite (transaction : CheckpointTransaction) :
    RunPersistenceResult × RunPersistenceCoordinator :=
  let snapshot := write.snapshot
  let confirmed := coordinator.schedule.confirm snapshot.checkpointMonotonicMillis
  let after := { coordinator with
    currentHead := some { transaction.head with bytes := transaction.committedBytes }
    nextHeadRevision := nextRevision transaction.head.revision
    schedule := confirmed.2
    state := if snapshot.variant = .noActiveRun then .readyEmpty else .ready }
  if confirmed.1 = .success then
    (after.result (if write.periodic then .checkpointWritten else .applied) .committedHead
      .none .changed, after)
  else
    let blocked := after.enterBlockedIndeterminate
    (blocked.result .timeWentBackwards .committedHead .invalidProjection .changed, blocked)

/-- Two writes: the slot, then the head that names it. -/
def writePeriodic (transaction : CheckpointTransaction) (oldSlot : Option Bytes) :
    RunStoreProgram (RunPersistenceResult × RunPersistenceCoordinator) := do
  let oldHead := coordinator.currentHead.map (·.bytes)
  match ← writeSlotExact transaction.target transaction.record.bytes oldSlot with
  | .written =>
      let stored := coordinator.afterSlotWrite transaction
      match ← writeHeadExact transaction.committedBytes oldHead with
      | .written => pure (stored.completeWrite write transaction)
      | failed =>
          pure (stored.recoverableFailure failed write.rollbackState .committedHead .changed)
  | failed =>
      pure (coordinator.recoverableFailure failed write.rollbackState .checkpointSlot
        .unchanged)

/-- Three writes: the announcement, the slot, the head that names it. -/
def writePrepared (transaction : CheckpointTransaction) (preparedBytes : Bytes)
    (oldSlot : Option Bytes) :
    RunStoreProgram (RunPersistenceResult × RunPersistenceCoordinator) := do
  let oldHead := coordinator.currentHead.map (·.bytes)
  match ← writeHeadExact preparedBytes oldHead with
  | .written =>
      match ← writeSlotExact transaction.target transaction.record.bytes oldSlot with
      | .written =>
          let stored := coordinator.afterSlotWrite transaction
          match ← writeHeadExact transaction.committedBytes (some preparedBytes) with
          | .written => pure (stored.completeWrite write transaction)
          | failed => pure (stored.finalFailure failed .committedHead)
      | failed => pure (coordinator.finalFailure failed .checkpointSlot)
  | failed =>
      pure (coordinator.recoverableFailure failed write.rollbackState .preparedHead
        .unchanged)

/-- What the target slot holds before it is written; `none` when it cannot be
read. -/
def physicalTarget : StateStoreReadResult → Option (Option Bytes)
  | .success value => some (some value)
  | .notFound => some none
  | .readError | .capacityError => none

def targetUnreadable (reply : StateStoreReadResult) :
    RunPersistenceResult × RunPersistenceCoordinator :=
  let blocked := coordinator.enterBlockedIndeterminate
  (blocked.result
    (if reply = .capacityError then .capacityExceeded else .persistenceIndeterminate)
    .checkpointSlot .storeReadError, blocked)

def writeSnapshotTransaction (transaction : CheckpointTransaction) :
    RunStoreProgram (RunPersistenceResult × RunPersistenceCoordinator) := do
  let reply ← readSlot transaction.target
  match physicalTarget reply with
  | none => pure (coordinator.targetUnreadable reply)
  | some oldSlot =>
      match transaction.preparedBytes with
      | none => coordinator.writePeriodic write transaction oldSlot
      | some preparedBytes =>
          coordinator.writePrepared write transaction preparedBytes oldSlot

def writeSnapshotCore :
    RunStoreProgram (RunPersistenceResult × RunPersistenceCoordinator) :=
  match coordinator.admitWrite write with
  | .error refused => pure (refused, coordinator)
  | .ok highWater =>
      match coordinator.planTransaction write highWater with
      | .error refused => pure (refused, coordinator.withState write.rollbackState)
      | .ok transaction => coordinator.writeSnapshotTransaction write transaction

end RunPersistenceCoordinator

end Fermentationsschrank

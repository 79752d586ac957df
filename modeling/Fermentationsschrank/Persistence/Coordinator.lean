import Fermentationsschrank.Persistence.HeadCodec
import Fermentationsschrank.Run.CommandDecision
import Fermentationsschrank.Storage.StateStore

/-!
# Run persistence coordinator

The state of the coordinator that owns the stored run, the results it reports,
and its access to the three keys of the store.
-/

namespace Fermentationsschrank

/-! ## The three records -/

/-- The head and the two checkpoint slots. -/
inductive RunStoreKey
  | rh0
  | rc0
  | rc1
  deriving DecidableEq, Repr

def headKey : RunStoreKey := .rh0

def slotKey (slot : ℕ) : RunStoreKey := if slot = 0 then .rc0 else .rc1

abbrev RunStore := StoreContents RunStoreKey

abbrev RunStoreEnvironment := StoreEnvironment RunStoreKey
abbrev RunStoreProgram := StoreProgram RunStoreKey

inductive RunPersistenceStoreWriteResult
  | written
  | notWritten
  | writeError
  | capacityError
  | indeterminate
  deriving DecidableEq, Repr

/-- What a readback says about a write whose outcome is unknown. -/
def resolveReadback (bytes : Bytes) (old : Option Bytes) :
    StateStoreReadResult → RunPersistenceStoreWriteResult
  | .success value =>
      if value = bytes then .written
      else if old = some value then .notWritten
      else .indeterminate
  | .notFound => if old.isNone then .notWritten else .indeterminate
  | .readError | .capacityError => .indeterminate

def writeExact (key : RunStoreKey) (bytes : Bytes) (old : Option Bytes) (maxBytes : ℕ) :
    RunStoreProgram RunPersistenceStoreWriteResult := do
  match ← writeStore key bytes with
  | .success => pure .written
  | .writeError => pure .writeError
  | .capacityError => pure .capacityError
  | .commitOutcomeUnknown =>
      let readback ← readStore key maxBytes
      pure (resolveReadback bytes old readback)

def readHead : RunStoreProgram StateStoreReadResult :=
  readStore headKey kMaximumHeadRecordBytes

def readSlot (slot : ℕ) : RunStoreProgram StateStoreReadResult :=
  readStore (slotKey slot) kMaximumCheckpointRecordBytes

def writeHeadExact (bytes : Bytes) (old : Option Bytes) :
    RunStoreProgram RunPersistenceStoreWriteResult :=
  writeExact headKey bytes old kMaximumHeadRecordBytes

def writeSlotExact (slot : ℕ) (bytes : Bytes) (old : Option Bytes) :
    RunStoreProgram RunPersistenceStoreWriteResult :=
  writeExact (slotKey slot) bytes old kMaximumCheckpointRecordBytes

/-! ## Checkpoint schedule -/

structure RunCheckpointSchedule where
  intervalMinutes : UInt16 := kDefaultRunCheckpointIntervalMinutes
  lastConfirmedMillis : Option UInt64 := none
  deriving DecidableEq, Repr

inductive RunCheckpointScheduleStatus
  | success
  | notDue
  | timeWentBackwards
  | invalidInterval
  deriving DecidableEq, Repr

namespace RunCheckpointSchedule

def intervalValid (schedule : RunCheckpointSchedule) : Bool :=
  kMinimumRunCheckpointIntervalMinutes ≤ schedule.intervalMinutes ∧
    schedule.intervalMinutes ≤ kMaximumRunCheckpointIntervalMinutes

def validate (schedule : RunCheckpointSchedule) (monotonicMillis : UInt64) :
    RunCheckpointScheduleStatus :=
  if !schedule.intervalValid then .invalidInterval
  else if schedule.lastConfirmedMillis.any (monotonicMillis < ·) then .timeWentBackwards
  else .success

def confirm (schedule : RunCheckpointSchedule) (monotonicMillis : UInt64) :
    RunCheckpointScheduleStatus × RunCheckpointSchedule :=
  match schedule.validate monotonicMillis with
  | .success => (.success, { schedule with lastConfirmedMillis := some monotonicMillis })
  | status => (status, schedule)

def due (schedule : RunCheckpointSchedule) (monotonicMillis : UInt64) :
    RunCheckpointScheduleStatus :=
  if !schedule.intervalValid then .invalidInterval
  else
    match schedule.lastConfirmedMillis with
    | none => .notDue
    | some last =>
        if monotonicMillis < last then .timeWentBackwards
        else if schedule.intervalMinutes.toUInt64 * 60000 ≤ monotonicMillis - last then
          .success
        else .notDue

def reset (schedule : RunCheckpointSchedule) : RunCheckpointSchedule :=
  { schedule with lastConfirmedMillis := none }

end RunCheckpointSchedule

/-! ## Results -/

inductive RunPersistenceCoordinatorState
  | uninitialized
  | readyEmpty
  | loadedActiveRun
  | ready
  | busy
  | blockedIndeterminate
  | fallbackRecoveryPending
  | persistenceCommittedApplyFailed
  deriving DecidableEq, Repr

inductive RunPersistenceResultStatus
  | applied
  | checkpointWritten
  | alreadyProcessed
  | alreadyPersisted
  | notEligible
  | notAllowedInState
  | notInitialized
  | recoveryPending
  | busy
  | invalidDecision
  | staleDecision
  | timeMismatch
  | timeWentBackwards
  | counterOverflow
  | writeFailed
  | capacityExceeded
  | persistenceIndeterminate
  | persistenceCommittedApplyFailed
  | blocked
  | notDue
  | noActiveRun
  deriving DecidableEq, Repr

inductive RunPersistenceStep
  | none
  | candidateApply
  | preparedHead
  | checkpointSlot
  | committedHead
  | ramApply
  | loadHead
  | loadCurrent
  | loadFallback
  deriving DecidableEq, Repr

inductive RunPersistenceTechnicalReason
  | none
  | storeWriteError
  | storeCapacityError
  | storeReadError
  | storeNotWritten
  | storeOutcomeUnknown
  | codecError
  | invalidProjection
  | trustedAbsoluteTimeRequired
  deriving DecidableEq, Repr

inductive RunPersistenceDurability
  | unchanged
  | changed
  | mayHaveChanged
  deriving DecidableEq, Repr

structure RunPersistenceResult where
  status : RunPersistenceResultStatus
  step : RunPersistenceStep := .none
  technicalReason : RunPersistenceTechnicalReason := .none
  durability : RunPersistenceDurability := .unchanged
  coordinatorState : RunPersistenceCoordinatorState
  effects : List CommandEffect := []
  messages : List ProcessMessage := []
  sensorSelectionEvent : Option SensorSelectionEvent := none
  sensorSelectionNotice : Option SensorSelectionNotice := none
  startSensorSelectionNotice : Option StartSensorSelectionNotice := none
  committedControlContextTransition : Option CommittedControlContextTransition := none
  deriving DecidableEq, Repr

/-! ## The coordinator -/

structure RunPersistenceCoordinator where
  epoch : UInt64
  schedule : RunCheckpointSchedule := {}
  commandBorrowed : Bool := false
  state : RunPersistenceCoordinatorState := .uninitialized
  slot0 : Option RunPersistenceRawRecord := none
  slot1 : Option RunPersistenceRawRecord := none
  currentHead : Option RunPersistenceHead := none
  persistedIds : List CommandId := []
  nextCheckpointRevision : UInt64 := 1
  nextHeadRevision : UInt64 := 1
  pendingR1CheckpointRevision : Option UInt64 := none
  pendingR1RunRevision : Option UInt32 := none
  deriving DecidableEq, Repr

namespace RunPersistenceCoordinator

def slotRecord (coordinator : RunPersistenceCoordinator) (slot : ℕ) :
    Option RunPersistenceRawRecord :=
  if slot = 0 then coordinator.slot0 else coordinator.slot1

def withSlotRecord (coordinator : RunPersistenceCoordinator) (slot : ℕ)
    (record : RunPersistenceRawRecord) : RunPersistenceCoordinator :=
  if slot = 0 then { coordinator with slot0 := some record }
  else { coordinator with slot1 := some record }

def withState (coordinator : RunPersistenceCoordinator)
    (state : RunPersistenceCoordinatorState) : RunPersistenceCoordinator :=
  { coordinator with state }

def enterBlockedIndeterminate (coordinator : RunPersistenceCoordinator) :
    RunPersistenceCoordinator := coordinator.withState .blockedIndeterminate

def result (coordinator : RunPersistenceCoordinator) (status : RunPersistenceResultStatus)
    (step : RunPersistenceStep := .none) (reason : RunPersistenceTechnicalReason := .none)
    (durability : RunPersistenceDurability := .unchanged) : RunPersistenceResult where
  status := status
  step := step
  technicalReason := reason
  durability := durability
  coordinatorState := coordinator.state

/-- The result of every operation a state does not admit. -/
def unavailableResult (coordinator : RunPersistenceCoordinator) : RunPersistenceResult :=
  coordinator.result <| match coordinator.state with
    | .uninitialized => .notInitialized
    | .busy => .busy
    | .persistenceCommittedApplyFailed => .persistenceCommittedApplyFailed
    | .loadedActiveRun | .fallbackRecoveryPending => .recoveryPending
    | .readyEmpty | .ready | .blockedIndeterminate => .blocked

def borrowedBusyResult (coordinator : RunPersistenceCoordinator) : RunPersistenceResult :=
  { coordinator.result .busy with coordinatorState := .busy }

def currentSlot (coordinator : RunPersistenceCoordinator) : Option ℕ :=
  coordinator.currentHead.map (·.current.slot.toNat)

/-- The record the head names, as it was read or written in this boot. -/
def currentRecord (coordinator : RunPersistenceCoordinator) :
    Option RunPersistenceRawRecord :=
  coordinator.currentSlot.bind coordinator.slotRecord

/-- The committed high water of the command ids; a proven empty store starts at
zero. -/
def commandIdHighWater (coordinator : RunPersistenceCoordinator) : Option CommandId :=
  match coordinator.state, coordinator.currentHead with
  | .readyEmpty, none => some 0
  | .ready, some head | .readyEmpty, some head | .loadedActiveRun, some head
  | .fallbackRecoveryPending, some head =>
      if head.state = .committed then head.commandIdHighWater else none
  | _, _ => none

@[simp]
theorem slotRecord_withSlotRecord (coordinator : RunPersistenceCoordinator) (slot : ℕ)
    (record : RunPersistenceRawRecord) :
    (coordinator.withSlotRecord slot record).slotRecord slot = some record := by
  unfold withSlotRecord slotRecord
  split <;> rfl

@[simp]
theorem withSlotRecord_currentHead (coordinator : RunPersistenceCoordinator) (slot : ℕ)
    (record : RunPersistenceRawRecord) :
    (coordinator.withSlotRecord slot record).currentHead = coordinator.currentHead := by
  unfold withSlotRecord
  split <;> rfl

@[simp]
theorem withSlotRecord_epoch (coordinator : RunPersistenceCoordinator) (slot : ℕ)
    (record : RunPersistenceRawRecord) :
    (coordinator.withSlotRecord slot record).epoch = coordinator.epoch := by
  unfold withSlotRecord
  split <;> rfl

end RunPersistenceCoordinator

end Fermentationsschrank

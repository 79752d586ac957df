import Fermentationsschrank.Core.Runs
import Fermentationsschrank.Guarantees.DeviceRuns
import Fermentationsschrank.Recovery.LiveState
import Fermentationsschrank.Run.CommandFacts

/-!
# Runs of a live device

Within one boot the device performs its operations on one live state.  Commands and
recoveries are decided on the state they are performed on; everything else is checked
by the operation itself.
-/

namespace Fermentationsschrank

open RunPersistenceCoordinator

/-- A device together with the live state of its run. -/
structure LiveDevice where
  store : RunStore
  coordinator : RunPersistenceCoordinator
  current : RunCommandState

/-- A step of the boot: the operation, if there was one, with the coordinator and the
live state before and after it. -/
structure LiveEvent where
  operation : Option RunOperation
  coordinator : RunPersistenceCoordinator
  before : RunCommandState
  after : RunCommandState

/-- A candidate of the recovery is derived from the live state. -/
def RecoveredFrom (current candidate : RunCommandState) : Prop :=
  (∃ time, reevaluatedCandidate current time = .ok candidate) ∨
    ∃ runRevision episodeRevision segment input model,
      weightedCandidate current runRevision episodeRevision segment input model =
        .ok candidate

/-- What the application passes to an operation is decided on the live state. -/
def RunOperation.DecidedOn (operation : RunOperation) (current : RunCommandState) : Prop :=
  match operation with
  | .persistCommand decision _ _ | .persistFreshStartCommand decision _ _ _
  | .persistBorrowedCommand decision _ _ _ =>
      ∃ request : CommandRequest, decision = request.decide current
  | .persistRecoveryCandidate candidate _ _ => RecoveredFrom current candidate
  | _ => True

/-- An operation of the coordinator, or a command that is applied without it. -/
inductive LiveStep (environment : RunStoreEnvironment) (device : LiveDevice) :
    LiveEvent → LiveDevice → Prop
  | operate {operation outcome store} (hdecided : operation.DecidedOn device.current)
      (hrun : Program.Finishes environment
        (operation.perform device.coordinator device.current) device.store outcome store) :
      LiveStep environment device
        ⟨some operation, device.coordinator, device.current, outcome.current⟩
        ⟨store, outcome.coordinator, outcome.current⟩
  | command {request : CommandRequest} {after}
      (hunrecorded : isPersistedRunCommand (request.decide device.current).kind = false)
      (happlied : applyRunCommand device.current (request.decide device.current)
        (.exact device.current) = (.applied, after)) :
      LiveStep environment device ⟨none, device.coordinator, device.current, after⟩
        ⟨device.store, device.coordinator, after⟩

/-- The live state of a boot: idle, or as it was restored from a checkpoint. -/
def LiveDevice.Loaded (device : LiveDevice) : Prop :=
  (∃ processState, device.current = { processState }) ∨
    ∃ snapshot, restoreRunPersistenceSnapshot snapshot = some device.current

/-! ## Runs without errors -/

namespace LiveDevice

variable (device : LiveDevice) (operation : RunOperation)

/-- An operation on a store without errors. -/
def operate : LiveDevice :=
  let performed := (operation.perform device.coordinator device.current).run faultlessStore
    device.store
  ⟨performed.2, performed.1.coordinator, performed.1.current⟩

/-- The step that operation takes. -/
def event : LiveEvent :=
  ⟨some operation, device.coordinator, device.current, (device.operate operation).current⟩

variable {device operation}

theorem step_operate (unknown : UnknownOutcome) (h : operation.DecidedOn device.current) :
    LiveStep (stateStore unknown) device (device.event operation)
      (device.operate operation) :=
  .operate h (Program.finishes_run (faultlessStore_stateStore unknown) _ _)

end LiveDevice

/-- The device in standby, after its first load. -/
def freshLiveDevice : LiveDevice := ⟨freshDevice.store, freshDevice.coordinator, standby⟩

theorem loaded_freshLiveDevice : freshLiveDevice.Loaded := .inl ⟨_, rfl⟩

end Fermentationsschrank

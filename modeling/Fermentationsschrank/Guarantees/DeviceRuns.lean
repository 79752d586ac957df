import Fermentationsschrank.Persistence.TransactionFacts
import Fermentationsschrank.Recovery.OperationEnds

/-!
# Runs of a device

A device is a store with the coordinator of the current boot.  It loads, performs
operations on any live state, loses power and boots again, in any order.  The
invariant `Device.Synced` says that a coordinator that may write knows the stored
head.
-/

namespace Fermentationsschrank

open RunPersistenceCoordinator

structure Device where
  store : RunStore
  coordinator : RunPersistenceCoordinator

/-- A store nothing has been written to. -/
def emptyStore : RunStore := fun _ => none

/-- A device at boot. -/
def Device.boot (store : RunStore) (epoch : UInt64) (schedule : RunCheckpointSchedule) :
    Device := ⟨store, { epoch, schedule }⟩

inductive DeviceEvent
  | loaded (result : RunPersistenceLoadResult)
  | operated (operation : RunOperation) (outcome : RunPersistenceOutcome)
  | rebooted
  | borrowed

/-- What may happen next.  Losing power while loading is a reboot, since loading
does not write. -/
inductive DeviceStep (environment : RunStoreEnvironment) (device : Device) :
    DeviceEvent → Device → Prop
  | load {result after store}
      (hrun : Program.Finishes environment (loadAndInitialize device.coordinator)
        device.store (result, after) store) :
      DeviceStep environment device (.loaded result) ⟨store, after⟩
  | operate {operation current outcome store}
      (hrun : Program.Finishes environment
        (RunOperation.perform operation device.coordinator current) device.store outcome
        store) :
      DeviceStep environment device (.operated operation outcome)
        ⟨store, outcome.coordinator⟩
  | cut {operation current store} (schedule : RunCheckpointSchedule)
      (hcut : Program.Interrupted environment
        (RunOperation.perform operation device.coordinator current) device.store store) :
      DeviceStep environment device .rebooted
        (.boot store device.coordinator.epoch schedule)
  | reboot (schedule : RunCheckpointSchedule) :
      DeviceStep environment device .rebooted
        (.boot device.store device.coordinator.epoch schedule)
  /-- A command borrows the candidate, or returns it. -/
  | borrow (commandBorrowed : Bool) :
      DeviceStep environment device .borrowed
        ⟨device.store, { device.coordinator with commandBorrowed }⟩

inductive DeviceRun (environment : RunStoreEnvironment) (first : Device) :
    List DeviceEvent → Device → Prop
  | start : DeviceRun environment first [] first
  | step {events event middle last} (hrun : DeviceRun environment first events middle)
      (hstep : DeviceStep environment middle event last) :
      DeviceRun environment first (events ++ [event]) last

/-- What every step preserves holds after every run. -/
theorem DeviceRun.invariant {environment : RunStoreEnvironment} {first last : Device}
    {events : List DeviceEvent} {holds : Device → Prop}
    (hrun : DeviceRun environment first events last) (hfirst : holds first)
    (hpreserved : ∀ device, holds device → ∀ event ∈ events, ∀ after,
      DeviceStep environment device event after → holds after) : holds last := by
  induction hrun with
  | start => exact hfirst
  | step _ hstep ih =>
      have hmiddle := ih fun device hdevice event hevent =>
        hpreserved device hdevice event (List.mem_append_left _ hevent)
      exact hpreserved _ hmiddle _ (by simp) _ hstep

/-! ## Runs without errors -/

namespace Device

variable (device : Device)

/-- A load from a store without errors. -/
def load : RunPersistenceLoadResult × Device :=
  let loaded := (loadAndInitialize device.coordinator).run faultlessStore device.store
  (loaded.1.1, ⟨loaded.2, loaded.1.2⟩)

/-- An operation on a store without errors. -/
def operate (operation : RunOperation) (current : RunCommandState) :
    RunPersistenceOutcome × Device :=
  let performed :=
    (operation.perform device.coordinator current).run faultlessStore device.store
  (performed.1, ⟨performed.2, performed.1.coordinator⟩)

variable {device}

theorem finishes_operate (unknown : UnknownOutcome) (operation : RunOperation)
    (current : RunCommandState) :
    Program.Finishes (stateStore unknown) (operation.perform device.coordinator current)
      device.store (device.operate operation current).1
      (device.operate operation current).2.store :=
  Program.finishes_run (faultlessStore_stateStore unknown) _ _

theorem step_load (unknown : UnknownOutcome) :
    DeviceStep (stateStore unknown) device (.loaded device.load.1) device.load.2 :=
  .load (Program.finishes_run (faultlessStore_stateStore unknown) _ _)

theorem step_operate (unknown : UnknownOutcome) (operation : RunOperation)
    (current : RunCommandState) :
    DeviceStep (stateStore unknown) device
      (.operated operation (device.operate operation current).1)
      (device.operate operation current).2 :=
  .operate (finishes_operate unknown operation current)

end Device

/-! ### A first run -/

/-- The live state after a boot without a run. -/
def standby : RunCommandState := { processState := { state := .standby } }

/-- A run that holds 20 °C. -/
def holdingPlan : ManualRunPlanRequest where
  runId := [101, 49]
  targetTemperatureCelsius := .ofBits 0x4034000000000000
  sensorMode := .air
  preheatEnabled := false
  maximumProductWaitMinutes := none
  qualificationBandCelsius := .ofBits 0x3FF0000000000000
  qualificationDurationMinutes := 5
  maximumTargetReachMinutes := 60

def holdingStart : CommandDecision :=
  decideManualStart standby {
    envelope := { id := 1, monotonicMillis := 1000, expectedRunRevision := some 0, confirmed := true }
    plan := holdingPlan
    safetyAllowsStart := true
    airSensorValid := true
    coolingSensorValid := true
    productSensorValid := true }

/-- The device that has been loaded for the first time. -/
def freshDevice : Device :=
  (Device.boot emptyStore 1 { intervalMinutes := 5 }).load.2

/-- The first run is started. -/
def startHolding : RunOperation := .persistCommand holdingStart ⟨1000, some 1700000000⟩ none

theorem deviceRun_fresh (unknown : UnknownOutcome) :
    DeviceRun (stateStore unknown) (Device.boot emptyStore 1 { intervalMinutes := 5 })
      [.loaded (Device.boot emptyStore 1 { intervalMinutes := 5 }).load.1] freshDevice :=
  .step .start (Device.step_load unknown)

/-! ## The known head -/

/-- The coordinator holds the stored head, which is committed, or knows that
there is none. -/
def HeadKnown (store : RunStore) (coordinator : RunPersistenceCoordinator) : Prop :=
  match coordinator.currentHead with
  | none => store headKey = none
  | some head => store headKey = some head.bytes ∧
      decodeRunPersistenceHead head.bytes coordinator.epoch = some head ∧
      head.state = .committed

def Device.Synced (device : Device) : Prop :=
  device.coordinator.Accepting → HeadKnown device.store device.coordinator

theorem HeadKnown.cached {store : RunStore} {coordinator : RunPersistenceCoordinator}
    (h : HeadKnown store coordinator) :
    store headKey = coordinator.currentHead.map (·.bytes) := by
  unfold HeadKnown at h
  split at h
  · rename_i hnone
    rw [hnone]
    exact h
  · rename_i head hsome
    rw [hsome]
    exact h.1

theorem Device.Synced.headCached {device : Device} (h : device.Synced) :
    device.coordinator.HeadCached device.store := fun haccepting => (h haccepting).cached

theorem HeadKnown.congr {store after : RunStore}
    {coordinator next : RunPersistenceCoordinator} (h : HeadKnown store coordinator)
    (hstore : after headKey = store headKey)
    (hhead : next.currentHead = coordinator.currentHead)
    (hepoch : next.epoch = coordinator.epoch) : HeadKnown after next := by
  unfold HeadKnown at h ⊢
  rw [hhead, hepoch, hstore]
  exact h

theorem HeadKnown.sameStorage {store : RunStore}
    {coordinator next : RunPersistenceCoordinator} (h : HeadKnown store coordinator)
    (hstorage : SameStorage coordinator next) : HeadKnown store next :=
  h.congr rfl hstorage.currentHead hstorage.epoch

/-! ### Loading -/

variable {unknown : UnknownOutcome} {store : RunStore}
variable {coordinator : RunPersistenceCoordinator}

/-- A store that may fail answers a read truthfully or not at all. -/
theorem answersReads_stateStore (unknown : UnknownOutcome) (store : RunStore) :
    AnswersReads (stateStore unknown) (ReadsAs store) store :=
  fun _ _ _ _ hreply => hreply

theorem installCurrent_storage (coordinator : RunPersistenceCoordinator)
    (record : RunPersistenceRawRecord) (next : UInt64) :
    (installCurrent coordinator record next).2.currentHead = coordinator.currentHead ∧
      (installCurrent coordinator record next).2.epoch = coordinator.epoch := by
  unfold installCurrent
  split <;> exact ⟨rfl, rfl⟩

theorem headKnown_of_read {head : RunPersistenceHead}
    {installed : RunPersistenceCoordinator} {epoch : UInt64}
    (hhead : CommittedHeadRead (ReadsAs store) epoch head)
    (hinstalled : installed.currentHead = some head) (hepoch : installed.epoch = epoch) :
    HeadKnown store installed := by
  unfold HeadKnown
  rw [hinstalled, hepoch]
  exact ⟨hhead.read.1, hhead.decodes, hhead.committed⟩

theorem headKnown_of_loadEnds {fresh : RunPersistenceCoordinator}
    {loaded : RunPersistenceLoadResult × RunPersistenceCoordinator}
    (h : LoadEnds (ReadsAs store) fresh loaded) (hfresh : fresh.currentHead = none)
    (haccepting : loaded.2.Accepting) : HeadKnown store loaded.2 := by
  cases h with
  | failed hstatus hstate =>
      unfold Accepting at haccepting
      simp [hstate] at haccepting
  | empty hhead =>
      have hnone : (fresh.withState .readyEmpty).currentHead = none := hfresh
      unfold HeadKnown
      rw [hnone]
      exact hhead
  | current hhead hrecord =>
      obtain ⟨hcurrent, hepoch⟩ := installCurrent_storage _ _ _
      refine headKnown_of_read hhead (hcurrent.trans ?_) (hepoch.trans ?_)
      · rw [withSlotRecord_currentHead]
        rfl
      · rw [withSlotRecord_epoch]
        rfl
  | fallback hhead =>
      refine headKnown_of_read hhead ?_ ?_
      · simp only [installFallback, withSlotRecord_currentHead]
        rfl
      · simp only [installFallback, withSlotRecord_epoch]
        rfl

/-- A second load changes nothing but the pending revisions. -/
theorem loadAndInitialize_again
    (h : ¬ (coordinator.commandBorrowed = false ∧ coordinator.state = .uninitialized)) :
    loadAndInitialize coordinator = .done ({ status := .alreadyInitialized }, coordinator) ∨
      loadAndInitialize coordinator =
        .done ({ status := .alreadyInitialized }, coordinator.clearPendingR1) := by
  unfold loadAndInitialize
  split
  · exact .inl rfl
  · split
    · exact .inr rfl
    · rename_i hborrowed hstate
      exact absurd ⟨by simpa using hborrowed, by simpa using hstate⟩ h

/-! ### Operations -/

section Operations

variable {operation : RunOperation} {current : RunCommandState}
variable {outcome : RunPersistenceOutcome} {after : RunStore}

/-- Blocked coordinators are not accepting. -/
theorem not_accepting_of_blocked (h : coordinator.state = .blockedIndeterminate) :
    ¬ coordinator.Accepting := by
  unfold Accepting
  simp [h]

theorem slotStore_headKey (transaction : CheckpointTransaction) (store : RunStore) :
    transaction.slotStore store headKey = store headKey :=
  StoreContents.put_other (headKey_ne_slotKey _)

/-- A write that leaves the coordinator accepting leaves a known head. -/
theorem headKnown_of_writeEnds {write : SnapshotWrite}
    {ended : RunPersistenceResult × RunPersistenceCoordinator}
    (hknown : HeadKnown store coordinator)
    (h : WriteEnds unknown coordinator write store ended after)
    (haccepting : ended.2.Accepting) : HeadKnown after ended.2 := by
  cases h with
  | refused hrefusal hafter =>
      rcases hafter with rfl | rfl
      · exact hknown
      · exact hknown.sameStorage ((SameStorage.refl coordinator).withState _)
  | @slotOnly transaction result after hplans hperiodic hfailed hdurability hafter =>
      subst hafter
      refine hknown.congr (slotStore_headKey transaction store) ?_ ?_
      · exact withSlotRecord_currentHead ..
      · exact withSlotRecord_epoch ..
  | @completed transaction hplans =>
      obtain ⟨highWater, hplanned⟩ := hplans.planned
      have hepoch : (coordinator.afterSlotWrite transaction).epoch = coordinator.epoch :=
        withSlotRecord_epoch ..
      have hhead : HeadKnown (transaction.finalStore store)
          { coordinator.afterSlotWrite transaction with
            currentHead :=
              some { transaction.head with bytes := transaction.committedBytes } } := by
        refine ⟨StoreContents.put_same .., ?_, hplanned.head_committed⟩
        rw [hepoch]
        exact hplanned.committed_decodes
      simp only [completeWrite] at haccepting ⊢
      split
      · exact hhead
      · exact hhead
  | blocked hplans hfailed hstate => exact absurd haccepting (not_accepting_of_blocked hstate)

/-- The step after a write keeps what the coordinator knows. -/
theorem settled_storage {planned : PlannedWrite}
    {ended : RunPersistenceResult × RunPersistenceCoordinator} (hsettles : planned.Settles)
    (houtcome : planned.Settled current ended outcome) :
    SameStorage ended.2 outcome.coordinator ∧
      (outcome.coordinator.state = ended.2.state ∨
        outcome.coordinator.state = .persistenceCommittedApplyFailed) := by
  have hsettled : SameStorage ended.2 (planned.settle current ended).coordinator ∧
      ((planned.settle current ended).coordinator.state = ended.2.state ∨
        (planned.settle current ended).coordinator.state =
          .persistenceCommittedApplyFailed) := by
    unfold PlannedWrite.settle
    split
    · exact ⟨hsettles.storage _ _, hsettles.state _ _⟩
    · exact ⟨.refl _, .inl rfl⟩
  rcases houtcome with rfl | rfl
  · exact hsettled
  · exact ⟨hsettled.1.withPendingR1 none none, hsettled.2⟩

theorem accepting_of_state {next : RunPersistenceCoordinator}
    (h : next.state = coordinator.state) (haccepting : next.Accepting) :
    coordinator.Accepting := by
  unfold Accepting at haccepting ⊢
  rwa [h] at haccepting

/-- Whatever an operation does, a coordinator that may write knows the head. -/
theorem headKnown_of_operationEnds
    (hknown : coordinator.Accepting → HeadKnown store coordinator)
    (h : OperationEnds unknown operation coordinator current store outcome after)
    (haccepting : outcome.coordinator.Accepting) :
    HeadKnown after outcome.coordinator := by
  cases h with
  | refused hfailed hunknown hdurability hcurrent hstorage hids hstate =>
      rcases hstate with hstate | hstate
      · exact (hknown (accepting_of_state hstate haccepting)).sameStorage hstorage
      · exact absurd haccepting (not_accepting_of_blocked hstate)
  | ramOnly hbefore hdurability happlied hstorage =>
      exact (hknown hbefore).sameStorage hstorage
  | @wrote planned checkpointRevision runRevision ended _ _ hplans hends houtcome =>
      have hadmissible := admissible_of_plans hplans
      obtain ⟨hstorage, hstate⟩ := settled_storage hadmissible.settles houtcome
      rcases hstate with hstate | hstate
      · have hstart : HeadKnown store
            (coordinator.withPendingR1 checkpointRevision runRevision) :=
          hknown hadmissible.accepting
        exact (headKnown_of_writeEnds hstart hends
          (accepting_of_state hstate haccepting)).sameStorage hstorage
      · unfold Accepting at haccepting
        simp [hstate] at haccepting

end Operations

/-! ### All steps -/

theorem Device.synced_boot (store : RunStore) (epoch : UInt64)
    (schedule : RunCheckpointSchedule) : (Device.boot store epoch schedule).Synced := by
  intro haccepting
  unfold Accepting at haccepting
  simp [Device.boot] at haccepting

/-- Every step keeps the known head. -/
theorem Device.Synced.step {device after : Device} {event : DeviceEvent}
    (h : device.Synced) (hstep : DeviceStep (stateStore unknown) device event after) :
    after.Synced := by
  cases hstep with
  | @load result next store hrun =>
      by_cases hfirst : device.coordinator.commandBorrowed = false ∧
          device.coordinator.state = .uninitialized
      · have hloads := loads_loadAndInitialize
          (answersReads_stateStore unknown device.store) hfirst.1 hfirst.2
        obtain ⟨rfl, hends⟩ := hloads.finishes hrun
        exact headKnown_of_loadEnds hends rfl
      · rcases loadAndInitialize_again hfirst with hagain | hagain
        · rw [hagain] at hrun
          cases hrun
          exact h
        · rw [hagain] at hrun
          cases hrun
          exact fun haccepting => h haccepting
  | operate hrun =>
      exact headKnown_of_operationEnds h
        ((ensures_perform _ h.headCached).finishes hrun)
  | cut schedule hcut => exact Device.synced_boot _ _ schedule
  | reboot schedule => exact Device.synced_boot _ _ schedule
  | borrow commandBorrowed => exact fun haccepting => h haccepting

/-- In every run a coordinator that may write knows the stored head. -/
theorem Device.synced_of_run {first device : Device} {events : List DeviceEvent}
    (hrun : DeviceRun (stateStore unknown) first events device) (hfirst : first.Synced) :
    device.Synced :=
  hrun.invariant hfirst fun _ hdevice _ _ _ hstep => hdevice.step hstep

end Fermentationsschrank

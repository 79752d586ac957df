import Fermentationsschrank.Guarantees.DeviceRuns

/-!
# Write before apply

The live state follows the store and never leads it, the reported durability is
true, and a boot in which the stored head has become uncertain writes no more.
-/

namespace Fermentationsschrank

open Envelope RunPersistenceCoordinator

variable {unknown : UnknownOutcome} {operation : RunOperation}
variable {coordinator : RunPersistenceCoordinator} {current : RunCommandState}
variable {store after : RunStore} {outcome : RunPersistenceOutcome}
variable {planned : PlannedWrite} {write : SnapshotWrite}
variable {ended : RunPersistenceResult × RunPersistenceCoordinator}

/-! ## The live state -/

theorem settled_current (hsettles : planned.Settles)
    (houtcome : planned.Settled current ended outcome)
    (hresult : ¬ outcome.result.MayApply) : outcome.current = current := by
  have hsettled : ¬ (planned.settle current ended).result.MayApply →
      (planned.settle current ended).current = current := by
    intro hnot
    unfold PlannedWrite.settle at hnot ⊢
    split
    · rename_i happlied
      rw [if_pos happlied] at hnot
      exact absurd (hsettles.reported _ _ happlied) hnot
    · rfl
  rcases houtcome with rfl | rfl
  · exact hsettled hresult
  · exact hsettled hresult

/-- The live state changes only by an operation that says so. -/
theorem current_of_operationEnds
    (h : OperationEnds unknown operation coordinator current store outcome after)
    (hresult : ¬ outcome.result.MayApply) : outcome.current = current := by
  cases h with
  | refused hfailed hunknown hdurability hcurrent => exact hcurrent
  | ramOnly haccepting hdurability happlied => exact absurd (.inl happlied) hresult
  | wrote hplans hends houtcome =>
      exact settled_current (admissible_of_plans hplans).settles houtcome hresult

/-! ## The reported durability -/

/-- A completed write reports a change. -/
theorem completeWrite_durability (transaction : CheckpointTransaction) :
    (coordinator.completeWrite write transaction).1.durability = .changed := by
  simp only [completeWrite]
  split <;> rfl

/-- A write that reports no change has made none. -/
theorem store_of_writeEnds (h : WriteEnds unknown coordinator write store ended after)
    (hdurability : ended.1.durability = .unchanged) : after = store := by
  cases h with
  | refused => rfl
  | slotOnly hplans hperiodic hfailed hchanged =>
      rw [hchanged] at hdurability
      cases hdurability
  | completed =>
      rw [completeWrite_durability] at hdurability
      cases hdurability
  | blocked hplans hfailed hstate hmid hunchanged => exact hunchanged hdurability

/-- Only a completed write is reported as applied. -/
theorem completed_of_writeEnds (h : WriteEnds unknown coordinator write store ended after)
    (happlied : ended.1.status = .applied) :
    ∃ transaction, coordinator.Plans write transaction ∧
      after = transaction.finalStore store ∧
      ended = (coordinator.afterSlotWrite transaction).completeWrite write transaction := by
  cases h with
  | refused hrefusal => exact absurd happlied hrefusal.1.1.1
  | slotOnly hplans hperiodic hfailed => exact absurd happlied hfailed.1.1
  | completed hplans => exact ⟨_, hplans, rfl, rfl⟩
  | blocked hplans hfailed => exact absurd happlied hfailed.1

/-- The outcome of a write that was not applied is the outcome of the operation. -/
theorem settled_result (houtcome : planned.Settled current ended outcome)
    (happlied : ended.1.status ≠ .applied) : outcome.result = ended.1 := by
  rcases houtcome with rfl | rfl <;> simp [PlannedWrite.settle, happlied]

/-- The outcome of a write that was applied reports a change. -/
theorem settled_durability (hsettles : planned.Settles)
    (houtcome : planned.Settled current ended outcome)
    (happlied : ended.1.status = .applied) (hchanged : ended.1.durability = .changed) :
    outcome.result.durability = .changed := by
  have hfinished := hsettles.durability ended.2 ended.1 hchanged
  rcases houtcome with rfl | rfl
  · simpa only [PlannedWrite.settle, happlied, if_true] using hfinished
  · simpa only [PlannedWrite.settle, happlied, if_true] using hfinished

/-- An operation that reports no change has made none. -/
theorem store_of_operationEnds
    (h : OperationEnds unknown operation coordinator current store outcome after)
    (hdurability : outcome.result.durability = .unchanged) : after = store := by
  cases h with
  | refused => rfl
  | ramOnly => rfl
  | @wrote planned _ _ ended _ _ hplans hends houtcome =>
      by_cases happlied : ended.1.status = .applied
      · obtain ⟨transaction, -, -, hended⟩ := completed_of_writeEnds hends happlied
        have hchanged : ended.1.durability = .changed := by
          rw [hended]
          exact completeWrite_durability transaction
        rw [settled_durability (admissible_of_plans hplans).settles houtcome happlied
          hchanged] at hdurability
        cases hdurability
      · rw [settled_result houtcome happlied] at hdurability
        exact store_of_writeEnds hends hdurability

/-! ## The applied snapshot -/

/-- The stored head is committed and names a stored record of the snapshot. -/
def StoresSnapshot (store : RunStore) (epoch : UInt64)
    (snapshot : RunPersistenceSnapshot) : Prop :=
  ∃ head record payload utcUnixSeconds,
    store headKey = some head.bytes ∧
    decodeRunPersistenceHead head.bytes epoch = some head ∧ head.state = .committed ∧
    store (slotKey head.current.slot.toNat) = some record.bytes ∧
    runCheckpointReferenceMatches head.current record head.current.slot.toNat = true ∧
    record.snapshot = snapshot ∧ encodeRunPersistenceSnapshot snapshot = .ok payload ∧
    decodeEnvelope record.bytes = .ok ⟨kCheckpointRecordType, kCurrentRunPersistenceSchema,
      epoch, record.checkpointRevision, utcUnixSeconds, payload⟩

theorem storesSnapshot_final {transaction : CheckpointTransaction}
    (hplans : coordinator.Plans write transaction) :
    StoresSnapshot (transaction.finalStore store) coordinator.epoch write.snapshot := by
  obtain ⟨highWater, hplanned⟩ := hplans.planned
  obtain ⟨hmatches, hslot, -⟩ := hplanned.current_matches
  obtain ⟨payload, hpayload, hopen, -⟩ := prepareSnapshotRecord_opens hplanned.record
  obtain ⟨hsnapshot, -⟩ := prepareSnapshotRecord_eq_ok hplanned.record
  have hstored : transaction.finalStore store (slotKey transaction.target) =
      some transaction.record.bytes := by
    unfold CheckpointTransaction.finalStore CheckpointTransaction.slotStore
    rw [StoreContents.put_other (slotKey_ne_headKey _)]
    exact StoreContents.put_same ..
  refine ⟨{ transaction.head with bytes := transaction.committedBytes },
    transaction.record, payload, transaction.record.utcUnixSeconds,
    StoreContents.put_same .., hplanned.committed_decodes, hplanned.head_committed, ?_, ?_,
    hsnapshot, hpayload, (openRecord_eq_some.mp hopen).1⟩
  · rw [← hslot] at hstored
    exact hstored
  · rw [← hslot] at hmatches
    exact hmatches

/-- An operation that was applied and reports a change has stored its snapshot. -/
theorem storesSnapshot_of_operationEnds
    (h : OperationEnds unknown operation coordinator current store outcome after)
    (happlied : outcome.result.status = .applied)
    (hdurability : outcome.result.durability = .changed) :
    ∃ planned, operation.Plans coordinator current planned ∧
      StoresSnapshot after coordinator.epoch planned.write.snapshot := by
  cases h with
  | refused hfailed => exact absurd happlied hfailed.1
  | ramOnly haccepting hunchanged =>
      rw [hunchanged] at hdurability
      cases hdurability
  | @wrote planned _ _ ended _ _ hplans hends houtcome =>
      have hwritten : ended.1.status = .applied := by
        by_contra hnot
        rw [settled_result houtcome hnot] at happlied
        exact hnot happlied
      obtain ⟨transaction, htransaction, rfl, -⟩ := completed_of_writeEnds hends hwritten
      exact ⟨planned, hplans, storesSnapshot_final htransaction⟩

/-! ## An uncertain head -/

/-- The stored head announces a record. -/
def HeadPrepared (store : RunStore) (epoch : UInt64) : Prop :=
  ∃ bytes head, store headKey = some bytes ∧
    decodeRunPersistenceHead bytes epoch = some head ∧ head.state = .prepared

/-- The stored head is prepared, has an unknown outcome, or is not the one a loaded
coordinator knows. -/
def HeadUncertain (before : RunPersistenceCoordinator) (store : RunStore)
    (outcome : RunPersistenceOutcome) : Prop :=
  HeadPrepared store outcome.coordinator.epoch ∨
    outcome.result.status = .persistenceIndeterminate ∨
    before.state ≠ .uninitialized ∧
      store headKey ≠ outcome.coordinator.currentHead.map (·.bytes)

theorem not_prepared_of_headKnown (h : HeadKnown store coordinator) :
    ¬ HeadPrepared store coordinator.epoch := by
  rintro ⟨bytes, head, hstored, hdecodes, hprepared⟩
  unfold HeadKnown at h
  split at h
  · rw [h] at hstored
    cases hstored
  · obtain ⟨hbytes, hknown, hcommitted⟩ := h
    rw [hbytes] at hstored
    cases hstored
    rw [hknown] at hdecodes
    cases hdecodes
    rw [hcommitted] at hprepared
    cases hprepared

/-- An unknown outcome ends the writing of this boot. -/
theorem state_of_indeterminate
    (h : OperationEnds unknown operation coordinator current store outcome after)
    (hresult : outcome.result.status = .persistenceIndeterminate) :
    outcome.coordinator.state = .blockedIndeterminate ∨
      outcome.coordinator.state = .persistenceCommittedApplyFailed := by
  cases h with
  | refused hfailed hunknown => exact .inl (hunknown hresult)
  | ramOnly haccepting hdurability happlied =>
      rw [happlied] at hresult
      cases hresult
  | @wrote planned _ _ ended _ _ hplans hends houtcome =>
      have hsettles := (admissible_of_plans hplans).settles
      by_cases happlied : ended.1.status = .applied
      · have hmay : outcome.result.MayApply := by
          have hfinished := hsettles.reported ended.2 ended.1 happlied
          rcases houtcome with rfl | rfl
          · simpa only [PlannedWrite.settle, happlied, if_true] using hfinished
          · simpa only [PlannedWrite.settle, happlied, if_true] using hfinished
        rcases hmay with hmay | hmay
        · rw [hmay] at hresult
          cases hresult
        · rw [hmay] at hresult
          cases hresult
      · rw [settled_result houtcome happlied] at hresult
        have hblocked : ended.2.state = .blockedIndeterminate := by
          cases hends with
          | refused hrefusal => exact absurd hresult hrefusal.1.2
          | slotOnly hplans hperiodic hfailed => exact absurd hresult hfailed.2
          | @completed transaction =>
              simp only [completeWrite] at hresult ⊢
              split
              · rename_i hconfirmed
                rw [if_pos hconfirmed] at hresult
                simp only [result] at hresult
                split at hresult <;> cases hresult
              · rfl
          | blocked hplans hfailed hstate => exact hstate
        rcases (settled_storage hsettles houtcome).2 with hstate | hstate
        · exact .inl (hstate.trans hblocked)
        · exact .inr hstate

theorem blocked_of_indeterminate
    (h : OperationEnds unknown operation coordinator current store outcome after)
    (hresult : outcome.result.status = .persistenceIndeterminate) :
    ¬ outcome.coordinator.Accepting := by
  unfold Accepting
  rcases state_of_indeterminate h hresult with hstate | hstate <;> simp [hstate]

/-! ## The rest of a boot -/

/-- The events that do not end the boot. -/
def DeviceEvent.SameBoot : DeviceEvent → Prop
  | .rebooted => False
  | _ => True

/-- The coordinator may not write, and will not be able to by loading. -/
def Device.Silenced (device : Device) : Prop :=
  ¬ device.coordinator.Accepting ∧ (device.coordinator.state = .uninitialized →
    HeadPrepared device.store device.coordinator.epoch)

/-- A prepared head lets no load succeed. -/
theorem silenced_of_loadEnds {fresh : RunPersistenceCoordinator}
    {loaded : RunPersistenceLoadResult × RunPersistenceCoordinator}
    (h : LoadEnds (ReadsAs store) fresh loaded)
    (hprepared : HeadPrepared store fresh.epoch) :
    loaded.2.state = .blockedIndeterminate := by
  obtain ⟨bytes, head, hstored, hdecodes, hstate⟩ := hprepared
  have huncommitted : ∀ found, ¬ CommittedHeadRead (ReadsAs store) fresh.epoch found := by
    intro found hfound
    have hbytes : bytes = found.bytes :=
      Option.some_inj.mp (hstored.symm.trans hfound.read.1)
    have hsame : some head = some found := by
      rw [← hdecodes, hbytes]
      exact hfound.decodes
    cases hsame
    have hcommitted := hfound.committed
    rw [hstate] at hcommitted
    cases hcommitted
  cases h with
  | failed hstatus hblocked => exact hblocked
  | empty hhead =>
      rw [show store headKey = none from hhead] at hstored
      cases hstored
  | current hhead => exact absurd hhead (huncommitted _)
  | fallback hhead => exact absurd hhead (huncommitted _)

theorem Device.Silenced.step {device next : Device} {event : DeviceEvent}
    (h : device.Silenced) (hstep : DeviceStep (stateStore unknown) device event next)
    (hboot : event.SameBoot) : next.store = device.store ∧ next.Silenced := by
  obtain ⟨hblocked, hprepared⟩ := h
  cases hstep with
  | @load result after store hrun =>
      by_cases hfirst : device.coordinator.commandBorrowed = false ∧
          device.coordinator.state = .uninitialized
      · have hloads := loads_loadAndInitialize
          (answersReads_stateStore unknown device.store) hfirst.1 hfirst.2
        obtain ⟨rfl, hends⟩ := hloads.finishes hrun
        have hstate : after.state = .blockedIndeterminate :=
          silenced_of_loadEnds hends (hprepared hfirst.2)
        refine ⟨rfl, not_accepting_of_blocked hstate, fun hnone => ?_⟩
        rw [show after.state = .uninitialized from hnone] at hstate
        cases hstate
      · rcases loadAndInitialize_again hfirst with hagain | hagain
        · rw [hagain] at hrun
          cases hrun
          exact ⟨rfl, hblocked, hprepared⟩
        · rw [hagain] at hrun
          cases hrun
          exact ⟨rfl, hblocked, hprepared⟩
  | operate hrun =>
      obtain ⟨rfl, -, -, hepoch, hstate⟩ :=
        (ensures_perform_blocked _ hblocked).finishes hrun
      refine ⟨rfl, ?_⟩
      rcases hstate with hstate | hstate
      · refine ⟨fun haccepting => hblocked (accepting_of_state hstate haccepting), ?_⟩
        intro hnone
        have hkept := hprepared (hstate.symm.trans hnone)
        rwa [← hepoch] at hkept
      · refine ⟨not_accepting_of_blocked hstate, fun hnone => ?_⟩
        rw [hstate] at hnone
        cases hnone
  | cut => exact absurd hboot id
  | reboot => exact absurd hboot id
  | borrow => exact ⟨rfl, hblocked, hprepared⟩

/-- Until the next boot nothing is written any more. -/
theorem Device.Silenced.run {first last : Device} {events : List DeviceEvent}
    (h : first.Silenced) (hrun : DeviceRun (stateStore unknown) first events last)
    (hboot : ∀ event ∈ events, event.SameBoot) : last.store = first.store := by
  have hstep : ∀ device : Device, device.store = first.store ∧ device.Silenced →
      ∀ event ∈ events, ∀ next, DeviceStep (stateStore unknown) device event next →
        next.store = first.store ∧ next.Silenced := by
    intro device hdevice event hevent next hnext
    obtain ⟨hstore, hsilenced⟩ := hdevice.2.step hnext (hboot event hevent)
    exact ⟨hstore.trans hdevice.1, hsilenced⟩
  exact (hrun.invariant ⟨rfl, h⟩ hstep).1

/-- A write leaves a loaded coordinator loaded. -/
theorem loaded_of_writeEnds (h : WriteEnds unknown coordinator write store ended after)
    (hrollback : write.rollbackState ≠ .uninitialized)
    (hloaded : coordinator.state ≠ .uninitialized) : ended.2.state ≠ .uninitialized := by
  cases h with
  | refused hrefusal hafter =>
      rcases hafter with rfl | rfl
      · exact hloaded
      · exact hrollback
  | slotOnly hplans hperiodic hfailed hdurability hafter =>
      subst hafter
      exact hrollback
  | completed =>
      simp only [completeWrite]
      split
      · show (if _ then RunPersistenceCoordinatorState.readyEmpty else .ready) ≠ _
        split <;> decide
      · show RunPersistenceCoordinatorState.blockedIndeterminate ≠ _
        decide
  | blocked hplans hfailed hstate =>
      rw [hstate]
      decide

/-- A loaded coordinator stays loaded. -/
theorem loaded_of_operationEnds
    (h : OperationEnds unknown operation coordinator current store outcome after)
    (hloaded : coordinator.state ≠ .uninitialized) :
    outcome.coordinator.state ≠ .uninitialized := by
  cases h with
  | refused hfailed hunknown hdurability hcurrent hstorage hids hstate =>
      rcases hstate with hstate | hstate
      · rwa [hstate]
      · rw [hstate]
        decide
  | ramOnly haccepting hdurability happlied hstorage hids hstate =>
      rcases hstate with hstate | ⟨-, hstate⟩
      · rwa [hstate]
      · rw [hstate]
        decide
  | wrote hplans hends houtcome =>
      have hadmissible := admissible_of_plans hplans
      have hrollback := hadmissible.rollback
      rcases (settled_storage hadmissible.settles houtcome).2 with hstate | hstate
      · rw [hstate]
        exact loaded_of_writeEnds hends (by rwa [hrollback]) hloaded
      · rw [hstate]
        decide

/-- After an uncertain head the rest of the boot is silent. -/
theorem silenced_of_uncertain {device : Device} (hsynced : device.Synced)
    (h : OperationEnds unknown operation device.coordinator current device.store outcome
      after)
    (huncertain : HeadUncertain device.coordinator after outcome) :
    Device.Silenced ⟨after, outcome.coordinator⟩ := by
  constructor
  · intro haccepting
    have hknown := headKnown_of_operationEnds hsynced h haccepting
    rcases huncertain with hprepared | hindeterminate | ⟨-, hdiffers⟩
    · exact not_prepared_of_headKnown hknown hprepared
    · exact blocked_of_indeterminate h hindeterminate haccepting
    · exact hdiffers hknown.cached
  · intro hnone
    rcases huncertain with hprepared | hindeterminate | ⟨hloaded, -⟩
    · exact hprepared
    · have hblocked := state_of_indeterminate h hindeterminate
      rcases hblocked with hstate | hstate
      · rw [show outcome.coordinator.state = .uninitialized from hnone] at hstate
        cases hstate
      · rw [show outcome.coordinator.state = .uninitialized from hnone] at hstate
        cases hstate
    · exact absurd hnone (loaded_of_operationEnds h hloaded)

/-! ## Every operation of every run -/

/-- In any run over any store, under any faults, every operation on any live state
applies what it has written, and nothing else; it says so when it has changed the
store; and an uncertain head silences the rest of the boot. -/
theorem operation_writes_before_apply {epoch : UInt64} {schedule : RunCheckpointSchedule}
    {initial : RunStore} {events : List DeviceEvent} {device : Device}
    (hrun : DeviceRun (stateStore unknown) (Device.boot initial epoch schedule) events
      device)
    (hperform : Program.Finishes (stateStore unknown)
      (operation.perform device.coordinator current) device.store outcome after) :
    (¬ outcome.result.MayApply → outcome.current = current) ∧
      (outcome.result.durability = .unchanged → after = device.store) ∧
      (outcome.result.status = .applied → outcome.result.durability = .changed →
        ∃ planned, operation.Plans device.coordinator current planned ∧
          StoresSnapshot after device.coordinator.epoch planned.write.snapshot) ∧
      (HeadUncertain device.coordinator after outcome → ∀ later last,
        DeviceRun (stateStore unknown) ⟨after, outcome.coordinator⟩ later last →
        (∀ event ∈ later, event.SameBoot) → last.store = after) := by
  have hsynced := Device.synced_of_run hrun (Device.synced_boot initial epoch schedule)
  have hends := (ensures_perform operation hsynced.headCached).finishes hperform
  exact ⟨current_of_operationEnds hends, store_of_operationEnds hends,
    storesSnapshot_of_operationEnds hends, fun huncertain later last hlater hboot =>
      (silenced_of_uncertain hsynced hends huncertain).run hlater hboot⟩

set_option maxRecDepth 1000000 in
/-- The first run of a device is stored. -/
theorem operation_writes_before_apply_first_run :
    ∃ planned, startHolding.Plans freshDevice.coordinator standby planned ∧
      StoresSnapshot (freshDevice.operate startHolding standby).2.store
        freshDevice.coordinator.epoch planned.write.snapshot :=
  (operation_writes_before_apply (deviceRun_fresh allOrNothing)
    (Device.finishes_operate allOrNothing startHolding standby)).2.2.1
    (by decide +kernel) (by decide +kernel)

end Fermentationsschrank

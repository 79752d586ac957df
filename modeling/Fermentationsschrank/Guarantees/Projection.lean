import Fermentationsschrank.Persistence.Contract

/-!
# Projection and restoration

What a checkpoint holds is exactly what restoring it brings back: a restored
state projects to the checkpoint it was restored from.  Nothing else of the
state that was stored has any influence on the restored one.
-/

namespace Fermentationsschrank

/-! ## What a projection is -/

theorem makeRunPersistenceSnapshot_eq_some {state : RunCommandState} {ids : List CommandId}
    {trigger : RunCheckpointTrigger} {time : RunCheckpointTime} {intervalMinutes : UInt16}
    {snapshot : RunPersistenceSnapshot} :
    makeRunPersistenceSnapshot state ids trigger time intervalMinutes = some snapshot ↔
      projectable state = true ∧ validateRunPersistenceSnapshot snapshot = true ∧
        projectRunPersistenceSnapshot state ids trigger time intervalMinutes =
          snapshot := by
  simp only [makeRunPersistenceSnapshot, Option.ite_none_right_eq_some, Bool.and_eq_true,
    Option.some.injEq]
  constructor
  · rintro ⟨⟨hprojectable, hvalid⟩, rfl⟩
    exact ⟨hprojectable, hvalid, rfl⟩
  · rintro ⟨hprojectable, hvalid, rfl⟩
    exact ⟨⟨hprojectable, hvalid⟩, rfl⟩

/-! ## What a restoration is -/

/-- The part of a state that no checkpoint holds and no boot inherits. -/
structure BootLocalState where
  messages : List RuntimeMessage
  messageRevision : UInt32
  faultRevision : UInt32
  criticalSafetyEventPending : Bool
  commandSequence : UInt32
  lastCommandMonotonicMillis : UInt64
  processedCommandIds : List CommandId
  deriving DecidableEq, Repr

def RunCommandState.bootLocal (state : RunCommandState) : BootLocalState where
  messages := state.messages
  messageRevision := state.messageRevision
  faultRevision := state.faultRevision
  criticalSafetyEventPending := state.criticalSafetyEventPending
  commandSequence := state.commandSequence
  lastCommandMonotonicMillis := state.lastCommandMonotonicMillis
  processedCommandIds := state.processedCommandIds

/-- The sensor selection of a restored run permits nothing. -/
def failClosedRuntime (variant : RunCheckpointVariant) : SensorSelectionRuntimeState where
  phase := if variant = .noActiveRun then .noActiveRun else .restartRevalidationPending
  permission := .blocked

/-- What every restoration takes from the checkpoint. -/
def restoredBase (snapshot : RunPersistenceSnapshot) (destination : RunCommandState) :
    RunCommandState :=
  { clearActiveRunState destination with
    processState := snapshot.processState
    runRevision := snapshot.runRevision
    recoveryTemperatureEvidence := snapshot.recoveryTemperatureEvidence
    recoveryEpisodeRevision := snapshot.recoveryEpisodeRevision }

/-- What only the restoration of an active run takes from the checkpoint. -/
def restoredActive (snapshot : RunPersistenceSnapshot) (destination : RunCommandState) :
    RunCommandState :=
  { restoredBase snapshot destination with
    activeRunId := snapshot.activeRunId
    activeRunSensorMode := snapshot.activeRunSensorMode
    sensorSelection := snapshot.sensorSelection
    processRunSnapshot := snapshot.processRunSnapshot
    actuatorPlannerParametersSnapshot := snapshot.actuatorPlannerParametersSnapshot
    pendingRecoveryAnchor := snapshot.pendingRecoveryAnchor
    recoveryBootAnchorMonotonicMillis := snapshot.recoveryBootAnchorMonotonicMillis
    lastRecoveryEpisodeEvidence := snapshot.lastRecoveryEpisodeEvidence
    priorBootPhaseElapsed := snapshot.priorBootPhaseElapsed
    nominalRecoveryAdjustment := snapshot.nominalRecoveryAdjustment
    runProgress := snapshot.runProgress
    sensorSelectionRuntime := {
      phase := .restartRevalidationPending
      permission := .blocked } }

section Restoration

variable {snapshot : RunPersistenceSnapshot} {destination : RunCommandState}

theorem restore_programRun {program : RunProgramSnapshot} {run : ActiveRun}
    (hvalid : validateRunPersistenceSnapshot snapshot = true)
    (hvariant : snapshot.variant = .programRun) (hprogram : snapshot.program = some program)
    (hrun : ActiveRun.restore program snapshot.revisions = some run) :
    restoreRunPersistenceSnapshot snapshot destination =
      some { restoredActive snapshot destination with activeProgramRun := some run } := by
  rw [restoreRunPersistenceSnapshot, hvalid, hvariant, hprogram]
  simp only [Bool.not_true, Bool.false_eq_true, if_false, Option.bind_eq_bind,
    Option.bind_some, hrun]
  rfl

theorem restore_manualRun (hvalid : validateRunPersistenceSnapshot snapshot = true)
    (hvariant : snapshot.variant = .manualRun) :
    restoreRunPersistenceSnapshot snapshot destination =
      some { restoredActive snapshot destination with
        activeManualRun := snapshot.manual } := by
  rw [restoreRunPersistenceSnapshot, hvalid, hvariant]
  rfl

theorem restore_noActiveRun (hvalid : validateRunPersistenceSnapshot snapshot = true)
    (hvariant : snapshot.variant = .noActiveRun) :
    restoreRunPersistenceSnapshot snapshot destination =
      some (restoredBase snapshot destination) := by
  rw [restoreRunPersistenceSnapshot, hvalid, hvariant]
  rfl

end Restoration

/-! ## There and back -/

section RoundTrip

variable {state : RunCommandState} {ids : List CommandId} {trigger : RunCheckpointTrigger}
variable {time : RunCheckpointTime} {intervalMinutes : UInt16}
variable {snapshot : RunPersistenceSnapshot}

/-- A restored state is what the checkpoint promises. -/
def Restores (snapshot : RunPersistenceSnapshot) (ids : List CommandId)
    (trigger : RunCheckpointTrigger) (time : RunCheckpointTime) (intervalMinutes : UInt16)
    (destination restored : RunCommandState) : Prop :=
  makeRunPersistenceSnapshot restored ids trigger time intervalMinutes = some snapshot ∧
    restored.sensorSelectionRuntime = failClosedRuntime snapshot.variant ∧
    restored.bootLocal = destination.bootLocal

theorem restores_programRun {run : ActiveRun} (destination : RunCommandState)
    (hrun : state.activeProgramRun = some run) (hprojectable : projectable state = true)
    (hvalid : validateRunPersistenceSnapshot
      (projectRunPersistenceSnapshot state ids trigger time intervalMinutes) = true) :
    ∃ restored, restoreRunPersistenceSnapshot
        (projectRunPersistenceSnapshot state ids trigger time intervalMinutes) destination =
          some restored ∧
      Restores (projectRunPersistenceSnapshot state ids trigger time intervalMinutes) ids
        trigger time intervalMinutes destination restored := by
  have hactive : state.activeManualRun = none ∧ state.sensorSelection.isSome = true := by
    simpa [projectable, RunCommandState.hasActiveRun, hrun] using hprojectable
  obtain ⟨hmanual, hselection⟩ := hactive
  have hvariant : (projectRunPersistenceSnapshot state ids trigger time
      intervalMinutes).variant = .programRun := by
    simp [projectRunPersistenceSnapshot, RunCommandState.hasActiveRun, hrun]
  have hprogram : (projectRunPersistenceSnapshot state ids trigger time
      intervalMinutes).program = some run.snapshot := by
    simp [projectRunPersistenceSnapshot, RunCommandState.hasActiveRun, hrun]
  have hfound := RunPersistenceSnapshot.programRun_of_validate hvalid hvariant
  obtain ⟨program, values, hsame, -, hvalues, -⟩ := hfound
  rw [hprogram, Option.some_inj] at hsame
  subst hsame
  have hrestore : ∃ restored, ActiveRun.restore run.snapshot
      (projectRunPersistenceSnapshot state ids trigger time intervalMinutes).revisions =
        some restored := by
    simp [ActiveRun.restore, hvalues]
  obtain ⟨restored, hrestored⟩ := hrestore
  refine ⟨_, restore_programRun hvalid hvariant hprogram hrestored, ?_, ?_, rfl⟩
  · rw [makeRunPersistenceSnapshot_eq_some]
    obtain ⟨-, hsnapshot, hrevisions, -⟩ := ActiveRun.restore_eq_some.mp hrestored
    have hsame : projectRunPersistenceSnapshot
        { restoredActive (projectRunPersistenceSnapshot state ids trigger time
            intervalMinutes) destination with activeProgramRun := some restored } ids
        trigger time intervalMinutes =
          projectRunPersistenceSnapshot state ids trigger time intervalMinutes := by
      simp [projectRunPersistenceSnapshot, RunCommandState.hasActiveRun, restoredActive,
        restoredBase, clearActiveRunState, hrun, hmanual, hsnapshot, hrevisions]
    refine ⟨?_, hvalid, hsame⟩
    simp [projectable, RunCommandState.hasActiveRun, restoredActive, restoredBase,
      clearActiveRunState, projectRunPersistenceSnapshot, hrun, hselection]
  · rw [failClosedRuntime, hvariant]
    rfl

theorem restores_manualRun {plan : ManualRunPlan} (destination : RunCommandState)
    (hrun : state.activeProgramRun = none) (hplan : state.activeManualRun = some plan)
    (hprojectable : projectable state = true)
    (hvalid : validateRunPersistenceSnapshot
      (projectRunPersistenceSnapshot state ids trigger time intervalMinutes) = true) :
    ∃ restored, restoreRunPersistenceSnapshot
        (projectRunPersistenceSnapshot state ids trigger time intervalMinutes) destination =
          some restored ∧
      Restores (projectRunPersistenceSnapshot state ids trigger time intervalMinutes) ids
        trigger time intervalMinutes destination restored := by
  have hselection : state.sensorSelection.isSome = true := by
    simpa [projectable, RunCommandState.hasActiveRun, hrun, hplan] using hprojectable
  have hvariant : (projectRunPersistenceSnapshot state ids trigger time
      intervalMinutes).variant = .manualRun := by
    simp [projectRunPersistenceSnapshot, RunCommandState.hasActiveRun, hrun, hplan]
  refine ⟨_, restore_manualRun hvalid hvariant, ?_, ?_, rfl⟩
  · rw [makeRunPersistenceSnapshot_eq_some]
    have hsame : projectRunPersistenceSnapshot
        { restoredActive (projectRunPersistenceSnapshot state ids trigger time
            intervalMinutes) destination with
          activeManualRun := (projectRunPersistenceSnapshot state ids trigger time
            intervalMinutes).manual } ids trigger time intervalMinutes =
          projectRunPersistenceSnapshot state ids trigger time intervalMinutes := by
      simp [projectRunPersistenceSnapshot, RunCommandState.hasActiveRun, restoredActive,
        restoredBase, clearActiveRunState, hrun, hplan]
    refine ⟨?_, hvalid, hsame⟩
    simp [projectable, RunCommandState.hasActiveRun, restoredActive, restoredBase,
      clearActiveRunState, projectRunPersistenceSnapshot, hrun, hplan, hselection]
  · rw [failClosedRuntime, hvariant]
    rfl

theorem restores_noActiveRun (destination : RunCommandState)
    (hrun : state.activeProgramRun = none) (hplan : state.activeManualRun = none)
    (hvalid : validateRunPersistenceSnapshot
      (projectRunPersistenceSnapshot state ids trigger time intervalMinutes) = true) :
    ∃ restored, restoreRunPersistenceSnapshot
        (projectRunPersistenceSnapshot state ids trigger time intervalMinutes) destination =
          some restored ∧
      Restores (projectRunPersistenceSnapshot state ids trigger time intervalMinutes) ids
        trigger time intervalMinutes destination restored := by
  have hvariant : (projectRunPersistenceSnapshot state ids trigger time
      intervalMinutes).variant = .noActiveRun := by
    simp [projectRunPersistenceSnapshot, RunCommandState.hasActiveRun, hrun, hplan]
  refine ⟨_, restore_noActiveRun hvalid hvariant, ?_, ?_, rfl⟩
  · rw [makeRunPersistenceSnapshot_eq_some]
    have hsame : projectRunPersistenceSnapshot
        (restoredBase (projectRunPersistenceSnapshot state ids trigger time
          intervalMinutes) destination) ids trigger time intervalMinutes =
          projectRunPersistenceSnapshot state ids trigger time intervalMinutes := by
      simp [projectRunPersistenceSnapshot, RunCommandState.hasActiveRun, restoredBase,
        clearActiveRunState, hrun, hplan]
    refine ⟨?_, hvalid, hsame⟩
    simp [projectable, RunCommandState.hasActiveRun, restoredBase, clearActiveRunState]
  · rw [failClosedRuntime, hvariant]
    rfl

/-- Whatever can be projected can be restored, into any state, and projects to the
same checkpoint again.  Nothing that the checkpoint lacks comes from the state it
was taken of: the sensor selection permits nothing, and the rest stays what it is
in the destination, that is, at its initial value in a fresh state. -/
theorem restore_of_project
    (h : makeRunPersistenceSnapshot state ids trigger time intervalMinutes =
      some snapshot) (destination : RunCommandState) :
    ∃ restored, restoreRunPersistenceSnapshot snapshot destination = some restored ∧
      Restores snapshot ids trigger time intervalMinutes destination restored := by
  obtain ⟨hprojectable, hvalid, rfl⟩ := makeRunPersistenceSnapshot_eq_some.mp h
  cases hrun : state.activeProgramRun with
  | some run => exact restores_programRun destination hrun hprojectable hvalid
  | none =>
      cases hplan : state.activeManualRun with
      | some plan => exact restores_manualRun destination hrun hplan hprojectable hvalid
      | none => exact restores_noActiveRun destination hrun hplan hvalid

/-! ### An adjusted run -/

/-- A yoghurt program of eight hours at the highest temperature. -/
def adjustedProgram : RunProgramSnapshot where
  source := .stored {
    program := {
      id := [121]
      name := [89]
      sensorPreference := .airOnly
      productSensorFailure := { returnStrategy := .remainOnAirUntilEnd }
      fermentationStages := [⟨some kMaximumFermentationTemperatureCelsius, some 480⟩]
      targetQualification := ⟨some kMaximumQualificationBandCelsius, some 5⟩
      maximumTargetReachMinutes := some 120 } }
  sourceKind := .userProgram
  sourceProgramRevision := some 1

def fortyDegrees : Binary64 := .ofBits 0x4044000000000000

/-- The target was lowered before the fermentation began, and the fermentation was
shortened by an hour after a restart. -/
def adjustments : List RunRevision :=
  [{ sequence := 1
     monotonicEpoch := 0
     stageIndex := 0
     completedStageCount := 0
     before := ⟨kMaximumFermentationTemperatureCelsius, 480⟩
     after := ⟨fortyDegrees, 480⟩
     targetTemperatureChanged := true
     remainingDurationChanged := false
     effect := .restartTargetQualification
     source := .localDisplay
     reason := .userAdjustment
     timestamp := ⟨60000, some 1700000060⟩ },
   { sequence := 2
     monotonicEpoch := 1
     stageIndex := 0
     completedStageCount := 0
     before := ⟨fortyDegrees, 480⟩
     after := ⟨fortyDegrees, 420⟩
     targetTemperatureChanged := false
     remainingDurationChanged := true
     effect := .none
     source := .webInterface
     reason := .userAdjustment
     timestamp := ⟨30000, some 1700003600⟩ }]

/-- The run, with a permission, a message and commands that no checkpoint holds. -/
def adjustedRun : RunCommandState where
  processState := { state := .fermenting, stateEnteredAtMillis := 1000, transitionSequence := 4 }
  activeProgramRun := some {
    snapshot := adjustedProgram
    effectiveValues := ⟨fortyDegrees, 420⟩
    revisions := adjustments
    monotonicEpoch := 1 }
  processRunSnapshot := makeProcessRunSnapshot adjustedProgram ⟨fortyDegrees, 420⟩
  activeRunId := [49]
  activeRunSensorMode := some .air
  sensorSelection := some {}
  sensorSelectionRuntime := { phase := .normalAir, permission := .allowed }
  runRevision := 6
  messageRevision := 2
  commandSequence := 9
  processedCommandIds := [5, 6]
  priorBootPhaseElapsed := some ⟨.fermenting, ⟨600, some 660⟩⟩
  recoveryEpisodeRevision := 1

set_option maxRecDepth 1000000 in
/-- The adjusted run comes back with its program, its adjustments and the values that
they lead to, and without a permission. -/
theorem restore_of_project_adjusted :
    ∃ snapshot restored, makeRunPersistenceSnapshot adjustedRun [7] .command
        ⟨90000, some 1700003660⟩ 5 = some snapshot ∧
      snapshot.variant = .programRun ∧ snapshot.revisions = adjustments ∧
      restoreRunPersistenceSnapshot snapshot {} = some restored ∧
      Restores snapshot [7] .command ⟨90000, some 1700003660⟩ 5 {} restored := by
  have hmade : makeRunPersistenceSnapshot adjustedRun [7] .command ⟨90000, some 1700003660⟩ 5 =
      some (projectRunPersistenceSnapshot adjustedRun [7] .command
        ⟨90000, some 1700003660⟩ 5) := by
    decide +kernel
  obtain ⟨restored, hrestored⟩ := restore_of_project hmade {}
  exact ⟨_, restored, hmade, rfl, rfl, hrestored⟩

end RoundTrip

end Fermentationsschrank

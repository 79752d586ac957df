import Fermentationsschrank.Run.RunState

/-!
# Run persistence contract

The part of the live state that a checkpoint stores, the conditions under which
it may be stored, and the two directions between the live state and a
checkpoint.
-/

namespace Fermentationsschrank

def kMaximumPersistedRunCommandIds : ℕ := 32
def kMinimumRunCheckpointIntervalMinutes : UInt16 := 1
def kMaximumRunCheckpointIntervalMinutes : UInt16 := 60
def kDefaultRunCheckpointIntervalMinutes : UInt16 := 5
def kCurrentRunPersistenceSchema : UInt32 := 6

/-- Recovery faults became a storable state of an active run with this schema. -/
def kActiveFaultIntroducedInSchema : UInt32 := 3

inductive RunCheckpointVariant
  | programRun
  | manualRun
  | noActiveRun
  deriving DecidableEq, Repr

structure RunCheckpointTime where
  monotonicMillis : UInt64
  utcUnixSeconds : Option Int64
  deriving DecidableEq, Repr

structure RunPersistenceSnapshot where
  variant : RunCheckpointVariant := .noActiveRun
  trigger : RunCheckpointTrigger := .command
  checkpointMonotonicMillis : UInt64 := 0
  intervalMinutes : UInt16 := kDefaultRunCheckpointIntervalMinutes
  activeRunId : Bytes := []
  activeRunSensorMode : Option RunSensorMode := none
  sensorSelection : Option PersistedSensorSelectionState := none
  program : Option RunProgramSnapshot := none
  revisions : List RunRevision := []
  manual : Option ManualRunPlan := none
  processRunSnapshot : Option ProcessRunSnapshot := none
  actuatorPlannerParametersSnapshot : Option ActuatorPlannerParameters := none
  processState : ProcessRuntimeState := {}
  runRevision : UInt32 := 0
  persistedRunCommandIds : List CommandId := []
  pendingRecoveryAnchor : Option PendingRecoveryAnchor := none
  recoveryBootAnchorMonotonicMillis : Option UInt64 := none
  recoveryTemperatureEvidence : RecoveryTemperatureEvidence := {}
  lastRecoveryEpisodeEvidence : Option RecoveryEpisodeEvidence := none
  priorBootPhaseElapsed : Option TaggedPriorBootPhaseElapsed := none
  nominalRecoveryAdjustment : Option NominalRecoveryAdjustmentState := none
  recoveryEpisodeRevision : UInt32 := 0
  runProgress : RunProgressState := {}
  deriving DecidableEq, Repr

def knownRunPersistenceSchema (schemaVersion : UInt32) : Bool :=
  1 ≤ schemaVersion ∧ schemaVersion ≤ kCurrentRunPersistenceSchema

/-! ## Validation -/

def validStateFor : RunCheckpointVariant → ProcessState → Bool
  | .programRun, state =>
      match state with
      | .preheating | .waitingForProduct | .reachingTarget | .qualifyingTarget
      | .fermenting | .cooling | .coolHolding | .completed | .fault
      | .recoveryEvaluation => true
      | _ => false
  | .manualRun, state =>
      match state with
      | .preheating | .waitingForProduct | .reachingTarget | .qualifyingTarget
      | .manualHolding | .completed | .fault | .recoveryEvaluation => true
      | _ => false
  | .noActiveRun, state => state = .standby

def validIds (ids : List CommandId) : Bool :=
  ids.length ≤ kMaximumPersistedRunCommandIds ∧ 0 ∉ ids ∧ ids.Nodup

def validSensorSelectionCrossFields (persisted : PersistedSensorSelectionState)
    (activeMode : RunSensorMode) (runRevision : UInt32) : Bool :=
  (persisted.lastDecisionCause = .none ↔ persisted.lastDecisionRunRevision = 0) ∧
    persisted.lastDecisionRunRevision ≤ runRevision ∧
    (persisted.provenance = .fallbackActive → activeMode = .air) ∧
    (persisted.provenance = .returnedToProduct → activeMode = .product)

def noActiveRunHasNoRecoveryFields (snapshot : RunPersistenceSnapshot) : Bool :=
  snapshot.pendingRecoveryAnchor.isNone &&
    snapshot.recoveryBootAnchorMonotonicMillis.isNone &&
    snapshot.lastRecoveryEpisodeEvidence.isNone &&
    snapshot.priorBootPhaseElapsed.isNone &&
    snapshot.nominalRecoveryAdjustment.isNone &&
    snapshot.runProgress.weightedProgress.isNone

/-- The anchor is open either while the recovery is evaluated or in a resumed
phase whose earlier time is still unbounded. -/
def validPendingRecoveryAnchorContext (snapshot : RunPersistenceSnapshot) : Bool :=
  let state := snapshot.processState.state
  match snapshot.pendingRecoveryAnchor with
  | none => state ≠ .recoveryEvaluation
  | some anchor =>
      if state = .recoveryEvaluation then
        snapshot.recoveryBootAnchorMonotonicMillis.isSome &&
          stateUsesRunSnapshot anchor.originalProcessState.state &&
          snapshot.processRunSnapshot.any
            (stateMatchesRunSnapshot anchor.originalProcessState.state)
      else
        decide (state = .waitingForProduct ∨ state = .fermenting ∨ state = .coolHolding) &&
          snapshot.recoveryBootAnchorMonotonicMillis.isSome &&
          snapshot.priorBootPhaseElapsed.any fun prior =>
            prior.taggedState = state ∧ prior.elapsed.upperBoundSeconds.isNone

def validPriorBootPhaseElapsedBounds (elapsed : PriorBootPhaseElapsed) : Bool :=
  elapsed.upperBoundSeconds.all (elapsed.lowerBoundSeconds ≤ ·)

def validFirstAfterRestartRoleEvidence (role : Option RoleTemperatureEvidence) : Bool :=
  role.all fun role => role.quality = .valid ∧ role.filteredCelsius.isSome

def validFirstAfterRestartEvidence (evidence : FirstAfterRestartEvidence) : Bool :=
  validFirstAfterRestartRoleEvidence evidence.air &&
    validFirstAfterRestartRoleEvidence evidence.product &&
    validFirstAfterRestartRoleEvidence evidence.cooling

/-- The tag names the current phase, or the phase of the open anchor while the
recovery is evaluated. -/
def validPriorBootPhaseElapsedTag (snapshot : RunPersistenceSnapshot) : Bool :=
  snapshot.priorBootPhaseElapsed.all fun prior =>
    if snapshot.processState.state ≠ .recoveryEvaluation then
      prior.taggedState = snapshot.processState.state
    else
      snapshot.pendingRecoveryAnchor.any fun anchor =>
        prior.taggedState = anchor.originalProcessState.state

def validWeightedProgressRoleConfidence (provenance : WeightedProgressProvenance) : Bool :=
  provenance.lastSourceRole = .product ∨ provenance.confidence = .airReduced

def validWeightedProgressState (weighted : WeightedProgressState) : Bool :=
  (weighted.lastApplied.all fun last =>
    last.modelRevision ≠ 0 ∧ last.lastAppliedSegmentId ≠ 0 ∧
      validWeightedProgressRoleConfidence last) &&
  match weighted.coverage with
  | .complete =>
      weighted.lastApplied.isSome &&
        weighted.cumulative.upperBoundSeconds.any
          (weighted.cumulative.lowerBoundSeconds ≤ ·)
  | .partialUnknown =>
      weighted.cumulative.upperBoundSeconds.isNone &&
        (weighted.lastApplied.isSome ||
          decide (weighted.cumulative.lowerBoundSeconds = 0))

def validRecoveryEpisodeEvidence (evidence : RecoveryEpisodeEvidence) : Bool :=
  evidence.weightedProgressSegmentId.all (· ≠ 0) &&
    validFirstAfterRestartEvidence evidence.firstAfterRestart

def validRecoveryFieldsForSnapshot (snapshot : RunPersistenceSnapshot) : Bool :=
  if snapshot.variant = .noActiveRun then noActiveRunHasNoRecoveryFields snapshot
  else
    validPendingRecoveryAnchorContext snapshot && validPriorBootPhaseElapsedTag snapshot &&
      (snapshot.pendingRecoveryAnchor.all fun anchor =>
        validPriorBootPhaseElapsedBounds anchor.accumulatedBeforeEpisode) &&
      (snapshot.priorBootPhaseElapsed.all fun prior =>
        validPriorBootPhaseElapsedBounds prior.elapsed) &&
      snapshot.lastRecoveryEpisodeEvidence.all validRecoveryEpisodeEvidence &&
      snapshot.runProgress.weightedProgress.all validWeightedProgressState

def validNoActiveRunSnapshot (snapshot : RunPersistenceSnapshot) : Bool :=
  snapshot.activeRunId.isEmpty && snapshot.activeRunSensorMode.isNone &&
    snapshot.sensorSelection.isNone && snapshot.program.isNone &&
    snapshot.revisions.isEmpty && snapshot.manual.isNone &&
    snapshot.processRunSnapshot.isNone &&
    snapshot.actuatorPlannerParametersSnapshot.isNone &&
    validRecoveryFieldsForSnapshot snapshot &&
    validateProcessRuntimeForCheckpoint snapshot.processState none
      snapshot.checkpointMonotonicMillis

/-- The conditions shared by program and manual runs. -/
def validActiveRunSnapshot (snapshot : RunPersistenceSnapshot) : Bool :=
  validRunId snapshot.activeRunId && snapshot.processRunSnapshot.isSome &&
    (snapshot.activeRunSensorMode.any fun mode =>
      snapshot.sensorSelection.any fun selection =>
        validSensorSelectionCrossFields selection mode snapshot.runRevision) &&
    validRecoveryFieldsForSnapshot snapshot &&
    snapshot.actuatorPlannerParametersSnapshot.all fun parameters =>
      classifyActuatorPlannerParameters parameters = .valid

def validProgramRunSnapshot (snapshot : RunPersistenceSnapshot) : Bool :=
  snapshot.manual.isNone && (snapshot.processRunSnapshot.any (·.kind = .timed)) &&
    (snapshot.program.any fun program =>
      (validateRunProgramSnapshotInto program snapshot.revisions).any fun values =>
        decide (makeProcessRunSnapshot program values = snapshot.processRunSnapshot)) &&
    validateProcessRuntimeForCheckpoint snapshot.processState snapshot.processRunSnapshot
      snapshot.checkpointMonotonicMillis

def validManualRunSnapshot (snapshot : RunPersistenceSnapshot) : Bool :=
  snapshot.program.isNone && snapshot.revisions.isEmpty &&
    (snapshot.processRunSnapshot.any (·.kind = .manualHolding)) &&
    (snapshot.manual.any fun plan =>
      decide (plan.values.runId = snapshot.activeRunId ∧
        some plan.values.sensorMode = snapshot.activeRunSensorMode ∧
        makeManualProcessRunSnapshot plan = snapshot.processRunSnapshot) &&
      validateManualRunPlan plan) &&
    validateProcessRuntimeForCheckpoint snapshot.processState snapshot.processRunSnapshot
      snapshot.checkpointMonotonicMillis

def validateRunPersistenceSnapshot (snapshot : RunPersistenceSnapshot) : Bool :=
  decide (kMinimumRunCheckpointIntervalMinutes ≤ snapshot.intervalMinutes ∧
    snapshot.intervalMinutes ≤ kMaximumRunCheckpointIntervalMinutes) &&
  validIds snapshot.persistedRunCommandIds &&
  validStateFor snapshot.variant snapshot.processState.state &&
  match snapshot.variant with
  | .noActiveRun => validNoActiveRunSnapshot snapshot
  | .programRun => validActiveRunSnapshot snapshot && validProgramRunSnapshot snapshot
  | .manualRun => validActiveRunSnapshot snapshot && validManualRunSnapshot snapshot

def validateRunPersistenceSnapshotForSchema (snapshot : RunPersistenceSnapshot)
    (schemaVersion : UInt32) : Bool :=
  knownRunPersistenceSchema schemaVersion &&
    !(decide (schemaVersion < 5) &&
      snapshot.program.any fun program => program.sourceKind = .manualTimed) &&
    !decide (schemaVersion < kActiveFaultIntroducedInSchema ∧
      snapshot.variant ≠ .noActiveRun ∧ snapshot.processState.state = .fault) &&
    validateRunPersistenceSnapshot snapshot

/-! ### What a valid checkpoint carries -/

theorem makeProcessRunSnapshot_valid {program : RunProgramSnapshot}
    {values : EffectiveRunValues} {process : ProcessRunSnapshot}
    (h : makeProcessRunSnapshot program values = some process) :
    validateProcessRunSnapshot process = true :=
  (Option.filter_eq_some_iff.mp h).2

theorem makeManualProcessRunSnapshot_valid {plan : ManualRunPlan}
    {process : ProcessRunSnapshot} (h : makeManualProcessRunSnapshot plan = some process) :
    validateProcessRunSnapshot process = true := by
  unfold makeManualProcessRunSnapshot at h
  split at h
  · exact (Option.filter_eq_some_iff.mp h).2
  · cases h

theorem validRunSource_of_validate {program : RunProgramSnapshot}
    {revisions : List RunRevision} {values : EffectiveRunValues}
    (h : validateRunProgramSnapshotInto program revisions = some values) :
    program.sourceKind = programSourceKind program.source ∧
      revisions.length ≤ kMaximumRunRevisions ∧
      ∃ initial, makeInitialEffectiveRunValues program.source
        program.sourceProgramRevision = some initial := by
  unfold validateRunProgramSnapshotInto at h
  split at h
  · rename_i hchecks
    obtain ⟨initial, hinitial, -⟩ := Option.bind_eq_some_iff.mp h
    exact ⟨hchecks.1, hchecks.2, initial, hinitial⟩
  · cases h

namespace RunPersistenceSnapshot

variable {snapshot : RunPersistenceSnapshot}

theorem validIds_of_validate (h : validateRunPersistenceSnapshot snapshot = true) :
    validIds snapshot.persistedRunCommandIds = true := by
  simp only [validateRunPersistenceSnapshot, Bool.and_eq_true] at h
  exact h.1.1.2

/-- A checkpoint of a program run carries its program and nothing manual. -/
theorem programRun_of_validate (h : validateRunPersistenceSnapshot snapshot = true)
    (hvariant : snapshot.variant = .programRun) :
    ∃ program values, snapshot.program = some program ∧ snapshot.manual = none ∧
      validateRunProgramSnapshotInto program snapshot.revisions = some values ∧
      makeProcessRunSnapshot program values = snapshot.processRunSnapshot := by
  simp only [validateRunPersistenceSnapshot, hvariant, validProgramRunSnapshot,
    Bool.and_eq_true, Option.any_eq_true, decide_eq_true_eq, Option.isNone_iff_eq_none] at h
  obtain ⟨-, -, ⟨⟨hmanual, -⟩, program, hprogram, values, hvalues, hprocess⟩, -⟩ := h
  exact ⟨program, values, hprogram, hmanual, hvalues, hprocess⟩

theorem manualRun_of_validate (h : validateRunPersistenceSnapshot snapshot = true)
    (hvariant : snapshot.variant = .manualRun) :
    ∃ plan, snapshot.manual = some plan ∧ snapshot.program = none ∧
      snapshot.revisions = [] ∧ plan.values.runId = snapshot.activeRunId ∧
      some plan.values.sensorMode = snapshot.activeRunSensorMode ∧
      makeManualProcessRunSnapshot plan = snapshot.processRunSnapshot := by
  simp only [validateRunPersistenceSnapshot, hvariant, validManualRunSnapshot,
    Bool.and_eq_true, Option.any_eq_true, decide_eq_true_eq, Option.isNone_iff_eq_none,
    List.isEmpty_iff] at h
  obtain ⟨-, -, ⟨⟨⟨hprogram, hrevisions⟩, -⟩, plan, hplan, ⟨hid, hmode, hprocess⟩, -⟩, -⟩ := h
  exact ⟨plan, hplan, hprogram, hrevisions, hid, hmode, hprocess⟩

/-- A checkpoint of an active run names its sensor and its process. -/
theorem activeRun_of_validate (h : validateRunPersistenceSnapshot snapshot = true)
    (hvariant : snapshot.variant ≠ .noActiveRun) :
    validRunId snapshot.activeRunId = true ∧
      (∃ mode, snapshot.activeRunSensorMode = some mode) ∧
      (∃ selection, snapshot.sensorSelection = some selection) ∧
      (∃ process, snapshot.processRunSnapshot = some process ∧
        validateProcessRunSnapshot process = true) ∧
      ∀ parameters ∈ snapshot.actuatorPlannerParametersSnapshot,
        classifyActuatorPlannerParameters parameters = .valid := by
  have hactive : validActiveRunSnapshot snapshot = true := by
    simp only [validateRunPersistenceSnapshot, Bool.and_eq_true] at h
    cases hcase : snapshot.variant with
    | noActiveRun => exact absurd hcase hvariant
    | programRun =>
        rw [hcase] at h
        exact (Bool.and_eq_true _ _ ▸ h.2).1
    | manualRun =>
        rw [hcase] at h
        exact (Bool.and_eq_true _ _ ▸ h.2).1
  have hprocess : ∀ process, snapshot.processRunSnapshot = some process →
      validateProcessRunSnapshot process = true := by
    intro process hsome
    cases hcase : snapshot.variant with
    | noActiveRun => exact absurd hcase hvariant
    | programRun =>
        obtain ⟨program, values, -, -, -, hmake⟩ := programRun_of_validate h hcase
        exact makeProcessRunSnapshot_valid (hmake.trans hsome)
    | manualRun =>
        obtain ⟨plan, -, -, -, -, -, hmake⟩ := manualRun_of_validate h hcase
        exact makeManualProcessRunSnapshot_valid (hmake.trans hsome)
  simp only [validActiveRunSnapshot, Bool.and_eq_true, Option.any_eq_true,
    Option.isSome_iff_exists, Option.all_eq_true, decide_eq_true_eq] at hactive
  obtain ⟨⟨⟨⟨hid, process, hsome⟩, mode, hmode, selection, hselection, -⟩, -⟩,
    hparameters⟩ := hactive
  exact ⟨hid, ⟨mode, hmode⟩, ⟨selection, hselection⟩,
    ⟨process, hsome, hprocess process hsome⟩, hparameters⟩

/-- A tombstone carries no run data at all. -/
theorem noActiveRun_of_validate (h : validateRunPersistenceSnapshot snapshot = true)
    (hvariant : snapshot.variant = .noActiveRun) :
    snapshot.activeRunId = [] ∧ snapshot.activeRunSensorMode = none ∧
      snapshot.sensorSelection = none ∧ snapshot.program = none ∧
      snapshot.revisions = [] ∧ snapshot.manual = none ∧
      snapshot.processRunSnapshot = none ∧
      snapshot.actuatorPlannerParametersSnapshot = none ∧
      snapshot.processState.state = .standby := by
  simp only [validateRunPersistenceSnapshot, hvariant, validNoActiveRunSnapshot,
    validStateFor, Bool.and_eq_true, Option.isNone_iff_eq_none, List.isEmpty_iff,
    decide_eq_true_eq] at h
  obtain ⟨⟨-, hstate⟩, ⟨⟨⟨⟨⟨⟨⟨⟨hid, hmode⟩, hselection⟩, hprogram⟩, hrevisions⟩, hmanual⟩,
    hprocess⟩, hplanner⟩, -⟩, -⟩ := h
  exact ⟨hid, hmode, hselection, hprogram, hrevisions, hmanual, hprocess, hplanner, hstate⟩

end RunPersistenceSnapshot

/-! ## From the live state to a checkpoint -/

/-- The projection itself, before its validation. -/
def projectRunPersistenceSnapshot (state : RunCommandState) (ids : List CommandId)
    (trigger : RunCheckpointTrigger) (time : RunCheckpointTime)
    (intervalMinutes : UInt16) : RunPersistenceSnapshot :=
  let common : RunPersistenceSnapshot := {
    trigger
    checkpointMonotonicMillis := time.monotonicMillis
    intervalMinutes
    processState := state.processState
    runRevision := state.runRevision
    persistedRunCommandIds := ids
    recoveryTemperatureEvidence := state.recoveryTemperatureEvidence
    recoveryEpisodeRevision := state.recoveryEpisodeRevision }
  if state.hasActiveRun then
    { common with
      variant := if state.activeProgramRun.isSome then .programRun else .manualRun
      activeRunId := state.activeRunId
      activeRunSensorMode := state.activeRunSensorMode
      sensorSelection := state.sensorSelection
      program := state.activeProgramRun.map (·.snapshot)
      revisions := (state.activeProgramRun.map (·.revisions)).getD []
      manual := state.activeManualRun
      processRunSnapshot := state.processRunSnapshot
      actuatorPlannerParametersSnapshot := state.actuatorPlannerParametersSnapshot
      pendingRecoveryAnchor := state.pendingRecoveryAnchor
      recoveryBootAnchorMonotonicMillis := state.recoveryBootAnchorMonotonicMillis
      lastRecoveryEpisodeEvidence := state.lastRecoveryEpisodeEvidence
      priorBootPhaseElapsed := state.priorBootPhaseElapsed
      nominalRecoveryAdjustment := state.nominalRecoveryAdjustment
      runProgress := state.runProgress }
  else common

/-- What the source checks before it projects. -/
def projectable (state : RunCommandState) : Bool :=
  !(state.activeProgramRun.isSome && state.activeManualRun.isSome) &&
    (state.hasActiveRun ||
      state.activeRunId.isEmpty && state.activeRunSensorMode.isNone &&
        state.processRunSnapshot.isNone) &&
    (!state.hasActiveRun || state.sensorSelection.isSome)

def makeRunPersistenceSnapshot (state : RunCommandState) (ids : List CommandId)
    (trigger : RunCheckpointTrigger) (time : RunCheckpointTime)
    (intervalMinutes : UInt16) : Option RunPersistenceSnapshot :=
  let snapshot := projectRunPersistenceSnapshot state ids trigger time intervalMinutes
  if projectable state && validateRunPersistenceSnapshot snapshot then some snapshot
  else none

/-! ## From a checkpoint to the live state -/

/-- Messages, command bookkeeping and the safety flag of the destination stay. -/
def restoreRunPersistenceSnapshot (snapshot : RunPersistenceSnapshot)
    (destination : RunCommandState := {}) : Option RunCommandState :=
  if !validateRunPersistenceSnapshot snapshot then none
  else
    let cleared := { clearActiveRunState destination with
      processState := snapshot.processState
      runRevision := snapshot.runRevision
      recoveryTemperatureEvidence := snapshot.recoveryTemperatureEvidence
      recoveryEpisodeRevision := snapshot.recoveryEpisodeRevision }
    let active := { cleared with
      activeRunId := snapshot.activeRunId
      activeRunSensorMode := snapshot.activeRunSensorMode
      sensorSelection := snapshot.sensorSelection
      processRunSnapshot := snapshot.processRunSnapshot
      actuatorPlannerParametersSnapshot := snapshot.actuatorPlannerParametersSnapshot
      pendingRecoveryAnchor := snapshot.pendingRecoveryAnchor
      recoveryBootAnchorMonotonicMillis := snapshot.recoveryBootAnchorMonotonicMillis
      lastRecoveryEpisodeEvidence := snapshot.lastRecoveryEpisodeEvidence
      priorBootPhaseElapsed := snapshot.priorBootPhaseElapsed
      nominalRecoveryAdjustment := snapshot.nominalRecoveryAdjustment
      runProgress := snapshot.runProgress
      -- No peltier permission survives a boot.
      sensorSelectionRuntime := {
        phase := .restartRevalidationPending
        permission := .blocked } }
    match snapshot.variant with
    | .programRun => do
        let program ← snapshot.program
        let run ← ActiveRun.restore program snapshot.revisions
        some { active with activeProgramRun := some run }
    | .manualRun => some { active with activeManualRun := snapshot.manual }
    | .noActiveRun => some cleared

/-! ## The head record -/

structure RunCheckpointReference where
  slot : UInt8 := 0
  schemaVersion : UInt32 := 0
  storageEpoch : UInt64 := 0
  checkpointRevision : UInt64 := 0
  payloadLength : UInt32 := 0
  payloadCrc : UInt32 := 0
  variant : RunCheckpointVariant := .noActiveRun
  deriving DecidableEq, Repr

inductive RunPersistenceHeadState
  | prepared
  | committed
  deriving DecidableEq, Repr

inductive RunPersistenceMutationKind
  | command
  | transition
  | sensorSelection
  | recovery
  deriving DecidableEq, Repr

/-- A prepared head uses the prepared references and the target, a committed one
`current` and `fallback`.  Schema version zero marks an unused reference. -/
structure RunPersistenceHead where
  state : RunPersistenceHeadState := .prepared
  revision : UInt64 := 0
  current : RunCheckpointReference := {}
  fallback : Option RunCheckpointReference := none
  preparedCurrent : Option RunCheckpointReference := none
  preparedFallback : Option RunCheckpointReference := none
  target : RunCheckpointReference := {}
  mutationKind : RunPersistenceMutationKind := .command
  commandId : Option CommandId := none
  commandIdHighWater : Option CommandId := none
  oldRunRevision : UInt32 := 0
  newRunRevision : UInt32 := 0
  oldTransitionSequence : UInt32 := 0
  newTransitionSequence : UInt32 := 0
  bytes : Bytes := []
  deriving DecidableEq, Repr

/-- A checkpoint together with the record it was read from or written as. -/
structure RunPersistenceRawRecord where
  bytes : Bytes
  snapshot : RunPersistenceSnapshot
  checkpointRevision : UInt64
  utcUnixSeconds : Option Int64
  deriving DecidableEq, Repr

end Fermentationsschrank

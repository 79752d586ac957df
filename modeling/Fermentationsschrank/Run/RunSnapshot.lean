import Fermentationsschrank.Program.ProgramModel

/-!
# Active runs

The immutable source of a run, the chain of its adjustments and the effective
values they lead to.  The fixed array with a count of the source is a list
here; its capacity is checked where the source checks it.
-/

namespace Fermentationsschrank

def kMaximumRunRevisions : ℕ := 32

inductive ProgramSourceKind
  | factoryCatalog
  | userProgram
  | manualTimed
  deriving DecidableEq, Repr

inductive RunChangeSource
  | localDisplay
  | webInterface
  | recovery
  deriving DecidableEq, Repr

inductive RunChangeReason
  | userAdjustment
  | recoveryCorrection
  deriving DecidableEq, Repr

structure RunTimestamp where
  monotonicMillis : UInt64 := 0
  unixTimeSeconds : Option Int64 := none
  deriving DecidableEq, Repr

structure EffectiveRunValues where
  targetTemperatureCelsius : Binary64
  remainingDurationMinutes : UInt32
  deriving DecidableEq, Repr

structure ManualTimedRunSource where
  stage : FermentationStage := {}
  preheatEnabled : Bool := false
  maximumProductWaitMinutes : Option UInt32 := none
  targetQualification : TargetQualification := {}
  maximumTargetReachMinutes : Option UInt32 := none
  completion : ProgramCompletion := {}
  deriving DecidableEq, Repr

inductive ProgramRunSource
  | stored (document : ProgramDocument)
  | manualTimed (source : ManualTimedRunSource)
  deriving DecidableEq, Repr

structure RunProgramSnapshot where
  source : ProgramRunSource
  sourceKind : ProgramSourceKind
  sourceProgramRevision : Option UInt64
  deriving DecidableEq, Repr

inductive RunAdjustmentPhaseContext
  | beforeFermentation
  | fermenting
  deriving DecidableEq, Repr

inductive RunAdjustmentEffect
  | none
  | restartTargetQualification
  | continueFermentationWithoutRequalification
  deriving DecidableEq, Repr

structure RunRevision where
  sequence : UInt32
  monotonicEpoch : UInt32
  stageIndex : UInt32
  completedStageCount : UInt32
  before : EffectiveRunValues
  after : EffectiveRunValues
  targetTemperatureChanged : Bool
  remainingDurationChanged : Bool
  effect : RunAdjustmentEffect
  source : RunChangeSource
  reason : RunChangeReason
  timestamp : RunTimestamp
  deriving DecidableEq, Repr

structure RunAdjustmentContext where
  runActive : Bool := true
  activeStageIndex : UInt32 := 0
  completedStageCount : UInt32 := 0
  phaseContext : RunAdjustmentPhaseContext := .beforeFermentation
  deriving DecidableEq, Repr

structure RunAdjustmentRequest where
  targetTemperatureCelsius : Option Binary64 := none
  remainingDurationMinutes : Option UInt32 := none
  confirmed : Bool := false
  source : RunChangeSource := .localDisplay
  reason : RunChangeReason := .userAdjustment
  timestamp : RunTimestamp := {}
  deriving DecidableEq, Repr

inductive RunAdjustmentStatus
  | proposed
  | applied
  | notConfirmed
  | noChange
  | runInactive
  | safetyRejected
  | invalidStage
  | completedStage
  | invalidValue
  | invalidMetadata
  | timestampWentBackwards
  | revisionCapacityReached
  deriving DecidableEq, Repr

structure RunAdjustmentDecision where
  status : RunAdjustmentStatus
  expectedRevisionCount : ℕ
  expectedValues : EffectiveRunValues
  revision : Option RunRevision
  deriving DecidableEq, Repr

structure ActiveRun where
  snapshot : RunProgramSnapshot
  effectiveValues : EffectiveRunValues
  revisions : List RunRevision
  monotonicEpoch : UInt32
  deriving DecidableEq, Repr

/-! ## Sources -/

def programSourceKind : ProgramRunSource → ProgramSourceKind
  | .manualTimed _ => .manualTimed
  | .stored document =>
      if document.program.factoryCatalogEntry then .factoryCatalog else .userProgram

def storedProgram : ProgramRunSource → Option ProgramDocument
  | .stored document => some document
  | .manualTimed _ => none

def sourceMatchesProgram (document : ProgramDocument) (sourceKind : ProgramSourceKind) :
    Bool :=
  if sourceKind = .factoryCatalog then
    document.program.builtIn && document.program.factoryCatalogEntry
  else !document.program.builtIn && !document.program.factoryCatalogEntry

def optionalInRange (value : Option Binary64) (minimum maximum : Binary64) : Bool :=
  value.any fun value => inRange value minimum maximum

def validCompletion (completion : ProgramCompletion) : Bool :=
  match completion.mode with
  | .finishWithoutCooling =>
      completion.coolingTargetCelsius.isNone && completion.holdDurationMinutes.isNone
  | .coolThenFinish | .coolAndHoldUntilManualStop =>
      optionalInRange completion.coolingTargetCelsius kMinimumCoolingTargetCelsius
          kMaximumCoolingTargetCelsius &&
        completion.holdDurationMinutes.isNone
  | .coolAndHoldForDuration =>
      optionalInRange completion.coolingTargetCelsius kMinimumCoolingTargetCelsius
          kMaximumCoolingTargetCelsius &&
        completion.holdDurationMinutes.any (kMinimumHoldDurationMinutes ≤ ·)

def validateManualTimedRunSource (source : ManualTimedRunSource) : Bool :=
  let validStage :=
    optionalInRange source.stage.targetTemperatureCelsius
        kMinimumFermentationTemperatureCelsius kMaximumFermentationTemperatureCelsius &&
      source.stage.durationMinutes.any fun minutes =>
        kMinimumFermentationDurationMinutes ≤ minutes ∧
          minutes ≤ kMaximumFermentationDurationMinutes
  let validQualification :=
    optionalInRange source.targetQualification.bandCelsius
        kMinimumQualificationBandCelsius kMaximumQualificationBandCelsius &&
      source.targetQualification.durationMinutes.any
        (kMinimumQualificationDurationMinutes ≤ ·)
  let validReach :=
    source.maximumTargetReachMinutes.any (kMinimumTargetReachMinutes ≤ ·)
  let waitMatchesPreheat :=
    source.preheatEnabled == source.maximumProductWaitMinutes.isSome
  let validWait := source.maximumProductWaitMinutes.all fun minutes =>
    kMinimumProductWaitMinutes ≤ minutes ∧ minutes ≤ kMaximumProductWaitMinutes
  let validHold := source.completion.holdDurationMinutes.all
    (kMinimumHoldDurationMinutes ≤ ·)
  validStage && validQualification && validReach && waitMatchesPreheat && validWait &&
    validHold && validCompletion source.completion

def sourceStageCount : ProgramRunSource → ℕ
  | .stored document => document.program.fermentationStages.length
  | .manualTimed _ => 1

def initialStage : ProgramRunSource → Option FermentationStage
  | .stored document => document.program.fermentationStages.head?
  | .manualTimed source => some source.stage

def makeInitialEffectiveRunValues (source : ProgramRunSource)
    (sourceProgramRevision : Option UInt64) : Option EffectiveRunValues := do
  let accepted := match source with
    | .stored document =>
        sourceProgramRevision.any (· ≠ 0) &&
          sourceMatchesProgram document (programSourceKind source) &&
          (validateProgram document .runnable).valid
    | .manualTimed manual =>
        sourceProgramRevision.isNone && validateManualTimedRunSource manual
  if accepted then
    let stage ← initialStage source
    let targetTemperatureCelsius ← stage.targetTemperatureCelsius
    let remainingDurationMinutes ← stage.durationMinutes
    return { targetTemperatureCelsius, remainingDurationMinutes }
  else none

/-! ## Revisions -/

def equalValues (left right : EffectiveRunValues) : Bool :=
  left.targetTemperatureCelsius.eq right.targetTemperatureCelsius &&
    left.remainingDurationMinutes = right.remainingDurationMinutes

def monotonicTimestampWentBackwards (current : RunTimestamp)
    (currentMonotonicEpoch : UInt32) (previous : RunTimestamp)
    (previousMonotonicEpoch : UInt32) : Bool :=
  currentMonotonicEpoch < previousMonotonicEpoch ∨
    currentMonotonicEpoch = previousMonotonicEpoch ∧
      current.monotonicMillis < previous.monotonicMillis

def unixTimestampWentBackwards (current : RunTimestamp)
    (latestUnixTimeSeconds : Option Int64) : Bool :=
  match current.unixTimeSeconds, latestUnixTimeSeconds with
  | some current, some latest => current < latest
  | _, _ => false

def latestUnixTimeSeconds (revisions : List RunRevision) : Option Int64 :=
  revisions.reverse.findSome? fun revision => revision.timestamp.unixTimeSeconds

def validMonotonicEpoch (previous : Option RunRevision) (revision : RunRevision) : Bool :=
  match previous with
  | none => revision.monotonicEpoch = 0
  | some previous =>
      revision.monotonicEpoch = previous.monotonicEpoch ∨
        previous.monotonicEpoch < revision.monotonicEpoch ∧
          revision.monotonicEpoch - previous.monotonicEpoch = 1

/-- The source with one stage replaced by its image under `change`. -/
def withStage (source : ProgramRunSource) (stageIndex : UInt32)
    (change : FermentationStage → FermentationStage) : ProgramRunSource :=
  match source with
  | .stored document =>
      .stored { document with program := { document.program with
        fermentationStages :=
          document.program.fermentationStages.modify stageIndex.toNat change } }
  | .manualTimed manual => .manualTimed { manual with stage := change manual.stage }

def validSource : ProgramRunSource → Bool
  | .stored document => (validateProgram document .runnable).valid
  | .manualTimed manual => validateManualTimedRunSource manual

def validTargetTemperature (snapshot : RunProgramSnapshot) (stageIndex : UInt32)
    (target : Binary64) : Bool :=
  stageIndex.toNat < sourceStageCount snapshot.source ∧
    validSource (withStage snapshot.source stageIndex fun stage =>
      { stage with targetTemperatureCelsius := some target })

def validRemainingDuration (snapshot : RunProgramSnapshot) (stageIndex : UInt32)
    (remainingDurationMinutes : UInt32) : Bool :=
  stageIndex.toNat < sourceStageCount snapshot.source ∧
    (remainingDurationMinutes = 0 ∨
      validSource (withStage snapshot.source stageIndex fun stage =>
        { stage with durationMinutes := some remainingDurationMinutes }))

def validAdjustmentEffectForChange (effect : RunAdjustmentEffect)
    (targetTemperatureChanged : Bool) : Bool :=
  if targetTemperatureChanged then effect ≠ .none else effect = .none

def validRevisionMetadata (revision : RunRevision) : Bool :=
  revision.completedStageCount ≤ revision.stageIndex &&
    (revision.targetTemperatureChanged || revision.remainingDurationChanged) &&
    revision.targetTemperatureChanged ==
      !revision.before.targetTemperatureCelsius.eq
        revision.after.targetTemperatureCelsius &&
    revision.remainingDurationChanged ==
      decide (revision.before.remainingDurationMinutes ≠
        revision.after.remainingDurationMinutes) &&
    validAdjustmentEffectForChange revision.effect revision.targetTemperatureChanged

/-- Walks the chain of revisions and returns the values it ends with.  `index`
counts the revisions already passed. -/
def validateRevisions (snapshot : RunProgramSnapshot) :
    (index : ℕ) → (previous : Option RunRevision) → (current : EffectiveRunValues) →
      (latestUnixTimestamp : Option Int64) → List RunRevision → Option EffectiveRunValues
  | _, _, current, _, [] => some current
  | index, previous, current, latestUnixTimestamp, revision :: revisions =>
      if revision.sequence.toNat = index + 1 ∧ validMonotonicEpoch previous revision ∧
          revision.stageIndex.toNat < sourceStageCount snapshot.source ∧
          equalValues revision.before current ∧ validRevisionMetadata revision ∧
          validTargetTemperature snapshot revision.stageIndex
            revision.after.targetTemperatureCelsius ∧
          validRemainingDuration snapshot revision.stageIndex
            revision.after.remainingDurationMinutes ∧
          (previous.all fun previous =>
            !monotonicTimestampWentBackwards revision.timestamp revision.monotonicEpoch
              previous.timestamp previous.monotonicEpoch) ∧
          ¬ unixTimestampWentBackwards revision.timestamp latestUnixTimestamp then
        validateRevisions snapshot (index + 1) (some revision) revision.after
          (revision.timestamp.unixTimeSeconds.or latestUnixTimestamp) revisions
      else none

/-- The effective values of a well-formed run program, without building a run. -/
def validateRunProgramSnapshotInto (snapshot : RunProgramSnapshot)
    (revisions : List RunRevision) : Option EffectiveRunValues :=
  if snapshot.sourceKind = programSourceKind snapshot.source ∧
      revisions.length ≤ kMaximumRunRevisions then do
    let initial ← makeInitialEffectiveRunValues snapshot.source
      snapshot.sourceProgramRevision
    validateRevisions snapshot 0 none initial none revisions
  else none

namespace ActiveRun

def start (source : ProgramRunSource) (sourceProgramRevision : Option UInt64) :
    Option ActiveRun := do
  let effectiveValues ← makeInitialEffectiveRunValues source sourceProgramRevision
  return {
    snapshot := ⟨source, programSourceKind source, sourceProgramRevision⟩
    effectiveValues
    revisions := []
    monotonicEpoch := 0 }

/-- A restored run lives in a new monotonic epoch when it carries revisions. -/
def restore (snapshot : RunProgramSnapshot) (revisions : List RunRevision) :
    Option ActiveRun := do
  let effectiveValues ← validateRunProgramSnapshotInto snapshot revisions
  return {
    snapshot, effectiveValues, revisions
    monotonicEpoch := match revisions.getLast? with
      | some last => last.monotonicEpoch + 1
      | none => 0 }

def adjustmentEffectFor (targetChanged : Bool) (phase : RunAdjustmentPhaseContext) :
    RunAdjustmentEffect :=
  if targetChanged then
    match phase with
    | .fermenting => .continueFermentationWithoutRequalification
    | .beforeFermentation => .restartTargetQualification
  else .none

/-- The timestamp does not fit behind the last revision of the run. -/
def timestampInvalid (run : ActiveRun) (timestamp : RunTimestamp)
    (monotonicEpoch : UInt32) : Bool :=
  run.revisions.getLast?.any fun last =>
    monotonicTimestampWentBackwards timestamp monotonicEpoch last.timestamp
        last.monotonicEpoch ||
      unixTimestampWentBackwards timestamp (latestUnixTimeSeconds run.revisions)

def decideAdjustment (run : ActiveRun) (request : RunAdjustmentRequest)
    (context : RunAdjustmentContext) : RunAdjustmentDecision :=
  let checked : Except RunAdjustmentStatus RunRevision := do
    require request.confirmed .notConfirmed
    require context.runActive .runInactive
    require (context.activeStageIndex.toNat < sourceStageCount run.snapshot.source)
      .invalidStage
    require (context.completedStageCount ≤ context.activeStageIndex) .completedStage
    require (!run.timestampInvalid request.timestamp run.monotonicEpoch)
      .timestampWentBackwards
    require (request.targetTemperatureCelsius.isSome ||
      request.remainingDurationMinutes.isSome) .noChange
    require (run.revisions.length < kMaximumRunRevisions) .revisionCapacityReached
    require (request.targetTemperatureCelsius.all
      (validTargetTemperature run.snapshot context.activeStageIndex)) .invalidValue
    require (request.remainingDurationMinutes.all
      (validRemainingDuration run.snapshot context.activeStageIndex)) .invalidValue
    let before := run.effectiveValues
    let after : EffectiveRunValues := {
      targetTemperatureCelsius :=
        request.targetTemperatureCelsius.getD before.targetTemperatureCelsius
      remainingDurationMinutes :=
        request.remainingDurationMinutes.getD before.remainingDurationMinutes }
    let targetTemperatureChanged :=
      !after.targetTemperatureCelsius.eq before.targetTemperatureCelsius
    let remainingDurationChanged :=
      decide (after.remainingDurationMinutes ≠ before.remainingDurationMinutes)
    require (targetTemperatureChanged || remainingDurationChanged) .noChange
    return {
      sequence := UInt32.ofNat (run.revisions.length + 1)
      monotonicEpoch := run.monotonicEpoch
      stageIndex := context.activeStageIndex
      completedStageCount := context.completedStageCount
      before, after, targetTemperatureChanged, remainingDurationChanged
      effect := adjustmentEffectFor targetTemperatureChanged context.phaseContext
      source := request.source
      reason := request.reason
      timestamp := request.timestamp }
  match checked with
  | .ok revision => ⟨.proposed, run.revisions.length, run.effectiveValues, some revision⟩
  | .error status => ⟨status, run.revisions.length, run.effectiveValues, none⟩

def applyAdjustment (run : ActiveRun) (decision : RunAdjustmentDecision) :
    Except RunAdjustmentStatus (ActiveRun × RunAdjustmentEffect) := do
  require (decision.status = .proposed) .noChange
  let revision ← orFail decision.revision .noChange
  require (decision.expectedRevisionCount = run.revisions.length ∧
    equalValues decision.expectedValues run.effectiveValues ∧
    run.revisions.length < kMaximumRunRevisions) .noChange
  require (revision.sequence.toNat = run.revisions.length + 1 ∧
    revision.monotonicEpoch = run.monotonicEpoch ∧
    equalValues revision.before run.effectiveValues ∧
    validRevisionMetadata revision ∧
    validTargetTemperature run.snapshot revision.stageIndex
      revision.after.targetTemperatureCelsius ∧
    validRemainingDuration run.snapshot revision.stageIndex
      revision.after.remainingDurationMinutes ∧
    ¬ run.timestampInvalid revision.timestamp revision.monotonicEpoch) .invalidValue
  return ({ run with
    revisions := run.revisions ++ [revision]
    effectiveValues := revision.after }, revision.effect)

end ActiveRun

/-! ## Restoring -/

/-- A restored run keeps its source, its revisions and the values they imply. -/
theorem ActiveRun.restore_eq_some {snapshot : RunProgramSnapshot}
    {revisions : List RunRevision} {run : ActiveRun} :
    ActiveRun.restore snapshot revisions = some run ↔
      validateRunProgramSnapshotInto snapshot revisions = some run.effectiveValues ∧
        run.snapshot = snapshot ∧ run.revisions = revisions ∧
          run.monotonicEpoch = match revisions.getLast? with
            | some last => last.monotonicEpoch + 1
            | none => 0 := by
  simp only [ActiveRun.restore, Option.pure_def, Option.bind_eq_bind,
    Option.bind_eq_some_iff, Option.some.injEq]
  constructor
  · rintro ⟨values, hvalues, rfl⟩
    exact ⟨hvalues, rfl, rfl, rfl⟩
  · rintro ⟨hvalues, rfl, rfl, hepoch⟩
    refine ⟨run.effectiveValues, hvalues, ?_⟩
    rw [← hepoch]

end Fermentationsschrank

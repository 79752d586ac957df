import Fermentationsschrank.Run.RunState

/-!
# Sensor selection

The evidence a decision is based on, what a decision changes, and the two
parts that recovery and the persistence coordinator use: the role of the sensor
that controls a phase, and the selection after a restart.
-/

namespace Fermentationsschrank

/-! ## Evidence -/

/-- A sensor as the quality pipeline reports it, less its raw values and
counters. -/
structure SensorQualitySnapshot where
  quality : SensorQuality := .stale
  filteredCelsius : Option Binary64 := none
  deriving DecidableEq, Repr

inductive AbstractControlDirection
  | unknown
  | heating
  | cooling
  | idle
  deriving DecidableEq, Repr

inductive ThermalCompatibility
  | unavailable
  | compatible
  | incompatible
  | stale
  deriving DecidableEq, Repr

structure ThermalCompatibilityEvidence where
  status : ThermalCompatibility := .unavailable
  profileRevision : UInt32 := 0
  evaluatedAtMonotonicMillis : UInt64 := 0
  deriving DecidableEq, Repr

structure CrossRolePlausibilityContext where
  phase : ProcessState := .boot
  evaluationMonotonicMillis : UInt64 := 0
  air : SensorQualitySnapshot := {}
  product : SensorQualitySnapshot := {}
  cooling : SensorQualitySnapshot := {}
  direction : AbstractControlDirection := .unknown
  controlDemandAgeMs : Option UInt64 := none
  thermalCompatibility : ThermalCompatibilityEvidence := {}
  deriving DecidableEq, Repr

structure SensorSelectionProgramContext where
  sensorPreference : SensorPreference := .productIfAvailableElseAir
  policy : ProductSensorFailurePolicy := .fallbackToAirAfterTimeout
  returnStrategy : ReturnStrategy := .manualReturnToProduct
  fallbackDelaySeconds : Option UInt32 := none
  deriving DecidableEq, Repr

/-! ## Mutations -/

inductive SensorSelectionBlockReason
  | none
  | productSensorUnusable
  | airSensorUnusable
  | coolingSensorUnusable
  | simultaneousFixedSensorFailure
  | crossRoleEvidenceIndeterminate
  | policyWait
  | userActionRequired
  | safeStateRequired
  | restartRevalidationRequired
  | invalidContext
  deriving DecidableEq, Repr

structure SensorSelectionEvent where
  beforeMode : RunSensorMode
  afterMode : RunSensorMode
  cause : SensorSelectionDecisionCause
  runRevision : UInt32
  monotonicMillis : UInt64
  utcUnixSeconds : Option Int64
  deriving DecidableEq, Repr

structure SensorSelectionNotice where
  cause : SensorSelectionDecisionCause
  monotonicMillis : UInt64
  runRevision : UInt32
  activeMode : RunSensorMode
  blockReason : SensorSelectionBlockReason
  deriving DecidableEq, Repr

structure StartSensorSelectionNotice where
  requestedMode : RunSensorMode
  effectiveMode : RunSensorMode
  runRevision : UInt32
  deriving DecidableEq, Repr

inductive SensorSelectionApplyStatus
  | appliedPersistentCandidate
  | appliedRamOnly
  | noChange
  | staleDecision
  | invalidDecision
  | timeWentBackwards
  | capacityReached
  | invalidContext
  deriving DecidableEq, Repr

structure SensorSelectionStateMutation where
  status : SensorSelectionApplyStatus := .invalidDecision
  runtime : SensorSelectionRuntimeState := {}
  activeMode : Option RunSensorMode := none
  persisted : Option PersistedSensorSelectionState := none
  resultingRunRevision : UInt32 := 0
  event : Option SensorSelectionEvent := none
  notice : Option SensorSelectionNotice := none
  deriving DecidableEq, Repr

/-- The mode of a manual run is kept in its plan as well. -/
def setManualSensorMode (plan : Option ManualRunPlan) (mode : RunSensorMode) :
    Option ManualRunPlan :=
  plan.map fun plan => { plan with values := { plan.values with sensorMode := mode } }

def applySensorSelectionMutation (state : RunCommandState)
    (mutation : SensorSelectionStateMutation) : RunCommandState :=
  { state with
    sensorSelectionRuntime := mutation.runtime
    activeRunSensorMode := mutation.activeMode
    sensorSelection := mutation.persisted
    runRevision := mutation.resultingRunRevision
    activeManualRun := match mutation.activeMode with
      | some mode => setManualSensorMode state.activeManualRun mode
      | none => state.activeManualRun }

/-- A changed sensor restarts a running qualification. -/
def applySensorRoleChangeQualificationReset (state : RunCommandState)
    (monotonicMillis : UInt64) : Option RunCommandState :=
  if state.processState.state ≠ .qualifyingTarget then some state
  else
    let reset := decideProcessTransition state.processState state.processRunSnapshot {} {}
      monotonicMillis
    if state.processRunSnapshot.isSome ∧ reset.proposed ∧
        reset.reason = .qualificationReset then
      (applyProcessTransition state.processState reset state.processRunSnapshot).map
        fun processState => { state with processState }
    else none

/-! ## The controlling sensor -/

/-- The role of the sensor that controls; `unlisted` is every other byte. -/
inductive ControlSensorRole
  | air
  | product
  | unlisted
  deriving DecidableEq, Repr

def resolveEffectiveControlSensorRole (phase : ProcessState)
    (activeRunSensorMode : Option RunSensorMode) : Option ControlSensorRole :=
  if phase = .preheating ∨ phase = .waitingForProduct then some .air
  else activeRunSensorMode.map fun
    | .product => .product
    | .air => .air

def resolveProductInsertedControlContextTransition (before after : Option ControlSensorRole) :
    Option CommittedControlContextTransition :=
  if before = some .air ∧ after = some .product then some .productInserted else none

def resolveControlSensorRoleTransition (beforePhase : ProcessState)
    (beforeRunSensorMode : Option RunSensorMode) (afterPhase : ProcessState)
    (afterRunSensorMode : Option RunSensorMode) :
    Option CommittedControlContextTransition :=
  let before := resolveEffectiveControlSensorRole beforePhase beforeRunSensorMode
  let after := resolveEffectiveControlSensorRole afterPhase afterRunSensorMode
  if before.isSome ∧ after.isSome ∧ before ≠ after then some .sensorRoleChange else none

/-! ## After a restart -/

def usable (snapshot : SensorQualitySnapshot) : Bool := snapshot.quality = .valid

/-- The stored provenance names the mode it belongs to. -/
def provenanceMatchesMode (provenance : SensorSelectionProvenance)
    (mode : RunSensorMode) : Bool :=
  (provenance = .fallbackActive → mode = .air) ∧
    (provenance = .returnedToProduct → mode = .product)

def modeAllowedByProgram (preference : SensorPreference) (mode : RunSensorMode) : Bool :=
  match preference with
  | .productIfAvailableElseAir | .airProductOptional => true
  | .productRequired => mode = .product
  | .airOnly => mode = .air

structure RestartSensorSelectionRecommendation where
  runtime : SensorSelectionRuntimeState
  activeMode : RunSensorMode
  deriving DecidableEq, Repr

def restartPhase (provenance : SensorSelectionProvenance) (mode : RunSensorMode) :
    SensorSelectionPhase :=
  match mode with
  | .air => if provenance = .fallbackActive then .airFallbackActive else .normalAir
  | .product => .normalProduct

def computeRestartSensorSelection (persisted : PersistedSensorSelectionState)
    (lastActiveMode : RunSensorMode) (program : SensorSelectionProgramContext)
    (plausibility : CrossRolePlausibilityContext) : RestartSensorSelectionRecommendation :=
  if provenanceMatchesMode persisted.provenance lastActiveMode &&
      modeAllowedByProgram program.sensorPreference lastActiveMode &&
      usable plausibility.air && usable plausibility.cooling &&
      (decide (lastActiveMode = .air) || usable plausibility.product) then
    { runtime := {
        phase := restartPhase persisted.provenance lastActiveMode
        permission := .allowed
        lastAppliedMonotonicMillis := some plausibility.evaluationMonotonicMillis }
      activeMode := lastActiveMode }
  else
    { runtime := { phase := .restartRevalidationPending, permission := .blocked }
      activeMode := lastActiveMode }

/-- A manual run, stored or timed, waits for the user when the product sensor
fails. -/
def recoverySensorSelectionProgramContext (current : RunCommandState) :
    SensorSelectionProgramContext :=
  match current.activeProgramRun.bind fun run => storedProgram run.snapshot.source with
  | some document => {
      sensorPreference := document.program.sensorPreference
      policy := document.program.productSensorFailure.policy
      returnStrategy := document.program.productSensorFailure.returnStrategy
      fallbackDelaySeconds := document.program.productSensorFailure.fallbackDelaySeconds }
  | none => {
      sensorPreference := .productIfAvailableElseAir
      policy := .waitForUser
      returnStrategy := .manualReturnToProduct }

end Fermentationsschrank

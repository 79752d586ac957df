import Fermentationsschrank.Recovery.RecoveryOperations

/-!
# Run recovery

What the recovery does with a run that is live again: its time is evaluated anew
when more is known of it, and the progress of an outage is booked once.
-/

namespace Fermentationsschrank

/-! ## Weighted progress -/

structure RecoveryProgressWeightingInput where
  phase : ProcessState
  episodeEvidence : RecoveryEpisodeEvidence
  outage : Option RecoveryOutageBounds
  usableSensorRole : Option RunSensorMode
  deriving DecidableEq, Repr

structure WeightedProgressContribution where
  delta : WeightedProgressBounds
  sourceRole : RunSensorMode
  confidence : WeightedProgressConfidence
  modelRevision : UInt32
  deriving DecidableEq, Repr

/-- How much a run has progressed during an outage, if that can be told. -/
abbrev RecoveryProgressWeightingModel :=
  RecoveryProgressWeightingInput → Option WeightedProgressContribution

def validTemperatureEvidence (evidence : RoleTemperatureEvidence) : Bool :=
  evidence.quality = .valid ∧ evidence.filteredCelsius.isSome

def beforeEvidenceFor (input : RecoveryProgressWeightingInput) :
    Option RoleTemperatureEvidence :=
  input.usableSensorRole.map fun
    | .product => input.episodeEvidence.beforeOutage.product
    | .air => input.episodeEvidence.beforeOutage.air

def firstEvidenceFor (input : RecoveryProgressWeightingInput) :
    Option RoleTemperatureEvidence :=
  input.usableSensorRole.bind fun
    | .product => input.episodeEvidence.firstAfterRestart.product
    | .air => input.episodeEvidence.firstAfterRestart.air

def hasUsableRecoveryProgressEvidence (input : RecoveryProgressWeightingInput) : Bool :=
  decide (input.phase = .fermenting) && input.outage.isSome &&
    (beforeEvidenceFor input).any validTemperatureEvidence &&
    (firstEvidenceFor input).any validTemperatureEvidence

def expectedConfidence : RunSensorMode → WeightedProgressConfidence
  | .air => .airReduced
  | .product => .productPreferred

def isValidWeightedProgressContribution (input : RecoveryProgressWeightingInput)
    (contribution : WeightedProgressContribution) : Bool :=
  hasUsableRecoveryProgressEvidence input &&
    decide (some contribution.sourceRole = input.usableSensorRole ∧
      contribution.modelRevision ≠ 0 ∧
      contribution.confidence = expectedConfidence contribution.sourceRole) &&
    contribution.delta.upperBoundSeconds.any (contribution.delta.lowerBoundSeconds ≤ ·)

/-- Air evidence is never forgotten. -/
def combineWeightedProgressConfidence (previous contribution : WeightedProgressConfidence) :
    WeightedProgressConfidence :=
  if previous = .airReduced ∨ contribution = .airReduced then .airReduced
  else .productPreferred

/-- The bounds after a contribution; absent when a bound overflows. -/
def bookContribution (booked : Option WeightedProgressState)
    (delta : WeightedProgressBounds) : Option WeightedProgressState :=
  match booked with
  | none => some { coverage := .complete, cumulative := delta }
  | some state => do
      let lower ← checkedAdd state.cumulative.lowerBoundSeconds delta.lowerBoundSeconds
      if state.coverage = .partialUnknown then
        some { state with cumulative := ⟨lower, none⟩ }
      else do
        let before ← state.cumulative.upperBoundSeconds
        let added ← delta.upperBoundSeconds
        let upper ← checkedAdd before added
        some { state with cumulative := ⟨lower, some upper⟩ }

/-- The live state with the progress of a segment booked. -/
def weightedCandidate (current : RunCommandState)
    (expectedRunRevision expectedRecoveryEpisodeRevision weightedProgressSegmentId : UInt32)
    (suppliedInput : RecoveryProgressWeightingInput)
    (model : RecoveryProgressWeightingModel) :
    Except RunPersistenceResultStatus RunCommandState := do
  require (expectedRunRevision = current.runRevision ∧
    expectedRecoveryEpisodeRevision = current.recoveryEpisodeRevision) .staleDecision
  let evidence ← orFail (current.lastRecoveryEpisodeEvidence.filter fun evidence =>
    weightedProgressSegmentId ≠ 0 ∧
      evidence.weightedProgressSegmentId = some weightedProgressSegmentId) .notAllowedInState
  require (current.activeRunSensorMode.isSome ∧
    suppliedInput.usableSensorRole = current.activeRunSensorMode ∧
    current.sensorSelectionRuntime.permission = .allowed) .notAllowedInState
  let input := { suppliedInput with
    phase := current.processState.state
    episodeEvidence := evidence }
  let contribution ← orFail
    ((model input).filter (isValidWeightedProgressContribution input)) .notEligible
  let last := current.runProgress.weightedProgress.bind (·.lastApplied)
  require (last.all (·.lastAppliedSegmentId ≠ weightedProgressSegmentId)) .alreadyProcessed
  require (last.all (·.modelRevision = contribution.modelRevision)) .notAllowedInState
  let booked ← orFail
    (bookContribution current.runProgress.weightedProgress contribution.delta)
    .counterOverflow
  let confidence := match last with
    | some last => combineWeightedProgressConfidence last.confidence contribution.confidence
    | none => contribution.confidence
  require (current.runRevision ≠ maxUInt32) .counterOverflow
  return { current with
    runProgress := { current.runProgress with
      weightedProgress := some { booked with
        lastApplied := some ⟨contribution.sourceRole, confidence,
          contribution.modelRevision, weightedProgressSegmentId⟩ } }
    runRevision := current.runRevision + 1 }

/-! ## Time that has become known -/

def reevaluatedPriorElapsed (context : RecoveryTimeContext) :
    Option PriorBootPhaseElapsed := accumulatedPriorForResume context

/-- The live state with a better knowledge of the time of an earlier boot. -/
def reevaluatedCandidate (current : RunCommandState) (time : RunCheckpointTime) :
    Except RunPersistenceResultStatus RunCommandState := do
  let phase := current.processState.state
  let anchor ← orFail current.pendingRecoveryAnchor .notAllowedInState
  let bootAnchor ← orFail current.recoveryBootAnchorMonotonicMillis .notAllowedInState
  require (phase = .waitingForProduct ∨ phase = .fermenting ∨ phase = .coolHolding)
    .notAllowedInState
  let previous ← orFail
    (current.priorBootPhaseElapsed.filter fun prior => prior.taggedState = phase)
    .notAllowedInState
  let context ← orFail (deriveRecoveryTimeContext anchor time.utcUnixSeconds
    time.monotonicMillis bootAnchor) .notAllowedInState
  let reevaluated ← orFail (reevaluatedPriorElapsed context) .invalidDecision
  let lowerImproved :=
    decide (previous.elapsed.lowerBoundSeconds < reevaluated.lowerBoundSeconds)
  let upperResolved :=
    previous.elapsed.upperBoundSeconds.isNone && reevaluated.upperBoundSeconds.isSome
  require (lowerImproved || upperResolved) .notDue
  require (current.runRevision ≠ maxUInt32) .counterOverflow
  let candidate := { current with priorBootPhaseElapsed := some ⟨phase, reevaluated⟩ }
  let resolved :=
    if reevaluated.upperBoundSeconds.isSome then
      { candidate with
        pendingRecoveryAnchor := none
        recoveryBootAnchorMonotonicMillis := none }
    else candidate
  return { resolved with runRevision := current.runRevision + 1 }

/-! ## The operations -/

/-- A candidate of the recovery is written; a refusal only has a status. -/
def persistRecovered (coordinator : RunPersistenceCoordinator) (current : RunCommandState)
    (time : RunCheckpointTime) :
    Except RunPersistenceResultStatus RunCommandState → RunStoreProgram RunPersistenceOutcome
  | .error status =>
      pure ⟨{ status, coordinatorState := coordinator.state }, coordinator, current⟩
  | .ok candidate => coordinator.persistRecoveryCandidate current candidate time

def reevaluateRecoveryTime (coordinator : RunPersistenceCoordinator)
    (current : RunCommandState) (time : RunCheckpointTime)
    (live : Option CrossRolePlausibilityContext) : RunStoreProgram RunPersistenceOutcome :=
  if current.pendingRecoveryAnchor.isSome ∧
      current.recoveryBootAnchorMonotonicMillis.isSome ∧
      current.processState.state = .recoveryEvaluation then
    coordinator.reevaluateRecoveryEvaluation current time live
  else persistRecovered coordinator current time (reevaluatedCandidate current time)

def applyRecoveryProgressWeighting (coordinator : RunPersistenceCoordinator)
    (current : RunCommandState)
    (expectedRunRevision expectedRecoveryEpisodeRevision weightedProgressSegmentId : UInt32)
    (time : RunCheckpointTime) (input : RecoveryProgressWeightingInput)
    (model : RecoveryProgressWeightingModel) : RunStoreProgram RunPersistenceOutcome :=
  persistRecovered coordinator current time
    (weightedCandidate current expectedRunRevision expectedRecoveryEpisodeRevision
      weightedProgressSegmentId input model)

end Fermentationsschrank

import Fermentationsschrank.Run.SensorSelection

/-!
# Sensor selection decisions

The one function that decides about the controlling sensor of a run.  Each
phase of the selection has its own evaluation; `applySensorSelectionDecision`
turns its proposal into a mutation of the run.
-/

namespace Fermentationsschrank

inductive SensorSelectionUserAction
  | recheckProduct
  | continueWithAir
  | returnToProduct
  deriving DecidableEq, Repr

structure SensorSelectionStateView where
  activeRunId : Bytes := []
  runtime : SensorSelectionRuntimeState := {}
  activeMode : Option RunSensorMode := none
  persisted : Option PersistedSensorSelectionState := none
  runRevision : UInt32 := 0
  deriving DecidableEq, Repr

structure SensorSelectionDecision where
  expected : SensorSelectionStateView
  program : SensorSelectionProgramContext
  plausibility : CrossRolePlausibilityContext
  userAction : Option SensorSelectionUserAction := none
  deriving DecidableEq, Repr

def sensorSelectionViewFrom (state : RunCommandState) : SensorSelectionStateView where
  activeRunId := state.activeRunId
  runtime := state.sensorSelectionRuntime
  activeMode := state.activeRunSensorMode
  persisted := state.sensorSelection
  runRevision := state.runRevision

/-! ## Evidence -/

def checkedAddMillis (left right : UInt64) : Option UInt64 :=
  if left ≤ maxUInt64 - right then some (left + right) else none

/-- Seconds fit the millisecond word, whatever their value. -/
def checkedMillisFromSeconds (seconds : UInt32) : UInt64 := seconds.toUInt64 * 1000

def thermalEvidenceStructurallyValid (context : CrossRolePlausibilityContext) : Bool :=
  let evidence := context.thermalCompatibility
  (evidence.status = .unavailable ∨ evidence.profileRevision ≠ 0) ∧
    evidence.evaluatedAtMonotonicMillis ≤ context.evaluationMonotonicMillis

def fullyPositiveReturnEvidence (context : CrossRolePlausibilityContext) : Bool :=
  usable context.product && usable context.air && usable context.cooling &&
    decide (context.direction ≠ .unknown) && context.controlDemandAgeMs.isSome &&
    thermalEvidenceStructurallyValid context &&
    decide (context.thermalCompatibility.status = .compatible)

/-- A malformed report of incompatibility is no reason to abort a return. -/
def definitivelyIncompatible (context : CrossRolePlausibilityContext) : Bool :=
  thermalEvidenceStructurallyValid context &&
    decide (context.thermalCompatibility.status = .incompatible)

def mustBeBlocked (phase : SensorSelectionPhase) : Bool :=
  match phase with
  | .safeLocked | .productFailureDetected | .userDecisionRequired
  | .restartRevalidationPending => true
  | _ => false

def validRuntimeCombination (runtime : SensorSelectionRuntimeState) : Bool :=
  if runtime.phase = .noActiveRun then runtime = {}
  else
    (mustBeBlocked runtime.phase → runtime.permission = .blocked) ∧
      (runtime.returnValidation.enteredAtMonotonicMillis.isSome →
        runtime.phase = .returnValidationPending) ∧
      (runtime.returnValidation.lastObservedProfileRevision.isSome →
        runtime.phase = .returnValidationPending ∨ runtime.phase = .airFallbackActive) ∧
      (runtime.fallbackWaitStartedAtMonotonicMillis.isSome →
        runtime.phase = .productFailureDetected) ∧
      (runtime.productReArmPending → runtime.phase = .airFallbackActive)

/-! ## Proposals -/

structure SensorSelectionProposal where
  runtime : SensorSelectionRuntimeState
  activeMode : Option RunSensorMode
  cause : SensorSelectionDecisionCause := .none
  blockReason : SensorSelectionBlockReason := .none

/-- A proposal, or the status with which the decision is rejected. -/
abbrev PhaseEvaluation := Except SensorSelectionApplyStatus SensorSelectionProposal

namespace SensorSelectionProposal

/-- Nothing changes. -/
def keep (current : SensorSelectionStateView) : SensorSelectionProposal where
  runtime := current.runtime
  activeMode := current.activeMode

def enter (proposal : SensorSelectionProposal) (phase : SensorSelectionPhase)
    (permission : SensorPeltierPermission) (cause : SensorSelectionDecisionCause) :
    SensorSelectionProposal :=
  { proposal with runtime := { proposal.runtime with phase, permission }, cause }

def setPermission (proposal : SensorSelectionProposal)
    (permission : SensorPeltierPermission) (cause : SensorSelectionDecisionCause) :
    SensorSelectionProposal :=
  { proposal with runtime := { proposal.runtime with permission }, cause }

def because (proposal : SensorSelectionProposal) (blockReason : SensorSelectionBlockReason) :
    SensorSelectionProposal := { proposal with blockReason }

def withMode (proposal : SensorSelectionProposal) (mode : RunSensorMode) :
    SensorSelectionProposal := { proposal with activeMode := some mode }

def withFallbackWait (proposal : SensorSelectionProposal) (startedAt : Option UInt64) :
    SensorSelectionProposal :=
  { proposal with runtime := { proposal.runtime with
    fallbackWaitStartedAtMonotonicMillis := startedAt } }

def clearReturn (proposal : SensorSelectionProposal) : SensorSelectionProposal :=
  { proposal with runtime := { proposal.runtime with
    returnValidation := {}
    productReArmPending := false } }

end SensorSelectionProposal

open SensorSelectionProposal

def fixedSensorBlockReason (airValid coolingValid : Bool) : SensorSelectionBlockReason :=
  match airValid, coolingValid with
  | false, false => .simultaneousFixedSensorFailure
  | false, true => .airSensorUnusable
  | true, _ => .coolingSensorUnusable

/-- The proposal to lock a run whose fixed sensors have failed. -/
def lockFixedSensors (current : SensorSelectionStateView)
    (context : CrossRolePlausibilityContext) : SensorSelectionProposal :=
  ((keep current).enter .safeLocked .blocked .safeStateEntry).because
    (fixedSensorBlockReason (usable context.air) (usable context.cooling))

def returnToNormalProduct (current : SensorSelectionStateView)
    (cause : SensorSelectionDecisionCause) : SensorSelectionProposal :=
  (keep current).enter .normalProduct .allowed cause

/-! ## Phases -/

def evaluateNormalProduct (current : SensorSelectionStateView)
    (decision : SensorSelectionDecision) (now : UInt64) : PhaseEvaluation := do
  let context := decision.plausibility
  let airValid := usable context.air
  let coolingValid := usable context.cooling
  require decision.userAction.isNone .invalidDecision
  if !airValid && !coolingValid then
    return (lockFixedSensors current context).withFallbackWait none
  if !usable context.product then
    return match decision.program.policy with
      | .stopToSafeState =>
          ((keep current).enter .safeLocked .blocked .safeStateEntry).because
            .productSensorUnusable
      | .waitForUser =>
          (((keep current).enter .userDecisionRequired .blocked
            .productFailureBlock).because .productSensorUnusable).withFallbackWait none
      | .fallbackToAirAfterTimeout =>
          (((keep current).enter .productFailureDetected .blocked
            .productFailureBlock).because .productSensorUnusable).withFallbackWait
              (some now)
  if !airValid || !coolingValid then
    return if current.runtime.permission = .allowed then
        ((keep current).setPermission .blocked .productFailureBlock).because
          (fixedSensorBlockReason airValid coolingValid)
      else keep current
  return if current.runtime.permission = .blocked then
      (keep current).setPermission .allowed .recoveryRevalidation
    else keep current

/-- The phase is never left automatically; only the permission changes. -/
def evaluateNormalAir (current : SensorSelectionStateView)
    (decision : SensorSelectionDecision) : PhaseEvaluation := do
  let airValid := usable decision.plausibility.air
  let coolingValid := usable decision.plausibility.cooling
  require decision.userAction.isNone .invalidDecision
  return match airValid && coolingValid, current.runtime.permission with
    | false, .allowed =>
        ((keep current).setPermission .blocked .productFailureBlock).because
          (fixedSensorBlockReason airValid coolingValid)
    | true, .blocked => (keep current).setPermission .allowed .recoveryRevalidation
    | _, _ => keep current

def continueWithAirFromProductPhase (current : SensorSelectionStateView)
    (decision : SensorSelectionDecision) : PhaseEvaluation := do
  require (decision.program.sensorPreference ≠ .productRequired ∧
    usable decision.plausibility.air ∧ usable decision.plausibility.cooling)
    .invalidDecision
  return (((keep current).enter .airFallbackActive .allowed
    .manualUserFallback).withFallbackWait none).withMode .air

/-- The product is usable again: back to it once the fixed sensors are. -/
def returnFromProductFailure (current : SensorSelectionStateView)
    (context : CrossRolePlausibilityContext) : SensorSelectionProposal :=
  if usable context.air && usable context.cooling then
    (returnToNormalProduct current .recoveryRevalidation).withFallbackWait none
  else keep current

def fallbackDeadline (current : SensorSelectionStateView)
    (program : SensorSelectionProgramContext) : Option UInt64 := do
  let startedAt ← current.runtime.fallbackWaitStartedAtMonotonicMillis
  let delaySeconds ← program.fallbackDelaySeconds
  checkedAddMillis startedAt (checkedMillisFromSeconds delaySeconds)

/-- Waiting for the product until the delay is over. -/
def evaluateFallbackWait (current : SensorSelectionStateView)
    (decision : SensorSelectionDecision) (now : UInt64) : PhaseEvaluation := do
  let context := decision.plausibility
  require (decision.program.policy = .fallbackToAirAfterTimeout) .invalidContext
  let deadline ← orFail (fallbackDeadline current decision.program) .invalidContext
  if now < deadline then return keep current
  if !usable context.air || !usable context.cooling then
    return (lockFixedSensors current context).withFallbackWait none
  return (((keep current).enter .airFallbackActive .allowed
    .fallbackToAir).withFallbackWait none).withMode .air

def evaluateProductFailureDetected (current : SensorSelectionStateView)
    (decision : SensorSelectionDecision) (now : UInt64) : PhaseEvaluation :=
  let context := decision.plausibility
  if decision.userAction ≠ some .continueWithAir ∧ ¬ usable context.air ∧
      ¬ usable context.cooling then
    .ok ((lockFixedSensors current context).withFallbackWait none)
  else
    match decision.userAction with
    | some .continueWithAir => continueWithAirFromProductPhase current decision
    | some .recheckProduct =>
        .ok (if usable context.product then returnFromProductFailure current context
          else keep current)
    | some .returnToProduct => .error .invalidDecision
    | none =>
        if usable context.product then .ok (returnFromProductFailure current context)
        else evaluateFallbackWait current decision now

def evaluateUserDecisionRequired (current : SensorSelectionStateView)
    (decision : SensorSelectionDecision) : PhaseEvaluation :=
  let context := decision.plausibility
  if decision.userAction ≠ some .continueWithAir ∧
      ¬ (usable context.air ∧ usable context.cooling) then
    .ok (lockFixedSensors current context)
  else
    match decision.userAction with
    | some .continueWithAir => continueWithAirFromProductPhase current decision
    | some .returnToProduct => .error .invalidDecision
    | some .recheckProduct | none =>
        .ok (if usable context.product then
            returnToNormalProduct current .recoveryRevalidation
          else keep current)

/-- A new attempt to return, which only the runtime records. -/
def startReturnValidation (current : SensorSelectionStateView)
    (context : CrossRolePlausibilityContext) (now : UInt64) : SensorSelectionProposal :=
  let kept := keep current
  { kept with runtime := { kept.runtime with
    phase := .returnValidationPending
    returnValidation := ⟨some now, some context.thermalCompatibility.profileRevision⟩ } }

def manualReturnToProduct (current : SensorSelectionStateView)
    (decision : SensorSelectionDecision) : PhaseEvaluation := do
  require (decision.program.returnStrategy = .manualReturnToProduct ∧
    usable decision.plausibility.product) .invalidDecision
  return ((returnToNormalProduct current .manualUserReturn).clearReturn).withMode .product

def automaticReturn (current : SensorSelectionStateView) : SensorSelectionProposal :=
  ((returnToNormalProduct current .automaticValidatedReturn).clearReturn).withMode .product

def recheckProductOnAir (current : SensorSelectionStateView)
    (decision : SensorSelectionDecision) (now : UInt64) : PhaseEvaluation := do
  let context := decision.plausibility
  if ¬ usable context.product ∨
      decision.program.returnStrategy ≠ .automaticValidatedReturnToProduct then
    return keep current
  require (thermalEvidenceStructurallyValid context) .invalidContext
  if fullyPositiveReturnEvidence context then return automaticReturn current
  if definitivelyIncompatible context then return keep current
  -- Incomplete evidence opens a validation; the re-arm marker stays.
  return startReturnValidation current context now

/-- A product failure seen on the way arms the next attempt. -/
def evaluateAirFallbackAutomatic (current : SensorSelectionStateView)
    (decision : SensorSelectionDecision) (now : UInt64) : PhaseEvaluation := do
  let context := decision.plausibility
  let kept := keep current
  if !usable context.product then
    return { kept with runtime := { kept.runtime with productReArmPending := true } }
  if decision.program.returnStrategy = .automaticValidatedReturnToProduct ∧
      (current.runtime.returnValidation.lastObservedProfileRevision ≠
          some context.thermalCompatibility.profileRevision ∨
        current.runtime.productReArmPending) then
    require (thermalEvidenceStructurallyValid context) .invalidContext
    let started := startReturnValidation current context now
    return { started with runtime := { started.runtime with productReArmPending := false } }
  return kept

def evaluateAirFallbackActive (current : SensorSelectionStateView)
    (decision : SensorSelectionDecision) (now : UInt64) : PhaseEvaluation :=
  let context := decision.plausibility
  if decision.userAction ≠ some .continueWithAir ∧
      ¬ (usable context.air ∧ usable context.cooling) then
    .ok (lockFixedSensors current context).clearReturn
  else
    match decision.userAction with
    | some .continueWithAir => .error .invalidDecision
    | some .returnToProduct => manualReturnToProduct current decision
    | some .recheckProduct => recheckProductOnAir current decision now
    | none => evaluateAirFallbackAutomatic current decision now

/-- Back on air: the observed profile revision stays for the next attempt. -/
def abortReturnValidation (current : SensorSelectionStateView) (productValid : Bool) :
    SensorSelectionProposal :=
  let kept := keep current
  { kept with
    runtime := { kept.runtime with
      phase := .airFallbackActive
      returnValidation := { kept.runtime.returnValidation with
        enteredAtMonotonicMillis := none }
      productReArmPending := kept.runtime.productReArmPending || !productValid }
    cause := .returnValidationAborted }

def evaluateReturnValidationPending (current : SensorSelectionStateView)
    (decision : SensorSelectionDecision) : PhaseEvaluation := do
  let context := decision.plausibility
  require decision.userAction.isNone .invalidDecision
  if !usable context.air || !usable context.cooling then
    return (lockFixedSensors current context).clearReturn
  if !usable context.product || definitivelyIncompatible context then
    return abortReturnValidation current (usable context.product)
  require (thermalEvidenceStructurallyValid context) .invalidContext
  return if fullyPositiveReturnEvidence context then automaticReturn current
    else keep current

def evaluatePhase (current : SensorSelectionStateView)
    (decision : SensorSelectionDecision) (now : UInt64) : PhaseEvaluation :=
  match current.runtime.phase with
  | .normalProduct => evaluateNormalProduct current decision now
  | .normalAir => evaluateNormalAir current decision
  | .productFailureDetected => evaluateProductFailureDetected current decision now
  | .userDecisionRequired => evaluateUserDecisionRequired current decision
  | .airFallbackActive => evaluateAirFallbackActive current decision now
  | .returnValidationPending => evaluateReturnValidationPending current decision
  | .safeLocked =>
      if decision.userAction.isSome then .error .invalidDecision else .ok (keep current)
  | .noActiveRun | .restartRevalidationPending => .error .invalidContext

/-! ## Mutation -/

/-- The mutation that changes nothing. -/
def sensorSelectionUnchanged (current : SensorSelectionStateView)
    (status : SensorSelectionApplyStatus) : SensorSelectionStateMutation where
  status := status
  runtime := current.runtime
  activeMode := current.activeMode
  persisted := current.persisted
  resultingRunRevision := current.runRevision

def provenanceAfter (cause : SensorSelectionDecisionCause)
    (provenance : SensorSelectionProvenance) : SensorSelectionProvenance :=
  match cause with
  | .fallbackToAir | .manualUserFallback => .fallbackActive
  | .automaticValidatedReturn | .manualUserReturn => .returnedToProduct
  | _ => provenance

/-- A proposal with a cause is recorded in the run and announced. -/
def persistentCandidate (current : SensorSelectionStateView)
    (proposal : SensorSelectionProposal) (runtime : SensorSelectionRuntimeState)
    (now : UInt64) : Except SensorSelectionApplyStatus SensorSelectionStateMutation := do
  require (current.runRevision ≠ maxUInt32) .capacityReached
  let runRevision := current.runRevision + 1
  let before := current.persisted.getD {}
  let mutation : SensorSelectionStateMutation := {
    status := .appliedPersistentCandidate
    runtime
    activeMode := proposal.activeMode
    resultingRunRevision := runRevision
    persisted := some {
      provenance := provenanceAfter proposal.cause before.provenance
      lastDecisionCause := proposal.cause
      lastDecisionRunRevision := runRevision } }
  if proposal.activeMode = current.activeMode then
    return { mutation with notice := some {
      cause := proposal.cause
      monotonicMillis := now
      runRevision
      activeMode := current.activeMode.getD .product
      blockReason := proposal.blockReason } }
  else
    let beforeMode ← orFail current.activeMode .invalidDecision
    let afterMode ← orFail proposal.activeMode .invalidDecision
    return { mutation with event := some {
      beforeMode, afterMode
      cause := proposal.cause
      runRevision
      monotonicMillis := now
      utcUnixSeconds := none } }

def decideSensorSelectionMutation (current : SensorSelectionStateView)
    (decision : SensorSelectionDecision) (now : UInt64) :
    Except SensorSelectionApplyStatus SensorSelectionStateMutation := do
  require (current = decision.expected) .staleDecision
  require (validRuntimeCombination current.runtime) .invalidDecision
  require (current.runtime.lastAppliedMonotonicMillis.all (· ≤ now)) .timeWentBackwards
  let proposal ← evaluatePhase current decision now
  let runtime := { proposal.runtime with lastAppliedMonotonicMillis := some now }
  if proposal.runtime = current.runtime ∧ proposal.activeMode = current.activeMode then
    return sensorSelectionUnchanged current .noChange
  else if proposal.cause = .none then
    return { sensorSelectionUnchanged current .appliedRamOnly with
      runtime
      activeMode := proposal.activeMode }
  else persistentCandidate current proposal runtime now

def applySensorSelectionDecision (current : SensorSelectionStateView)
    (decision : SensorSelectionDecision) (nowMonotonicMillis : UInt64) :
    SensorSelectionStateMutation :=
  match decideSensorSelectionMutation current decision nowMonotonicMillis with
  | .ok mutation => mutation
  | .error status => sensorSelectionUnchanged current status

end Fermentationsschrank

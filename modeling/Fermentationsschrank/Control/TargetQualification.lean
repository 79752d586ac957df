import Fermentationsschrank.Control.ControlOrchestrator
import Fermentationsschrank.Control.TemperatureControl

/-!
# Qualification of a target

A target is qualified by the time its sensor has spent within the band.  An evaluation
proposes the next state of the evaluator and leaves the present one alone; a proposal takes
effect when it is applied.
-/

namespace Fermentationsschrank

open ControlNumber (isFinite le magnitude ofBinary64)

/-! ## Inputs and decisions -/

/-- The phase is `none` where the byte is none of the enumerators. -/
structure TargetQualificationInput where
  phase : Option QualificationPhase := some .target
  sampleTimestampMonotonicMillis : UInt64 := 0
  runRevision : UInt32 := 0
  processTransitionSequence : UInt32 := 0
  targetCelsius : Binary64
  bandCelsius : Binary64
  qualificationDurationMillis : UInt64 := 0
  effectiveGraceMillis : Option UInt64 := none
  maximumAcceptedSampleGapMillis : Option UInt64 := none
  controlSensorRole : ControlSensorRole := .air
  air : SensorQualitySnapshot := {}
  product : SensorQualitySnapshot := {}
  deriving DecidableEq, Repr

inductive TargetQualificationDecisionLifecycle
  | pending
  | applied
  | discarded
  deriving DecidableEq, Repr

structure TargetQualificationResult where
  progress : QualificationProgress
  creditedInBandMillis : UInt64
  expectedEvaluatorState : TargetQualificationRuntimeState
  candidateEvaluatorState : TargetQualificationRuntimeState
  lifecycle : TargetQualificationDecisionLifecycle := .pending
  candidateApplicable : Bool := true
  deriving DecidableEq, Repr

/-! ## Comparisons of the source -/

namespace TargetQualificationContext

/-- `operator==`, with the comparison of `double`. -/
def same (left right : TargetQualificationContext) : Bool :=
  left.targetCelsius.eq right.targetCelsius && left.bandCelsius.eq right.bandCelsius &&
    decide (left.controlSensorRole = right.controlSensorRole)

theorem eq_of_same {left right : TargetQualificationContext} (h : left.same right = true) :
    left = right := by
  simp only [same, Bool.and_eq_true, decide_eq_true_eq] at h
  obtain ⟨⟨htarget, hband⟩, hrole⟩ := h
  cases left
  cases right
  rw [TargetQualificationContext.mk.injEq]
  exact ⟨Binary64.eq_of_eq htarget, Binary64.eq_of_eq hband, hrole⟩

end TargetQualificationContext

namespace TargetQualificationCommitContext

def same (left right : TargetQualificationCommitContext) : Bool :=
  left.qualification.same right.qualification &&
    decide (left.runRevision = right.runRevision ∧
      left.processTransitionSequence = right.processTransitionSequence)

theorem eq_of_same {left right : TargetQualificationCommitContext}
    (h : left.same right = true) : left = right := by
  simp only [same, Bool.and_eq_true, decide_eq_true_eq] at h
  obtain ⟨hqualification, hrevision, hsequence⟩ := h
  cases left
  cases right
  rw [TargetQualificationCommitContext.mk.injEq]
  exact ⟨TargetQualificationContext.eq_of_same hqualification, hrevision, hsequence⟩

end TargetQualificationCommitContext

/-- `operator==` of `std::optional`. -/
def sameOptional {α : Type} (same : α → α → Bool) : Option α → Option α → Bool
  | none, none => true
  | some left, some right => same left right
  | _, _ => false

theorem eq_of_sameOptional {α : Type} {same : α → α → Bool} {left right : Option α}
    (hsame : ∀ left right, same left right = true → left = right)
    (h : sameOptional same left right = true) : left = right := by
  cases left with
  | none =>
      cases right with
      | none => rfl
      | some right => cases h
  | some left =>
      cases right with
      | none => cases h
      | some right => rw [hsame left right h]

namespace TargetQualificationRuntimeState

variable (state : TargetQualificationRuntimeState)

/-- `clearEpisode` -/
def clearEpisode : TargetQualificationRuntimeState :=
  { state with
    episodeActive := false
    creditedInBandMillis := 0
    lastUsableTimestampMillis := none
    graceStartedAtMillis := none }

def sameState (left right : TargetQualificationRuntimeState) : Bool :=
  decide (left.phase = right.phase) &&
    sameOptional TargetQualificationContext.same left.context right.context &&
    sameOptional TargetQualificationCommitContext.same left.commitContext
      right.commitContext &&
    decide (left.episodeActive = right.episodeActive ∧
      left.creditedInBandMillis = right.creditedInBandMillis ∧
      left.lastUsableTimestampMillis = right.lastUsableTimestampMillis ∧
      left.graceStartedAtMillis = right.graceStartedAtMillis)

theorem eq_of_sameState {left right : TargetQualificationRuntimeState}
    (h : left.sameState right = true) : left = right := by
  simp only [sameState, Bool.and_eq_true, decide_eq_true_eq] at h
  obtain ⟨⟨⟨hphase, hcontext⟩, hcommit⟩, hepisode⟩ := h
  have hcontext := eq_of_sameOptional (fun _ _ => TargetQualificationContext.eq_of_same) hcontext
  have hcommit := eq_of_sameOptional (fun _ _ => TargetQualificationCommitContext.eq_of_same)
    hcommit
  cases left
  cases right
  rw [TargetQualificationRuntimeState.mk.injEq]
  exact ⟨hphase, hcontext, hcommit, hepisode⟩

end TargetQualificationRuntimeState

/-! ## Evaluation -/

namespace TargetQualificationInput

variable (input : TargetQualificationInput)

/-- The parameters that need no permission. -/
def configured : Bool :=
  input.targetCelsius.isFinite && input.bandCelsius.isFinite &&
    !input.bandCelsius.lt kMinimumQualificationBandCelsius &&
    !kMaximumQualificationBandCelsius.lt input.bandCelsius &&
    decide (input.qualificationDurationMillis ≠ 0 ∧
      (input.controlSensorRole = .air ∨ input.controlSensorRole = .product))

def context : TargetQualificationContext where
  targetCelsius := input.targetCelsius
  bandCelsius := input.bandCelsius
  controlSensorRole := input.controlSensorRole

def commitContext : TargetQualificationCommitContext where
  qualification := input.context
  runRevision := input.runRevision
  processTransitionSequence := input.processTransitionSequence

def selectedSnapshot (phase : QualificationPhase) : SensorQualitySnapshot :=
  if phase = .preheating ∨ input.controlSensorRole = .air then input.air else input.product

variable (K : Type) [ControlNumber K]

def deviation (measuredCelsius : Binary64) : K :=
  magnitude (ofBinary64 measuredCelsius - ofBinary64 input.targetCelsius)

def inBand (measuredCelsius : Binary64) : Bool :=
  le (input.deviation K measuredCelsius) (ofBinary64 input.bandCelsius)

end TargetQualificationInput

namespace TargetQualificationRuntimeState

variable (K : Type) [ControlNumber K]
variable (state : TargetQualificationRuntimeState) (input : TargetQualificationInput)

def enterPhase (phase : QualificationPhase) : TargetQualificationRuntimeState :=
  if phase ≠ state.phase then { state.clearEpisode with phase } else state

def enterContext : TargetQualificationRuntimeState :=
  let entered := if state.context.any (·.same input.context) then state
    else { state.clearEpisode with context := some input.context }
  { entered with commitContext := some input.commitContext }

/-- The sample begins an episode. -/
def beginEpisode : TargetQualificationRuntimeState :=
  { state with
    episodeActive := true
    creditedInBandMillis := 0
    lastUsableTimestampMillis := some input.sampleTimestampMonotonicMillis }

/-- A sample while the sensor was last out of the band. -/
def evaluateGrace (grace started : UInt64) (measuredCelsius : Binary64) :
    QualificationProgress × TargetQualificationRuntimeState :=
  let now := input.sampleTimestampMonotonicMillis
  if now < started then (.invalid, state.clearEpisode)
  else if grace ≤ now - started then
    if !input.inBand K measuredCelsius then (.outsideBand, state.clearEpisode)
    else (.inBand, state.clearEpisode.beginEpisode input)
  else if input.inBand K measuredCelsius then
    (.inBand, { state with
      graceStartedAtMillis := none
      lastUsableTimestampMillis := some now })
  else (.grace, { state with lastUsableTimestampMillis := some now })

/-- A further sample in the band is credited with the time since the last one. -/
def creditEpisode : QualificationProgress × TargetQualificationRuntimeState :=
  let now := input.sampleTimestampMonotonicMillis
  let delta := now - state.lastUsableTimestampMillis.getD now
  match checkedAdd state.creditedInBandMillis delta with
  | none => (.invalid, state.clearEpisode)
  | some credited =>
      let candidate := { state with
        creditedInBandMillis := if input.qualificationDurationMillis ≤ credited then
          input.qualificationDurationMillis else credited
        lastUsableTimestampMillis := some now }
      (if input.qualificationDurationMillis ≤ candidate.creditedInBandMillis then .complete
        else .inBand, candidate)

/-- A sample while the sensor was last in the band, or without an episode. -/
def evaluateBand (grace : UInt64) (measuredCelsius : Binary64) :
    QualificationProgress × TargetQualificationRuntimeState :=
  let now := input.sampleTimestampMonotonicMillis
  if !isFinite (input.deviation K measuredCelsius) then (.invalid, state.clearEpisode)
  else if !input.inBand K measuredCelsius then
    if !state.episodeActive ∨ grace = 0 then (.outsideBand, state.clearEpisode)
    else
      (.grace, { state with
        graceStartedAtMillis := some now
        lastUsableTimestampMillis := some now })
  else if !state.episodeActive then (.inBand, state.beginEpisode input)
  else state.creditEpisode input

/-- The sample comes before the last one, or too long after it. -/
def outOfStep (maximumGap : UInt64) : Bool :=
  state.lastUsableTimestampMillis.any fun previous =>
    decide (input.sampleTimestampMonotonicMillis < previous ∨
      maximumGap < input.sampleTimestampMonotonicMillis - previous)

def evaluateSample (grace maximumGap : UInt64) (measuredCelsius : Binary64) :
    QualificationProgress × TargetQualificationRuntimeState :=
  if state.outOfStep input maximumGap then (.invalid, state.clearEpisode)
  else
    match state.graceStartedAtMillis with
    | some started => state.evaluateGrace K input grace started measuredCelsius
    | none => state.evaluateBand K input grace measuredCelsius

/-- The progress of a sample of a known phase, and the state it proposes. -/
def propose (phase : QualificationPhase) :
    QualificationProgress × TargetQualificationRuntimeState :=
  let entered := state.enterPhase phase
  if !input.configured then (.invalid, entered.clearEpisode)
  else
    match input.effectiveGraceMillis, input.maximumAcceptedSampleGapMillis with
    | some grace, some maximumGap =>
        if maximumGap = 0 then (.invalid, entered.clearEpisode)
        else
          let prepared := entered.enterContext input
          match readControlSensorValue (input.selectedSnapshot phase) with
          | .unavailable => (.unavailable, prepared.clearEpisode)
          | .invalid => (.invalid, prepared.clearEpisode)
          | .valid measuredCelsius =>
              prepared.evaluateSample K input grace maximumGap measuredCelsius
    | _, _ => (.unavailable, entered.clearEpisode)

/-- `TargetQualificationEvaluator::evaluate` -/
def evaluate : TargetQualificationResult :=
  match input.phase with
  | none =>
      { progress := .invalid
        creditedInBandMillis := 0
        expectedEvaluatorState := state
        candidateEvaluatorState := state.clearEpisode
        candidateApplicable := false }
  | some phase =>
      let (progress, candidate) := state.propose K input phase
      { progress
        creditedInBandMillis := candidate.creditedInBandMillis
        expectedEvaluatorState := state
        candidateEvaluatorState := candidate }

end TargetQualificationRuntimeState

/-! ## Application -/

namespace TargetQualificationResult

variable (decision : TargetQualificationResult) (state : TargetQualificationRuntimeState)

def applicable : Bool :=
  decide (decision.lifecycle = .pending) && decision.candidateApplicable

def discard : TargetQualificationResult :=
  if decision.lifecycle = .pending then { decision with lifecycle := .discarded } else decision

/-- The candidate was computed for this state and for this context. -/
def fits (context : TargetQualificationCommitContext) : Bool :=
  state.sameState decision.expectedEvaluatorState &&
    decision.candidateEvaluatorState.commitContext.any (·.same context)

/-- Whether a decision was applied, what it becomes, and the state of the evaluator. -/
abbrev Application := Bool × TargetQualificationResult × TargetQualificationRuntimeState

def applyRamOnly (currentContext : TargetQualificationCommitContext) : Application :=
  if !decision.applicable then (false, decision, state)
  else if !decision.fits state currentContext then
    (false, { decision with lifecycle := .discarded }, state)
  else (true, { decision with lifecycle := .applied }, decision.candidateEvaluatorState)

def applyAfterPersistedProcessApply
    (expectedBeforeContext committedContext : TargetQualificationCommitContext) :
    Application :=
  if !decision.applicable then (false, decision, state)
  else if !decision.fits state expectedBeforeContext ||
      !committedContext.qualification.same expectedBeforeContext.qualification then
    (false, { decision with lifecycle := .discarded }, state)
  else
    (true, { decision with lifecycle := .applied },
      { decision.candidateEvaluatorState with commitContext := some committedContext })

end TargetQualificationResult

end Fermentationsschrank

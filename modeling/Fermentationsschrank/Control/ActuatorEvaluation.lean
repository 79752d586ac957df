import Fermentationsschrank.Control.ActuatorPlanTypes

/-!
# Evaluations and their feedback

What the planner demands of the structure of an evaluation, and the feedback it
keeps for the controller.
-/

namespace Fermentationsschrank

open ControlNumber (isFinite lt le eq)

variable {K : Type} [ControlNumber K]

/-! ## Structure of an evaluation -/

def isKnownDirection : AbstractControlDirection → Bool
  | .heating | .cooling | .idle => true
  | .unknown => false

def isStructurallyValidContext (context : ControlRequestContext) : Bool :=
  context.controlSensorRole ≠ .unlisted

def isFiniteUnitQuote (quote : K) : Bool := isFinite quote && le 0 quote && le quote 1

/-- The reasons, directions and quotes each status may come with. -/
def isLegalOutcome (evaluation : TemperatureControlResult K) : Bool :=
  let idle := decide (evaluation.direction = .idle) && eq evaluation.timeQuote 0
  match evaluation.status with
  | .demand =>
      evaluation.controlRequest.isSome &&
        decide (evaluation.reason = .none ∨ evaluation.reason = .saturated ∨
          evaluation.reason = .airLimitReduced) &&
        decide (evaluation.direction = .heating ∨ evaluation.direction = .cooling) &&
        lt 0 evaluation.timeQuote
  | .off =>
      evaluation.controlRequest.isSome &&
        decide (evaluation.reason = .neutralBand ∨ evaluation.reason = .airLimitBlocked) &&
        idle
  | .unavailable =>
      evaluation.controlRequest.isNone &&
        decide (evaluation.reason = .noCommissioning ∨
          evaluation.reason = .sensorUnavailable) &&
        idle
  | .invalidInput =>
      evaluation.controlRequest.isNone &&
        decide (evaluation.reason = .invalidConfiguration ∨
          evaluation.reason = .invalidSample ∨ evaluation.reason = .timeInvalid ∨
          evaluation.reason = .requestIdentityExhausted) &&
        idle
  | .unlisted => false

/-- How the air limit agrees with the role of the sensor that controls. -/
def airLimitAgrees (evaluation : TemperatureControlResult K) (role : ControlSensorRole) :
    Bool :=
  match role with
  | .air =>
      decide (evaluation.reason ≠ .airLimitReduced ∧ evaluation.reason ≠ .airLimitBlocked ∧
        evaluation.airLimitState = .notApplied)
  | .product =>
      if evaluation.status = .demand then
        decide (evaluation.airLimitState =
          if evaluation.reason = .airLimitReduced then .reduced else .unrestricted)
      else
        decide (evaluation.airLimitState =
          if evaluation.reason = .airLimitBlocked then .blocked else .unrestricted)
  | .unlisted => false

/-- The request repeats the outcome of its evaluation under an identity of its own. -/
def requestAgrees (evaluation : TemperatureControlResult K) (request : ControlRequest K) :
    Bool :=
  isKnownDirection request.direction && isFiniteUnitQuote request.timeQuote &&
    decide (request.direction = evaluation.direction) &&
    eq request.timeQuote evaluation.timeQuote &&
    decide (request.identity.sequence ≠ 0) && isStructurallyValidContext request.context &&
    airLimitAgrees evaluation request.context.controlSensorRole

def isStructurallyValidEvaluation (evaluation : TemperatureControlResult K) : Bool :=
  isKnownDirection evaluation.direction &&
    decide (evaluation.reason ≠ .unlisted ∧ evaluation.airLimitState ≠ .unlisted) &&
    isFiniteUnitQuote evaluation.timeQuote && isLegalOutcome evaluation &&
    match evaluation.controlRequest with
    | none =>
        decide (evaluation.airLimitState ≠ .reduced ∧ evaluation.airLimitState ≠ .blocked)
    | some request => requestAgrees evaluation request

/-! ## Feedback -/

def feedbackSeverity : FeedbackDisposition → ℕ
  | .noIntegratorConstraint => 0
  | .deferredOrLimited => 1
  | .rejected | .unlisted => 2

def isDownstreamLimitedReason : ActuatorPlanReason → Bool
  | .minimumOnTimeHeld | .minimumOffTimeHeld | .polarityDeadTimeHeld
  | .accumulatingBelowThreshold | .counterDirectionConfirming | .directionChangeApplied
  | .windowPulseMissed => true
  | _ => false

namespace FeedbackEpisode

/-- The disposition of one sequence is only ever replaced by a more severe one. -/
def mergeFeedback (episode : FeedbackEpisode) (sequence : UInt64)
    (disposition : FeedbackDisposition) : FeedbackEpisode :=
  if sequence = 0 then episode
  else
    match episode.pendingFeedback.filter (·.sequence = sequence) with
    | none =>
        { episode with
          pendingFeedback := some ⟨sequence, disposition⟩
          pendingFeedbackUpdateAvailable := true }
    | some pending =>
        if feedbackSeverity pending.disposition < feedbackSeverity disposition then
          { episode with
            pendingFeedback := some { pending with disposition }
            pendingFeedbackUpdateAvailable := true }
        else episode

/-- Only the command that owns the open episode still changes its feedback. -/
def mergeFeedbackForDemand (episode : FeedbackEpisode) (sequence : UInt64)
    (reason : ActuatorPlanReason) : FeedbackEpisode :=
  if episode.feedbackEpisodeSubjectSequence = some sequence then
    episode.mergeFeedback sequence
      (if isDownstreamLimitedReason reason then .deferredOrLimited
      else .noIntegratorConstraint)
  else episode

/-- A rejection without a new evaluation sharpens the open episode. -/
def rejectSubject (episode : FeedbackEpisode) : FeedbackEpisode :=
  match episode.feedbackEpisodeSubjectSequence with
  | some sequence => episode.mergeFeedback sequence .rejected
  | none => episode

/-- The old episode ends; `openFeedbackEpisode(std::nullopt)` of the source. -/
def endEpisode (_ : FeedbackEpisode) : FeedbackEpisode :=
  { pendingFeedbackUpdateAvailable := true }

/-- An active demand that is stale on arrival opens an episode that is rejected. -/
def openRejected (episode : FeedbackEpisode) (sequence : UInt64) : FeedbackEpisode :=
  { episode with
    feedbackEpisodeSubjectSequence := some sequence
    pendingFeedback := some ⟨sequence, .rejected⟩
    pendingFeedbackUpdateAvailable := true }

end FeedbackEpisode

end Fermentationsschrank

import Fermentationsschrank.Control.ControlNumber
import Fermentationsschrank.Run.SensorSelection

/-!
# Requests and plans of the temperature control

What the controller hands to the actuator planner, and what the planner keeps and
answers.  An enumeration that the planner checks for known values has a constructor
`unlisted` for every other byte.
-/

namespace Fermentationsschrank

variable {K : Type}

/-! ## The result of an evaluation -/

structure ControlRequestIdentity where
  sequence : UInt64
  createdAtMonotonicMillis : UInt64
  deriving DecidableEq, Repr

structure ControlRequestContext where
  processTransitionSequence : UInt32 := 0
  runRevision : UInt32 := 0
  controlSensorRole : ControlSensorRole := .air
  deriving DecidableEq, Repr

structure ControlRequest (K : Type) where
  identity : ControlRequestIdentity
  context : ControlRequestContext
  direction : AbstractControlDirection
  timeQuote : K
  deriving DecidableEq, Repr

inductive TemperatureControlStatus
  | demand
  | off
  | unavailable
  | invalidInput
  | unlisted
  deriving DecidableEq, Repr

inductive TemperatureControlReason
  | none
  | neutralBand
  | saturated
  | airLimitReduced
  | airLimitBlocked
  | noCommissioning
  | sensorUnavailable
  | invalidConfiguration
  | invalidSample
  | timeInvalid
  | requestIdentityExhausted
  | unlisted
  deriving DecidableEq, Repr

inductive AirLimitState
  | notApplied
  | unrestricted
  | reduced
  | blocked
  | unavailable
  | unlisted
  deriving DecidableEq, Repr

inductive FeedbackDisposition
  | noIntegratorConstraint
  | deferredOrLimited
  | rejected
  | unlisted
  deriving DecidableEq, Repr

structure PreviousControlRequestFeedback where
  controlRequestSequence : UInt64
  disposition : FeedbackDisposition
  deriving DecidableEq, Repr

structure TemperatureControlResult (K : Type) where
  status : TemperatureControlStatus
  reason : TemperatureControlReason
  airLimitState : AirLimitState
  direction : AbstractControlDirection
  timeQuote : K
  rawProportionalQuote : K
  integralContributionQuote : K
  unboundedQuote : K
  maximumLimitedQuote : K
  controlRequest : Option (ControlRequest K)
  deriving DecidableEq, Repr

/-! ## Input and result of a tick -/

inductive ActuatorSafetyGateStatus
  | unresolved
  | allowed
  | immediateStop
  | unlisted
  deriving DecidableEq, Repr

structure ActuatorWatchdogFaultEvidence where
  detectedAtMonotonicMillis : UInt64
  lastObservedSequenceHighWatermarkBeforeFault : UInt64
  deriving DecidableEq, Repr

inductive ActuatorDemandClass
  | noValidRequest
  | neutralOff
  | airLimitBlockedOff
  | airLimitReducedDemand
  | normalDemand
  deriving DecidableEq, Repr

def classifyActuatorDemand (controlResult : TemperatureControlResult K) :
    ActuatorDemandClass :=
  match controlResult.status with
  | .unavailable | .invalidInput | .unlisted => .noValidRequest
  | .off =>
      if controlResult.reason = .airLimitBlocked then .airLimitBlockedOff else .neutralOff
  | .demand =>
      if controlResult.reason = .airLimitReduced then .airLimitReducedDemand
      else .normalDemand

inductive ActuatorPlanStatus
  | active
  | idle
  | unconfigured
  | invalidInput
  deriving DecidableEq, Repr

inductive ActuatorPlanReason
  | malformedInput
  | noCommissioning
  | invalidConfiguration
  | timeInvalid
  | safetyGateUnresolved
  | externalSafetyOverride
  | requestWatchdogFaultLatched
  | staleRequestWatchdog
  | noValidRequest
  | staleRequestContext
  | minimumOnTimeHeld
  | minimumOffTimeHeld
  | polarityDeadTimeHeld
  | directionChangeApplied
  | neutralIdle
  | airLimitBlocked
  | accumulatingBelowThreshold
  | minimumPulseTriggered
  | counterDirectionConfirming
  | windowPulseMissed
  | scheduledWithinWindow
  deriving DecidableEq, Repr

inductive ActuatorAdmissionOutcome
  | noCandidate
  | accepted
  | malformedCandidate
  | malformedSafetyGate
  | duplicateOrOldSequence
  | staleOnArrivalWatchdog
  | staleOnArrivalContext
  deriving DecidableEq, Repr

structure ActuatorPlanTickInput (K : Type) where
  nowMonotonicMillis : UInt64
  newEvaluation : Option (TemperatureControlResult K) := none
  currentCanonicalContext : ControlRequestContext := {}
  temperatureControlledPhase : Bool := false
  safetyGate : ActuatorSafetyGateStatus := .unresolved

structure ActuatorPlanTickResult where
  status : ActuatorPlanStatus
  reason : ActuatorPlanReason
  appliedDirection : AbstractControlDirection
  outerFanEnabled : Bool
  innerFanEnabled : Bool
  counterDirectionConfirming : Bool
  admissionOutcome : ActuatorAdmissionOutcome
  acceptedCommandSequence : Option UInt64
  watchdogFaultActive : Bool
  deriving DecidableEq, Repr

/-! ## State of the planner -/

/-- The credit of one direction towards a minimum pulse; idle when it is unbound. -/
structure PulseAccumulator (K : Type) where
  direction : AbstractControlDirection
  accumulatedMillis : K
  deriving DecidableEq, Repr

structure AcceptedControlCommand (K : Type) where
  sequence : UInt64
  direction : AbstractControlDirection
  timeQuote : K
  demandClass : ActuatorDemandClass
  contextAtAcceptance : ControlRequestContext
  deriving DecidableEq, Repr

structure ActiveSwitchingWindow where
  startMonotonicMillis : UInt64
  direction : AbstractControlDirection
  sourceRequestSequence : UInt64
  scheduledOnMillis : UInt64 := 0
  pulseStartAttempted : Bool := false
  minimumPulseFromAccumulator : Bool := false
  pulseStartedSuccessfully : Bool := false
  deriving DecidableEq, Repr

/-- The direction that waits to replace the current one. -/
structure CounterDirection where
  candidate : Option AbstractControlDirection := none
  observedSinceMonotonicMillis : UInt64 := 0
  confirmed : Bool := false
  deriving DecidableEq, Repr

structure PendingControlRequestFeedback where
  sequence : UInt64
  disposition : FeedbackDisposition
  deriving DecidableEq, Repr

structure PendingControlRequestFeedbackUpdate where
  changed : Bool := false
  feedback : Option PreviousControlRequestFeedback := none
  deriving DecidableEq, Repr

/-- The open feedback episode and the disposition recorded for it. -/
structure FeedbackEpisode where
  feedbackEpisodeSubjectSequence : Option UInt64 := none
  pendingFeedback : Option PendingControlRequestFeedback := none
  pendingFeedbackUpdateAvailable : Bool := false
  deriving DecidableEq, Repr

structure ActuatorFanState where
  outerFanActive : Bool := false
  outerFanDeactivationRequestedAtMonotonicMillis : Option UInt64 := none
  outerFanTeardownDeadlineMonotonicMillis : Option UInt64 := none
  innerFanActive : Bool := false
  innerFanDeactivationRequestedAtMonotonicMillis : Option UInt64 := none
  innerFanTeardownDeadlineMonotonicMillis : Option UInt64 := none
  deriving DecidableEq, Repr

structure ActuatorPlannerRuntimeState (K : Type) where
  acceptedCommand : Option (AcceptedControlCommand K) := none
  activeWindow : Option ActiveSwitchingWindow := none
  accumulator : PulseAccumulator K
  lastAppliedDirection : AbstractControlDirection := .idle
  currentOnPhaseStartedAtMonotonicMillis : Option UInt64 := none
  lastPhysicalDeactivationDirection : Option AbstractControlDirection := none
  lastPhysicalDeactivationAtMonotonicMillis : Option UInt64 := none
  counterDirection : CounterDirection := {}
  lastObservedSequenceHighWatermark : Option UInt64 := none
  lastNewRequestAcceptedAtMonotonicMillis : Option UInt64 := none
  watchdogEpisodeStartedAtMonotonicMillis : Option UInt64 := none
  latchedWatchdogFault : Option ActuatorWatchdogFaultEvidence := none
  feedback : FeedbackEpisode := {}
  fans : ActuatorFanState := {}

end Fermentationsschrank

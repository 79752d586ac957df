import Fermentationsschrank.Control.ActuatorPlanTypes

/-!
# Temperature controller

The controller evaluates a sample of the sensors against the target.  A sample that
cannot be used clears what the controller has integrated; a usable one becomes a request
with an identity of its own.
-/

namespace Fermentationsschrank

open ControlNumber (ofBinary64 ofMillis isFinite lt le eq smaller larger magnitude)

/-! ## Parameters and input -/

structure PiDirectionParameters where
  proportionalGainQuotePerCelsius : Binary64
  integralGainQuotePerCelsiusSecond : Binary64
  neutralBandWidthCelsius : Binary64
  maximumQuote : Binary64
  deriving DecidableEq, Repr

structure TemperatureControlParameters where
  airHeating : PiDirectionParameters
  airCooling : PiDirectionParameters
  productHeating : PiDirectionParameters
  productCooling : PiDirectionParameters
  maximumIntegrationStepMillis : UInt64
  airLimitLowerBlockCelsius : Binary64
  airLimitLowerReduceStartCelsius : Binary64
  airLimitUpperReduceStartCelsius : Binary64
  airLimitUpperBlockCelsius : Binary64
  deriving DecidableEq, Repr

inductive IntegratorTransitionAction
  | reset
  | boundedCarry
  | unlisted
  deriving DecidableEq, Repr

structure IntegratorTransitionPolicy where
  directionChange : IntegratorTransitionAction
  sensorRoleChange : IntegratorTransitionAction
  targetContextChange : IntegratorTransitionAction
  transitionMaximumCarryQuote : Binary64
  deriving DecidableEq, Repr

structure TemperatureControlInput where
  sampleTimestampMonotonicMillis : UInt64
  targetCelsius : Binary64
  controlSensorRole : ControlSensorRole
  air : SensorQualitySnapshot
  product : SensorQualitySnapshot
  previousControlRequestFeedback : Option PreviousControlRequestFeedback := none
  processTransitionSequence : UInt32 := 0
  runRevision : UInt32 := 0
  deriving DecidableEq, Repr

inductive TemperatureControlParametersValidation
  | unconfigured
  | valid
  | invalid
  deriving DecidableEq, Repr

section Validation

/-- `value > 0.0` of a finite value. -/
def finitePositive (K : Type) [ControlNumber K] (value : Binary64) : Bool :=
  value.isFinite && lt 0 (ofBinary64 value : K)

variable (K : Type) [ControlNumber K]

def PiDirectionParameters.valid (parameters : PiDirectionParameters) : Bool :=
  finitePositive K parameters.proportionalGainQuotePerCelsius &&
    finitePositive K parameters.integralGainQuotePerCelsiusSecond &&
    finitePositive K parameters.neutralBandWidthCelsius &&
    finitePositive K parameters.maximumQuote &&
    le (ofBinary64 parameters.maximumQuote : K) 1

def PiDirectionParameters.isDefault (parameters : PiDirectionParameters) : Bool :=
  eq (ofBinary64 parameters.proportionalGainQuotePerCelsius : K) 0 &&
    eq (ofBinary64 parameters.integralGainQuotePerCelsiusSecond : K) 0 &&
    eq (ofBinary64 parameters.neutralBandWidthCelsius : K) 0 &&
    eq (ofBinary64 parameters.maximumQuote : K) 0

namespace TemperatureControlParameters

variable (parameters : TemperatureControlParameters)

def validAirLimits : Bool :=
  parameters.airLimitLowerBlockCelsius.isFinite &&
    parameters.airLimitLowerReduceStartCelsius.isFinite &&
    parameters.airLimitUpperReduceStartCelsius.isFinite &&
    parameters.airLimitUpperBlockCelsius.isFinite &&
    lt (ofBinary64 parameters.airLimitLowerBlockCelsius : K)
      (ofBinary64 parameters.airLimitLowerReduceStartCelsius) &&
    lt (ofBinary64 parameters.airLimitUpperReduceStartCelsius : K)
      (ofBinary64 parameters.airLimitUpperBlockCelsius)

def hasConfiguredValues : Bool :=
  decide (0 < parameters.maximumIntegrationStepMillis) &&
    parameters.airHeating.valid K && parameters.airCooling.valid K &&
    parameters.productHeating.valid K && parameters.productCooling.valid K &&
    parameters.validAirLimits K

def isDefault : Bool :=
  decide (parameters.maximumIntegrationStepMillis = 0) &&
    parameters.airHeating.isDefault K && parameters.airCooling.isDefault K &&
    parameters.productHeating.isDefault K && parameters.productCooling.isDefault K &&
    eq (ofBinary64 parameters.airLimitLowerBlockCelsius : K) 0 &&
    eq (ofBinary64 parameters.airLimitLowerReduceStartCelsius : K) 0 &&
    eq (ofBinary64 parameters.airLimitUpperReduceStartCelsius : K) 0 &&
    eq (ofBinary64 parameters.airLimitUpperBlockCelsius : K) 0

end TemperatureControlParameters

def classifyTemperatureControlParameters (parameters : TemperatureControlParameters) :
    TemperatureControlParametersValidation :=
  if parameters.isDefault K then .unconfigured
  else if parameters.hasConfiguredValues K then .valid
  else .invalid

def validateIntegratorTransitionPolicy (policy : IntegratorTransitionPolicy) : Bool :=
  decide (policy.directionChange ≠ .unlisted ∧ policy.sensorRoleChange ≠ .unlisted ∧
    policy.targetContextChange ≠ .unlisted) &&
  policy.transitionMaximumCarryQuote.isFinite &&
  le 0 (ofBinary64 policy.transitionMaximumCarryQuote : K) &&
  le (ofBinary64 policy.transitionMaximumCarryQuote : K) 1

end Validation

/-! ## Sensor values -/

inductive ControlSensorValueStatus
  | valid (celsius : Binary64)
  | unavailable
  | invalid
  deriving DecidableEq, Repr

/-- Only the filtered value of a valid sensor controls. -/
def readControlSensorValue (snapshot : SensorQualitySnapshot) : ControlSensorValueStatus :=
  if snapshot.quality ≠ .valid then .unavailable
  else
    match snapshot.filteredCelsius with
    | some celsius => if celsius.isFinite then .valid celsius else .invalid
    | none => .invalid

/-! ## State -/

structure TemperatureControlRuntimeState (K : Type) where
  integralContributionQuote : K
  lastSampleTimestampMonotonicMillis : Option UInt64 := none
  suppressIntegrationAfterGap : Bool := false
  lastActiveDirection : Option AbstractControlDirection := none
  pendingContextTransition : Option CommittedControlContextTransition := none
  pendingTransitionAction : Option IntegratorTransitionAction := none
  feedbackWindow : Option (ControlRequest K) := none

structure TemperatureController (K : Type) where
  parameters : TemperatureControlParameters
  policy : IntegratorTransitionPolicy
  state : TemperatureControlRuntimeState K
  nextRequestSequence : UInt64
  requestIdentityExhausted : Bool := false

variable {K : Type} [ControlNumber K]

/-- What an unusable sample leaves of the state. -/
def TemperatureControlRuntimeState.clearFailClosed
    (state : TemperatureControlRuntimeState K) : TemperatureControlRuntimeState K :=
  { state with
    integralContributionQuote := 0
    lastActiveDirection := none
    pendingContextTransition := none
    pendingTransitionAction := none
    feedbackWindow := none }

/-! ## Refusals -/

/-- Why a sample is not used. -/
structure SampleRefusal where
  status : TemperatureControlStatus
  reason : TemperatureControlReason
  airLimitState : AirLimitState
  deriving DecidableEq, Repr

def SampleRefusal.invalidSample (airLimitState : AirLimitState) : SampleRefusal :=
  ⟨.invalidInput, .invalidSample, airLimitState⟩

def invalidResult (refusal : SampleRefusal) : TemperatureControlResult K where
  status := refusal.status
  reason := refusal.reason
  airLimitState := refusal.airLimitState
  direction := .idle
  timeQuote := 0
  rawProportionalQuote := 0
  integralContributionQuote := 0
  unboundedQuote := 0
  maximumLimitedQuote := 0
  controlRequest := none

def diagnosticAirLimitState (role : ControlSensorRole) : AirLimitState :=
  if role = .air then .notApplied else .unavailable

namespace TemperatureController

variable (controller : TemperatureController K) (input : TemperatureControlInput)

/-! ## Admission of a sample -/

/-- What the timestamps say of a sample. -/
structure SampleTiming where
  firstSample : Bool
  timestampRecoveryAnchor : Bool
  deltaMillis : UInt64
  deriving DecidableEq, Repr

def refuseSample (reason : TemperatureControlReason) : SampleRefusal :=
  ⟨.invalidInput, reason, diagnosticAirLimitState input.controlSensorRole⟩

def unavailableSample (reason : TemperatureControlReason) : SampleRefusal :=
  ⟨.unavailable, reason, diagnosticAirLimitState input.controlSensorRole⟩

def checkConfiguration : Except SampleRefusal Unit :=
  match classifyTemperatureControlParameters K controller.parameters with
  | .unconfigured => .error (unavailableSample input .noCommissioning)
  | .invalid => .error (refuseSample input .invalidConfiguration)
  | .valid =>
      if !validateIntegratorTransitionPolicy K controller.policy ||
          decide (input.controlSensorRole = .unlisted) || !input.targetCelsius.isFinite then
        .error (refuseSample input .invalidConfiguration)
      else .ok ()

/-- The value of one sensor as a number. -/
def readSensor (snapshot : SensorQualitySnapshot) : Except SampleRefusal K :=
  match readControlSensorValue snapshot with
  | .unavailable => .error (unavailableSample input .sensorUnavailable)
  | .invalid => .error (refuseSample input .invalidSample)
  | .valid celsius => .ok (ofBinary64 celsius)

/-- The air and the measured temperature; the air is read under either role. -/
def readSensors : Except SampleRefusal (K × K) := do
  let airCelsius : K ← readSensor input input.air
  let measuredCelsius ←
    if input.controlSensorRole = .product then readSensor input input.product
    else .ok airCelsius
  if !isFinite measuredCelsius then .error (refuseSample input .invalidSample)
  else .ok (airCelsius, measuredCelsius)

/-- A sample before the last one is refused; one after a gap too, but it becomes the
anchor of the next. -/
def anchorSample : Except (SampleRefusal × TemperatureControlRuntimeState K)
    (SampleTiming × TemperatureControlRuntimeState K) :=
  let state := controller.state
  let now := input.sampleTimestampMonotonicMillis
  let anchored := { state with
    lastSampleTimestampMonotonicMillis := some now
    suppressIntegrationAfterGap := false }
  match state.lastSampleTimestampMonotonicMillis with
  | none => .ok (⟨true, state.suppressIntegrationAfterGap, 0⟩, anchored)
  | some previous =>
      if now < previous then .error (refuseSample input .timeInvalid, state)
      else if controller.parameters.maximumIntegrationStepMillis < now - previous then
        .error (refuseSample input .timeInvalid,
          { anchored with suppressIntegrationAfterGap := true })
      else .ok (⟨false, state.suppressIntegrationAfterGap, now - previous⟩, anchored)

/-- The feedback names the open window, which it closes; without a window there is
none. -/
def consumeFeedback (state : TemperatureControlRuntimeState K) :
    Except SampleRefusal (Bool × TemperatureControlRuntimeState K) :=
  let closed := { state with feedbackWindow := none }
  match state.feedbackWindow, input.previousControlRequestFeedback with
  | none, none => .ok (false, state)
  | none, some _ => .error (refuseSample input .invalidSample)
  | some _, none => .ok (false, closed)
  | some window, some feedback =>
      if feedback.controlRequestSequence ≠ window.identity.sequence ∨
          feedback.controlRequestSequence = 0 ∨ feedback.disposition = .unlisted then
        .error (refuseSample input .invalidSample)
      else .ok (decide (feedback.disposition = .noIntegratorConstraint), closed)

/-- A sample that is used, with the state it leaves. -/
structure AdmittedSample (K : Type) where
  airCelsius : K
  rawErrorCelsius : K
  timing : SampleTiming
  allowPositiveIntegration : Bool
  state : TemperatureControlRuntimeState K

def admitSample : Except (SampleRefusal × TemperatureControlRuntimeState K) (AdmittedSample K) := do
  let refuseWith (state : TemperatureControlRuntimeState K) (refusal : SampleRefusal) :=
    (refusal, state)
  (controller.checkConfiguration input).mapError (refuseWith controller.state)
  let (airCelsius, measuredCelsius) ←
    (readSensors input).mapError (refuseWith controller.state)
  let (timing, anchored) ← controller.anchorSample input
  let (allowPositiveIntegration, state) ←
    (consumeFeedback input anchored).mapError (refuseWith anchored)
  let rawErrorCelsius : K := ofBinary64 input.targetCelsius - measuredCelsius
  if !isFinite rawErrorCelsius then .error (refuseSample input .invalidSample, state)
  else .ok ⟨airCelsius, rawErrorCelsius, timing, allowPositiveIntegration, state⟩

/-! ## Direction and air limit -/

def heatingProfile : PiDirectionParameters :=
  if input.controlSensorRole = .air then controller.parameters.airHeating
  else controller.parameters.productHeating

def coolingProfile : PiDirectionParameters :=
  if input.controlSensorRole = .air then controller.parameters.airCooling
  else controller.parameters.productCooling

/-- The direction the error asks for, with its parameters; none within the neutral
band. -/
def selectProfile (rawErrorCelsius : K) :
    Option (PiDirectionParameters × AbstractControlDirection) :=
  let heating := controller.heatingProfile input
  let cooling := controller.coolingProfile input
  if lt (ofBinary64 heating.neutralBandWidthCelsius) rawErrorCelsius then
    some (heating, .heating)
  else if lt rawErrorCelsius (-ofBinary64 cooling.neutralBandWidthCelsius) then
    some (cooling, .cooling)
  else none

/-- The air limit where it does not restrict. -/
def openAirLimit (role : ControlSensorRole) : AirLimitState :=
  if role = .air then .notApplied else .unrestricted

/-- The air limit of a demand, and the factor a reduced quote is scaled with. -/
def airLimit (direction : AbstractControlDirection) (airCelsius : K) : AirLimitState × K :=
  let parameters := controller.parameters
  let lowerBlock : K := ofBinary64 parameters.airLimitLowerBlockCelsius
  let lowerReduce : K := ofBinary64 parameters.airLimitLowerReduceStartCelsius
  let upperReduce : K := ofBinary64 parameters.airLimitUpperReduceStartCelsius
  let upperBlock : K := ofBinary64 parameters.airLimitUpperBlockCelsius
  if input.controlSensorRole = .product then
    if direction = .heating then
      if le upperBlock airCelsius then (.blocked, 0)
      else if lt upperReduce airCelsius then
        (.reduced, (upperBlock - airCelsius) / (upperBlock - upperReduce))
      else (.unrestricted, 1)
    else
      if le airCelsius lowerBlock then (.blocked, 0)
      else if lt airCelsius lowerReduce then
        (.reduced, (airCelsius - lowerBlock) / (lowerReduce - lowerBlock))
      else (.unrestricted, 1)
  else (openAirLimit input.controlSensorRole, 1)

/-! ## The PI law -/

/-- What the PI law computes for a demand. -/
structure PiOutcome (K : Type) where
  rawProportionalQuote : K
  integralContributionQuote : K
  unboundedQuote : K
  maximumLimitedQuote : K
  limitedQuote : K
  airLimitState : AirLimitState

/-- The integral a transition leaves. -/
def carriedIntegral (state : TemperatureControlRuntimeState K)
    (profile : PiDirectionParameters) (directionChanged : Bool) : K :=
  let hasPendingTransition := state.pendingTransitionAction.isSome
  if hasPendingTransition || directionChanged then
    let action := if hasPendingTransition && directionChanged &&
        decide (controller.policy.directionChange = .reset) then .reset
      else state.pendingTransitionAction.getD controller.policy.directionChange
    if action = .reset then 0
    else
      smaller (smaller state.integralContributionQuote
        (ofBinary64 controller.policy.transitionMaximumCarryQuote))
        (ofBinary64 profile.maximumQuote)
  else state.integralContributionQuote

/-- What the integral gains from one sample. -/
def integralGain (profile : PiDirectionParameters) (activeErrorCelsius : K)
    (deltaMillis : UInt64) : Except Unit K :=
  let dtSeconds : K := ofMillis deltaMillis / ofMillis 1000
  let deltaI := ofBinary64 profile.integralGainQuotePerCelsiusSecond *
    activeErrorCelsius * dtSeconds
  if !isFinite dtSeconds || !isFinite deltaI || lt deltaI 0 then .error () else .ok deltaI

/-- The integral after a sample, between nothing and the headroom. -/
def integrate (profile : PiDirectionParameters) (rawP carried allowedDeltaI headroom : K) :
    Except Unit K :=
  if le (ofBinary64 profile.maximumQuote) rawP then .ok 0
  else
    let candidate := carried + allowedDeltaI
    if !isFinite candidate then .error ()
    else .ok (smaller (larger candidate 0) headroom)

/-- Only a sample that changes nothing else, with a downstream that is not limited, adds
to the integral. -/
def allowedIntegralGain (sample : AdmittedSample K) (profile : PiDirectionParameters)
    (airLimitState : AirLimitState) (directionChanged : Bool)
    (activeErrorCelsius rawP carried headroom : K) : Except Unit K :=
  let maximumQuote : K := ofBinary64 profile.maximumQuote
  let airLimitRestricts := decide (airLimitState = .reduced ∨ airLimitState = .blocked)
  let transitionSample := directionChanged || sample.state.pendingTransitionAction.isSome ||
    sample.timing.firstSample || sample.timing.timestampRecoveryAnchor
  let ownPiSaturated := le maximumQuote rawP || le headroom carried
  if !ownPiSaturated && lt rawP maximumQuote && lt 0 headroom &&
      sample.allowPositiveIntegration && !airLimitRestricts && !transitionSample &&
      decide (0 < sample.timing.deltaMillis) then
    integralGain profile activeErrorCelsius sample.timing.deltaMillis
  else .ok 0

/-- The quotes of a demand with its integral under the air limit. -/
def limitOutcome (profile : PiDirectionParameters) (airLimitState : AirLimitState)
    (factor rawP integral : K) : Except Unit (PiOutcome K) :=
  let maximumQuote : K := ofBinary64 profile.maximumQuote
  let unboundedQuote := rawP + integral
  let maximumLimitedQuote := smaller unboundedQuote maximumQuote
  let limitedQuote :=
    if airLimitState = .blocked then 0
    else if airLimitState = .reduced then maximumLimitedQuote * factor
    else maximumLimitedQuote
  if !isFinite unboundedQuote || !isFinite limitedQuote || lt limitedQuote 0 then .error ()
  else .ok {
    rawProportionalQuote := rawP
    integralContributionQuote := integral
    unboundedQuote
    maximumLimitedQuote
    limitedQuote := smaller limitedQuote maximumQuote
    airLimitState }

/-- The quotes of a demand under the known air limit. -/
def limitQuote (sample : AdmittedSample K) (profile : PiDirectionParameters)
    (direction : AbstractControlDirection) (activeErrorCelsius rawP : K) :
    Except Unit (PiOutcome K) :=
  let (airLimitState, factor) := controller.airLimit input direction sample.airCelsius
  let directionChanged := sample.state.lastActiveDirection.any (· ≠ direction)
  let carried := controller.carriedIntegral sample.state profile directionChanged
  let headroom := larger 0 (ofBinary64 profile.maximumQuote - rawP)
  if !isFinite headroom then .error ()
  else do
    let allowedDeltaI ← allowedIntegralGain sample profile airLimitState directionChanged
      activeErrorCelsius rawP carried headroom
    let integral ← integrate profile rawP carried allowedDeltaI headroom
    limitOutcome profile airLimitState factor rawP integral

/-- The checks before the air limit is known refuse with the open limit. -/
def computeDemand (sample : AdmittedSample K) (profile : PiDirectionParameters)
    (direction : AbstractControlDirection) : Except SampleRefusal (PiOutcome K) :=
  let role := input.controlSensorRole
  let activeErrorCelsius :=
    magnitude sample.rawErrorCelsius - ofBinary64 profile.neutralBandWidthCelsius
  if !isFinite activeErrorCelsius || le activeErrorCelsius 0 then
    .error (.invalidSample (openAirLimit role))
  else
    let rawP := ofBinary64 profile.proportionalGainQuotePerCelsius * activeErrorCelsius
    if !isFinite rawP || lt rawP 0 then .error (.invalidSample (openAirLimit role))
    else
      (controller.limitQuote input sample profile direction activeErrorCelsius
        rawP).mapError fun _ =>
          .invalidSample (controller.airLimit input direction sample.airCelsius).1

/-! ## Results -/

def makeRequest (direction : AbstractControlDirection) (timeQuote : K) :
    ControlRequest K where
  identity := ⟨controller.nextRequestSequence, input.sampleTimestampMonotonicMillis⟩
  context := {
    processTransitionSequence := input.processTransitionSequence
    runRevision := input.runRevision
    controlSensorRole := input.controlSensorRole }
  direction := direction
  timeQuote := timeQuote

/-- A request uses up an identity; the last one is used once. -/
def issue (state : TemperatureControlRuntimeState K) : TemperatureController K :=
  if controller.nextRequestSequence = maxUInt64 then
    { controller with state, requestIdentityExhausted := true }
  else { controller with state, nextRequestSequence := controller.nextRequestSequence + 1 }

def refuse (refusal : SampleRefusal) (state : TemperatureControlRuntimeState K) :
    TemperatureControlResult K × TemperatureController K :=
  (invalidResult refusal, { controller with state := state.clearFailClosed })

def exhausted (airLimitState : AirLimitState) : SampleRefusal :=
  ⟨.invalidInput, .requestIdentityExhausted, airLimitState⟩

/-- A request to switch off within the neutral band. -/
def evaluateIdle (sample : AdmittedSample K) :
    TemperatureControlResult K × TemperatureController K :=
  let airLimitState := openAirLimit input.controlSensorRole
  if controller.requestIdentityExhausted then
    controller.refuse (exhausted airLimitState) sample.state
  else
    ({ status := .off
       reason := .neutralBand
       airLimitState
       direction := .idle
       timeQuote := 0
       rawProportionalQuote := 0
       integralContributionQuote := 0
       unboundedQuote := 0
       maximumLimitedQuote := 0
       controlRequest := some (controller.makeRequest input .idle 0) },
      controller.issue { sample.state with feedbackWindow := none })

def demandReason (profile : PiDirectionParameters) (outcome : PiOutcome K) :
    TemperatureControlReason :=
  let maximumQuote : K := ofBinary64 profile.maximumQuote
  if outcome.airLimitState = .reduced then .airLimitReduced
  else if le maximumQuote outcome.rawProportionalQuote ||
      le maximumQuote outcome.maximumLimitedQuote then .saturated
  else .none

/-- A demand in a known direction uses up the pending transition. -/
def settleTransition (state : TemperatureControlRuntimeState K)
    (direction : AbstractControlDirection) : TemperatureControlRuntimeState K :=
  if state.pendingTransitionAction.isSome || state.lastActiveDirection.any (· ≠ direction) then
    { state with pendingContextTransition := none, pendingTransitionAction := none }
  else state

/-- A demand, or a request to switch off where the air limit leaves nothing of it. -/
def evaluateDemand (sample : AdmittedSample K) (profile : PiDirectionParameters)
    (direction : AbstractControlDirection) :
    TemperatureControlResult K × TemperatureController K :=
  match controller.computeDemand input sample profile direction with
  | .error refusal => controller.refuse refusal sample.state
  | .ok outcome =>
      let blocked := decide (outcome.airLimitState = .blocked) || eq outcome.limitedQuote 0
      if controller.requestIdentityExhausted then
        controller.refuse (exhausted outcome.airLimitState) sample.state
      else
        let applied := if blocked then .idle else direction
        let request := controller.makeRequest input applied outcome.limitedQuote
        ({ status := if blocked then .off else .demand
           reason := if blocked then .airLimitBlocked else demandReason profile outcome
           airLimitState := outcome.airLimitState
           direction := applied
           timeQuote := outcome.limitedQuote
           rawProportionalQuote := outcome.rawProportionalQuote
           integralContributionQuote := outcome.integralContributionQuote
           unboundedQuote := outcome.unboundedQuote
           maximumLimitedQuote := outcome.maximumLimitedQuote
           controlRequest := some request },
          controller.issue { settleTransition sample.state direction with
            integralContributionQuote := outcome.integralContributionQuote
            lastActiveDirection := some direction
            feedbackWindow := if blocked then none else some request })

def evaluate : TemperatureControlResult K × TemperatureController K :=
  match controller.admitSample input with
  | .error (refusal, state) => controller.refuse refusal state
  | .ok sample =>
      match controller.selectProfile input sample.rawErrorCelsius with
      | none => controller.evaluateIdle input sample
      | some (profile, direction) =>
          controller.evaluateDemand input sample profile direction

/-! ## The other calls -/

def make (parameters : TemperatureControlParameters) (policy : IntegratorTransitionPolicy)
    (initialRequestSequence : UInt64) : TemperatureController K where
  parameters := parameters
  policy := policy
  state := { integralContributionQuote := 0 }
  nextRequestSequence := if initialRequestSequence = 0 then 1 else initialRequestSequence

/-- A committed change of the context waits for the next direction; a reset is never
replaced. -/
def markCommittedControlContextTransitionPending
    (transition : CommittedControlContextTransition) : Bool × TemperatureController K :=
  if !validateIntegratorTransitionPolicy K controller.policy then (false, controller)
  else
    let action :=
      if transition = .sensorRoleChange ∨ transition = .productInserted then
        controller.policy.sensorRoleChange
      else controller.policy.targetContextChange
    (true, { controller with state := { controller.state with
      pendingContextTransition := some transition
      pendingTransitionAction :=
        if controller.state.pendingTransitionAction.isNone ∨ action = .reset then some action
        else controller.state.pendingTransitionAction } })

/-- The identities of the requests outlive a reset. -/
def resetRuntime : TemperatureController K :=
  { controller with state := { integralContributionQuote := 0 } }

end TemperatureController

end Fermentationsschrank

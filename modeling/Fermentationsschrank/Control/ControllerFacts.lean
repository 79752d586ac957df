import Fermentationsschrank.Control.ActuatorEvaluation
import Fermentationsschrank.Control.TemperatureControl

/-!
# What the controller answers

A sample is admitted or refused, and a refusal comes with one of the legal reasons.  In
exact arithmetic the law of an admitted sample is never refused, and its quote vanishes
under a blocked air limit only.
-/

namespace Fermentationsschrank

open ControlNumber (ofBinary64 ofMillis isFinite lt le eq smaller larger magnitude)

/-! ## Refusals -/

/-- The reasons a refusal may come with. -/
def SampleRefusal.Legal (refusal : SampleRefusal) : Prop :=
  refusal.status = .unavailable ∧
      (refusal.reason = .noCommissioning ∨ refusal.reason = .sensorUnavailable) ∨
    refusal.status = .invalidInput ∧
      (refusal.reason = .invalidConfiguration ∨ refusal.reason = .invalidSample ∨
        refusal.reason = .timeInvalid ∨ refusal.reason = .requestIdentityExhausted)

namespace TemperatureController

section Admission

variable {K : Type} [ControlNumber K]
variable {controller : TemperatureController K} {input : TemperatureControlInput}

/-- The open window and the feedback name the same request, or one of them is missing:
a window may stay without feedback, feedback needs its window. -/
def FeedbackFits (window : Option (ControlRequest K))
    (feedback : Option PreviousControlRequestFeedback) : Prop :=
  ∀ given, feedback = some given → ∃ request, window = some request ∧
    given.controlRequestSequence = request.identity.sequence ∧
    given.controlRequestSequence ≠ 0 ∧ given.disposition ≠ .unlisted

/-- What a sample needs to be used. -/
structure Admits (controller : TemperatureController K) (input : TemperatureControlInput) :
    Prop where
  configured : classifyTemperatureControlParameters K controller.parameters = .valid
  policy : validateIntegratorTransitionPolicy K controller.policy = true
  role : input.controlSensorRole ≠ .unlisted
  target : input.targetCelsius.isFinite = true
  air : ∃ celsius, readControlSensorValue input.air = .valid celsius
  product : input.controlSensorRole = .product →
    ∃ celsius, readControlSensorValue input.product = .valid celsius
  timely : ∀ previous, controller.state.lastSampleTimestampMonotonicMillis = some previous →
    previous ≤ input.sampleTimestampMonotonicMillis ∧
    input.sampleTimestampMonotonicMillis - previous ≤
      controller.parameters.maximumIntegrationStepMillis
  feedback : FeedbackFits controller.state.feedbackWindow input.previousControlRequestFeedback

theorem checkConfiguration_cases :
    (∃ refusal, controller.checkConfiguration input = .error refusal ∧ refusal.Legal ∧
      refusal.airLimitState = diagnosticAirLimitState input.controlSensorRole ∧
      ¬ controller.Admits input) ∨
    controller.checkConfiguration input = .ok () ∧
      classifyTemperatureControlParameters K controller.parameters = .valid ∧
      validateIntegratorTransitionPolicy K controller.policy = true ∧
      input.controlSensorRole ≠ .unlisted ∧ input.targetCelsius.isFinite = true := by
  rw [checkConfiguration]
  cases hclass : classifyTemperatureControlParameters K controller.parameters with
  | unconfigured =>
      refine .inl ⟨_, rfl, .inl ⟨rfl, .inl rfl⟩, rfl, fun h => ?_⟩
      cases hclass.symm.trans h.configured
  | invalid =>
      refine .inl ⟨_, rfl, .inr ⟨rfl, .inl rfl⟩, rfl, fun h => ?_⟩
      cases hclass.symm.trans h.configured
  | valid =>
      simp only
      split
      · rename_i hinvalid
        refine .inl ⟨_, rfl, .inr ⟨rfl, .inl rfl⟩, rfl, fun h => ?_⟩
        simp [h.policy, h.role, h.target] at hinvalid
      · rename_i hvalid
        simp only [Bool.or_eq_true, not_or, Bool.not_eq_true', Bool.not_eq_false,
          decide_eq_true_eq] at hvalid
        exact .inr ⟨rfl, trivial, hvalid.1.1, hvalid.1.2, hvalid.2⟩

theorem readSensor_cases {snapshot : SensorQualitySnapshot} :
    (∃ refusal, (readSensor input snapshot : Except SampleRefusal K) = .error refusal ∧
      refusal.Legal ∧
      refusal.airLimitState = diagnosticAirLimitState input.controlSensorRole ∧
      ∀ celsius, readControlSensorValue snapshot ≠ .valid celsius) ∨
    ∃ celsius, readControlSensorValue snapshot = .valid celsius ∧
      (readSensor input snapshot : Except SampleRefusal K) = .ok (ofBinary64 celsius) := by
  rw [readSensor]
  cases readControlSensorValue snapshot with
  | unavailable => exact .inl ⟨_, rfl, .inl ⟨rfl, .inr rfl⟩, rfl, nofun⟩
  | invalid => exact .inl ⟨_, rfl, .inr ⟨rfl, .inr (.inl rfl)⟩, rfl, nofun⟩
  | valid celsius => exact .inr ⟨celsius, rfl, rfl⟩

theorem anchorSample_cases :
    (∃ refusal state, controller.anchorSample input = .error (refusal, state) ∧
      refusal.Legal ∧
      refusal.airLimitState = diagnosticAirLimitState input.controlSensorRole ∧
      ¬ controller.Admits input) ∨
    ∃ timing state, controller.anchorSample input = .ok (timing, state) ∧
      state.feedbackWindow = controller.state.feedbackWindow ∧
      ∀ previous, controller.state.lastSampleTimestampMonotonicMillis = some previous →
        previous ≤ input.sampleTimestampMonotonicMillis ∧
        input.sampleTimestampMonotonicMillis - previous ≤
          controller.parameters.maximumIntegrationStepMillis := by
  rw [anchorSample]
  cases hlast : controller.state.lastSampleTimestampMonotonicMillis with
  | none => exact .inr ⟨_, _, rfl, rfl, nofun⟩
  | some previous =>
      simp only
      split
      · rename_i hbefore
        refine .inl ⟨_, _, rfl, .inr ⟨rfl, .inr (.inr (.inl rfl))⟩, rfl, fun h => ?_⟩
        exact UInt64.not_lt.mpr (h.timely previous hlast).1 hbefore
      · rename_i hafter
        split
        · rename_i hgap
          refine .inl ⟨_, _, rfl, .inr ⟨rfl, .inr (.inr (.inl rfl))⟩, rfl, fun h => ?_⟩
          exact UInt64.not_lt.mpr (h.timely previous hlast).2 hgap
        · rename_i hwithin
          refine .inr ⟨_, _, rfl, rfl, ?_⟩
          rintro _ ⟨⟩
          exact ⟨UInt64.not_lt.mp hafter, UInt64.not_lt.mp hwithin⟩

omit [ControlNumber K] in
theorem consumeFeedback_cases {state : TemperatureControlRuntimeState K} :
    (∃ refusal, consumeFeedback input state = .error refusal ∧ refusal.Legal ∧
      refusal.airLimitState = diagnosticAirLimitState input.controlSensorRole ∧
      ¬ FeedbackFits state.feedbackWindow input.previousControlRequestFeedback) ∨
    (∃ allowed next, consumeFeedback input state = .ok (allowed, next) ∧
      FeedbackFits state.feedbackWindow input.previousControlRequestFeedback) := by
  rw [consumeFeedback]
  cases state.feedbackWindow with
  | none =>
      cases input.previousControlRequestFeedback with
      | none => exact .inr ⟨_, _, rfl, nofun⟩
      | some feedback =>
          refine .inl ⟨_, rfl, .inr ⟨rfl, .inr (.inl rfl)⟩, rfl, fun h => ?_⟩
          obtain ⟨_, hnone, -⟩ := h feedback rfl
          cases hnone
  | some window =>
      cases input.previousControlRequestFeedback with
      | none => exact .inr ⟨_, _, rfl, nofun⟩
      | some feedback =>
          simp only
          split
          · rename_i hother
            refine .inl ⟨_, rfl, .inr ⟨rfl, .inr (.inl rfl)⟩, rfl, fun h => ?_⟩
            obtain ⟨_, ⟨⟩, hsame, hnonzero, hlisted⟩ := h feedback rfl
            rcases hother with hdiffers | hzero | hunlisted
            · exact hdiffers hsame
            · exact hnonzero hzero
            · exact hlisted hunlisted
          · rename_i hfits
            refine .inr ⟨_, _, rfl, ?_⟩
            rintro _ ⟨⟩
            simp only [not_or, not_not] at hfits
            exact ⟨window, rfl, hfits⟩

/-! ## The three ends of an evaluation -/

theorem evaluate_refused {refusal : SampleRefusal} {state : TemperatureControlRuntimeState K}
    (h : controller.admitSample input = .error (refusal, state)) :
    controller.evaluate input = controller.refuse refusal state := by
  delta evaluate
  rw [h]

theorem evaluate_idle {sample : AdmittedSample K} (h : controller.admitSample input = .ok sample)
    (hnone : controller.selectProfile input sample.rawErrorCelsius = none) :
    controller.evaluate input = controller.evaluateIdle input sample := by
  delta evaluate
  rw [h]
  simp only [hnone]

theorem evaluate_demand {sample : AdmittedSample K} {profile : PiDirectionParameters}
    {direction : AbstractControlDirection} (h : controller.admitSample input = .ok sample)
    (hselected : controller.selectProfile input sample.rawErrorCelsius =
      some (profile, direction)) :
    controller.evaluate input = controller.evaluateDemand input sample profile direction := by
  delta evaluate
  rw [h]
  simp only [hselected]

/-! ## The open window -/

/-- The window an evaluation leaves open: the request of its demand. -/
def opened (result : TemperatureControlResult K) : Option (ControlRequest K) :=
  if result.status = .demand then result.controlRequest else none

/-- How an evaluation uses the identities of the requests. -/
inductive Issues (controller next : TemperatureController K) :
    Option (ControlRequest K) → Prop
  | nothing (hsequence : next.nextRequestSequence = controller.nextRequestSequence)
      (hexhausted : next.requestIdentityExhausted = controller.requestIdentityExhausted) :
      Issues controller next none
  | request {request} (hidentity : request.identity.sequence = controller.nextRequestSequence)
      (havailable : controller.requestIdentityExhausted = false)
      (hadvanced : next.requestIdentityExhausted = true ∨
        next.nextRequestSequence.toNat = controller.nextRequestSequence.toNat + 1) :
      Issues controller next (some request)

/-- What an evaluation answers, and what it leaves of the window and the identities. -/
structure Answers (controller : TemperatureController K)
    (evaluated : TemperatureControlResult K × TemperatureController K) : Prop where
  window : evaluated.2.state.feedbackWindow = opened evaluated.1
  issues : controller.Issues evaluated.2 evaluated.1.controlRequest

theorem answers_refuse {refusal : SampleRefusal} {state : TemperatureControlRuntimeState K} :
    controller.Answers (controller.refuse refusal state) := by
  refine ⟨?_, .nothing rfl rfl⟩
  have hnone : opened (invalidResult refusal : TemperatureControlResult K) = none := by
    rw [opened]
    split <;> rfl
  exact hnone.symm

omit [ControlNumber K] in
theorem issues_issue {state : TemperatureControlRuntimeState K} {request : ControlRequest K}
    (hidentity : request.identity.sequence = controller.nextRequestSequence)
    (havailable : controller.requestIdentityExhausted = false) :
    controller.Issues (controller.issue state) (some request) := by
  refine .request hidentity havailable ?_
  rw [issue]
  split
  · exact .inl rfl
  · rename_i hnotlast
    refine .inr ?_
    have hbound : controller.nextRequestSequence.toNat < 2 ^ 64 - 1 := by
      refine lt_of_le_of_ne (Nat.le_pred_of_lt controller.nextRequestSequence.toNat_lt) ?_
      exact fun hlast => hnotlast (UInt64.toNat_inj.mp hlast)
    rw [UInt64.toNat_add, Nat.mod_eq_of_lt]
    · rfl
    · exact Nat.add_lt_of_lt_sub hbound

omit [ControlNumber K] in
theorem state_issue {state : TemperatureControlRuntimeState K} :
    (controller.issue state).state = state := by
  rw [issue]
  split <;> rfl

/-- A demand leaves its request as the open window, everything else leaves none; a request
takes the next identity. -/
theorem answers_evaluate : controller.Answers (controller.evaluate input) := by
  cases hadmitted : controller.admitSample input with
  | error refused =>
      rw [evaluate_refused hadmitted]
      exact answers_refuse
  | ok sample =>
      cases hselected : controller.selectProfile input sample.rawErrorCelsius with
      | none =>
          rw [evaluate_idle hadmitted hselected, evaluateIdle]
          simp only
          split
          · exact answers_refuse
          · rename_i havailable
            exact ⟨by rw [state_issue]; rfl,
              issues_issue rfl (Bool.eq_false_iff.mpr havailable)⟩
      | some selected =>
          rw [evaluate_demand hadmitted hselected, evaluateDemand]
          cases controller.computeDemand input sample selected.1 selected.2 with
          | error refusal => exact answers_refuse
          | ok outcome =>
              simp only
              split
              · exact answers_refuse
              · rename_i havailable
                refine ⟨?_, issues_issue rfl (Bool.eq_false_iff.mpr havailable)⟩
                rw [state_issue, opened]
                simp only
                split <;> rfl

end Admission

section Exact

variable {K : Type} [Field K] [LinearOrder K] [IsStrictOrderedRing K] [FloorRing K]
variable {controller : TemperatureController K} {input : TemperatureControlInput}

omit [IsStrictOrderedRing K] in
theorem readSensors_cases :
    (∃ refusal, (readSensors input : Except SampleRefusal (K × K)) = .error refusal ∧
      refusal.Legal ∧
      refusal.airLimitState = diagnosticAirLimitState input.controlSensorRole ∧
      ¬ controller.Admits input) ∨
    ∃ air measured, readControlSensorValue input.air = .valid air ∧
      readControlSensorValue (if input.controlSensorRole = .product then input.product
        else input.air) = .valid measured ∧
      (readSensors input : Except SampleRefusal (K × K)) =
        .ok (ofBinary64 air, ofBinary64 measured) := by
  rw [readSensors]
  rcases @readSensor_cases K _ input input.air with
    ⟨refusal, hrefused, hlegal, hdiagnostic, hnone⟩ | ⟨air, hair, hread⟩
  · refine .inl ⟨refusal, by rw [hrefused]; rfl, hlegal, hdiagnostic, fun h => ?_⟩
    obtain ⟨celsius, hcelsius⟩ := h.air
    exact hnone celsius hcelsius
  · rw [hread]
    by_cases hrole : input.controlSensorRole = .product
    · rcases @readSensor_cases K _ input input.product with
        ⟨refusal, hrefused, hlegal, hdiagnostic, hnone⟩ | ⟨product, hproduct, hmeasured⟩
      · refine .inl ⟨refusal, by simp only [if_pos hrole, hrefused]; rfl, hlegal,
          hdiagnostic, fun h => ?_⟩
        obtain ⟨celsius, hcelsius⟩ := h.product hrole
        exact hnone celsius hcelsius
      · refine .inr ⟨air, product, hair, by rw [if_pos hrole, hproduct], ?_⟩
        simp only [if_pos hrole, hmeasured]
        rfl
    · refine .inr ⟨air, air, hair, by rw [if_neg hrole, hair], ?_⟩
      simp only [if_neg hrole]
      rfl

omit [IsStrictOrderedRing K] in
/-- A sample is refused for a legal reason, or it is used. -/
theorem admitSample_cases :
    (∃ refusal state, controller.admitSample input = .error (refusal, state) ∧ refusal.Legal ∧
      refusal.airLimitState = diagnosticAirLimitState input.controlSensorRole ∧
      ¬ controller.Admits input) ∨
    ∃ sample air measured, controller.admitSample input = .ok sample ∧ controller.Admits input ∧
      readControlSensorValue input.air = .valid air ∧
      readControlSensorValue (if input.controlSensorRole = .product then input.product
        else input.air) = .valid measured ∧
      sample.airCelsius = ofBinary64 air ∧
      sample.rawErrorCelsius = ofBinary64 input.targetCelsius - ofBinary64 measured := by
  rw [admitSample]
  rcases @checkConfiguration_cases K _ controller input with
    ⟨refusal, hrefused, hlegal, hdiagnostic, hnot⟩ |
      ⟨hchecked, hconfigured, hpolicy, hrole, htarget⟩
  · exact .inl ⟨refusal, controller.state, by rw [hrefused]; rfl, hlegal, hdiagnostic, hnot⟩
  rcases @readSensors_cases K _ _ _ controller input with
    ⟨refusal, hrefused, hlegal, hdiagnostic, hnot⟩ | ⟨air, measured, hair, hmeasured, hread⟩
  · exact .inl ⟨refusal, controller.state, by rw [hchecked, hrefused]; rfl, hlegal,
      hdiagnostic, hnot⟩
  rcases @anchorSample_cases K _ controller input with
    ⟨refusal, state, hrefused, hlegal, hdiagnostic, hnot⟩ |
      ⟨timing, anchored, hanchored, hwindow, htimely⟩
  · exact .inl ⟨refusal, state, by rw [hchecked, hread, hrefused]; rfl, hlegal, hdiagnostic,
      hnot⟩
  rcases @consumeFeedback_cases K input anchored with
    ⟨refusal, hrefused, hlegal, hdiagnostic, hunfit⟩ | ⟨allowed, next, hconsumed, hfits⟩
  · refine .inl ⟨refusal, anchored, by rw [hchecked, hread, hanchored]; simp only
      [bind, Except.bind, Except.mapError, hrefused], hlegal, hdiagnostic, fun h => hunfit ?_⟩
    rw [hwindow]
    exact h.feedback
  · refine .inr ⟨⟨ofBinary64 air, ofBinary64 input.targetCelsius - ofBinary64 measured, timing,
      allowed, next⟩, air, measured, ?_, ?_, hair, hmeasured, rfl, rfl⟩
    · rw [hchecked, hread, hanchored]
      simp only [bind, Except.bind, Except.mapError, hconsumed, exact_isFinite]
      rfl
    · refine ⟨hconfigured, hpolicy, hrole, htarget, ⟨air, hair⟩, fun hproduct => ?_, htimely,
        hwindow ▸ hfits⟩
      rw [if_pos hproduct] at hmeasured
      exact ⟨measured, hmeasured⟩

/-! ## Parameters as numbers -/

/-- Valid parameters of a direction are positive, and its quote is at most one. -/
structure PositiveProfile (K : Type) [Field K] [LinearOrder K] [FloorRing K]
    (profile : PiDirectionParameters) : Prop where
  proportional : (0 : K) < ofBinary64 profile.proportionalGainQuotePerCelsius
  integral : (0 : K) < ofBinary64 profile.integralGainQuotePerCelsiusSecond
  band : (0 : K) < ofBinary64 profile.neutralBandWidthCelsius
  maximum : (0 : K) < ofBinary64 profile.maximumQuote
  unit : (ofBinary64 profile.maximumQuote : K) ≤ 1

omit [IsStrictOrderedRing K] in
theorem positiveProfile_of_valid {profile : PiDirectionParameters}
    (h : profile.valid K = true) : PositiveProfile K profile := by
  simp only [PiDirectionParameters.valid, finitePositive, exact_lt, exact_le,
    Bool.and_eq_true, decide_eq_true_eq] at h
  obtain ⟨⟨⟨⟨⟨-, hp⟩, -, hi⟩, -, hb⟩, -, hm⟩, hu⟩ := h
  exact ⟨hp, hi, hb, hm, hu⟩

omit [IsStrictOrderedRing K] in
theorem hasConfiguredValues_of_valid
    (h : classifyTemperatureControlParameters K controller.parameters = .valid) :
    controller.parameters.hasConfiguredValues K = true := by
  rw [classifyTemperatureControlParameters] at h
  split at h
  · cases h
  · split at h
    · assumption
    · cases h

omit [IsStrictOrderedRing K] in
theorem positiveProfiles_of_valid
    (h : classifyTemperatureControlParameters K controller.parameters = .valid) :
    PositiveProfile K (controller.heatingProfile input) ∧
      PositiveProfile K (controller.coolingProfile input) := by
  have hvalues := hasConfiguredValues_of_valid h
  simp only [TemperatureControlParameters.hasConfiguredValues, Bool.and_eq_true] at hvalues
  obtain ⟨⟨⟨⟨⟨-, hairHeating⟩, hairCooling⟩, hproductHeating⟩, hproductCooling⟩, -⟩ := hvalues
  rw [heatingProfile, coolingProfile]
  split
  · exact ⟨positiveProfile_of_valid hairHeating, positiveProfile_of_valid hairCooling⟩
  · exact ⟨positiveProfile_of_valid hproductHeating, positiveProfile_of_valid hproductCooling⟩

omit [IsStrictOrderedRing K] in
theorem airLimits_of_valid
    (h : classifyTemperatureControlParameters K controller.parameters = .valid) :
    (ofBinary64 controller.parameters.airLimitLowerBlockCelsius : K) <
        ofBinary64 controller.parameters.airLimitLowerReduceStartCelsius ∧
      (ofBinary64 controller.parameters.airLimitUpperReduceStartCelsius : K) <
        ofBinary64 controller.parameters.airLimitUpperBlockCelsius := by
  have hvalues := hasConfiguredValues_of_valid h
  simp only [TemperatureControlParameters.hasConfiguredValues, Bool.and_eq_true,
    TemperatureControlParameters.validAirLimits, exact_lt, decide_eq_true_eq] at hvalues
  exact ⟨hvalues.2.1.2, hvalues.2.2⟩

/-! ## The law of an admitted sample -/

/-- The error lies outside the neutral band of its direction. -/
theorem selectProfile_cases {rawErrorCelsius : K}
    (h : classifyTemperatureControlParameters K controller.parameters = .valid) :
    controller.selectProfile input rawErrorCelsius = none ∨
    ∃ profile direction,
      controller.selectProfile input rawErrorCelsius = some (profile, direction) ∧
      (direction = .heating ∨ direction = .cooling) ∧ PositiveProfile K profile ∧
      0 < |rawErrorCelsius| - ofBinary64 profile.neutralBandWidthCelsius := by
  obtain ⟨hheating, hcooling⟩ := @positiveProfiles_of_valid K _ _ _ controller input h
  rw [selectProfile]
  simp only [exact_lt, decide_eq_true_eq]
  split
  · rename_i habove
    refine .inr ⟨_, _, rfl, .inl rfl, hheating, ?_⟩
    have hpositive := hheating.band.trans habove
    rw [abs_of_pos hpositive]
    linarith
  · split
    · rename_i hbelow
      refine .inr ⟨_, _, rfl, .inr rfl, hcooling, ?_⟩
      have hband := hcooling.band
      have hnegative : rawErrorCelsius < 0 := by linarith
      rw [abs_of_neg hnegative]
      linarith
    · exact .inl rfl

/-- A reduced quote keeps a positive share. -/
theorem airLimit_factor {direction : AbstractControlDirection} {airCelsius : K}
    (h : (controller.airLimit input direction airCelsius).1 = .reduced) :
    0 < (controller.airLimit input direction airCelsius).2 := by
  revert h
  rw [airLimit]
  simp only [exact_lt, exact_le, decide_eq_true_eq]
  split
  · split
    · split
      · exact nofun
      · split
        · rename_i hbelow habove
          exact fun _ => div_pos (sub_pos.mpr (not_le.mp hbelow))
            (sub_pos.mpr (habove.trans (not_le.mp hbelow)))
        · exact nofun
    · split
      · exact nofun
      · split
        · rename_i habove hbelow
          exact fun _ => div_pos (sub_pos.mpr (not_le.mp habove))
            (sub_pos.mpr ((not_le.mp habove).trans hbelow))
        · exact nofun
  · rw [openAirLimit]
    split <;> exact nofun

theorem integralGain_nonneg {profile : PiDirectionParameters} {activeErrorCelsius : K}
    {deltaMillis : UInt64} (hprofile : PositiveProfile K profile)
    (herror : 0 < activeErrorCelsius) :
    ∃ gain, integralGain profile activeErrorCelsius deltaMillis = .ok gain ∧ 0 ≤ gain := by
  have hseconds : (0 : K) ≤ ofMillis deltaMillis / ofMillis 1000 :=
    div_nonneg (Nat.cast_nonneg _) (Nat.cast_nonneg _)
  have hgain : (0 : K) ≤ ofBinary64 profile.integralGainQuotePerCelsiusSecond *
      activeErrorCelsius * (ofMillis deltaMillis / ofMillis 1000) :=
    mul_nonneg (mul_nonneg hprofile.integral.le herror.le) hseconds
  refine ⟨_, ?_, hgain⟩
  rw [integralGain]
  simp only [exact_isFinite, exact_lt, not_lt.mpr hgain]
  rfl

omit [IsStrictOrderedRing K] in
theorem integrate_nonneg {profile : PiDirectionParameters}
    {rawP carried allowedDeltaI headroom : K} (hheadroom : 0 ≤ headroom) :
    ∃ integral, integrate profile rawP carried allowedDeltaI headroom = .ok integral ∧
      0 ≤ integral := by
  rw [integrate]
  split
  · exact ⟨0, rfl, le_rfl⟩
  · refine ⟨_, rfl, ?_⟩
    rw [exact_smaller, exact_larger]
    exact le_min (le_max_right _ _) hheadroom

theorem limitOutcome_ok {profile : PiDirectionParameters}
    {airLimitState : AirLimitState} {factor rawP integral : K}
    (hprofile : PositiveProfile K profile) (hrawP : 0 < rawP) (hintegral : 0 ≤ integral)
    (hfactor : airLimitState = .reduced → 0 < factor) :
    ∃ outcome, limitOutcome profile airLimitState factor rawP integral = .ok outcome ∧
      outcome.airLimitState = airLimitState ∧
      0 ≤ outcome.limitedQuote ∧ outcome.limitedQuote ≤ 1 ∧
      (outcome.limitedQuote = 0 ↔ outcome.airLimitState = .blocked) := by
  have hmaximum : 0 < smaller (rawP + integral) (ofBinary64 profile.maximumQuote) := by
    rw [exact_smaller]
    exact lt_min (add_pos_of_pos_of_nonneg hrawP hintegral) hprofile.maximum
  have hunit : ∀ quote : K, smaller quote (ofBinary64 profile.maximumQuote) ≤ 1 := by
    intro quote
    rw [exact_smaller]
    exact (min_le_right _ _).trans hprofile.unit
  have hpositive : ∀ quote : K, 0 < quote →
      0 < smaller quote (ofBinary64 profile.maximumQuote) := by
    intro quote hquote
    rw [exact_smaller]
    exact lt_min hquote hprofile.maximum
  rw [limitOutcome]
  simp only [exact_isFinite, Bool.not_true, Bool.false_or, exact_lt, decide_eq_true_eq]
  by_cases hblocked : airLimitState = .blocked
  · have hzero : smaller 0 (ofBinary64 profile.maximumQuote : K) = 0 := by
      rw [exact_smaller, min_eq_left hprofile.maximum.le]
    simp only [if_pos hblocked]
    rw [if_neg (lt_irrefl _)]
    refine ⟨_, rfl, rfl, ?_, hunit _, fun _ => hblocked, fun _ => hzero⟩
    exact hzero.ge
  · have hlimited : 0 < (if airLimitState = .reduced then
        smaller (rawP + integral) (ofBinary64 profile.maximumQuote) * factor
      else smaller (rawP + integral) (ofBinary64 profile.maximumQuote)) := by
      split
      · rename_i hreduced
        exact mul_pos hmaximum (hfactor hreduced)
      · exact hmaximum
    simp only [if_neg hblocked]
    rw [if_neg (not_lt.mpr hlimited.le)]
    have hquote := hpositive _ hlimited
    exact ⟨_, rfl, rfl, hquote.le, hunit _, fun hzero => absurd hzero hquote.ne',
      fun h => absurd h hblocked⟩

/-- Under the known air limit the quote is at most one, and it vanishes where the air
limit blocks. -/
theorem limitQuote_ok {sample : AdmittedSample K} {profile : PiDirectionParameters}
    {direction : AbstractControlDirection} {activeErrorCelsius rawP : K}
    (hprofile : PositiveProfile K profile) (herror : 0 < activeErrorCelsius)
    (hrawP : 0 < rawP) :
    ∃ outcome, controller.limitQuote input sample profile direction activeErrorCelsius rawP =
        .ok outcome ∧
      outcome.airLimitState = (controller.airLimit input direction sample.airCelsius).1 ∧
      0 ≤ outcome.limitedQuote ∧ outcome.limitedQuote ≤ 1 ∧
      (outcome.limitedQuote = 0 ↔ outcome.airLimitState = .blocked) := by
  have hfactor := @airLimit_factor K _ _ _ _ controller input direction sample.airCelsius
  have hheadroom : 0 ≤ larger 0 (ofBinary64 profile.maximumQuote - rawP) := by
    rw [exact_larger]
    exact le_max_left _ _
  rw [limitQuote]
  generalize controller.airLimit input direction sample.airCelsius = limit at hfactor ⊢
  obtain ⟨airLimitState, factor⟩ := limit
  simp only [exact_isFinite, Bool.not_true, Bool.false_eq_true, if_false]
  generalize controller.carriedIntegral sample.state profile _ = carried
  obtain ⟨gain, hgain⟩ : ∃ gain, allowedIntegralGain sample profile airLimitState
      (sample.state.lastActiveDirection.any (· ≠ direction)) activeErrorCelsius rawP carried
      (larger 0 (ofBinary64 profile.maximumQuote - rawP)) = .ok gain := by
    rw [allowedIntegralGain]
    split
    · obtain ⟨gain, hgain, -⟩ := integralGain_nonneg hprofile herror
      exact ⟨gain, hgain⟩
    · exact ⟨0, rfl⟩
  obtain ⟨integral, hintegrated, hintegral⟩ :=
    @integrate_nonneg K _ _ _ profile rawP carried gain _ hheadroom
  obtain ⟨outcome, hlimited, hfacts⟩ := limitOutcome_ok hprofile hrawP hintegral hfactor
  refine ⟨outcome, ?_, hfacts⟩
  rw [hgain]
  simp only [bind, Except.bind, hintegrated, hlimited]

theorem computeDemand_ok {sample : AdmittedSample K} {profile : PiDirectionParameters}
    {direction : AbstractControlDirection} (hprofile : PositiveProfile K profile)
    (herror : 0 < |sample.rawErrorCelsius| - ofBinary64 profile.neutralBandWidthCelsius) :
    ∃ outcome, controller.computeDemand input sample profile direction = .ok outcome ∧
      outcome.airLimitState = (controller.airLimit input direction sample.airCelsius).1 ∧
      0 ≤ outcome.limitedQuote ∧ outcome.limitedQuote ≤ 1 ∧
      (outcome.limitedQuote = 0 ↔ outcome.airLimitState = .blocked) := by
  have hrawP := mul_pos hprofile.proportional herror
  obtain ⟨outcome, hlimited, hfacts⟩ :=
    @limitQuote_ok K _ _ _ _ controller input sample profile direction _ _ hprofile herror hrawP
  refine ⟨outcome, ?_, hfacts⟩
  rw [computeDemand]
  simp only [exact_magnitude, exact_isFinite, exact_le, exact_lt, Bool.not_true,
    Bool.false_or, decide_eq_true_eq]
  rw [if_neg (not_le.mpr herror), if_neg (not_lt.mpr hrawP.le), hlimited]
  rfl

end Exact

end TemperatureController

end Fermentationsschrank

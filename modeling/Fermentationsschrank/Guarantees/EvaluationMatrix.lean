import Fermentationsschrank.Control.ControllerFacts
import Fermentationsschrank.Control.PlannerAuthority
import Fermentationsschrank.Core.Runs

/-!
# The matrix of the evaluations

The planner checks the structure of every evaluation again.  In exact arithmetic an
evaluation of the controller passes this check, unless the identities of the requests are
used up while the air limit restricts the demand.
-/

namespace Fermentationsschrank

open ControlNumber (ofBinary64 isFinite lt le eq)
open ActuatorPlannerRuntimeState (wellFormed runPhaseA_malformed_iff tick_refreshes_iff)

namespace TemperatureController

variable {K : Type} [Field K] [LinearOrder K] [FloorRing K]
variable {controller : TemperatureController K} {input : TemperatureControlInput}

/-! ## Answers without a request -/

theorem unitQuote_of_bounds {quote : K} (hlower : 0 ≤ quote) (hupper : quote ≤ 1) :
    isFiniteUnitQuote quote = true := by
  simp only [isFiniteUnitQuote, exact_isFinite, exact_le, Bool.true_and, Bool.and_eq_true,
    decide_eq_true_eq]
  exact ⟨hlower, hupper⟩

theorem unitQuote_zero [IsStrictOrderedRing K] : isFiniteUnitQuote (0 : K) = true :=
  unitQuote_of_bounds le_rfl zero_le_one

theorem legalOutcome_invalidResult {refusal : SampleRefusal} (hlegal : refusal.Legal) :
    isLegalOutcome (invalidResult refusal : TemperatureControlResult K) = true := by
  obtain ⟨status, reason, airLimitState⟩ := refusal
  have hoff : eq (0 : K) 0 = true := decide_eq_true rfl
  rcases hlegal with ⟨rfl, hreason⟩ | ⟨rfl, hreason⟩
  · simp only [isLegalOutcome, invalidResult, Option.isNone_none, Bool.true_and,
      decide_true, Bool.and_eq_true]
    exact ⟨decide_eq_true hreason, hoff⟩
  · simp only [isLegalOutcome, invalidResult, Option.isNone_none, Bool.true_and,
      decide_true, Bool.and_eq_true]
    exact ⟨decide_eq_true hreason, hoff⟩

theorem reason_listed_of_legal {refusal : SampleRefusal} (hlegal : refusal.Legal) :
    refusal.reason ≠ .unlisted := by
  intro hunlisted
  rcases hlegal with ⟨-, hreason⟩ | ⟨-, hreason⟩
  · rw [hunlisted] at hreason
    simp at hreason
  · rw [hunlisted] at hreason
    simp at hreason

/-- A legal refusal is well formed unless it reports a limit that only a request has. -/
theorem invalidResult_valid_iff [IsStrictOrderedRing K] {refusal : SampleRefusal}
    (hlegal : refusal.Legal) (hlisted : refusal.airLimitState ≠ .unlisted) :
    isStructurallyValidEvaluation (invalidResult refusal : TemperatureControlResult K) = true ↔
      refusal.airLimitState ≠ .reduced ∧ refusal.airLimitState ≠ .blocked := by
  have hquote : isFiniteUnitQuote (0 : K) = true := unitQuote_zero
  have hreason := reason_listed_of_legal hlegal
  rw [isStructurallyValidEvaluation, legalOutcome_invalidResult hlegal]
  simp only [invalidResult, isKnownDirection, hquote, Bool.true_and, Bool.and_true]
  constructor
  · exact fun h => of_decide_eq_true (Bool.and_eq_true_iff.mp h).2
  · exact fun h => Bool.and_eq_true_iff.mpr
      ⟨decide_eq_true ⟨hreason, hlisted⟩, decide_eq_true h⟩

/-! ## Answers with a request -/

/-- A request to switch off within the neutral band is well formed. -/
theorem idle_valid [IsStrictOrderedRing K] {sample : AdmittedSample K}
    (hsequence : controller.nextRequestSequence ≠ 0)
    (hrole : input.controlSensorRole ≠ .unlisted) :
    isStructurallyValidEvaluation (controller.evaluateIdle input sample).1 = true := by
  have hquote : isFiniteUnitQuote (0 : K) = true := unitQuote_zero
  have hopen : openAirLimit input.controlSensorRole ≠ .unlisted ∧
      openAirLimit input.controlSensorRole ≠ .reduced ∧
      openAirLimit input.controlSensorRole ≠ .blocked := by
    rw [openAirLimit]
    split <;> simp
  rw [evaluateIdle]
  split
  · exact (invalidResult_valid_iff (.inr ⟨rfl, .inr (.inr (.inr rfl))⟩) hopen.1).mpr hopen.2
  · rw [isStructurallyValidEvaluation]
    cases hcontrols : input.controlSensorRole with
    | air => simp [isKnownDirection, isLegalOutcome, hquote, requestAgrees, makeRequest,
        hsequence, isStructurallyValidContext, airLimitAgrees, hcontrols, openAirLimit]
    | product => simp [isKnownDirection, isLegalOutcome, hquote, requestAgrees, makeRequest,
        hsequence, isStructurallyValidContext, airLimitAgrees, hcontrols, openAirLimit]
    | unlisted => exact absurd hcontrols hrole

/-- How the air limit depends on the role. -/
theorem airLimit_role {direction : AbstractControlDirection} {airCelsius : K}
    (hrole : input.controlSensorRole ≠ .unlisted) :
    input.controlSensorRole = .air ∧
      (controller.airLimit input direction airCelsius).1 = .notApplied ∨
    input.controlSensorRole = .product ∧
      ((controller.airLimit input direction airCelsius).1 = .unrestricted ∨
        (controller.airLimit input direction airCelsius).1 = .reduced ∨
        (controller.airLimit input direction airCelsius).1 = .blocked) := by
  rw [airLimit]
  cases hcontrols : input.controlSensorRole with
  | air => exact .inl ⟨rfl, rfl⟩
  | product =>
      refine .inr ⟨rfl, ?_⟩
      simp only [if_pos]
      split
      · split
        · exact .inr (.inr rfl)
        · split
          · exact .inr (.inl rfl)
          · exact .inl rfl
      · split
        · exact .inr (.inr rfl)
        · split
          · exact .inr (.inl rfl)
          · exact .inl rfl
  | unlisted => exact absurd hcontrols hrole

/-- Only a reduced demand says so. -/
theorem demandReason_cases {profile : PiDirectionParameters} {outcome : PiOutcome K} :
    outcome.airLimitState = .reduced ∧ demandReason profile outcome = .airLimitReduced ∨
    outcome.airLimitState ≠ .reduced ∧
      (demandReason profile outcome = .saturated ∨ demandReason profile outcome = .none) := by
  rw [demandReason]
  by_cases hreduced : outcome.airLimitState = .reduced
  · exact .inl ⟨hreduced, if_pos hreduced⟩
  · refine .inr ⟨hreduced, ?_⟩
    rw [if_neg hreduced]
    split
    · exact .inl rfl
    · exact .inr rfl

/-- A demand is well formed, or refused with a limit that only a request has. -/
theorem demand_valid_iff [IsStrictOrderedRing K] {sample : AdmittedSample K}
    {profile : PiDirectionParameters} {direction : AbstractControlDirection}
    (hsequence : controller.nextRequestSequence ≠ 0)
    (hrole : input.controlSensorRole ≠ .unlisted)
    (hdirection : direction = .heating ∨ direction = .cooling)
    (hprofile : PositiveProfile K profile)
    (herror : 0 < |sample.rawErrorCelsius| - ofBinary64 profile.neutralBandWidthCelsius) :
    isStructurallyValidEvaluation
        (controller.evaluateDemand input sample profile direction).1 = true ↔
      ¬ (controller.requestIdentityExhausted = true ∧
        ((controller.airLimit input direction sample.airCelsius).1 = .reduced ∨
          (controller.airLimit input direction sample.airCelsius).1 = .blocked)) := by
  obtain ⟨outcome, hcomputed, hlimit, hlower, hupper, hzero⟩ :=
    @computeDemand_ok K _ _ _ _ controller input sample profile direction hprofile herror
  have hcases := @airLimit_role K _ _ _ controller input direction sample.airCelsius hrole
  rw [← hlimit] at hcases ⊢
  rw [evaluateDemand, hcomputed]
  simp only
  cases hexhausted : controller.requestIdentityExhausted with
  | true =>
      have hlisted : outcome.airLimitState ≠ .unlisted := by
        rcases hcases with ⟨-, h⟩ | ⟨-, h | h | h⟩ <;> rw [h] <;> rintro ⟨⟩
      rw [if_pos rfl]
      have hvalid := @invalidResult_valid_iff K _ _ _ _ (exhausted outcome.airLimitState)
        (.inr ⟨rfl, .inr (.inr (.inr rfl))⟩) hlisted
      rw [TemperatureController.refuse, hvalid, exhausted]
      simp [not_or]
  | false =>
      have hquote : isFiniteUnitQuote outcome.limitedQuote = true :=
        unitQuote_of_bounds hlower hupper
      simp only [Bool.false_eq_true, if_false, false_and, not_false_eq_true, iff_true]
      by_cases hblocked : outcome.airLimitState = .blocked
      · have hnothing : outcome.limitedQuote = 0 := hzero.mpr hblocked
        have hproduct : input.controlSensorRole = .product := by
          rcases hcases with ⟨-, h⟩ | ⟨hrole, -⟩
          · rw [hblocked] at h
            cases h
          · exact hrole
        rw [isStructurallyValidEvaluation]
        simp [hblocked, hnothing, isKnownDirection, isLegalOutcome, requestAgrees, makeRequest,
          hsequence, isStructurallyValidContext, airLimitAgrees, hproduct, hnothing ▸ hquote]
      · have hpositive : 0 < outcome.limitedQuote :=
          lt_of_le_of_ne hlower fun h => hblocked (hzero.mp h.symm)
        have hknown : isKnownDirection direction = true := by
          rcases hdirection with rfl | rfl <;> rfl
        rw [isStructurallyValidEvaluation]
        simp only [hblocked, decide_false, exact_eq, decide_eq_false hpositive.ne',
          Bool.or_self, Bool.false_eq_true, if_false]
        rcases @demandReason_cases K _ _ _ profile outcome with
          ⟨hreduced, hreason⟩ | ⟨hopen, hreason⟩
        · have hproduct : input.controlSensorRole = .product := by
            rcases hcases with ⟨-, h⟩ | ⟨hrole, -⟩
            · rw [hreduced] at h
              cases h
            · exact hrole
          simp [hreason, hreduced, hknown, hquote, isLegalOutcome, hdirection, hpositive,
            requestAgrees, makeRequest, hsequence, isStructurallyValidContext, airLimitAgrees,
            hproduct]
        · have hlisted : outcome.airLimitState ≠ .unlisted := by
            rcases hcases with ⟨-, h⟩ | ⟨-, h | h | h⟩ <;> rw [h] <;> rintro ⟨⟩
          have hagrees : input.controlSensorRole = .air ∧ outcome.airLimitState = .notApplied ∨
              input.controlSensorRole = .product ∧ outcome.airLimitState = .unrestricted := by
            rcases hcases with hair | ⟨hproduct, h | h | h⟩
            · exact .inl hair
            · exact .inr ⟨hproduct, h⟩
            · exact absurd h hopen
            · exact absurd h hblocked
          rcases hreason with hreason | hreason <;>
            rcases hagrees with ⟨hcontrols, hstate⟩ | ⟨hcontrols, hstate⟩ <;>
            simp [hreason, hstate, hknown, hquote, isLegalOutcome, hdirection, hpositive,
              requestAgrees, makeRequest, hsequence, isStructurallyValidContext,
              airLimitAgrees, hcontrols]

/-! ## Every sample -/

/-- The air is beyond the limit that the error of the product asks to heat or to cool
against. -/
def AirLimitBinds (K : Type) [Field K] [LinearOrder K] [FloorRing K]
    (parameters : TemperatureControlParameters) (input : TemperatureControlInput) : Prop :=
  input.controlSensorRole = .product ∧
  ∃ air product, readControlSensorValue input.air = .valid air ∧
    readControlSensorValue input.product = .valid product ∧
    ((ofBinary64 parameters.productHeating.neutralBandWidthCelsius : K) <
        ofBinary64 input.targetCelsius - ofBinary64 product ∧
      (ofBinary64 parameters.airLimitUpperReduceStartCelsius : K) < ofBinary64 air ∨
    (ofBinary64 input.targetCelsius - ofBinary64 product : K) <
        -ofBinary64 parameters.productCooling.neutralBandWidthCelsius ∧
      (ofBinary64 air : K) < ofBinary64 parameters.airLimitLowerReduceStartCelsius)

/-- The last identity has been issued, and a usable sample asks for a demand that the air
limit restricts. -/
structure ExhaustedUnderAirLimit (controller : TemperatureController K)
    (input : TemperatureControlInput) : Prop where
  exhausted : controller.requestIdentityExhausted = true
  admitted : controller.Admits input
  binds : AirLimitBinds K controller.parameters input

theorem airLimitBinds_iff {parameters : TemperatureControlParameters} {air product : Binary64}
    (hproduct : input.controlSensorRole = .product)
    (hair : readControlSensorValue input.air = .valid air)
    (hmeasured : readControlSensorValue input.product = .valid product) :
    AirLimitBinds K parameters input ↔
      (ofBinary64 parameters.productHeating.neutralBandWidthCelsius : K) <
          ofBinary64 input.targetCelsius - ofBinary64 product ∧
        (ofBinary64 parameters.airLimitUpperReduceStartCelsius : K) < ofBinary64 air ∨
      (ofBinary64 input.targetCelsius - ofBinary64 product : K) <
          -ofBinary64 parameters.productCooling.neutralBandWidthCelsius ∧
        (ofBinary64 air : K) < ofBinary64 parameters.airLimitLowerReduceStartCelsius := by
  refine ⟨?_, fun h => ⟨hproduct, air, product, hair, hmeasured, h⟩⟩
  rintro ⟨-, other, measured, hother, hread, h⟩
  cases hair.symm.trans hother
  cases hmeasured.symm.trans hread
  exact h

theorem restricts_heating_iff {airCelsius : K} (hproduct : input.controlSensorRole = .product)
    (hupper : (ofBinary64 controller.parameters.airLimitUpperReduceStartCelsius : K) <
      ofBinary64 controller.parameters.airLimitUpperBlockCelsius) :
    ((controller.airLimit input .heating airCelsius).1 = .reduced ∨
      (controller.airLimit input .heating airCelsius).1 = .blocked) ↔
    (ofBinary64 controller.parameters.airLimitUpperReduceStartCelsius : K) < airCelsius := by
  rw [airLimit]
  simp only [if_pos hproduct, exact_lt, exact_le, decide_eq_true_eq, if_true]
  by_cases hblock : (ofBinary64 controller.parameters.airLimitUpperBlockCelsius : K) ≤ airCelsius
  · rw [if_pos hblock]
    exact iff_of_true (.inr rfl) (hupper.trans_le hblock)
  · rw [if_neg hblock]
    split
    · rename_i hreduce
      exact iff_of_true (.inl rfl) hreduce
    · rename_i hopen
      exact iff_of_false (by simp) hopen

theorem restricts_cooling_iff {airCelsius : K} (hproduct : input.controlSensorRole = .product)
    (hlower : (ofBinary64 controller.parameters.airLimitLowerBlockCelsius : K) <
      ofBinary64 controller.parameters.airLimitLowerReduceStartCelsius) :
    ((controller.airLimit input .cooling airCelsius).1 = .reduced ∨
      (controller.airLimit input .cooling airCelsius).1 = .blocked) ↔
    airCelsius < (ofBinary64 controller.parameters.airLimitLowerReduceStartCelsius : K) := by
  rw [airLimit]
  simp only [if_pos hproduct, exact_lt, exact_le, decide_eq_true_eq, reduceCtorEq, if_false]
  by_cases hblock : airCelsius ≤ (ofBinary64 controller.parameters.airLimitLowerBlockCelsius : K)
  · rw [if_pos hblock]
    exact iff_of_true (.inr rfl) (hblock.trans_lt hlower)
  · rw [if_neg hblock]
    split
    · rename_i hreduce
      exact iff_of_true (.inl rfl) hreduce
    · rename_i hopen
      exact iff_of_false (by simp) hopen

/-- The air limit restricts a demand exactly where it binds. -/
theorem restricts_iff [IsStrictOrderedRing K] {sample : AdmittedSample K}
    {profile : PiDirectionParameters} {direction : AbstractControlDirection}
    {air measured : Binary64} (hadmits : controller.Admits input)
    (hair : readControlSensorValue input.air = .valid air)
    (hmeasured : readControlSensorValue (if input.controlSensorRole = .product then
      input.product else input.air) = .valid measured)
    (hsample : sample.airCelsius = ofBinary64 air)
    (herror : sample.rawErrorCelsius =
      ofBinary64 input.targetCelsius - ofBinary64 measured)
    (hselected : controller.selectProfile input sample.rawErrorCelsius =
      some (profile, direction)) :
    ((controller.airLimit input direction sample.airCelsius).1 = .reduced ∨
      (controller.airLimit input direction sample.airCelsius).1 = .blocked) ↔
    AirLimitBinds K controller.parameters input := by
  obtain ⟨hlower, hupper⟩ := airLimits_of_valid hadmits.configured
  obtain ⟨hheating, hcooling⟩ :=
    @positiveProfiles_of_valid K _ _ _ controller input hadmits.configured
  by_cases hproduct : input.controlSensorRole = .product
  · rw [if_pos hproduct] at hmeasured
    have hnotair : input.controlSensorRole ≠ .air := by rw [hproduct]; exact nofun
    rw [heatingProfile, if_neg hnotair] at hheating
    rw [coolingProfile, if_neg hnotair] at hcooling
    rw [selectProfile, heatingProfile, coolingProfile, if_neg hnotair, if_neg hnotair]
      at hselected
    simp only [exact_lt, decide_eq_true_eq] at hselected
    have hunique : AirLimitBinds K controller.parameters input ↔ _ :=
      airLimitBinds_iff hproduct hair hmeasured
    rw [hunique, ← hsample, ← herror]
    split at hselected
    · rename_i hheats
      cases hselected
      rw [restricts_heating_iff hproduct hupper]
      refine ⟨fun hrestricts => .inl ⟨hheats, hrestricts⟩, ?_⟩
      rintro (⟨-, hrestricts⟩ | ⟨hcools, -⟩)
      · exact hrestricts
      · have := hheating.band
        have := hcooling.band
        linarith
    · rename_i hheats
      split at hselected
      · rename_i hcools
        cases hselected
        rw [restricts_cooling_iff hproduct hlower]
        refine ⟨fun hrestricts => .inr ⟨hcools, hrestricts⟩, ?_⟩
        rintro (⟨hagain, -⟩ | ⟨-, hrestricts⟩)
        · exact absurd hagain hheats
        · exact hrestricts
      · cases hselected
  · rw [airLimit]
    simp only [if_neg hproduct]
    refine ⟨fun hrestricts => ?_, fun hbinds => absurd hbinds.1 hproduct⟩
    rw [openAirLimit] at hrestricts
    split at hrestricts <;> simp at hrestricts

/-- An evaluation is well formed unless the identities are used up under a limit. -/
theorem evaluate_valid_iff [IsStrictOrderedRing K]
    (hsequence : controller.nextRequestSequence ≠ 0) :
    isStructurallyValidEvaluation (controller.evaluate input).1 = true ↔
      ¬ controller.ExhaustedUnderAirLimit input := by
  rcases @admitSample_cases K _ _ _ controller input with
    ⟨refusal, state, hrefused, hlegal, hdiagnostic, hnot⟩ |
      ⟨sample, air, measured, hadmitted, hadmits, hair, hmeasured, hsample, herror⟩
  · rw [evaluate_refused hrefused]
    have hstates : refusal.airLimitState = .notApplied ∨
        refusal.airLimitState = .unavailable := by
      rw [hdiagnostic, diagnosticAirLimitState]
      split
      · exact .inl rfl
      · exact .inr rfl
    have hlisted : refusal.airLimitState ≠ .unlisted ∧ refusal.airLimitState ≠ .reduced ∧
        refusal.airLimitState ≠ .blocked := by
      rcases hstates with h | h <;> rw [h] <;> decide
    have hvalid : isStructurallyValidEvaluation
        (invalidResult refusal : TemperatureControlResult K) = true :=
      (invalidResult_valid_iff hlegal hlisted.1).mpr hlisted.2
    exact iff_of_true hvalid fun h => hnot h.admitted
  · rcases @selectProfile_cases K _ _ _ _ controller input sample.rawErrorCelsius
      hadmits.configured with hnone | ⟨profile, direction, hselected, hdirection, hprofile, hpast⟩
    · rw [evaluate_idle hadmitted hnone]
      refine iff_of_true (idle_valid hsequence hadmits.role) fun h => ?_
      have hproduct := h.binds.1
      have hnotair : input.controlSensorRole ≠ .air := by rw [hproduct]; exact nofun
      rw [if_pos hproduct] at hmeasured
      rw [selectProfile, heatingProfile, coolingProfile, if_neg hnotair, if_neg hnotair,
        herror] at hnone
      simp only [exact_lt, decide_eq_true_eq] at hnone
      rcases (airLimitBinds_iff hproduct hair hmeasured).mp h.binds with
        ⟨hheats, -⟩ | ⟨hcools, -⟩
      · rw [if_pos hheats] at hnone
        cases hnone
      · rw [if_pos hcools] at hnone
        split at hnone <;> cases hnone
    · rw [evaluate_demand hadmitted hselected]
      rw [demand_valid_iff hsequence hadmits.role hdirection hprofile hpast,
        restricts_iff hadmits hair hmeasured hsample herror hselected]
      exact not_congr ⟨fun h => ⟨h.1, hadmits, h.2⟩, fun h => ⟨h.exhausted, h.binds⟩⟩

/-! ## Runs of the controller -/

section Runs

variable [IsStrictOrderedRing K]

inductive ControllerCall
  | evaluate (input : TemperatureControlInput)
  | markCommittedControlContextTransitionPending
      (transition : CommittedControlContextTransition)
  | resetRuntime

def perform (controller : TemperatureController K) : ControllerCall → TemperatureController K
  | .evaluate input => (controller.evaluate input).2
  | .markCommittedControlContextTransitionPending transition =>
      (controller.markCommittedControlContextTransitionPending transition).2
  | .resetRuntime => controller.resetRuntime

def ControllerStep (controller : TemperatureController K) (call : ControllerCall)
    (next : TemperatureController K) : Prop := next = controller.perform call

omit [IsStrictOrderedRing K] [Field K] [LinearOrder K] [FloorRing K] in
theorem sequence_issue {state : TemperatureControlRuntimeState K}
    (h : controller.nextRequestSequence ≠ 0) :
    (controller.issue state).nextRequestSequence ≠ 0 := by
  rw [issue]
  split
  · exact h
  · rename_i hnotlast
    intro hzero
    apply hnotlast
    have hnext : controller.nextRequestSequence + 1 = 0 := hzero
    have hvalue : controller.nextRequestSequence = 0 - 1 := by
      rw [← hnext, UInt64.add_sub_cancel]
    rw [hvalue]
    rfl

omit [IsStrictOrderedRing K] in
theorem sequence_evaluate (h : controller.nextRequestSequence ≠ 0) :
    (controller.evaluate input).2.nextRequestSequence ≠ 0 := by
  cases hadmitted : controller.admitSample input with
  | error refused => rw [evaluate_refused hadmitted]; exact h
  | ok sample =>
      cases hselected : controller.selectProfile input sample.rawErrorCelsius with
      | none =>
          rw [evaluate_idle hadmitted hselected, evaluateIdle]
          split
          · exact h
          · exact sequence_issue h
      | some selected =>
          rw [evaluate_demand hadmitted hselected, evaluateDemand]
          split
          · exact h
          · split
            · exact h
            · exact sequence_issue h

omit [IsStrictOrderedRing K] in
/-- The sequence zero is never issued. -/
theorem sequence_perform {call : ControllerCall} (h : controller.nextRequestSequence ≠ 0) :
    (controller.perform call).nextRequestSequence ≠ 0 := by
  cases call with
  | evaluate input => exact sequence_evaluate h
  | markCommittedControlContextTransitionPending transition =>
      rw [perform, markCommittedControlContextTransitionPending]
      split <;> exact h
  | resetRuntime => exact h

/-- In every run an evaluation passes the check of the planner unless the identities are
used up under a limit.  It refreshes the watchdog exactly when it passes in a valid context
and its request, if it has one, is new and in time. -/
theorem evaluations_well_formed {parameters : TemperatureControlParameters}
    {policy : IntegratorTransitionPolicy} {initialRequestSequence : UInt64}
    {calls : List ControllerCall}
    (hrun : Steps ControllerStep (make parameters policy initialRequestSequence) calls
      controller) (input : TemperatureControlInput) :
    (isStructurallyValidEvaluation (controller.evaluate input).1 = true ↔
      ¬ controller.ExhaustedUnderAirLimit input) ∧
    ∀ (state : ActuatorPlannerRuntimeState K) (planner : ActuatorPlannerParameters)
      (tick : ActuatorPlanTickInput K),
      tick.newEvaluation = some (controller.evaluate input).1 →
      ((state.runPhaseA planner tick).1.admissionOutcome ≠ .malformedCandidate ↔
        ¬ controller.ExhaustedUnderAirLimit input ∧
          isStructurallyValidContext tick.currentCanonicalContext = true) ∧
      ((state.tick planner tick).2.lastNewRequestAcceptedAtMonotonicMillis =
          some tick.nowMonotonicMillis ↔
        state.lastNewRequestAcceptedAtMonotonicMillis = some tick.nowMonotonicMillis ∨
        (¬ controller.ExhaustedUnderAirLimit input ∧
          isStructurallyValidContext tick.currentCanonicalContext = true) ∧
        state.RequestArrives planner tick (controller.evaluate input).1) := by
  have hsequence : controller.nextRequestSequence ≠ 0 := by
    refine @Steps.invariant _ _ _ _ _ _ (fun controller => controller.nextRequestSequence ≠ 0)
      hrun ?_ fun h hstep => ?_
    · rw [make]
      split
      · exact nofun
      · assumption
    · rw [hstep]
      exact sequence_perform h
  have hvalid : isStructurallyValidEvaluation (controller.evaluate input).1 = true ↔
      ¬ controller.ExhaustedUnderAirLimit input := evaluate_valid_iff hsequence
  refine ⟨hvalid, fun state planner tick hsome => ?_⟩
  have hwell : wellFormed tick (controller.evaluate input).1 = true ↔
      ¬ controller.ExhaustedUnderAirLimit input ∧
        isStructurallyValidContext tick.currentCanonicalContext = true := by
    rw [wellFormed, Bool.and_eq_true, hvalid]
  refine ⟨?_, by rw [tick_refreshes_iff hsome, hwell]⟩
  rw [ne_eq, runPhaseA_malformed_iff hsome, Bool.not_eq_false, hwell]

end Runs

/-! ## The last identity -/

section LastIdentity

def unitProfile : PiDirectionParameters where
  proportionalGainQuotePerCelsius := fullQuote
  integralGainQuotePerCelsiusSecond := fullQuote
  neutralBandWidthCelsius := fullQuote
  maximumQuote := fullQuote

/-- The air is reduced from 2 degrees on and blocked from 4 degrees on. -/
def unitParameters : TemperatureControlParameters where
  airHeating := unitProfile
  airCooling := unitProfile
  productHeating := unitProfile
  productCooling := unitProfile
  maximumIntegrationStepMillis := 1000
  airLimitLowerBlockCelsius := zeroQuote
  airLimitLowerReduceStartCelsius := fullQuote
  airLimitUpperReduceStartCelsius := .ofBits 0x4000000000000000
  airLimitUpperBlockCelsius := .ofBits 0x4010000000000000

def resetPolicy : IntegratorTransitionPolicy where
  directionChange := .reset
  sensorRoleChange := .reset
  targetContextChange := .reset
  transitionMaximumCarryQuote := zeroQuote

/-- The product at 0 degrees is to be heated to 4 while the air is at 3. -/
def heatedSample : TemperatureControlInput where
  sampleTimestampMonotonicMillis := 0
  targetCelsius := .ofBits 0x4010000000000000
  controlSensorRole := .product
  air := { quality := .valid, filteredCelsius := some (.ofBits 0x4008000000000000) }
  product := { quality := .valid, filteredCelsius := some zeroQuote }

def lastIdentity : TemperatureController ℚ := make unitParameters resetPolicy maxUInt64

theorem last_identity_well_formed :
    isStructurallyValidEvaluation (lastIdentity.evaluate heatedSample).1 = true :=
  (evaluations_well_formed .start heatedSample).1.mpr fun h => Bool.noConfusion h.exhausted

set_option maxRecDepth 1000000 in
/-- After the last identity a demand under the reduced air limit is malformed. -/
theorem exhausted_evaluation_malformed :
    ¬ ∀ (parameters : TemperatureControlParameters) (policy : IntegratorTransitionPolicy)
      (initialRequestSequence : UInt64) (calls : List ControllerCall)
      (controller : TemperatureController ℚ),
      Steps ControllerStep (make parameters policy initialRequestSequence) calls controller →
      ∀ input, isStructurallyValidEvaluation (controller.evaluate input).1 = true := by
  intro h
  have hvalid := h unitParameters resetPolicy maxUInt64 _ _
    (Steps.start.step (rfl : ControllerStep lastIdentity (.evaluate heatedSample) _))
    heatedSample
  have hmalformed : isStructurallyValidEvaluation
      ((lastIdentity.perform (.evaluate heatedSample)).evaluate heatedSample).1 = false := by
    decide +kernel
  exact Bool.false_ne_true (hmalformed.symm.trans hvalid)

end LastIdentity

end TemperatureController

end Fermentationsschrank

import Fermentationsschrank.Run.SensorSelectionDecision

/-!
# Steps of the sensor selection

What a decision may propose, said once for all phases: every proposal with the
evidence and the settings it rests on, and every refusal.
-/

namespace Fermentationsschrank

open SensorSelectionProposal

/-! ## Evidence of a decision -/

namespace CrossRolePlausibilityContext

/-- The two sensors that every run needs. -/
def FixedValid (context : CrossRolePlausibilityContext) : Prop :=
  usable context.air = true ∧ usable context.cooling = true

/-- Every sensor a mode needs. -/
def ValidFor (context : CrossRolePlausibilityContext) (mode : Option RunSensorMode) : Prop :=
  context.FixedValid ∧ (mode = some .product → usable context.product = true)

end CrossRolePlausibilityContext

namespace SensorSelectionStateView

/-- The runtime of a phase that has no marks of its own. -/
def plain (current : SensorSelectionStateView) (phase : SensorSelectionPhase)
    (permission : SensorPeltierPermission) : SensorSelectionRuntimeState where
  phase := phase
  permission := permission
  lastAppliedMonotonicMillis := current.runtime.lastAppliedMonotonicMillis

end SensorSelectionStateView

/-- A recheck that opens a return while the mark of a product failure is still set. -/
structure ArmedRecheck (current : SensorSelectionStateView)
    (program : SensorSelectionProgramContext) (context : CrossRolePlausibilityContext)
    (userAction : Option SensorSelectionUserAction) : Prop where
  phase : current.runtime.phase = .airFallbackActive
  armed : current.runtime.productReArmPending = true
  recheck : userAction = some .recheckProduct
  fixed : context.FixedValid
  product : usable context.product = true
  strategy : program.returnStrategy = .automaticValidatedReturnToProduct
  wellFormed : thermalEvidenceStructurallyValid context = true
  incomplete : fullyPositiveReturnEvidence context = false
  compatible : definitivelyIncompatible context = false

/-! ## Proposals -/

/-- The phases that only change the permission. -/
def SensorSelectionPhase.isNormal (phase : SensorSelectionPhase) : Prop :=
  phase = .normalProduct ∨ phase = .normalAir

/-- The phases that wait for the product. -/
def SensorSelectionPhase.isWaiting (phase : SensorSelectionPhase) : Prop :=
  phase = .productFailureDetected ∨ phase = .userDecisionRequired

/-- Every proposal of a decision, with what it rests on. -/
inductive Proposes (current : SensorSelectionStateView) (decision : SensorSelectionDecision)
    (now : UInt64) : SensorSelectionProposal → Prop
  | kept (hevidence : current.runtime.permission = .allowed →
        decision.plausibility.FixedValid ∧
          (current.runtime.phase = .normalProduct →
            usable decision.plausibility.product = true)) :
      Proposes current decision now (keep current)
  | locked (reason : SensorSelectionBlockReason) :
      Proposes current decision now
        ⟨current.plain .safeLocked .blocked, current.activeMode, .safeStateEntry, reason⟩
  | blocked (reason : SensorSelectionBlockReason) (hphase : current.runtime.phase.isNormal) :
      Proposes current decision now
        ⟨current.plain current.runtime.phase .blocked, current.activeMode, .productFailureBlock,
          reason⟩
  | failed (reason : SensorSelectionBlockReason)
      (hphase : current.runtime.phase = .normalProduct)
      (hpolicy : decision.program.policy = .fallbackToAirAfterTimeout) :
      Proposes current decision now
        ⟨{ current.plain .productFailureDetected .blocked with
            fallbackWaitStartedAtMonotonicMillis := some now },
          current.activeMode, .productFailureBlock, reason⟩
  | asked (reason : SensorSelectionBlockReason)
      (hphase : current.runtime.phase = .normalProduct) :
      Proposes current decision now
        ⟨current.plain .userDecisionRequired .blocked, current.activeMode, .productFailureBlock,
          reason⟩
  | released (hphase : current.runtime.phase.isNormal)
      (hfixed : decision.plausibility.FixedValid)
      (hproduct : current.runtime.phase = .normalProduct →
        usable decision.plausibility.product = true) :
      Proposes current decision now
        ⟨current.plain current.runtime.phase .allowed, current.activeMode, .recoveryRevalidation,
          .none⟩
  | recovered (hphase : current.runtime.phase.isWaiting)
      (hfixed : decision.plausibility.FixedValid)
      (hproduct : usable decision.plausibility.product = true) :
      Proposes current decision now
        ⟨current.plain .normalProduct .allowed, current.activeMode, .recoveryRevalidation,
          .none⟩
  | continued (hphase : current.runtime.phase.isWaiting)
      (huser : decision.userAction = some .continueWithAir)
      (hpreference : decision.program.sensorPreference ≠ .productRequired)
      (hfixed : decision.plausibility.FixedValid) :
      Proposes current decision now
        ⟨current.plain .airFallbackActive .allowed, some .air, .manualUserFallback, .none⟩
  | fellBack {deadline : UInt64} (hphase : current.runtime.phase = .productFailureDetected)
      (huser : decision.userAction = none)
      (hpolicy : decision.program.policy = .fallbackToAirAfterTimeout)
      (hproduct : usable decision.plausibility.product = false)
      (hdeadline : fallbackDeadline current decision.program = some deadline)
      (hwaited : deadline ≤ now) (hfixed : decision.plausibility.FixedValid) :
      Proposes current decision now
        ⟨current.plain .airFallbackActive .allowed, some .air, .fallbackToAir, .none⟩
  | returned (hphase : current.runtime.phase = .airFallbackActive)
      (huser : decision.userAction = some .returnToProduct)
      (hstrategy : decision.program.returnStrategy = .manualReturnToProduct)
      (hfixed : decision.plausibility.FixedValid)
      (hproduct : usable decision.plausibility.product = true) :
      Proposes current decision now
        ⟨current.plain .normalProduct .allowed, some .product, .manualUserReturn, .none⟩
  | validated (hphase : current.runtime.phase = .airFallbackActive ∧
          decision.program.returnStrategy = .automaticValidatedReturnToProduct ∨
        current.runtime.phase = .returnValidationPending)
      (hpositive : fullyPositiveReturnEvidence decision.plausibility = true) :
      Proposes current decision now
        ⟨current.plain .normalProduct .allowed, some .product, .automaticValidatedReturn, .none⟩
  | validating (armed : Bool) (hphase : current.runtime.phase = .airFallbackActive)
      (hstrategy : decision.program.returnStrategy = .automaticValidatedReturnToProduct)
      (hfixed : decision.plausibility.FixedValid)
      (harmed : armed = true → ArmedRecheck current decision.program decision.plausibility
        decision.userAction) :
      Proposes current decision now
        ⟨{ current.plain .returnValidationPending current.runtime.permission with
            returnValidation := ⟨some now,
              some decision.plausibility.thermalCompatibility.profileRevision⟩
            productReArmPending := armed },
          current.activeMode, .none, .none⟩
  | rearmed (hphase : current.runtime.phase = .airFallbackActive)
      (hfixed : decision.plausibility.FixedValid) :
      Proposes current decision now
        ⟨{ current.runtime with productReArmPending := true }, current.activeMode, .none, .none⟩
  | aborted (armed : Bool) (hphase : current.runtime.phase = .returnValidationPending)
      (hfixed : decision.plausibility.FixedValid) :
      Proposes current decision now
        ⟨{ current.plain .airFallbackActive current.runtime.permission with
            returnValidation :=
              ⟨none, current.runtime.returnValidation.lastObservedProfileRevision⟩
            productReArmPending := armed },
          current.activeMode, .returnValidationAborted, .none⟩

/-! ## Marks of a consistent runtime -/

section Marks

variable {runtime : SensorSelectionRuntimeState}

theorem validRuntimeCombination_iff (hphase : runtime.phase ≠ .noActiveRun) :
    validRuntimeCombination runtime = true ↔
      (mustBeBlocked runtime.phase → runtime.permission = .blocked) ∧
      (runtime.returnValidation.enteredAtMonotonicMillis.isSome →
        runtime.phase = .returnValidationPending) ∧
      (runtime.returnValidation.lastObservedProfileRevision.isSome →
        runtime.phase = .returnValidationPending ∨ runtime.phase = .airFallbackActive) ∧
      (runtime.fallbackWaitStartedAtMonotonicMillis.isSome →
        runtime.phase = .productFailureDetected) ∧
      (runtime.productReArmPending → runtime.phase = .airFallbackActive) := by
  rw [validRuntimeCombination, if_neg hphase, decide_eq_true_eq]

theorem blocked_of_valid (hvalid : validRuntimeCombination runtime = true)
    (hblocked : mustBeBlocked runtime.phase = true) : runtime.permission = .blocked := by
  have hactive : runtime.phase ≠ .noActiveRun := fun hphase => by
    rw [hphase] at hblocked
    cases hblocked
  exact ((validRuntimeCombination_iff hactive).mp hvalid).1 hblocked

/-- Only the wait for the product and the return have marks of their own. -/
theorem unmarked_of_valid (hvalid : validRuntimeCombination runtime = true)
    (hactive : runtime.phase ≠ .noActiveRun) (hair : runtime.phase ≠ .airFallbackActive)
    (hreturn : runtime.phase ≠ .returnValidationPending) :
    runtime = ⟨runtime.phase, runtime.permission, runtime.fallbackWaitStartedAtMonotonicMillis,
      runtime.lastAppliedMonotonicMillis, {}, false⟩ := by
  obtain ⟨-, hentered, hobserved, -, harmed⟩ := (validRuntimeCombination_iff hactive).mp hvalid
  obtain ⟨phase, permission, started, applied, ⟨entered, observed⟩, armed⟩ := runtime
  simp_all

theorem notWaiting_of_valid (hvalid : validRuntimeCombination runtime = true)
    (hactive : runtime.phase ≠ .noActiveRun) (hwait : runtime.phase ≠ .productFailureDetected) :
    runtime.fallbackWaitStartedAtMonotonicMillis = none := by
  obtain ⟨-, -, -, hstarted, -⟩ := (validRuntimeCombination_iff hactive).mp hvalid
  exact Option.not_isSome_iff_eq_none.mp fun hsome => hwait (hstarted hsome)

theorem plain_of_valid (hvalid : validRuntimeCombination runtime = true)
    (hactive : runtime.phase ≠ .noActiveRun) (hwait : runtime.phase ≠ .productFailureDetected)
    (hair : runtime.phase ≠ .airFallbackActive)
    (hreturn : runtime.phase ≠ .returnValidationPending) :
    ∃ permission applied,
      runtime = ⟨runtime.phase, permission, none, applied, {}, false⟩ := by
  have hunmarked := unmarked_of_valid hvalid hactive hair hreturn
  rw [notWaiting_of_valid hvalid hactive hwait] at hunmarked
  exact ⟨_, _, hunmarked⟩

end Marks

/-! ## Phases -/

section Phases

variable {current : SensorSelectionStateView} {decision : SensorSelectionDecision}
  {now : UInt64} {proposal : SensorSelectionProposal}

theorem evaluateNormalProduct_proposes (hphase : current.runtime.phase = .normalProduct)
    (hvalid : validRuntimeCombination current.runtime = true)
    (h : evaluateNormalProduct current decision now = .ok proposal) :
    Proposes current decision now proposal := by
  obtain ⟨id, runtime, mode, persisted, revision⟩ := current
  obtain ⟨permission, applied, hruntime⟩ := @plain_of_valid runtime hvalid
    (by rw [hphase]; decide) (by rw [hphase]; decide) (by rw [hphase]; decide)
    (by rw [hphase]; decide)
  rw [hphase] at hruntime
  cases hruntime
  simp only [evaluateNormalProduct, bind_eq_ok, require_eq_ok] at h
  obtain ⟨_, huser, h⟩ := h
  split at h
  · cases h
    exact .locked _
  split at h
  · split at h <;> cases h
    · exact .locked _
    · exact .asked _ rfl
    · rename_i hpolicy
      exact .failed _ rfl hpolicy
  rename_i hproduct
  rw [Bool.not_eq_true, Bool.not_eq_false'] at hproduct
  split at h
  · split at h <;> cases h
    · exact .blocked _ (.inl rfl)
    · rename_i hpermission
      exact .kept fun hallowed => absurd hallowed hpermission
  rename_i hfixed
  rw [Bool.or_eq_true, not_or, Bool.not_eq_true, Bool.not_eq_true, Bool.not_eq_false',
    Bool.not_eq_false'] at hfixed
  split at h <;> cases h
  · exact .released (.inl rfl) hfixed fun _ => hproduct
  · exact .kept fun _ => ⟨hfixed, fun _ => hproduct⟩

theorem evaluateNormalAir_proposes (hphase : current.runtime.phase = .normalAir)
    (hvalid : validRuntimeCombination current.runtime = true)
    (h : evaluateNormalAir current decision = .ok proposal) :
    Proposes current decision now proposal := by
  obtain ⟨id, runtime, mode, persisted, revision⟩ := current
  obtain ⟨permission, applied, hruntime⟩ := @plain_of_valid runtime hvalid
    (by rw [hphase]; decide) (by rw [hphase]; decide) (by rw [hphase]; decide)
    (by rw [hphase]; decide)
  rw [hphase] at hruntime
  cases hruntime
  simp only [evaluateNormalAir, bind_eq_ok, require_eq_ok] at h
  obtain ⟨_, huser, h⟩ := h
  cases hfixed : usable decision.plausibility.air && usable decision.plausibility.cooling with
  | true =>
      rw [hfixed] at h
      rw [Bool.and_eq_true] at hfixed
      cases permission <;> cases h
      · exact .kept fun _ => ⟨hfixed, by rintro ⟨⟩⟩
      · exact .released (.inr rfl) hfixed (by rintro ⟨⟩)
  | false =>
      rw [hfixed] at h
      cases permission <;> cases h
      · exact .blocked _ (.inr rfl)
      · exact .kept (by rintro ⟨⟩)

theorem continueWithAir_proposes (hphase : current.runtime.phase.isWaiting)
    (hvalid : validRuntimeCombination current.runtime = true)
    (huser : decision.userAction = some .continueWithAir)
    (h : continueWithAirFromProductPhase current decision = .ok proposal) :
    Proposes current decision now proposal := by
  obtain ⟨id, runtime, mode, persisted, revision⟩ := current
  have hruntime := @unmarked_of_valid runtime hvalid
    (by rcases hphase with hphase | hphase <;> rw [hphase] <;> decide)
    (by rcases hphase with hphase | hphase <;> rw [hphase] <;> decide)
    (by rcases hphase with hphase | hphase <;> rw [hphase] <;> decide)
  simp only [continueWithAirFromProductPhase, bind_eq_ok, require_eq_ok, decide_eq_true_eq] at h
  obtain ⟨_, ⟨hpreference, hair, hcooling⟩, h⟩ := h
  cases h
  rw [hruntime] at hphase ⊢
  exact .continued hphase huser hpreference ⟨hair, hcooling⟩

theorem returnFromProductFailure_proposes
    (hphase : current.runtime.phase = .productFailureDetected)
    (hvalid : validRuntimeCombination current.runtime = true)
    (hproduct : usable decision.plausibility.product = true) :
    Proposes current decision now (returnFromProductFailure current decision.plausibility) := by
  have hblocked := blocked_of_valid hvalid (by rw [hphase]; rfl)
  rw [returnFromProductFailure]
  split
  · rename_i hfixed
    rw [Bool.and_eq_true] at hfixed
    have hruntime := @unmarked_of_valid current.runtime hvalid (by rw [hphase]; decide)
      (by rw [hphase]; decide) (by rw [hphase]; decide)
    obtain ⟨id, runtime, mode, persisted, revision⟩ := current
    change runtime = _ at hruntime
    rw [hruntime] at hphase ⊢
    exact .recovered (.inl hphase) hfixed hproduct
  · exact .kept fun hallowed => absurd (hallowed.symm.trans hblocked) nofun

theorem evaluateFallbackWait_proposes
    (hphase : current.runtime.phase = .productFailureDetected)
    (hvalid : validRuntimeCombination current.runtime = true)
    (huser : decision.userAction = none)
    (hproduct : usable decision.plausibility.product = false)
    (h : evaluateFallbackWait current decision now = .ok proposal) :
    Proposes current decision now proposal := by
  have hblocked := blocked_of_valid hvalid (by rw [hphase]; rfl)
  have hruntime := @unmarked_of_valid current.runtime hvalid (by rw [hphase]; decide)
    (by rw [hphase]; decide) (by rw [hphase]; decide)
  simp only [evaluateFallbackWait, bind_eq_ok, require_eq_ok, orFail_eq_ok, decide_eq_true_eq] at h
  obtain ⟨_, hpolicy, deadline, hdeadline, h⟩ := h
  split at h
  · cases h
    exact .kept fun hallowed => absurd (hallowed.symm.trans hblocked) (by rintro ⟨⟩)
  rename_i hwaited
  obtain ⟨id, runtime, mode, persisted, revision⟩ := current
  change runtime = _ at hruntime
  split at h <;> cases h
  · rw [hruntime]
    exact .locked _
  · rename_i hfixed
    rw [Bool.or_eq_true, not_or, Bool.not_eq_true, Bool.not_eq_true, Bool.not_eq_false',
      Bool.not_eq_false'] at hfixed
    rw [hruntime] at hphase hdeadline ⊢
    exact .fellBack hphase huser hpolicy hproduct hdeadline (UInt64.not_lt.mp hwaited) hfixed

theorem evaluateProductFailureDetected_proposes
    (hphase : current.runtime.phase = .productFailureDetected)
    (hvalid : validRuntimeCombination current.runtime = true)
    (h : evaluateProductFailureDetected current decision now = .ok proposal) :
    Proposes current decision now proposal := by
  have hblocked := blocked_of_valid hvalid (by rw [hphase]; rfl)
  have hkept : Proposes current decision now (keep current) :=
    .kept fun hallowed => absurd (hallowed.symm.trans hblocked) nofun
  rw [evaluateProductFailureDetected] at h
  split at h
  · cases h
    have hruntime := @unmarked_of_valid current.runtime hvalid (by rw [hphase]; decide)
      (by rw [hphase]; decide) (by rw [hphase]; decide)
    obtain ⟨id, runtime, mode, persisted, revision⟩ := current
    change runtime = _ at hruntime
    rw [hruntime]
    exact .locked _
  split at h
  · rename_i huser
    exact continueWithAir_proposes (.inl hphase) hvalid huser h
  · split at h <;> cases h
    · rename_i hproduct
      exact returnFromProductFailure_proposes hphase hvalid hproduct
    · exact hkept
  · cases h
  · rename_i huser
    split at h
    · rename_i hproduct
      cases h
      exact returnFromProductFailure_proposes hphase hvalid hproduct
    · rename_i hproduct
      rw [Bool.not_eq_true] at hproduct
      exact evaluateFallbackWait_proposes hphase hvalid huser hproduct h

theorem evaluateUserDecisionRequired_proposes
    (hphase : current.runtime.phase = .userDecisionRequired)
    (hvalid : validRuntimeCombination current.runtime = true)
    (h : evaluateUserDecisionRequired current decision = .ok proposal) :
    Proposes current decision now proposal := by
  have hblocked := blocked_of_valid hvalid (by rw [hphase]; rfl)
  have hkept : Proposes current decision now (keep current) :=
    .kept fun hallowed => absurd (hallowed.symm.trans hblocked) nofun
  have hcontinue := @continueWithAir_proposes current decision now proposal (.inr hphase) hvalid
  obtain ⟨permission, applied, hruntime⟩ := @plain_of_valid current.runtime hvalid
    (by rw [hphase]; decide) (by rw [hphase]; decide) (by rw [hphase]; decide)
    (by rw [hphase]; decide)
  have hrecover : decision.plausibility.FixedValid → ∀ found, (Except.ok
      (if usable decision.plausibility.product = true then
        returnToNormalProduct current .recoveryRevalidation
      else keep current) : PhaseEvaluation) = .ok found →
      Proposes current decision now found := by
    intro hfixed found hfound
    split at hfound <;> cases hfound
    · rename_i hproduct
      obtain ⟨id, runtime, mode, persisted, revision⟩ := current
      change runtime = _ at hruntime
      rw [hruntime] at hphase ⊢
      exact .recovered (.inr hphase) hfixed hproduct
    · exact hkept
  rw [evaluateUserDecisionRequired] at h
  split at h
  · cases h
    obtain ⟨id, runtime, mode, persisted, revision⟩ := current
    change runtime = _ at hruntime
    rw [hruntime]
    exact .locked _
  rename_i hchecked
  split at h
  · rename_i huser
    exact hcontinue huser h
  · cases h
  all_goals
    rename_i huser
    rw [huser] at hchecked
    simp only [ne_eq, reduceCtorEq, not_false_eq_true, Option.some.injEq, true_and, not_not]
      at hchecked
    exact hrecover hchecked _ h

theorem recheckProductOnAir_proposes (hphase : current.runtime.phase = .airFallbackActive)
    (hvalid : validRuntimeCombination current.runtime = true)
    (huser : decision.userAction = some .recheckProduct)
    (hfixed : decision.plausibility.FixedValid)
    (h : recheckProductOnAir current decision now = .ok proposal) :
    Proposes current decision now proposal := by
  have hkept : Proposes current decision now (keep current) :=
    .kept fun _ => ⟨hfixed, fun hproduct => absurd (hphase.symm.trans hproduct) nofun⟩
  have hwait := @notWaiting_of_valid current.runtime hvalid (by rw [hphase]; decide)
    (by rw [hphase]; decide)
  rw [recheckProductOnAir] at h
  split at h
  · cases h
    exact hkept
  rename_i hrecheck
  rw [not_or, not_not, not_not] at hrecheck
  obtain ⟨hproduct, hstrategy⟩ := hrecheck
  simp only [bind_eq_ok, require_eq_ok] at h
  obtain ⟨_, hwellFormed, h⟩ := h
  split at h
  · rename_i hpositive
    cases h
    obtain ⟨id, ⟨phase, permission, started, applied, observed, armed⟩, mode, persisted,
      revision⟩ := current
    cases hwait
    exact .validated (.inl ⟨hphase, hstrategy⟩) hpositive
  rename_i hincomplete
  split at h <;> cases h
  · exact hkept
  rename_i hcompatible
  rw [Bool.not_eq_true] at hincomplete hcompatible
  obtain ⟨id, ⟨phase, permission, started, applied, observed, armed⟩, mode, persisted,
    revision⟩ := current
  cases hwait
  exact .validating armed hphase hstrategy hfixed fun harmed =>
    ⟨hphase, harmed, huser, hfixed, hproduct, hstrategy, hwellFormed, hincomplete, hcompatible⟩

theorem evaluateAirFallbackAutomatic_proposes
    (hphase : current.runtime.phase = .airFallbackActive)
    (hvalid : validRuntimeCombination current.runtime = true)
    (hfixed : decision.plausibility.FixedValid)
    (h : evaluateAirFallbackAutomatic current decision now = .ok proposal) :
    Proposes current decision now proposal := by
  rw [evaluateAirFallbackAutomatic] at h
  split at h
  · cases h
    exact .rearmed hphase hfixed
  split at h
  · rename_i hreturn
    simp only [bind_eq_ok, require_eq_ok] at h
    obtain ⟨_, -, h⟩ := h
    cases h
    have hwait := @notWaiting_of_valid current.runtime hvalid (by rw [hphase]; decide)
      (by rw [hphase]; decide)
    obtain ⟨id, ⟨phase, permission, started, applied, observed, armed⟩, mode, persisted,
      revision⟩ := current
    cases hwait
    exact .validating false hphase hreturn.1 hfixed (by rintro ⟨⟩)
  · cases h
    exact .kept fun _ =>
      ⟨hfixed, fun hproduct => absurd (hphase.symm.trans hproduct) (by rintro ⟨⟩)⟩

theorem evaluateAirFallbackActive_proposes
    (hphase : current.runtime.phase = .airFallbackActive)
    (hvalid : validRuntimeCombination current.runtime = true)
    (h : evaluateAirFallbackActive current decision now = .ok proposal) :
    Proposes current decision now proposal := by
  have hwait := @notWaiting_of_valid current.runtime hvalid (by rw [hphase]; decide)
    (by rw [hphase]; decide)
  rw [evaluateAirFallbackActive] at h
  split at h
  · cases h
    obtain ⟨id, ⟨phase, permission, started, applied, observed, armed⟩, mode, persisted,
      revision⟩ := current
    cases hwait
    exact .locked _
  rename_i hchecked
  have hfixed : decision.userAction ≠ some .continueWithAir →
      decision.plausibility.FixedValid := fun huser => by
    by_contra hinvalid
    exact hchecked ⟨huser, hinvalid⟩
  split at h
  · cases h
  · rename_i huser
    simp only [manualReturnToProduct, bind_eq_ok, require_eq_ok, decide_eq_true_eq] at h
    obtain ⟨_, ⟨hstrategy, hproduct⟩, h⟩ := h
    cases h
    have hreturned := hfixed (by rw [huser]; decide)
    obtain ⟨id, ⟨phase, permission, started, applied, observed, armed⟩, mode, persisted,
      revision⟩ := current
    cases hwait
    exact .returned hphase huser hstrategy hreturned hproduct
  · rename_i huser
    exact recheckProductOnAir_proposes hphase hvalid huser (hfixed (by rw [huser]; decide)) h
  · rename_i huser
    exact evaluateAirFallbackAutomatic_proposes hphase hvalid (hfixed (by rw [huser]; decide)) h

theorem evaluateReturnValidationPending_proposes
    (hphase : current.runtime.phase = .returnValidationPending)
    (hvalid : validRuntimeCombination current.runtime = true)
    (h : evaluateReturnValidationPending current decision = .ok proposal) :
    Proposes current decision now proposal := by
  have hwait := @notWaiting_of_valid current.runtime hvalid (by rw [hphase]; decide)
    (by rw [hphase]; decide)
  simp only [evaluateReturnValidationPending, bind_eq_ok, require_eq_ok] at h
  obtain ⟨_, -, h⟩ := h
  split at h
  · cases h
    obtain ⟨id, ⟨phase, permission, started, applied, observed, armed⟩, mode, persisted,
      revision⟩ := current
    cases hwait
    exact .locked _
  rename_i hfixed
  rw [Bool.or_eq_true, not_or, Bool.not_eq_true, Bool.not_eq_true, Bool.not_eq_false',
    Bool.not_eq_false'] at hfixed
  split at h
  · cases h
    obtain ⟨id, ⟨phase, permission, started, applied, observed, armed⟩, mode, persisted,
      revision⟩ := current
    cases hwait
    exact .aborted _ hphase hfixed
  simp only [bind_eq_ok, require_eq_ok] at h
  obtain ⟨_, -, h⟩ := h
  split at h <;> cases h
  · rename_i hpositive
    obtain ⟨id, ⟨phase, permission, started, applied, observed, armed⟩, mode, persisted,
      revision⟩ := current
    cases hwait
    exact .validated (.inr hphase) hpositive
  · exact .kept fun _ =>
      ⟨hfixed, fun hproduct => absurd (hphase.symm.trans hproduct) (by rintro ⟨⟩)⟩

/-- What a consistent selection may propose. -/
theorem evaluatePhase_proposes (hvalid : validRuntimeCombination current.runtime = true)
    (h : evaluatePhase current decision now = .ok proposal) :
    Proposes current decision now proposal := by
  rw [evaluatePhase] at h
  split at h
  · exact evaluateNormalProduct_proposes ‹_› hvalid h
  · exact evaluateNormalAir_proposes ‹_› hvalid h
  · exact evaluateProductFailureDetected_proposes ‹_› hvalid h
  · exact evaluateUserDecisionRequired_proposes ‹_› hvalid h
  · exact evaluateAirFallbackActive_proposes ‹_› hvalid h
  · exact evaluateReturnValidationPending_proposes ‹_› hvalid h
  · rename_i hphase
    have hblocked := blocked_of_valid hvalid (by rw [hphase]; rfl)
    split at h <;> cases h
    exact .kept fun hallowed => absurd (hallowed.symm.trans hblocked) nofun
  · cases h
  · cases h

/-! ## Refusals -/

theorem evaluateFallbackWait_refusal :
    FailsWith (· = .invalidContext) (evaluateFallbackWait current decision now) := by
  rw [evaluateFallbackWait]
  refine failsWith_bind (failsWith_require (Eq.refl _)) fun _ => ?_
  refine failsWith_bind (failsWith_orFail (Eq.refl _)) fun deadline => ?_
  split
  · exact failsWith_ok _
  · split <;> exact failsWith_ok _

theorem evaluateProductFailureDetected_refusal (huser : decision.userAction = none) :
    FailsWith (· = .invalidContext) (evaluateProductFailureDetected current decision now) := by
  rw [evaluateProductFailureDetected, huser]
  split
  · exact failsWith_ok _
  show FailsWith _ (if _ then Except.ok _ else evaluateFallbackWait current decision now)
  split
  · exact failsWith_ok _
  · exact evaluateFallbackWait_refusal

theorem evaluateAirFallbackActive_refusal (huser : decision.userAction = none) :
    FailsWith (fun status => status = .invalidContext ∧ decision.plausibility.FixedValid)
      (evaluateAirFallbackActive current decision now) := by
  rw [evaluateAirFallbackActive, huser]
  split
  · exact failsWith_ok _
  rename_i hchecked
  have hfixed : decision.plausibility.FixedValid := by
    by_contra hinvalid
    exact hchecked ⟨nofun, hinvalid⟩
  show FailsWith _ (evaluateAirFallbackAutomatic current decision now)
  rw [evaluateAirFallbackAutomatic]
  split
  · exact failsWith_ok _
  split
  · exact failsWith_bind (failsWith_require ⟨rfl, hfixed⟩) fun _ => failsWith_ok _
  · exact failsWith_ok _

theorem evaluateReturnValidationPending_refusal (huser : decision.userAction = none) :
    FailsWith (fun status => status = .invalidContext ∧ decision.plausibility.FixedValid)
      (evaluateReturnValidationPending current decision) := by
  rw [evaluateReturnValidationPending, huser]
  show FailsWith _ (if _ then _ else _)
  split
  · exact failsWith_ok _
  rename_i hfixed
  rw [Bool.or_eq_true, not_or, Bool.not_eq_true, Bool.not_eq_true, Bool.not_eq_false',
    Bool.not_eq_false'] at hfixed
  show FailsWith _ (if _ then _ else _)
  split
  · exact failsWith_ok _
  · exact failsWith_bind (failsWith_require ⟨rfl, hfixed⟩) fun _ => failsWith_ok _

/-- What the automatic evaluation refuses, it refuses while the run is blocked, or on
air with valid fixed sensors. -/
def AutomaticRefusal (phase : SensorSelectionPhase) (context : CrossRolePlausibilityContext) :
    Prop :=
  match phase with
  | .productFailureDetected | .noActiveRun | .restartRevalidationPending => True
  | .airFallbackActive | .returnValidationPending => context.FixedValid
  | _ => False

theorem evaluatePhase_refusal (huser : decision.userAction = none) :
    FailsWith (fun status => status = .invalidContext ∧
        AutomaticRefusal current.runtime.phase decision.plausibility)
      (evaluatePhase current decision now) := by
  rw [evaluatePhase]
  cases current.runtime.phase with
  | normalProduct =>
      simp only [evaluateNormalProduct, huser, Option.isNone_none, require_true, ok_bind]
      split_ifs <;> exact failsWith_ok _
  | normalAir =>
      simp only [evaluateNormalAir, huser, Option.isNone_none, require_true, ok_bind]
      exact failsWith_ok _
  | productFailureDetected =>
      intro status h
      exact ⟨evaluateProductFailureDetected_refusal huser status h, trivial⟩
  | userDecisionRequired =>
      simp only [evaluateUserDecisionRequired, huser]
      split_ifs <;> exact failsWith_ok _
  | airFallbackActive => exact evaluateAirFallbackActive_refusal huser
  | returnValidationPending => exact evaluateReturnValidationPending_refusal huser
  | safeLocked =>
      simp only [huser]
      exact failsWith_ok _
  | noActiveRun => exact failsWith_error ⟨rfl, trivial⟩
  | restartRevalidationPending => exact failsWith_error ⟨rfl, trivial⟩

/-- The two statuses a phase refuses with. -/
def PhaseRefusal (status : SensorSelectionApplyStatus) : Prop :=
  status = .invalidDecision ∨ status = .invalidContext

theorem continueWithAir_refuses :
    FailsWith PhaseRefusal (continueWithAirFromProductPhase current decision) :=
  failsWith_bind (failsWith_require (.inl rfl)) fun _ => failsWith_ok _

theorem evaluateAirFallbackActive_refuses :
    FailsWith PhaseRefusal (evaluateAirFallbackActive current decision now) := by
  rw [evaluateAirFallbackActive]
  split
  · exact failsWith_ok _
  split
  · exact failsWith_error (.inl rfl)
  · exact failsWith_bind (failsWith_require (.inl rfl)) fun _ => failsWith_ok _
  · rw [recheckProductOnAir]
    split
    · exact failsWith_ok _
    · refine failsWith_bind (failsWith_require (.inr rfl)) fun _ => ?_
      split_ifs <;> exact failsWith_ok _
  · rw [evaluateAirFallbackAutomatic]
    split
    · exact failsWith_ok _
    split
    · exact failsWith_bind (failsWith_require (.inr rfl)) fun _ => failsWith_ok _
    · exact failsWith_ok _

theorem evaluatePhase_refuses :
    FailsWith PhaseRefusal (evaluatePhase current decision now) := by
  rw [evaluatePhase]
  cases current.runtime.phase with
  | normalProduct =>
      refine failsWith_bind (failsWith_require (.inl rfl)) fun _ => ?_
      split_ifs <;> exact failsWith_ok _
  | normalAir =>
      exact failsWith_bind (failsWith_require (.inl rfl)) fun _ => failsWith_ok _
  | productFailureDetected =>
      show FailsWith PhaseRefusal (evaluateProductFailureDetected current decision now)
      rw [evaluateProductFailureDetected]
      split
      · exact failsWith_ok _
      split
      · exact continueWithAir_refuses
      · exact failsWith_ok _
      · exact failsWith_error (.inl rfl)
      · split
        · exact failsWith_ok _
        · exact fun status h => .inr (evaluateFallbackWait_refusal status h)
  | userDecisionRequired =>
      show FailsWith PhaseRefusal (evaluateUserDecisionRequired current decision)
      rw [evaluateUserDecisionRequired]
      split
      · exact failsWith_ok _
      split
      · exact continueWithAir_refuses
      · exact failsWith_error (.inl rfl)
      · exact failsWith_ok _
      · exact failsWith_ok _
  | airFallbackActive => exact evaluateAirFallbackActive_refuses
  | returnValidationPending =>
      refine failsWith_bind (failsWith_require (.inl rfl)) fun _ => ?_
      split
      · exact failsWith_ok _
      split
      · exact failsWith_ok _
      · exact failsWith_bind (failsWith_require (.inr rfl)) fun _ => failsWith_ok _
  | safeLocked =>
      show FailsWith PhaseRefusal (if _ then _ else _)
      split
      · exact failsWith_error (.inl rfl)
      · exact failsWith_ok _
  | noActiveRun => exact failsWith_error (.inr rfl)
  | restartRevalidationPending => exact failsWith_error (.inr rfl)

end Phases

end Fermentationsschrank

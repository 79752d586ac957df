import Fermentationsschrank.Guarantees.SensorSelectionConsistency

/-!
# Permission of the Peltier element

A run decides with the settings of its program, call after call in time.  Its
permission rests on the evidence of the decision that left it, and its mode changes
only on the ways the program opens.
-/

namespace Fermentationsschrank

open CrossRolePlausibilityContext

/-! ## Permission of a proposal -/

section Permission

variable {current : SensorSelectionStateView} {decision : SensorSelectionDecision}
  {call : SensorSelectionCall} {now : UInt64} {proposal : SensorSelectionProposal}
  {provenance : SensorSelectionProvenance}

theorem mode_of_phase {mode : RunSensorMode} {selected : Option RunSensorMode}
    (h : Agrees current.runtime.phase selected provenance)
    (hbelongs : ∀ found, current.runtime.phase.belongsTo found → found = mode) :
    selected = some mode := by
  obtain ⟨found, hfound, hphase, -⟩ := h
  rw [hfound, hbelongs found hphase]

/-- What is allowed is backed by the evidence of the same decision. -/
theorem Proposes.validFor (h : Proposes current decision now proposal)
    (hvalid : validRuntimeCombination current.runtime = true)
    (hagrees : Agrees current.runtime.phase current.activeMode provenance)
    (hallowed : proposal.runtime.permission = .allowed) :
    decision.plausibility.ValidFor proposal.activeMode := by
  have hair : current.runtime.phase = .airFallbackActive ∨
      current.runtime.phase = .returnValidationPending → current.activeMode = some .air := by
    intro hphase
    apply mode_of_phase hagrees
    intro found hfound
    rcases hphase with hphase | hphase <;> rw [hphase] at hfound <;> exact hfound
  have honAir : decision.plausibility.FixedValid → current.activeMode = some .air →
      decision.plausibility.ValidFor current.activeMode := by
    intro hfixed hmode
    rw [hmode]
    exact ⟨hfixed, nofun⟩
  cases h with
  | kept hevidence =>
      obtain ⟨hfixed, hproduct⟩ := hevidence hallowed
      have hfree : mustBeBlocked current.runtime.phase ≠ true := fun hphase =>
        absurd (hallowed.symm.trans (blocked_of_valid hvalid hphase)) nofun
      refine ⟨hfixed, fun hmode => hproduct ?_⟩
      obtain ⟨found, hfound, hphase, -⟩ := hagrees
      cases hfound.symm.trans hmode
      cases hcurrent : current.runtime.phase with
      | normalProduct => rfl
      | productFailureDetected | userDecisionRequired | safeLocked =>
          rw [hcurrent] at hfree
          exact absurd rfl hfree
      | normalAir | airFallbackActive | returnValidationPending | noActiveRun
      | restartRevalidationPending =>
          rw [hcurrent] at hphase
          cases hphase
  | locked | blocked | failed | asked => cases hallowed
  | released hphase hfixed hproduct =>
      refine ⟨hfixed, fun hmode => hproduct ?_⟩
      rcases hphase with hphase | hphase
      · exact hphase
      · obtain ⟨found, hfound, hbelongs, -⟩ := hagrees
        rw [hphase] at hbelongs
        cases hbelongs
        cases hfound.symm.trans hmode
  | recovered _ hfixed hproduct => exact ⟨hfixed, fun _ => hproduct⟩
  | continued _ _ _ hfixed => exact ⟨hfixed, nofun⟩
  | fellBack _ _ _ _ _ _ hfixed => exact ⟨hfixed, nofun⟩
  | returned _ _ _ hfixed hproduct => exact ⟨hfixed, fun _ => hproduct⟩
  | validated _ hpositive =>
      simp only [fullyPositiveReturnEvidence, Bool.and_eq_true] at hpositive
      obtain ⟨⟨⟨⟨⟨⟨hproduct, hair⟩, hcooling⟩, -⟩, -⟩, -⟩, -⟩ := hpositive
      exact ⟨⟨hair, hcooling⟩, fun _ => hproduct⟩
  | validating _ hphase _ hfixed => exact honAir hfixed (hair (.inl hphase))
  | rearmed hphase hfixed => exact honAir hfixed (hair (.inl hphase))
  | aborted _ hphase hfixed => exact honAir hfixed (hair (.inr hphase))

/-- The statuses of a decision that was taken. -/
def SensorSelectionApplyStatus.isTaken (status : SensorSelectionApplyStatus) : Prop :=
  status = .appliedPersistentCandidate ∨ status = .appliedRamOnly ∨ status = .noChange

/-- After a decision that was taken the permission is backed by its evidence. -/
theorem validFor_of_taken (hcurrent : Selected current)
    (htaken : (call.mutation current).status.isTaken)
    (hallowed : (current.after (call.mutation current)).runtime.permission = .allowed) :
    call.plausibility.ValidFor (current.after (call.mutation current)).activeMode := by
  have houtcome := mutation_outcome current call
  generalize call.mutation current = mutation at *
  cases houtcome with
  | refused hrefused =>
      exfalso
      cases hrefused with
      | inconsistent | backwards | exhausted | modeless =>
          rcases htaken with htaken | htaken | htaken <;> cases htaken
      | phase hphase =>
          rcases evaluatePhase_refuses _ hphase with hstatus | hstatus <;> rw [hstatus] at htaken <;>
            rcases htaken with htaken | htaken | htaken <;> cases htaken
  | unchanged hvalid hproposed hruntime hmode =>
      have hvalidFor := hproposed.validFor hvalid hcurrent.agrees (by rw [hruntime]; exact hallowed)
      rw [hmode] at hvalidFor
      exact hvalidFor
  | applied hvalid _ hproposed hruntime hmode =>
      have hpermission : mutation.runtime.permission = .allowed := hallowed
      rw [hruntime] at hpermission
      have hvalidFor := hproposed.validFor hvalid hcurrent.agrees hpermission
      rw [← hmode] at hvalidFor
      exact hvalidFor

/-- An automatic decision leaves the permission blocked when a sensor of the mode is not
valid.  Only an exhausted revision keeps it from doing so. -/
theorem blocked_of_automatic (hcurrent : Selected current)
    (hvalid : validRuntimeCombination current.runtime = true)
    (htime : ∀ earlier ∈ current.runtime.lastAppliedMonotonicMillis,
      earlier ≤ call.nowMonotonicMillis) (huser : call.userAction = none)
    (hinvalid : ¬ call.plausibility.ValidFor (current.after (call.mutation current)).activeMode) :
    (current.after (call.mutation current)).runtime.permission = .blocked ∨
      (call.mutation current).status = .capacityReached ∧ current.runRevision = maxUInt32 := by
  have hblocked : ∀ {permission : SensorPeltierPermission}, permission ≠ .allowed →
      permission = .blocked := fun {permission} h => by
    cases permission
    · exact absurd rfl h
    · rfl
  have houtcome := mutation_outcome current call
  generalize call.mutation current = mutation at *
  cases houtcome with
  | refused hrefused =>
      cases hrefused with
      | inconsistent hinconsistent => rw [hvalid] at hinconsistent; cases hinconsistent
      | backwards happlied hearlier =>
          exact absurd (htime _ happlied) (UInt64.not_le.mpr hearlier)
      | exhausted hrevision => exact .inr ⟨rfl, hrevision⟩
      | modeless hproposed hmode =>
          obtain ⟨before, hbefore, -⟩ := hcurrent.agrees
          obtain ⟨after, hafter, -⟩ := hproposed.agrees hcurrent.agrees
          rw [hbefore, hafter] at hmode
          rcases hmode with hmode | hmode <;> cases hmode
      | phase hphase =>
          left
          obtain ⟨-, hrefusal⟩ := evaluatePhase_refusal huser _ hphase
          obtain ⟨mode, hmode, hbelongs, -⟩ := hcurrent.agrees
          have honAir : mode = .air → ¬ call.plausibility.FixedValid := fun hair hfixed =>
            hinvalid ⟨hfixed, fun hproduct => by
              cases hair
              cases hmode.symm.trans hproduct⟩
          cases hfound : current.runtime.phase with
          | productFailureDetected =>
              have hheld : mustBeBlocked current.runtime.phase = true := by
                rw [hfound]
                rfl
              exact blocked_of_valid hvalid hheld
          | airFallbackActive | returnValidationPending =>
              rw [hfound] at hbelongs hrefusal
              exact absurd hrefusal (honAir hbelongs)
          | noActiveRun | restartRevalidationPending =>
              rw [hfound] at hbelongs
              exact hbelongs.elim
          | normalProduct | normalAir | userDecisionRequired | safeLocked =>
              rw [hfound] at hrefusal
              exact hrefusal.elim
  | unchanged _ hproposed hruntime hmode =>
      left
      apply hblocked
      intro hallowed
      have hvalidFor := hproposed.validFor hvalid hcurrent.agrees (by rw [hruntime]; exact hallowed)
      rw [hmode] at hvalidFor
      exact hinvalid hvalidFor
  | applied _ _ hproposed hruntime hmode =>
      left
      apply hblocked
      intro hallowed
      have hpermission : mutation.runtime.permission = .allowed := hallowed
      rw [hruntime] at hpermission
      have hvalidFor := hproposed.validFor hvalid hcurrent.agrees hpermission
      rw [← hmode] at hvalidFor
      exact hinvalid hvalidFor

end Permission

/-! ## Runs of a program -/

/-- A selection, the time of its latest call and the time its phase was entered at. -/
structure SelectionRun where
  selection : SensorSelectionStateView
  clock : UInt64
  phaseSince : UInt64

/-- The selection of a run begins no later than its clock. -/
structure SelectionBegins (program : SensorSelectionProgramContext) (start : SelectionRun) :
    Prop where
  origin : SelectionOrigin program start.selection
  inTime : ∀ earlier ∈ start.selection.runtime.lastAppliedMonotonicMillis, earlier ≤ start.clock

/-- A call of the run: with its program, and no earlier than the call before. -/
structure ProgramStep (program : SensorSelectionProgramContext) (current : SelectionRun)
    (call : SensorSelectionCall) (next : SelectionRun) : Prop where
  program : call.program = program
  inTime : current.clock ≤ call.nowMonotonicMillis
  selection : next.selection = current.selection.after (call.mutation current.selection)
  clock : next.clock = call.nowMonotonicMillis
  phaseSince : next.phaseSince =
    if next.selection.runtime.phase = current.selection.runtime.phase then current.phaseSince
    else call.nowMonotonicMillis

/-- What the program leaves open to its run. -/
structure WithinProgram (program : SensorSelectionProgramContext)
    (current : SensorSelectionStateView) : Prop where
  selected : Selected current
  productRequired : program.sensorPreference = .productRequired →
    current.activeMode = some .product
  airOnly : program.sensorPreference = .airOnly → current.activeMode = some .air
  returning : current.runtime.phase = .returnValidationPending →
    program.returnStrategy = .automaticValidatedReturnToProduct

structure SelectionRun.Regulated (program : SensorSelectionProgramContext)
    (run : SelectionRun) : Prop where
  within : WithinProgram program run.selection
  inTime : ∀ earlier ∈ run.selection.runtime.lastAppliedMonotonicMillis, earlier ≤ run.clock
  waiting : run.selection.runtime.phase = .productFailureDetected →
    run.selection.runtime.fallbackWaitStartedAtMonotonicMillis = some run.phaseSince

/-! ## Settings of a program -/

section Settings

variable {program : SensorSelectionProgramContext}

/-- A validated program that requires the product never falls back by itself, and one on
air alone never returns. -/
structure ConsistentSettings (program : SensorSelectionProgramContext) : Prop where
  productRequired : program.sensorPreference = .productRequired →
    program.policy ≠ .fallbackToAirAfterTimeout
  airOnly : program.sensorPreference = .airOnly →
    program.returnStrategy = .remainOnAirUntilEnd

theorem crossFields_of_validateProgram {document : ProgramDocument}
    (h : (validateProgram document .runnable).valid = true) :
    validateSensorFailureCrossFields document.program = [] := by
  have hversion := validateProgram_version h
  simp only [validateProgram, hversion, ne_eq, not_true_eq_false, if_false,
    ValidationResult.valid, List.isEmpty_iff, List.append_eq_nil_iff] at h
  obtain ⟨⟨⟨⟨⟨⟨⟨⟨⟨-, hcross⟩, -⟩, -⟩, -⟩, -⟩, -⟩, -⟩, -⟩, -⟩ := h
  exact hcross

theorem RunSettings.consistent (h : RunSettings program) : ConsistentSettings program := by
  cases h with
  | stored hvalid =>
      have hcross := crossFields_of_validateProgram hvalid
      simp only [validateSensorFailureCrossFields, List.append_eq_nil_iff, failWhen,
        ite_eq_right_iff, reduceCtorEq, imp_false, decide_eq_true_eq] at hcross
      obtain ⟨⟨⟨⟨hproduct, hreturn⟩, -⟩, -⟩, -⟩ := hcross
      exact ⟨fun hpreference hpolicy => hproduct ⟨hpreference, hpolicy⟩,
        fun hpreference => not_not.mp fun hstrategy => hreturn ⟨hpreference, hstrategy⟩⟩
  | manual => exact ⟨by rintro ⟨⟩, by rintro ⟨⟩⟩

end Settings

/-! ## Steps of a run -/

section Step

variable {program : SensorSelectionProgramContext} {current : SensorSelectionStateView}
  {decision : SensorSelectionDecision} {call : SensorSelectionCall} {now : UInt64}
  {proposal : SensorSelectionProposal}

/-- A proposal changes the mode to air by hand, or once the wait for the product is over. -/
theorem Proposes.mode_air (h : Proposes current decision now proposal)
    (hbefore : current.activeMode = some .product) (hafter : proposal.activeMode = some .air) :
    decision.userAction = some .continueWithAir ∧
        decision.program.sensorPreference ≠ .productRequired ∨
      decision.userAction = none ∧ decision.program.policy = .fallbackToAirAfterTimeout ∧
        usable decision.plausibility.product = false ∧
        current.runtime.phase = .productFailureDetected ∧
        ∃ deadline, fallbackDeadline current decision.program = some deadline ∧
          deadline ≤ now := by
  cases h with
  | continued _ huser hpreference => exact .inl ⟨huser, hpreference⟩
  | fellBack hphase huser hpolicy hproduct hdeadline hwaited =>
      exact .inr ⟨huser, hpolicy, hproduct, hphase, _, hdeadline, hwaited⟩
  | returned | validated => cases hafter
  | _ => cases hbefore.symm.trans hafter

/-- It changes back by hand, or on complete compatible evidence. -/
theorem Proposes.mode_product (h : Proposes current decision now proposal)
    (hreturning : current.runtime.phase = .returnValidationPending →
      decision.program.returnStrategy = .automaticValidatedReturnToProduct)
    (hbefore : current.activeMode = some .air) (hafter : proposal.activeMode = some .product) :
    decision.userAction = some .returnToProduct ∧
        decision.program.returnStrategy = .manualReturnToProduct ∨
      decision.program.returnStrategy = .automaticValidatedReturnToProduct ∧
        fullyPositiveReturnEvidence decision.plausibility = true := by
  cases h with
  | returned _ huser hstrategy => exact .inl ⟨huser, hstrategy⟩
  | validated hphase hpositive =>
      rcases hphase with ⟨-, hstrategy⟩ | hphase
      · exact .inr ⟨hstrategy, hpositive⟩
      · exact .inr ⟨hreturning hphase, hpositive⟩
  | continued | fellBack => cases hafter
  | _ => cases hbefore.symm.trans hafter

theorem Proposes.returning (h : Proposes current decision now proposal)
    (hreturning : current.runtime.phase = .returnValidationPending →
      decision.program.returnStrategy = .automaticValidatedReturnToProduct)
    (hphase : proposal.runtime.phase = .returnValidationPending) :
    decision.program.returnStrategy = .automaticValidatedReturnToProduct := by
  cases h with
  | kept => exact hreturning hphase
  | validating _ _ hstrategy => exact hstrategy
  | rearmed => exact hreturning hphase
  | blocked | released => exact hreturning hphase
  | _ => cases hphase

/-- A proposal keeps the waiting time of the phase it stays in. -/
theorem Proposes.waiting (h : Proposes current decision now proposal)
    (hphase : proposal.runtime.phase = .productFailureDetected) :
    (current.runtime.phase = .productFailureDetected ∧
        proposal.runtime.fallbackWaitStartedAtMonotonicMillis =
          current.runtime.fallbackWaitStartedAtMonotonicMillis) ∨
      current.runtime.phase = .normalProduct ∧
        proposal.runtime.fallbackWaitStartedAtMonotonicMillis = some now := by
  cases h with
  | kept => exact .inl ⟨hphase, rfl⟩
  | failed _ hcurrent => exact .inr ⟨hcurrent, rfl⟩
  | rearmed => exact .inl ⟨hphase, rfl⟩
  | blocked _ hnormal | released hnormal =>
      have hcurrent : current.runtime.phase = .productFailureDetected := hphase
      rcases hnormal with hnormal | hnormal <;> cases hcurrent.symm.trans hnormal
  | _ => cases hphase

theorem Proposes.safeLocked (h : Proposes current decision now proposal)
    (hphase : current.runtime.phase = .safeLocked) : proposal.runtime.phase = .safeLocked := by
  cases h with
  | kept => exact hphase
  | locked => rfl
  | blocked _ hnormal | released hnormal =>
      rcases hnormal with hnormal | hnormal <;> cases hphase.symm.trans hnormal
  | recovered hwaiting | continued hwaiting =>
      rcases hwaiting with hwaiting | hwaiting <;> cases hphase.symm.trans hwaiting
  | validated hvalidated =>
      rcases hvalidated with ⟨hair, -⟩ | hreturn
      · cases hphase.symm.trans hair
      · cases hphase.symm.trans hreturn
  | rearmed => exact hphase
  | failed _ hother | asked _ hother | fellBack hother | returned hother
  | validating _ hother | aborted _ hother => cases hphase.symm.trans hother

/-- A call is refused or leaves the selection as it is, or it applies a proposal. -/
theorem after_cases (current : SensorSelectionStateView) (call : SensorSelectionCall) :
    current.after (call.mutation current) = current ∨
      ∃ proposal, Proposes current (call.decision current) call.nowMonotonicMillis proposal ∧
        (current.after (call.mutation current)).runtime =
          proposal.dated call.nowMonotonicMillis ∧
        (current.after (call.mutation current)).activeMode = proposal.activeMode := by
  have houtcome := mutation_outcome current call
  generalize call.mutation current = mutation at *
  cases houtcome with
  | refused => exact .inl rfl
  | unchanged => exact .inl rfl
  | applied _ _ hproposed hruntime hmode => exact .inr ⟨_, hproposed, hruntime, hmode⟩

/-- Two modes: what is not the one is the other. -/
theorem Selected.mode_cases (h : Selected current) :
    current.activeMode = some .air ∨ current.activeMode = some .product := by
  obtain ⟨mode, hmode, -⟩ := h.agrees
  cases mode
  · exact .inr hmode
  · exact .inl hmode

theorem WithinProgram.after (h : WithinProgram program current)
    (hsettings : ConsistentSettings program) (hprogram : call.program = program) :
    WithinProgram program (current.after (call.mutation current)) := by
  subst hprogram
  have hselected : Selected (current.after (call.mutation current)) := h.selected.after
  rcases after_cases current call with hsame | ⟨proposal, hproposed, hruntime, hmode⟩
  · rw [hsame]
    exact h
  refine ⟨hselected, fun hpreference => ?_, fun hpreference => ?_, fun hphase => ?_⟩
  · rcases hselected.mode_cases with hair | hproduct
    · rw [hmode] at hair
      rcases hproposed.mode_air (h.productRequired hpreference) hair with
        ⟨-, hother⟩ | ⟨-, hpolicy, -⟩
      · exact absurd hpreference hother
      · exact absurd hpolicy (hsettings.productRequired hpreference)
    · exact hproduct
  · rcases hselected.mode_cases with hair | hproduct
    · exact hair
    · rw [hmode] at hproduct
      have hremain := hsettings.airOnly hpreference
      rcases hproposed.mode_product h.returning (h.airOnly hpreference) hproduct with
        ⟨-, hstrategy⟩ | ⟨hstrategy, -⟩ <;> cases hremain.symm.trans hstrategy
  · rw [hruntime] at hphase
    exact hproposed.returning h.returning hphase

end Step

/-! ## Runs -/

section Run

variable {program : SensorSelectionProgramContext} {start current last next : SelectionRun}
  {calls : List SensorSelectionCall} {call : SensorSelectionCall}

theorem restartPhase_cases (provenance : SensorSelectionProvenance) (mode : RunSensorMode) :
    restartPhase provenance mode = .airFallbackActive ∨
      restartPhase provenance mode = .normalAir ∨
      restartPhase provenance mode = .normalProduct := by
  cases mode with
  | product => exact .inr (.inr rfl)
  | air =>
      by_cases hprovenance : provenance = .fallbackActive
      · exact .inl (if_pos hprovenance)
      · exact .inr (.inl (if_neg hprovenance))

theorem SelectionOrigin.within {selection : SensorSelectionStateView}
    (h : SelectionOrigin program selection) : WithinProgram program selection := by
  have hallowed : ∀ mode, modeAllowedByProgram program.sensorPreference mode = true →
      (program.sensorPreference = .productRequired → some mode = some .product) ∧
        (program.sensorPreference = .airOnly → some mode = some .air) := by
    intro mode hmode
    constructor <;> intro hpreference <;> rw [hpreference] at hmode <;> cases mode <;>
      first | rfl | cases hmode
  cases h with
  | @program resolution requested productValid id airValid coolingValid revision hresolved =>
      have horigin := SelectionOrigin.program id airValid coolingValid revision hresolved
      have hmode : (program.sensorPreference = .productRequired →
            some resolution.effectiveMode = some .product) ∧
          (program.sensorPreference = .airOnly →
            some resolution.effectiveMode = some .air) := by
        unfold resolveProgramStartSensorMode at hresolved
        split at hresolved
        · cases hresolved
        rename_i hrequested
        rw [Bool.not_eq_true, Bool.not_eq_false'] at hrequested
        split at hresolved
        · cases hresolved
          exact hallowed .air hrequested
        split at hresolved
        · cases hresolved
          exact hallowed .product hrequested
        split at hresolved <;> cases hresolved
        rename_i hpreference
        rw [hpreference]
        exact ⟨nofun, nofun⟩
      refine ⟨horigin.selected, hmode.1, hmode.2, fun hphase => ?_⟩
      generalize resolution.effectiveMode = mode at hphase
      generalize resolution.substituted = substituted at hphase
      cases mode <;> cases substituted <;> cases productValid <;> cases hphase
  | manual id mode productValid airValid coolingValid revision hsettings =>
      have horigin := SelectionOrigin.manual id mode productValid airValid coolingValid revision
        hsettings
      refine ⟨horigin.selected, ?_, ?_, fun hphase => ?_⟩
      · rw [hsettings]
        exact nofun
      · rw [hsettings]
        exact nofun
      · cases mode <;> cases productValid <;> cases hphase
  | restart id persisted lastActiveMode plausibility revision hpermission =>
      have horigin := SelectionOrigin.restart id persisted lastActiveMode plausibility revision
        hpermission
      rw [computeRestartSensorSelection] at hpermission
      split at hpermission
      · rename_i hchecks
        have hmode : modeAllowedByProgram program.sensorPreference lastActiveMode = true := by
          simp only [Bool.and_eq_true] at hchecks
          exact hchecks.1.1.1.2
        refine ⟨horigin.selected, ?_, ?_, fun hphase => ?_⟩
        · rw [restartedSelection, computeRestartSensorSelection, if_pos hchecks]
          exact (hallowed _ hmode).1
        · rw [restartedSelection, computeRestartSensorSelection, if_pos hchecks]
          exact (hallowed _ hmode).2
        · rw [restartedSelection, computeRestartSensorSelection, if_pos hchecks] at hphase
          rcases restartPhase_cases persisted.provenance lastActiveMode with h | h | h <;>
            cases h.symm.trans hphase
      · cases hpermission

theorem SelectionBegins.regulated (h : SelectionBegins program start) :
    start.Regulated program := by
  refine ⟨h.origin.within, h.inTime, fun hphase => ?_⟩
  have hstarted : ∀ id mode substituted productValid airValid coolingValid runRevision,
      (startedSelection id mode substituted productValid airValid coolingValid
        runRevision).runtime.phase ≠ .productFailureDetected := by
    intro id mode substituted productValid airValid coolingValid runRevision
    cases mode <;> cases substituted <;> cases productValid <;> exact nofun
  have horigin := h.origin
  generalize start.selection = selection at hphase horigin
  cases horigin with
  | program => exact absurd hphase (hstarted _ _ _ _ _ _ _)
  | manual => exact absurd hphase (hstarted _ _ _ _ _ _ _)
  | restart =>
      rw [restartedSelection, computeRestartSensorSelection] at hphase
      split at hphase
      · rcases restartPhase_cases _ _ with h | h | h <;> cases h.symm.trans hphase
      · cases hphase

theorem SelectionRun.Regulated.step (h : current.Regulated program)
    (hsettings : ConsistentSettings program) (hstep : ProgramStep program current call next) :
    next.Regulated program := by
  have hwithin := h.within.after hsettings hstep.program
  rw [← hstep.selection] at hwithin
  have hcases := after_cases current.selection call
  rw [← hstep.selection] at hcases
  refine ⟨hwithin, fun earlier hearlier => ?_, fun hphase => ?_⟩
  · rw [hstep.clock]
    rcases hcases with hsame | ⟨proposal, -, hruntime, -⟩
    · rw [hsame] at hearlier
      exact UInt64.le_trans (h.inTime earlier hearlier) hstep.inTime
    · rw [hruntime] at hearlier
      cases hearlier
      exact UInt64.le_refl _
  · rw [hstep.phaseSince]
    rcases hcases with hsame | ⟨proposal, hproposed, hruntime, -⟩
    · rw [hsame, if_pos rfl]
      rw [hsame] at hphase
      exact h.waiting hphase
    · rw [hruntime] at hphase ⊢
      rcases hproposed.waiting hphase with ⟨hcurrent, hwait⟩ | ⟨hcurrent, hwait⟩
      · rw [if_pos (hphase.trans hcurrent.symm)]
        exact hwait.trans (h.waiting hcurrent)
      · rw [if_neg fun hsame => absurd ((hphase.symm.trans hsame).trans hcurrent) nofun]
        exact hwait

theorem regulated_of_run (hsettings : ConsistentSettings program)
    (hstart : SelectionBegins program start)
    (hrun : Steps (ProgramStep program) start calls last) : last.Regulated program := by
  apply hrun.invariant hstart.regulated
  intro state call following hstate hstep
  exact hstate.step hsettings hstep

/-- A step that opens no return with the mark of a product failure. -/
def RegularProgramStep (program : SensorSelectionProgramContext) (current : SelectionRun)
    (call : SensorSelectionCall) (next : SelectionRun) : Prop :=
  ¬ OpensArmedReturn current.selection call ∧ ProgramStep program current call next

theorem valid_of_regularRun (hstart : SelectionBegins program start)
    (hrun : Steps (RegularProgramStep program) start calls last) :
    validRuntimeCombination last.selection.runtime = true := by
  have hlast : Selected last.selection ∧
      validRuntimeCombination last.selection.runtime = true := by
    apply @Steps.invariant _ _ _ _ _ _ (fun state : SelectionRun => Selected state.selection ∧
      validRuntimeCombination state.selection.runtime = true) hrun
      ⟨hstart.origin.selected, hstart.origin.valid⟩
    rintro state call following ⟨hselected, hvalid⟩ ⟨hregular, hstep⟩
    rw [hstep.selection]
    exact ⟨hselected.after, valid_after hselected hvalid hregular⟩
  exact hlast.2

theorem toNat_checkedMillisFromSeconds (seconds : UInt32) :
    (checkedMillisFromSeconds seconds).toNat = seconds.toNat * 1000 := by
  have hseconds := seconds.toNat_lt
  rw [checkedMillisFromSeconds, UInt64.toNat_mul, UInt32.toNat_toUInt64]
  exact Nat.mod_eq_of_lt (show seconds.toNat * 1000 < 2 ^ 64 by omega)

theorem toNat_checkedAddMillis {left right sum : UInt64}
    (h : checkedAddMillis left right = some sum) : sum.toNat = left.toNat + right.toNat := by
  rw [checkedAddMillis] at h
  split at h <;> cases h
  rename_i hfits
  have hright := right.toNat_lt
  have hle : right ≤ maxUInt64 := UInt64.le_iff_toNat_le.mpr (by
    show right.toNat ≤ 18446744073709551615
    omega)
  have hbound := UInt64.le_iff_toNat_le.mp hfits
  rw [UInt64.toNat_sub_of_le _ _ hle] at hbound
  have hmaximum : maxUInt64.toNat = 18446744073709551615 := rfl
  rw [UInt64.toNat_add]
  exact Nat.mod_eq_of_lt (by omega)

/-- The run waited for the product at least as long as its program says. -/
theorem waited_of_deadline {deadline : UInt64} (hcurrent : current.Regulated program)
    (hphase : current.selection.runtime.phase = .productFailureDetected)
    (hdeadline : fallbackDeadline current.selection program = some deadline) :
    ∃ delay, program.fallbackDelaySeconds = some delay ∧
      deadline.toNat = current.phaseSince.toNat + delay.toNat * 1000 := by
  rw [fallbackDeadline, hcurrent.waiting hphase] at hdeadline
  simp only [Option.bind_eq_bind, Option.bind_some, Option.bind_eq_some_iff] at hdeadline
  obtain ⟨delay, hdelay, hsum⟩ := hdeadline
  refine ⟨delay, hdelay, ?_⟩
  rw [toNat_checkedAddMillis hsum, toNat_checkedMillisFromSeconds]

/-- In every run the permission rests on the evidence, and the mode on the program. -/
theorem permission_follows_evidence (hsettings : RunSettings program)
    (hstart : SelectionBegins program start)
    (hrun : Steps (ProgramStep program) start calls current)
    (hstep : ProgramStep program current call next) :
    ((call.mutation current.selection).status.isTaken →
      next.selection.runtime.permission = .allowed →
      call.plausibility.ValidFor next.selection.activeMode) ∧
    (Steps (RegularProgramStep program) start calls current → call.userAction = none →
      ¬ call.plausibility.ValidFor next.selection.activeMode →
      next.selection.runtime.permission = .blocked ∨
        (call.mutation current.selection).status = .capacityReached ∧
          current.selection.runRevision = maxUInt32) ∧
    (program.sensorPreference = .productRequired → next.selection.activeMode ≠ some .air) ∧
    (program.sensorPreference = .airOnly → next.selection.activeMode ≠ some .product) ∧
    (call.userAction = none → current.selection.activeMode = some .product →
      next.selection.activeMode = some .air →
      program.policy = .fallbackToAirAfterTimeout ∧
        usable call.plausibility.product = false ∧
        current.selection.runtime.phase = .productFailureDetected ∧
        ∃ delay, program.fallbackDelaySeconds = some delay ∧
          current.phaseSince.toNat + delay.toNat * 1000 ≤ call.nowMonotonicMillis.toNat) ∧
    (current.selection.activeMode = some .air → next.selection.activeMode = some .product →
      call.userAction = some .returnToProduct ∧
          program.returnStrategy = .manualReturnToProduct ∨
        program.returnStrategy = .automaticValidatedReturnToProduct ∧
          fullyPositiveReturnEvidence call.plausibility = true) ∧
    (current.selection.runtime.phase = .safeLocked →
      next.selection.runtime.phase = .safeLocked) := by
  have hconsistent := hsettings.consistent
  have hcurrent := regulated_of_run hconsistent hstart hrun
  have hnext := hcurrent.step hconsistent hstep
  have hcases := after_cases current.selection call
  have hprogram := hstep.program
  rw [← hstep.selection] at hcases
  refine ⟨?_, ?_, ?_, ?_, ?_, ?_, ?_⟩
  · rw [hstep.selection]
    exact validFor_of_taken hcurrent.within.selected
  · intro hregular huser hinvalid
    rw [hstep.selection] at hinvalid ⊢
    apply blocked_of_automatic hcurrent.within.selected (valid_of_regularRun hstart hregular) ?_
      huser hinvalid
    intro earlier hearlier
    exact UInt64.le_trans (hcurrent.inTime earlier hearlier) hstep.inTime
  · intro hpreference
    rw [hnext.within.productRequired hpreference]
    exact nofun
  · intro hpreference
    rw [hnext.within.airOnly hpreference]
    exact nofun
  · intro huser hbefore hafter
    rcases hcases with hsame | ⟨proposal, hproposed, -, hmode⟩
    · rw [hsame] at hafter
      cases hbefore.symm.trans hafter
    · rw [hmode] at hafter
      rcases hproposed.mode_air hbefore hafter with
        ⟨hmanual, -⟩ | ⟨-, hpolicy, hproduct, hphase, deadline, hdeadline, hwaited⟩
      · cases huser.symm.trans hmanual
      · rw [show (call.decision current.selection).program = program from hprogram]
          at hpolicy hdeadline
        obtain ⟨delay, hdelay, htotal⟩ := waited_of_deadline hcurrent hphase hdeadline
        refine ⟨hpolicy, hproduct, hphase, delay, hdelay, ?_⟩
        rw [← htotal]
        exact UInt64.le_iff_toNat_le.mp hwaited
  · intro hbefore hafter
    rcases hcases with hsame | ⟨proposal, hproposed, -, hmode⟩
    · rw [hsame] at hafter
      cases hbefore.symm.trans hafter
    · rw [hmode] at hafter
      have hswitch := hproposed.mode_product (by
        intro hphase
        rw [show (call.decision current.selection).program = program from hprogram]
        exact hcurrent.within.returning hphase) hbefore hafter
      rw [show (call.decision current.selection).program = program from hprogram] at hswitch
      exact hswitch
  · intro hphase
    rcases hcases with hsame | ⟨proposal, hproposed, hruntime, -⟩
    · rw [hsame]
      exact hphase
    · rw [hruntime]
      exact hproposed.safeLocked hphase

end Run

/-! ## A failing air sensor -/

theorem returningProgram_settings : RunSettings returningProgram.program.sensorSelectionContext :=
  .stored (by decide +kernel)

theorem air_not_validFor (mode : Option RunSensorMode) (product : SensorQuality) :
    ¬ (automaticCall .stale product).plausibility.ValidFor mode := by
  rintro ⟨⟨hair, -⟩, -⟩
  cases hair

/-- A run on air before its first decision. -/
def runOnAir : SelectionRun := ⟨startedOnAir, 5, 5⟩

/-- The run after its air sensor failed. -/
def runWithoutAir : SelectionRun :=
  ⟨startedOnAir.after ((automaticCall .stale .valid).mutation startedOnAir), 5, 5⟩

theorem runOnAir_begins :
    SelectionBegins returningProgram.program.sensorSelectionContext runOnAir :=
  ⟨startedOnAir_origin, nofun⟩

theorem runOnAir_step : ProgramStep returningProgram.program.sensorSelectionContext runOnAir
    (automaticCall .stale .valid) runWithoutAir :=
  ⟨rfl, by decide, rfl, rfl, by decide⟩

theorem runWithoutAir_blocked : runWithoutAir.selection.runtime.permission = .blocked :=
  ((permission_follows_evidence returningProgram_settings runOnAir_begins .start
    runOnAir_step).2.1 .start rfl (air_not_validFor _ _)).resolve_right
      fun h => absurd h.2 (by decide)

/-- The same run with the last run revision there is. -/
def exhaustedOnAir : SensorSelectionStateView :=
  startedSelection [49] .air true false true true maxUInt32

/-- Its failing air sensor is not answered: the revision is exhausted, and the permission
stays. -/
theorem exhausted_revision_keeps_permission :
    RunSettings returningProgram.program.sensorSelectionContext ∧
      SelectionOrigin returningProgram.program.sensorSelectionContext exhaustedOnAir ∧
      ((automaticCall .stale .valid).mutation exhaustedOnAir).status = .capacityReached ∧
      ¬ (automaticCall .stale .valid).plausibility.ValidFor
        (exhaustedOnAir.after ((automaticCall .stale .valid).mutation exhaustedOnAir)).activeMode ∧
      (exhaustedOnAir.after
        ((automaticCall .stale .valid).mutation exhaustedOnAir)).runtime.permission = .allowed :=
  ⟨returningProgram_settings,
    @SelectionOrigin.program _ ⟨.air, true⟩ .product false [49] true true maxUInt32 rfl, by decide,
    air_not_validFor _ _, by decide⟩

end Fermentationsschrank

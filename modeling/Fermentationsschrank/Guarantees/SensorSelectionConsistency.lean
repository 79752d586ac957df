import Fermentationsschrank.Run.SensorSelectionRuns

/-!
# Consistency of the sensor selection

Phase, mode and stored provenance of a run always agree.  The runtime stays a valid
combination as well, unless a recheck on air opens a return while the mark of a
product failure is still set: that mark belongs to the fallback on air alone, and
nothing takes the selection out of the state it then is in.
-/

namespace Fermentationsschrank

open SensorSelectionProposal

/-! ## Agreement of phase, mode and provenance -/

/-- The mode a phase belongs to; a locked run may be in either. -/
def SensorSelectionPhase.belongsTo (phase : SensorSelectionPhase) (mode : RunSensorMode) : Prop :=
  match phase with
  | .normalProduct | .productFailureDetected | .userDecisionRequired => mode = .product
  | .normalAir | .airFallbackActive | .returnValidationPending => mode = .air
  | .safeLocked => True
  | .noActiveRun | .restartRevalidationPending => False

/-- A phase, a mode and a provenance that agree. -/
def Agrees (phase : SensorSelectionPhase) (mode : Option RunSensorMode)
    (provenance : SensorSelectionProvenance) : Prop :=
  ∃ selected, mode = some selected ∧ phase.belongsTo selected ∧
    provenanceMatchesMode provenance selected = true

/-- The selection of an active run. -/
structure Selected (current : SensorSelectionStateView) : Prop where
  persisted : current.persisted.isSome
  agrees : Agrees current.runtime.phase current.activeMode
    (current.persisted.getD {}).provenance

section Agreement

variable {current : SensorSelectionStateView} {decision : SensorSelectionDecision}
  {call : SensorSelectionCall} {now : UInt64} {proposal : SensorSelectionProposal}

/-- Every proposal keeps them in agreement: the four causes that change the mode also
change the provenance. -/
theorem Proposes.agrees {provenance : SensorSelectionProvenance}
    (h : Proposes current decision now proposal)
    (hcurrent : Agrees current.runtime.phase current.activeMode provenance) :
    Agrees proposal.runtime.phase proposal.activeMode
      (provenanceAfter proposal.cause provenance) := by
  obtain ⟨mode, hmode, hbelongs, hprovenance⟩ := hcurrent
  cases h with
  | kept => exact ⟨mode, hmode, hbelongs, hprovenance⟩
  | locked => exact ⟨mode, hmode, trivial, hprovenance⟩
  | blocked => exact ⟨mode, hmode, hbelongs, hprovenance⟩
  | released => exact ⟨mode, hmode, hbelongs, hprovenance⟩
  | failed _ hphase =>
      rw [hphase] at hbelongs
      exact ⟨mode, hmode, hbelongs, hprovenance⟩
  | asked _ hphase =>
      rw [hphase] at hbelongs
      exact ⟨mode, hmode, hbelongs, hprovenance⟩
  | recovered hphase =>
      rcases hphase with hphase | hphase <;> rw [hphase] at hbelongs <;>
        exact ⟨mode, hmode, hbelongs, hprovenance⟩
  | continued => exact ⟨.air, rfl, rfl, rfl⟩
  | fellBack => exact ⟨.air, rfl, rfl, rfl⟩
  | returned => exact ⟨.product, rfl, rfl, rfl⟩
  | validated => exact ⟨.product, rfl, rfl, rfl⟩
  | validating _ hphase =>
      rw [hphase] at hbelongs
      exact ⟨mode, hmode, hbelongs, hprovenance⟩
  | rearmed => exact ⟨mode, hmode, hbelongs, hprovenance⟩
  | aborted _ hphase =>
      rw [hphase] at hbelongs
      exact ⟨mode, hmode, hbelongs, hprovenance⟩

theorem Selected.after (hcurrent : Selected current) :
    Selected (current.after (call.mutation current)) := by
  have houtcome := mutation_outcome current call
  generalize call.mutation current = mutation at houtcome ⊢
  cases houtcome with
  | refused => exact hcurrent
  | unchanged => exact hcurrent
  | applied _ _ hproposed hruntime hmode hprovenance hpersisted =>
      refine ⟨hpersisted hcurrent.persisted, ?_⟩
      show Agrees mutation.runtime.phase mutation.activeMode
        (mutation.persisted.getD {}).provenance
      rw [hruntime, hmode, hprovenance]
      exact hproposed.agrees hcurrent.agrees

theorem SelectionOrigin.selected {program : SensorSelectionProgramContext}
    (h : SelectionOrigin program current) : Selected current := by
  have hstarted : ∀ id mode substituted productValid airValid coolingValid runRevision,
      Selected (startedSelection id mode substituted productValid airValid coolingValid
        runRevision) := by
    intro id mode substituted productValid airValid coolingValid runRevision
    refine ⟨rfl, mode, rfl, ?_⟩
    cases mode <;> cases substituted <;> cases productValid <;> exact ⟨rfl, rfl⟩
  cases h with
  | program => exact hstarted _ _ _ _ _ _ _
  | manual => exact hstarted _ _ _ _ _ _ _
  | restart id persisted lastActiveMode plausibility runRevision hallowed =>
      rw [restartedSelection]
      rw [computeRestartSensorSelection] at hallowed ⊢
      split at hallowed
      · rename_i hchecks
        simp only [Bool.and_eq_true] at hchecks
        rw [if_pos (by simp only [Bool.and_eq_true]; exact hchecks)]
        refine ⟨rfl, lastActiveMode, rfl, ?_, hchecks.1.1.1.1⟩
        show (restartPhase persisted.provenance lastActiveMode).belongsTo lastActiveMode
        cases lastActiveMode
        · rfl
        · rw [restartPhase]
          split <;> rfl
      · cases hallowed

end Agreement

/-! ## Valid combinations -/

section Valid

variable {current : SensorSelectionStateView} {decision : SensorSelectionDecision}
  {call : SensorSelectionCall} {now : UInt64} {proposal : SensorSelectionProposal}

/-- The application of a proposal dates its runtime. -/
def SensorSelectionProposal.dated (proposal : SensorSelectionProposal) (now : UInt64) :
    SensorSelectionRuntimeState :=
  { proposal.runtime with lastAppliedMonotonicMillis := some now }

/-- Every proposal is a valid combination, save an armed recheck. -/
theorem Proposes.valid (h : Proposes current decision now proposal)
    (hvalid : validRuntimeCombination current.runtime = true)
    (hactive : current.runtime.phase ≠ .noActiveRun)
    (hregular : ¬ ArmedRecheck current decision.program decision.plausibility
      decision.userAction) (applied : UInt64) :
    validRuntimeCombination (proposal.dated applied) = true := by
  have hmarks := (validRuntimeCombination_iff hactive).mp hvalid
  cases h with
  | kept => exact (@validRuntimeCombination_iff ((keep current).dated applied) hactive).mpr hmarks
  | locked => rfl
  | blocked _ hphase | released hphase =>
      rcases hphase with hphase | hphase <;>
        simp only [SensorSelectionProposal.dated, hphase] <;> rfl
  | failed => rfl
  | asked => rfl
  | recovered => rfl
  | continued => rfl
  | fellBack => rfl
  | returned => rfl
  | validated => rfl
  | validating armed _ _ _ harmed =>
      cases armed with
      | false =>
          refine (@validRuntimeCombination_iff _ ?_).mpr ?_
          · exact nofun
          · exact ⟨nofun, fun _ => rfl, fun _ => .inl rfl, nofun, nofun⟩
      | true => exact absurd (harmed rfl) hregular
  | rearmed hphase =>
      refine (@validRuntimeCombination_iff _ ?_).mpr ?_
      · exact hactive
      · exact ⟨hmarks.1, hmarks.2.1, hmarks.2.2.1, hmarks.2.2.2.1, fun _ => hphase⟩
  | aborted =>
      refine (@validRuntimeCombination_iff _ ?_).mpr ?_
      · exact nofun
      · exact ⟨nofun, nofun, fun _ => .inr rfl, nofun, fun _ => rfl⟩

theorem Selected.active (hcurrent : Selected current) :
    current.runtime.phase ≠ .noActiveRun := by
  obtain ⟨mode, -, hbelongs, -⟩ := hcurrent.agrees
  intro hphase
  rw [hphase] at hbelongs
  exact hbelongs

/-- A call that opens a return while the mark is set, in time to be evaluated. -/
structure OpensArmedReturn (current : SensorSelectionStateView) (call : SensorSelectionCall) :
    Prop where
  inTime : ∀ earlier ∈ current.runtime.lastAppliedMonotonicMillis,
    earlier ≤ call.nowMonotonicMillis
  recheck : ArmedRecheck current call.program call.plausibility call.userAction

theorem valid_after (hcurrent : Selected current)
    (hvalid : validRuntimeCombination current.runtime = true)
    (hregular : ¬ OpensArmedReturn current call) :
    validRuntimeCombination (current.after (call.mutation current)).runtime = true := by
  have houtcome := mutation_outcome current call
  generalize call.mutation current = mutation at houtcome ⊢
  cases houtcome with
  | refused => exact hvalid
  | unchanged => exact hvalid
  | applied _ htime hproposed hruntime =>
      show validRuntimeCombination mutation.runtime = true
      rw [hruntime]
      exact hproposed.valid hvalid hcurrent.active (fun h => hregular ⟨htime, h⟩) _

theorem SelectionOrigin.valid {program : SensorSelectionProgramContext}
    (h : SelectionOrigin program current) :
    validRuntimeCombination current.runtime = true := by
  have hstarted : ∀ id mode substituted productValid airValid coolingValid runRevision,
      validRuntimeCombination (startedSelection id mode substituted productValid airValid
        coolingValid runRevision).runtime = true := by
    intro id mode substituted productValid airValid coolingValid runRevision
    cases mode <;> cases substituted <;> cases productValid <;> rfl
  cases h with
  | program => exact hstarted _ _ _ _ _ _ _
  | manual => exact hstarted _ _ _ _ _ _ _
  | restart id persisted lastActiveMode plausibility runRevision hallowed =>
      rw [restartedSelection, computeRestartSensorSelection]
      rw [computeRestartSensorSelection] at hallowed
      split at hallowed
      · rename_i hchecks
        rw [if_pos hchecks]
        show validRuntimeCombination _ = true
        cases lastActiveMode
        · rfl
        · rw [restartPhase]
          split <;> rfl
      · cases hallowed

end Valid

/-! ## Runs -/

/-- A decision that is taken by the selection it leads to. -/
def CallStep (current : SensorSelectionStateView) (call : SensorSelectionCall)
    (next : SensorSelectionStateView) : Prop :=
  next = current.after (call.mutation current)

/-- A decision that does not open a return with the mark of a product failure. -/
def RegularCallStep (current : SensorSelectionStateView) (call : SensorSelectionCall)
    (next : SensorSelectionStateView) : Prop :=
  ¬ OpensArmedReturn current call ∧ CallStep current call next

section Run

variable {program : SensorSelectionProgramContext} {start last : SensorSelectionStateView}
  {calls : List SensorSelectionCall}

theorem selected_of_run (hstart : SelectionOrigin program start)
    (hrun : Steps CallStep start calls last) : Selected last := by
  apply hrun.invariant hstart.selected
  rintro current call next hcurrent rfl
  exact hcurrent.after

/-- The automatic evaluation of a consistent selection is never refused as invalid. -/
theorem status_of_automatic {call : SensorSelectionCall} (hlast : Selected last)
    (hvalid : validRuntimeCombination last.runtime = true)
    (huser : call.userAction = none) : (call.mutation last).status ≠ .invalidDecision := by
  have houtcome := mutation_outcome last call
  generalize call.mutation last = mutation at houtcome
  cases houtcome with
  | refused hrefused =>
      intro hstatus
      cases hstatus
      cases hrefused with
      | inconsistent hinvalid => rw [hvalid] at hinvalid; cases hinvalid
      | phase hphase => exact absurd (evaluatePhase_refusal huser _ hphase).1 nofun
      | modeless hproposed hmode =>
          obtain ⟨before, hbefore, -⟩ := hlast.agrees
          obtain ⟨after, hafter, -⟩ := hproposed.agrees hlast.agrees
          rw [hbefore, hafter] at hmode
          rcases hmode with hmode | hmode <;> cases hmode
  | unchanged => exact nofun
  | applied _ _ _ _ _ _ _ hstatus =>
      rcases hstatus with hstatus | hstatus <;> rw [hstatus] <;> exact nofun

/-- Without an armed recheck the selection stays a valid combination that agrees with
its mode and its provenance; every automatic decision is evaluated, and no restart
finds a provenance that contradicts the mode. -/
theorem selection_never_freezes (hstart : SelectionOrigin program start)
    (hrun : Steps RegularCallStep start calls last) :
    validRuntimeCombination last.runtime = true ∧
      (∃ mode persisted, last.activeMode = some mode ∧ last.persisted = some persisted ∧
        last.runtime.phase.belongsTo mode ∧
        provenanceMatchesMode persisted.provenance mode = true) ∧
      ∀ call : SensorSelectionCall, call.userAction = none →
        (call.mutation last).status ≠ .invalidDecision := by
  have hlast : Selected last ∧ validRuntimeCombination last.runtime = true := by
    apply @Steps.invariant _ _ _ _ _ _ (fun current =>
      Selected current ∧ validRuntimeCombination current.runtime = true) hrun
      ⟨hstart.selected, hstart.valid⟩
    rintro current call next ⟨hcurrent, hvalid⟩ ⟨hregular, rfl⟩
    exact ⟨hcurrent.after, valid_after hcurrent hvalid hregular⟩
  obtain ⟨hselected, hvalid⟩ := hlast
  refine ⟨hvalid, ?_, fun call huser => status_of_automatic hselected hvalid huser⟩
  obtain ⟨mode, hmode, hbelongs, hprovenance⟩ := hselected.agrees
  obtain ⟨persisted, hpersisted⟩ := Option.isSome_iff_exists.mp hselected.persisted
  rw [hpersisted] at hprovenance
  exact ⟨mode, persisted, hmode, hpersisted, hbelongs, hprovenance⟩

end Run

/-! ## A run on air -/

/-- A program that falls back to air and returns by itself. -/
def returningProgram : ProgramDocument where
  program := {
    id := [121]
    name := [89]
    sensorPreference := .productIfAvailableElseAir
    productSensorFailure := ⟨.fallbackToAirAfterTimeout, some 600,
      .automaticValidatedReturnToProduct⟩
    fermentationStages := [⟨some kMaximumFermentationTemperatureCelsius, some 480⟩]
    targetQualification := ⟨some kMaximumQualificationBandCelsius, some 5⟩
    maximumTargetReachMinutes := some 120 }

/-- It was started without a product sensor. -/
def startedOnAir : SensorSelectionStateView :=
  startedSelection [49] .air true false true true 7

def sensorEvidence (air product : SensorQuality) : CrossRolePlausibilityContext where
  evaluationMonotonicMillis := 5
  air := { quality := air }
  product := { quality := product }
  cooling := { quality := .valid }

def automaticCall (air product : SensorQuality) : SensorSelectionCall where
  program := returningProgram.program.sensorSelectionContext
  plausibility := sensorEvidence air product
  nowMonotonicMillis := 5

/-- The user asks for the product again, with no thermal evidence about it. -/
def recheckCall : SensorSelectionCall :=
  { automaticCall .valid .valid with userAction := some .recheckProduct }

theorem startedOnAir_origin :
    SelectionOrigin returningProgram.program.sensorSelectionContext startedOnAir :=
  @SelectionOrigin.program _ ⟨.air, true⟩ .product false [49] true true 7 rfl

/-- The selection once the product has failed on air. -/
theorem startedOnAir_step : RegularCallStep startedOnAir (automaticCall .valid .stale)
    (startedOnAir.after ((automaticCall .valid .stale).mutation startedOnAir)) :=
  ⟨fun h => (nomatch h.recheck.recheck), rfl⟩

theorem startedOnAir_consistent :
    validRuntimeCombination (startedOnAir.after
      ((automaticCall .valid .stale).mutation startedOnAir)).runtime = true :=
  (selection_never_freezes startedOnAir_origin (.step .start startedOnAir_step)).1

/-- The product fails on air, and the recheck keeps the mark of that failure: the failure
of the air sensor is refused next, and the permission stays. -/
theorem recheck_freezes_selection :
    (validateProgram returningProgram .runnable).valid = true ∧
      SelectionOrigin returningProgram.program.sensorSelectionContext startedOnAir ∧
      ∃ last, Steps CallStep startedOnAir [automaticCall .valid .stale, recheckCall] last ∧
        validRuntimeCombination last.runtime = false ∧
        ((automaticCall .stale .valid).mutation last).status = .invalidDecision ∧
        (last.after ((automaticCall .stale .valid).mutation last)).runtime.permission =
          .allowed := by
  refine ⟨by decide +kernel, startedOnAir_origin, _, .step (.step .start rfl) rfl, ?_⟩
  decide

/-! ## The armed recheck -/

section Frozen

variable {current : SensorSelectionStateView} {call : SensorSelectionCall}

theorem evaluatePhase_of_armedRecheck {decision : SensorSelectionDecision} {now : UInt64}
    (h : ArmedRecheck current decision.program decision.plausibility decision.userAction) :
    evaluatePhase current decision now =
      .ok (startReturnValidation current decision.plausibility now) := by
  have hunlocked : ¬ (decision.userAction ≠ some .continueWithAir ∧
      ¬ (usable decision.plausibility.air = true ∧
        usable decision.plausibility.cooling = true)) := fun hlocked => hlocked.2 h.fixed
  have hrecheck : ¬ (¬ usable decision.plausibility.product = true ∨
      decision.program.returnStrategy ≠ .automaticValidatedReturnToProduct) := by
    rw [h.product, h.strategy]
    decide
  rw [evaluatePhase, h.phase]
  show evaluateAirFallbackActive current decision now = _
  rw [evaluateAirFallbackActive, if_neg hunlocked, h.recheck]
  show recheckProductOnAir current decision now = _
  rw [recheckProductOnAir, if_neg hrecheck, h.wellFormed, require_true, ok_bind, h.incomplete,
    h.compatible]
  rfl

/-- The selection it leaves is refused for good, with the permission it had. -/
theorem frozen_of_opensArmedReturn (hvalid : validRuntimeCombination current.runtime = true)
    (h : OpensArmedReturn current call) :
    let next := current.after (call.mutation current)
    validRuntimeCombination next.runtime = false ∧
      next.runtime.permission = current.runtime.permission ∧
      ∀ later : SensorSelectionCall, later.mutation next =
        sensorSelectionUnchanged next .invalidDecision := by
  have hevaluated := @evaluatePhase_of_armedRecheck current (call.decision current)
    call.nowMonotonicMillis h.recheck
  have htime : current.runtime.lastAppliedMonotonicMillis.all (· ≤ call.nowMonotonicMillis) =
      true := by
    cases happlied : current.runtime.lastAppliedMonotonicMillis with
    | none => rfl
    | some earlier => exact decide_eq_true (h.inTime earlier happlied)
  have hopened : (call.mutation current).runtime =
      (startReturnValidation current call.plausibility call.nowMonotonicMillis).dated
        call.nowMonotonicMillis := by
    have hchanged : (startReturnValidation current (call.decision current).plausibility
        call.nowMonotonicMillis).runtime ≠ current.runtime := fun hsame => by
      have hphase := congrArg SensorSelectionRuntimeState.phase hsame
      exact absurd (hphase.trans h.recheck.phase) (by rintro ⟨⟩)
    rw [SensorSelectionCall.mutation, applySensorSelectionDecision,
      decideSensorSelectionMutation, hevaluated, hvalid, htime]
    rw [show decide (current = (call.decision current).expected) = true from decide_eq_true rfl]
    simp only [require_true, ok_bind]
    rw [if_neg fun hsame => hchanged hsame.1]
    rfl
  have harmed : (call.mutation current).runtime.productReArmPending = true := by
    rw [hopened]
    exact h.recheck.armed
  have hphase : (call.mutation current).runtime.phase = .returnValidationPending := by
    rw [hopened]
    rfl
  have hinvalid : validRuntimeCombination (call.mutation current).runtime = false := by
    rw [Bool.eq_false_iff]
    intro hconsistent
    have hmarks := (validRuntimeCombination_iff (by rw [hphase]; rintro ⟨⟩)).mp hconsistent
    exact absurd (hphase.symm.trans (hmarks.2.2.2.2 harmed)) (by rintro ⟨⟩)
  refine ⟨hinvalid, ?_, fun later => ?_⟩
  · show (call.mutation current).runtime.permission = _
    rw [hopened]
    rfl
  · exact mutation_of_inconsistent hinvalid

end Frozen

end Fermentationsschrank

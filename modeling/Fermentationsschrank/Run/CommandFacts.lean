import Fermentationsschrank.Run.RunCommands

/-!
# What a command decides

Every command is decided on the live state.  A refused command leaves everything as
it is and announces nothing; an accepted one changes the run as its kind says and
books the command.
-/

namespace Fermentationsschrank

open CommandDecision

/-- The commands of a user. -/
inductive CommandRequest
  | startProgram (request : ProgramStartRequest)
  | startManualHolding (request : ManualStartRequest)
  | stop (request : StopRequest)
  | complete (request : CompletionRequest)
  | adjustRun (request : RunAdjustmentCommandRequest)
  | applyRecoveryTimeCorrection (request : ApplyRecoveryTimeCorrectionRequest)
  | acknowledgeMessage (request : MessageCommandRequest)
  | muteMessage (request : MessageCommandRequest)
  | applySensorSelectionAction (request : SensorSelectionCommandRequest)
      (plausibility : CrossRolePlausibilityContext)

def CommandRequest.decide (current : RunCommandState) : CommandRequest → CommandDecision
  | startProgram request => decideProgramStart current request
  | startManualHolding request => decideManualStart current request
  | stop request => decideStop current request
  | complete request => decideCompletion current request
  | adjustRun request => decideRunAdjustment current request
  | applyRecoveryTimeCorrection request => decideApplyRecoveryTimeCorrection current request
  | acknowledgeMessage request => decideAcknowledgeMessage current request
  | muteMessage request => decideMuteMessage current request
  | applySensorSelectionAction request plausibility =>
      decideApplySensorSelectionAction current request plausibility

/-! ## Refused commands -/

/-- A decision that has announced nothing yet. -/
structure CommandDecision.Silent (current : RunCommandState) (decision : CommandDecision) :
    Prop where
  before : decision.before = current
  effects : decision.effects = []
  event : decision.sensorSelectionEvent = none
  notice : decision.sensorSelectionNotice = none

/-- A refused decision: nothing is changed and nothing announced. -/
structure CommandDecision.Inert (current : RunCommandState) (decision : CommandDecision) :
    Prop extends decision.Silent current where
  refused : decision.proposed = false
  after : decision.after = current

section

variable {current : RunCommandState} {decision : CommandDecision} {status : CommandStatus}
variable {condition : Bool} {α : Type}

theorem silent_beginDecision {envelope : CommandEnvelope} {kind : CommandKind} :
    (beginDecision current envelope kind).Silent current := ⟨rfl, rfl, rfl, rfl⟩

theorem CommandDecision.Silent.rejected (h : decision.Silent current)
    (hstatus : status ≠ .proposed) : (decision.rejected status).Inert current :=
  ⟨⟨h.before, h.effects, h.event, h.notice⟩, decide_eq_false hstatus, h.before⟩

theorem CommandDecision.Silent.check (h : decision.Silent current)
    (hstatus : status ≠ .proposed) :
    FailsWith (Inert current) (decision.check condition status) :=
  failsWith_require (h.rejected hstatus)

theorem CommandDecision.Silent.demand {value : Option α} (h : decision.Silent current)
    (hstatus : status ≠ .proposed) :
    FailsWith (Inert current) (decision.demand value status) :=
  failsWith_orFail (h.rejected hstatus)

theorem CommandDecision.Silent.checkProposed (h : decision.Silent current) :
    FailsWith (Inert current) (decision.check decision.proposed decision.status) := by
  intro failure hfailure
  cases hproposed : decision.proposed with
  | true =>
      rw [hproposed] at hfailure
      cases hfailure
  | false =>
      rw [hproposed] at hfailure
      cases hfailure
      apply h.rejected
      intro hstatus
      rw [CommandDecision.proposed, hstatus] at hproposed
      cases hproposed

theorem CommandDecision.Silent.checkAdjustment {status : RunAdjustmentStatus}
    (h : decision.Silent current) :
    FailsWith (Inert current)
      (decision.check (status = .proposed) (mapAdjustmentStatus status)) := by
  cases status with
  | proposed => exact failsWith_ok ()
  | _ => exact h.check (by decide)

theorem CommandDecision.Silent.requireRevision {expected : Option UInt32} {actual : UInt32}
    (h : decision.Silent current) :
    FailsWith (Inert current) (decision.requireRevision expected actual) :=
  failsWith_bind h.checkProposed fun _ => failsWith_bind (h.check (by decide)) fun _ =>
    h.check (by decide)

theorem CommandDecision.Silent.requireRevisionCapacity {revision : UInt32}
    (h : decision.Silent current) :
    FailsWith (Inert current) (decision.requireRevisionCapacity revision) :=
  h.check (by decide)

/-- A decision is refused as a whole, or built to its end. -/
theorem settle_cases {chain : Except CommandDecision CommandDecision}
    {holds : CommandDecision → Prop} (hfails : FailsWith (Inert current) chain)
    (hsucceeds : ∀ decision, chain = .ok decision → holds decision) :
    Inert current (settle chain) ∨ holds (settle chain) := by
  cases chain with
  | error failure => exact .inl (hfails failure rfl)
  | ok decision => exact .inr (hsucceeds decision rfl)

end

/-! ## Accepted commands -/

/-- The state after a command, less what it books about the command itself. -/
def Booked (state after : RunCommandState) : Prop :=
  ∃ commandSequence processedCommandIds lastCommandMonotonicMillis,
    after = { state with
      commandSequence, processedCommandIds, lastCommandMonotonicMillis }

theorem booked_beginMutation {state : RunCommandState} {decision : CommandDecision}
    (h : decision.after = state) : Booked state (beginMutation decision).after := by
  subst h
  exact ⟨_, _, _, rfl⟩

/-- An accepted decision on the live state. -/
structure CommandDecision.Accepts (current : RunCommandState) (envelope : CommandEnvelope)
    (decision : CommandDecision) : Prop where
  before : decision.before = current
  carries : decision.envelope = envelope
  proposed : decision.proposed = true
  begun : ∃ kind, beginStatus current envelope kind = .proposed
  sequence : decision.after.commandSequence = current.commandSequence + 1

section

variable {current : RunCommandState} {decision : CommandDecision}

@[simp]
theorem addEffect_before {effect : CommandEffect} :
    (decision.addEffect effect).before = decision.before := by
  rw [addEffect]
  split <;> rfl

@[simp]
theorem addEffect_after {effect : CommandEffect} :
    (decision.addEffect effect).after = decision.after := by
  rw [addEffect]
  split <;> rfl

@[simp]
theorem addEffect_envelope {effect : CommandEffect} :
    (decision.addEffect effect).envelope = decision.envelope := by
  rw [addEffect]
  split <;> rfl

@[simp]
theorem addEffect_applyStatus {effect : CommandEffect} :
    (decision.addEffect effect).sensorSelectionApplyStatus =
      decision.sensorSelectionApplyStatus := by
  rw [addEffect]
  split <;> rfl

@[simp]
theorem addEffect_kind {effect : CommandEffect} :
    (decision.addEffect effect).kind = decision.kind := by
  rw [addEffect]
  split <;> rfl

theorem accepts_beginMutation {envelope : CommandEnvelope}
    (hbefore : decision.before = current) (hcarries : decision.envelope = envelope)
    (hproposed : decision.proposed = true)
    (hbegun : ∃ kind, beginStatus current envelope kind = .proposed) :
    (beginMutation decision).Accepts current envelope :=
  ⟨hbefore, hcarries, hproposed, hbegun, by rw [beginMutation, ← hbefore]⟩

/-- An effect that still has room leaves the decision accepted. -/
theorem CommandDecision.Accepts.addEffect {envelope : CommandEnvelope}
    {effect : CommandEffect} (h : decision.Accepts current envelope)
    (hroom : decision.effects.length < kMaximumCommandEffects) :
    (decision.addEffect effect).Accepts current envelope := by
  rw [CommandDecision.addEffect, if_pos hroom]
  exact ⟨h.before, h.carries, h.proposed, h.begun, h.sequence⟩

theorem begun_of_requireRevision {expected : Option UInt32} {actual : UInt32} {result : Unit}
    (h : decision.requireRevision expected actual = .ok result) :
    decision.proposed = true ∧ expected = some actual := by
  simp only [requireRevision, CommandDecision.check, bind_eq_ok, require_eq_ok,
    decide_eq_true_eq] at h
  obtain ⟨_, hproposed, _, -, hexpected⟩ := h
  exact ⟨hproposed, hexpected⟩

end

theorem applyTransition_eq_some {state after : RunCommandState} {event : ProcessEvent}
    {monotonicMillis : UInt64} {snapshot : Option ProcessRunSnapshot} :
    applyTransition state event monotonicMillis snapshot = some after ↔
      ∃ processState, (decideProcessTransition state.processState snapshot {} { event }
          monotonicMillis).proposed = true ∧
        applyProcessTransition state.processState
          (decideProcessTransition state.processState snapshot {} { event }
            monotonicMillis) snapshot = some processState ∧
        after = { state with processState } := by
  rw [applyTransition]
  split
  · rename_i hproposed
    rw [Option.map_eq_some_iff]
    constructor
    · rintro ⟨processState, happlied, rfl⟩
      exact ⟨processState, hproposed, happlied, rfl⟩
    · rintro ⟨processState, -, happlied, rfl⟩
      exact ⟨processState, happlied, rfl⟩
  · rename_i hrefused
    constructor
    · intro h
      cases h
    · rintro ⟨_, hproposed, -⟩
      exact absurd hproposed hrefused

/-- An installed manual run replaces everything a run is identified by. -/
theorem installManualRun_eq_some {state after : RunCommandState}
    {envelope : CommandEnvelope} {plan : ManualRunPlan}
    (h : installManualRun state envelope plan = some after) :
    ∃ snapshot started, makeManualProcessRunSnapshot plan = some snapshot ∧
      applyTransition state .startRun envelope.monotonicMillis (some snapshot) =
        some started ∧
      after = { started with
        activeProgramRun := none
        activeRunId := plan.values.runId
        activeRunSensorMode := some plan.values.sensorMode
        activeManualRun := some plan
        processRunSnapshot := some snapshot } := by
  simp only [installManualRun, Option.bind_eq_bind, Option.bind_eq_some_iff,
    Option.pure_def, Option.some.injEq] at h
  obtain ⟨snapshot, hsnapshot, started, hstarted, rfl⟩ := h
  exact ⟨snapshot, started, hsnapshot, hstarted, rfl⟩

/-! ### Starts -/

/-- What an accepted start of a program has found, and what it installs. -/
structure ProgramStarted (current : RunCommandState) (request : ProgramStartRequest)
    (decision : CommandDecision) : Prop extends
    decision.Accepts current request.envelope where
  kind : decision.kind = .startProgram
  capacity : current.runRevision ≠ maxUInt32
  standby : current.processState.state = .standby
  idle : current.hasActiveRun = false
  runId : validRunId request.runId = true
  installed : ∃ resolution run process started,
    resolveProgramStart request = some resolution ∧
    ActiveRun.start request.program request.sourceProgramRevision = some run ∧
    makeProcessRunSnapshot run.snapshot run.effectiveValues = some process ∧
    applyTransition { current with activeProgramRun := some run } .startRun
      request.envelope.monotonicMillis (some process) = some started ∧
    let outcome := startSensorSelectionOutcome resolution.effectiveMode
      resolution.substituted request.productSensorValid request.airSensorValid
      request.coolingSensorValid (current.runRevision + 1)
    Booked { started with
      activeRunId := request.runId
      activeRunSensorMode := some resolution.effectiveMode
      activeManualRun := none
      processRunSnapshot := some process
      runRevision := current.runRevision + 1
      sensorSelectionRuntime := outcome.runtime
      sensorSelection := some outcome.persisted } decision.after

theorem decideProgramStart_cases {current : RunCommandState}
    {request : ProgramStartRequest} :
    Inert current (decideProgramStart current request) ∨
      ProgramStarted current request (decideProgramStart current request) := by
  have hsilent := @silent_beginDecision current request.envelope .startProgram
  apply settle_cases
  · refine failsWith_bind hsilent.requireRevision fun _ => ?_
    refine failsWith_bind (hsilent.check (by decide)) fun _ => ?_
    refine failsWith_bind (hsilent.check (by decide)) fun _ => ?_
    refine failsWith_bind (hsilent.check (by decide)) fun _ => ?_
    refine failsWith_bind (hsilent.check (by decide)) fun _ => ?_
    refine failsWith_bind (hsilent.demand (by decide)) fun resolution => ?_
    refine failsWith_bind (hsilent.demand (by decide)) fun run => ?_
    refine failsWith_bind (hsilent.demand (by decide)) fun process => ?_
    have hshown : ({ beginDecision current request.envelope .startProgram with
        startSummary := some (programStartSummary request run resolution.effectiveMode process)
        startSensorSelectionNotice :=
          if resolution.substituted then
            some ⟨request.sensorMode, resolution.effectiveMode,
              previewRevision current.runRevision⟩
          else none } : CommandDecision).Silent current := ⟨rfl, rfl, rfl, rfl⟩
    refine failsWith_bind hshown.requireRevisionCapacity fun _ => ?_
    refine failsWith_bind (hshown.demand (by decide)) fun started => ?_
    refine failsWith_bind (hshown.check (by decide)) fun _ => ?_
    exact failsWith_ok _
  · intro decision h
    simp only [bind_eq_ok, CommandDecision.check, CommandDecision.demand,
      CommandDecision.requireRunRevision, CommandDecision.requireRevisionCapacity,
      require_eq_ok, orFail_eq_ok, decide_eq_true_eq, Bool.and_eq_true] at h
    obtain ⟨_, hbegun, _, -, _, hstandby, _, hrunId, _, -, resolution, hresolution, run,
      hrun, process, hprocess, _, hcapacity, started, hstarted, _, -, hdecision⟩ := h
    cases hdecision
    have hproposed := (begun_of_requireRevision hbegun).1
    have hbegun' : ∃ kind, beginStatus current request.envelope kind = .proposed :=
      ⟨_, of_decide_eq_true hproposed⟩
    refine ⟨?_, addEffect_kind, hcapacity, hstandby.1, ?_, hrunId, ?_⟩
    · apply Accepts.addEffect
      · exact accepts_beginMutation rfl rfl hproposed hbegun'
      · exact show 0 < 6 by decide
    · simpa using hstandby.2
    · refine ⟨resolution, run, process, started, hresolution, hrun, hprocess, hstarted, ?_⟩
      rw [addEffect_after]
      exact booked_beginMutation rfl

structure ManualRunStarted (current : RunCommandState) (request : ManualStartRequest)
    (decision : CommandDecision) : Prop extends
    decision.Accepts current request.envelope where
  kind : decision.kind = .startManualHolding
  capacity : current.runRevision ≠ maxUInt32
  standby : current.processState.state = .standby
  idle : current.hasActiveRun = false
  installed : ∃ plan installed,
    makeManualPlan request.plan request.envelope = some plan ∧
    installManualRun current request.envelope plan = some installed ∧
    let outcome := startSensorSelectionOutcome request.plan.sensorMode false
      request.productSensorValid request.airSensorValid request.coolingSensorValid
      (current.runRevision + 1)
    Booked { installed with
      runRevision := current.runRevision + 1
      sensorSelectionRuntime := outcome.runtime
      sensorSelection := some outcome.persisted } decision.after

theorem decideManualStart_cases {current : RunCommandState}
    {request : ManualStartRequest} :
    Inert current (decideManualStart current request) ∨
      ManualRunStarted current request (decideManualStart current request) := by
  have hsilent := @silent_beginDecision current request.envelope .startManualHolding
  apply settle_cases
  · refine failsWith_bind hsilent.requireRevision fun _ => ?_
    refine failsWith_bind (hsilent.check (by decide)) fun _ => ?_
    refine failsWith_bind (hsilent.check (by decide)) fun _ => ?_
    refine failsWith_bind (hsilent.demand (by decide)) fun plan => ?_
    refine failsWith_bind (hsilent.check (by decide)) fun _ => ?_
    have hshown : ∀ summary, ({ beginDecision current request.envelope
        .startManualHolding with startSummary := summary } : CommandDecision).Silent
          current := fun _ => ⟨rfl, rfl, rfl, rfl⟩
    refine failsWith_bind (hshown _).requireRevisionCapacity fun _ => ?_
    refine failsWith_bind ((hshown _).demand (by decide)) fun installed => ?_
    refine failsWith_bind ((hshown _).check (by decide)) fun _ => ?_
    exact failsWith_ok _
  · intro decision h
    simp only [bind_eq_ok, CommandDecision.check, CommandDecision.demand,
      CommandDecision.requireRunRevision, CommandDecision.requireRevisionCapacity,
      require_eq_ok, orFail_eq_ok, decide_eq_true_eq, Bool.and_eq_true] at h
    obtain ⟨_, hbegun, _, -, _, hstandby, plan, hplan, _, -, _, hcapacity, installed,
      hinstalled, _, -, hdecision⟩ := h
    cases hdecision
    have hproposed := (begun_of_requireRevision hbegun).1
    have hbegun' : ∃ kind, beginStatus current request.envelope kind = .proposed :=
      ⟨_, of_decide_eq_true hproposed⟩
    refine ⟨?_, addEffect_kind.trans addEffect_kind, hcapacity, hstandby.1, ?_, ?_⟩
    · apply Accepts.addEffect
      · apply Accepts.addEffect
        · exact accepts_beginMutation rfl rfl hproposed hbegun'
        · exact show 0 < 6 by decide
      · exact show 1 < 6 by decide
    · simpa using hstandby.2
    · refine ⟨plan, installed, hplan, hinstalled, ?_⟩
      rw [addEffect_after, addEffect_after]
      exact booked_beginMutation rfl

/-! ### Ends -/

/-- The run has been ended by an event, and the cooling run that was wanted started. -/
structure RunEnded (current : RunCommandState) (envelope : CommandEnvelope)
    (event : ProcessEvent) (snapshot : Option ProcessRunSnapshot)
    (airSensorValid coolingSensorValid : Bool) (decision : CommandDecision) : Prop extends
    decision.Accepts current envelope where
  capacity : current.runRevision ≠ maxUInt32
  replaced : ∃ coolingPlan ended installed,
    (∀ plan ∈ coolingPlan, ∃ request, makeManualPlan request envelope = some plan) ∧
    applyTransition current event envelope.monotonicMillis snapshot = some ended ∧
    installCoolingRun (clearActiveRunState ended) envelope coolingPlan = some installed ∧
    Booked (selectCoolingSensor { installed with runRevision := current.runRevision + 1 }
      airSensorValid coolingSensorValid) decision.after

section

variable {current : RunCommandState} {decision : CommandDecision}
variable {event : ProcessEvent} {snapshot : Option ProcessRunSnapshot}
variable {airSensorValid coolingSensorValid wanted safetyAllowsCooling : Bool}
variable {coolingPlan : Option ManualRunPlan} {request : Option ManualRunPlanRequest}

theorem CommandDecision.Silent.demandCoolingPlan (h : decision.Silent current) :
    FailsWith (Inert current)
      (Fermentationsschrank.demandCoolingPlan decision wanted safetyAllowsCooling
        request) := by
  rw [Fermentationsschrank.demandCoolingPlan]
  split
  · refine failsWith_bind (h.check (by decide)) fun _ => ?_
    refine failsWith_bind (h.demand (by decide)) fun _ => ?_
    exact failsWith_bind (h.demand (by decide)) fun _ => failsWith_ok _
  · exact failsWith_ok _

theorem CommandDecision.Silent.replaceRun (h : decision.Silent current) :
    FailsWith (Inert current)
      (Fermentationsschrank.replaceRun decision event snapshot coolingPlan airSensorValid
        coolingSensorValid) := by
  refine failsWith_bind h.requireRevisionCapacity fun _ => ?_
  refine failsWith_bind (h.demand (by decide)) fun _ => ?_
  refine failsWith_bind (h.demand (by decide)) fun _ => ?_
  exact failsWith_bind (h.check (by decide)) fun _ => failsWith_ok _

theorem demandCoolingPlan_eq_ok
    (h : demandCoolingPlan decision wanted safetyAllowsCooling request = .ok coolingPlan) :
    ∀ plan ∈ coolingPlan, ∃ request, makeManualPlan request decision.envelope =
      some plan := by
  rw [demandCoolingPlan] at h
  split at h
  · simp only [bind_eq_ok, CommandDecision.demand, orFail_eq_ok] at h
    obtain ⟨_, -, request, -, plan, hplan, hcooling⟩ := h
    cases hcooling
    intro found hfound
    cases hfound
    exact ⟨request, hplan⟩
  · cases h
    intro plan hplan
    cases hplan

theorem replaceRun_eq_ok {replaced : CommandDecision} {envelope : CommandEnvelope}
    (h : replaceRun decision event snapshot coolingPlan airSensorValid coolingSensorValid =
      .ok replaced)
    (hbefore : decision.before = current) (hcarries : decision.envelope = envelope)
    (hproposed : decision.proposed = true)
    (hbegun : ∃ kind, beginStatus current envelope kind = .proposed)
    (hplan : ∀ plan ∈ coolingPlan, ∃ request, makeManualPlan request envelope = some plan) :
    RunEnded current envelope event snapshot airSensorValid coolingSensorValid replaced ∧
      replaced.effects = decision.effects ∧ replaced.kind = decision.kind := by
  subst hbefore hcarries
  simp only [replaceRun, bind_eq_ok, CommandDecision.check, CommandDecision.demand,
    CommandDecision.requireRevisionCapacity, require_eq_ok, orFail_eq_ok,
    decide_eq_true_eq] at h
  obtain ⟨_, hcapacity, ended, hended, installed, hinstalled, _, -, hreplaced⟩ := h
  cases hreplaced
  refine ⟨⟨accepts_beginMutation rfl rfl hproposed hbegun, hcapacity, ?_⟩, rfl, rfl⟩
  exact ⟨coolingPlan, ended, installed, hplan, hended, hinstalled,
    booked_beginMutation rfl⟩

theorem RunEnded.addEffect {envelope : CommandEnvelope} {effect : CommandEffect}
    (h : RunEnded current envelope event snapshot airSensorValid coolingSensorValid decision)
    (hroom : decision.effects.length < kMaximumCommandEffects) :
    RunEnded current envelope event snapshot airSensorValid coolingSensorValid
      (decision.addEffect effect) := by
  refine ⟨h.toAccepts.addEffect hroom, h.capacity, ?_⟩
  rw [addEffect_after]
  exact h.replaced

end

def endingKind (kind : CommandKind) : Bool :=
  kind = .abortAndTurnOff ∨ kind = .abortAndCool ∨ kind = .acknowledgeCompletion ∨
    kind = .coolAfterCompletion

structure RunStopped (current : RunCommandState) (request : StopRequest)
    (decision : CommandDecision) : Prop extends
    RunEnded current request.envelope .abort current.processRunSnapshot
      request.airSensorValid request.coolingSensorValid decision where
  kind : endingKind decision.kind = true
  active : stateUsesRunSnapshot current.processState.state = true

theorem decideStop_cases {current : RunCommandState} {request : StopRequest} :
    Inert current (decideStop current request) ∨
      RunStopped current request (decideStop current request) := by
  have hsilent := @silent_beginDecision current request.envelope .abortAndTurnOff
  have hnamed : ({ beginDecision current request.envelope .abortAndTurnOff with
      kind := stopKind request.option } : CommandDecision).Silent current :=
    ⟨rfl, rfl, rfl, rfl⟩
  apply settle_cases
  · refine failsWith_bind hsilent.checkProposed fun _ => ?_
    refine failsWith_bind (hsilent.check (by decide)) fun _ => ?_
    refine failsWith_bind hnamed.requireRevision fun _ => ?_
    refine failsWith_bind (hnamed.check (by decide)) fun _ => ?_
    refine failsWith_bind hnamed.demandCoolingPlan fun _ => ?_
    exact failsWith_bind hnamed.replaceRun fun _ => failsWith_ok _
  · intro decision h
    simp only [bind_eq_ok, CommandDecision.check, require_eq_ok, Bool.and_eq_true] at h
    obtain ⟨_, hproposed, _, -, _, -, _, hactive, coolingPlan, hplan, replaced, hreplaced,
      hdecision⟩ := h
    obtain ⟨hended, heffects, hkind⟩ := replaceRun_eq_ok hreplaced rfl rfl
      hproposed ⟨_, of_decide_eq_true hproposed⟩ (demandCoolingPlan_eq_ok hplan)
    have hnone : replaced.effects = [] := heffects
    have hstopKind : endingKind replaced.kind = true := by
      rw [hkind]
      show endingKind (stopKind request.option) = true
      cases request.option <;> rfl
    have hstopped : RunEnded current request.envelope .abort current.processRunSnapshot
        request.airSensorValid request.coolingSensorValid
        (((replaced.addEffect .runAborted).addEffect
          .safePeltierStopRequested).addEffect .fanRunOnRequired) := by
      apply RunEnded.addEffect
      · apply RunEnded.addEffect
        · apply hended.addEffect
          rw [hnone]
          decide
        · simp [CommandDecision.addEffect, hnone, kMaximumCommandEffects]
      · simp [CommandDecision.addEffect, hnone, kMaximumCommandEffects]
    split at hdecision
    · cases hdecision
      refine ⟨?_, by simpa using hstopKind, hactive.1⟩
      apply RunEnded.addEffect
      · apply hstopped.addEffect
        simp [CommandDecision.addEffect, hnone, kMaximumCommandEffects]
      · simp [CommandDecision.addEffect, hnone, kMaximumCommandEffects]
    · cases hdecision
      exact ⟨hstopped, by simpa using hstopKind, hactive.1⟩

structure RunCompleted (current : RunCommandState) (request : CompletionRequest)
    (decision : CommandDecision) : Prop extends
    RunEnded current request.envelope .acknowledgeCompletion none request.airSensorValid
      request.coolingSensorValid decision where
  kind : endingKind decision.kind = true
  completed : current.processState.state = .completed

theorem decideCompletion_cases {current : RunCommandState} {request : CompletionRequest} :
    Inert current (decideCompletion current request) ∨
      RunCompleted current request (decideCompletion current request) := by
  have hsilent := @silent_beginDecision current request.envelope
    (if request.startCooling then .coolAfterCompletion else .acknowledgeCompletion)
  apply settle_cases
  · refine failsWith_bind hsilent.requireRevision fun _ => ?_
    refine failsWith_bind (hsilent.check (by decide)) fun _ => ?_
    refine failsWith_bind hsilent.demandCoolingPlan fun _ => ?_
    exact failsWith_bind hsilent.replaceRun fun _ => failsWith_ok _
  · intro decision h
    simp only [bind_eq_ok, CommandDecision.check, CommandDecision.requireRunRevision,
      require_eq_ok, decide_eq_true_eq] at h
    obtain ⟨_, hbegun, _, hcompleted, coolingPlan, hplan, replaced, hreplaced,
      hdecision⟩ := h
    have hproposed := (begun_of_requireRevision hbegun).1
    obtain ⟨hended, heffects, hkind⟩ := replaceRun_eq_ok hreplaced rfl rfl
      hproposed ⟨_, of_decide_eq_true hproposed⟩ (demandCoolingPlan_eq_ok hplan)
    have hnone : replaced.effects = [] := heffects
    have hcompletedKind : endingKind replaced.kind = true := by
      rw [hkind]
      show endingKind (if request.startCooling then .coolAfterCompletion
        else .acknowledgeCompletion) = true
      split <;> rfl
    have hacknowledged : RunEnded current request.envelope .acknowledgeCompletion none
        request.airSensorValid request.coolingSensorValid
        (replaced.addEffect .completionAcknowledged) := by
      apply hended.addEffect
      rw [hnone]
      decide
    split at hdecision
    · cases hdecision
      refine ⟨?_, by simpa using hcompletedKind, hcompleted⟩
      apply RunEnded.addEffect
      · apply hacknowledged.addEffect
        simp [CommandDecision.addEffect, hnone, kMaximumCommandEffects]
      · simp [CommandDecision.addEffect, hnone, kMaximumCommandEffects]
    · cases hdecision
      exact ⟨hacknowledged, by simpa using hcompletedKind, hcompleted⟩

/-! ### Adjustments -/

/-- A proposed adjustment carries the revision it was decided to be. -/
theorem decideAdjustment_revision {run : ActiveRun} {request : RunAdjustmentRequest}
    {context : RunAdjustmentContext} {revision : RunRevision}
    (h : (run.decideAdjustment request context).revision = some revision) :
    run.revisions.length < kMaximumRunRevisions ∧
      run.timestampInvalid request.timestamp run.monotonicEpoch = false ∧
      revision.before = run.effectiveValues ∧
      revision.after = {
        targetTemperatureCelsius := request.targetTemperatureCelsius.getD
          run.effectiveValues.targetTemperatureCelsius
        remainingDurationMinutes := request.remainingDurationMinutes.getD
          run.effectiveValues.remainingDurationMinutes } ∧
      revision.targetTemperatureChanged =
        !revision.after.targetTemperatureCelsius.eq
          run.effectiveValues.targetTemperatureCelsius ∧
      revision.remainingDurationChanged =
        decide (revision.after.remainingDurationMinutes ≠
          run.effectiveValues.remainingDurationMinutes) ∧
      revision.timestamp = request.timestamp := by
  rw [ActiveRun.decideAdjustment] at h
  simp only at h
  split at h
  · rename_i found hfound
    cases h
    simp only [bind_eq_ok, require_eq_ok, decide_eq_true_eq, Bool.not_eq_true'] at hfound
    obtain ⟨_, -, _, -, _, -, _, -, _, htimestamp, _, -, _, hroom, _, -, _, -, _, -,
      hrevision⟩ := hfound
    cases hrevision
    exact ⟨hroom, htimestamp, rfl, rfl, rfl, rfl, rfl⟩
  · cases h

def restartsTimer (current : RunCommandState) (decision : RunAdjustmentDecision) : Bool :=
  decide (current.processState.state = .fermenting) &&
    decision.revision.any (·.remainingDurationChanged)

/-- An accepted adjustment folds the fermentation it restarts, and re-evaluates a
target that changed before the fermentation. -/
structure RunAdjusted (current : RunCommandState) (request : RunAdjustmentCommandRequest)
    (decision : CommandDecision) : Prop extends
    decision.Accepts current request.envelope where
  kind : decision.kind = .adjustRun
  capacity : current.runRevision ≠ maxUInt32
  allowed : adjustmentAllowedIn current.processState.state = true
  process : current.processRunSnapshot.isSome = true
  adjusted : ∃ run runDecision folded adjusted effect process reevaluated,
    current.activeProgramRun = some run ∧
    runDecision = run.decideAdjustment {
        targetTemperatureCelsius := request.targetTemperatureCelsius
        remainingDurationMinutes := request.remainingDurationMinutes
        confirmed := true
        source := changeSource request.envelope.source
        timestamp := { monotonicMillis := request.envelope.monotonicMillis } }
      { phaseContext := phaseContextFor current.processState.state } ∧
    (if restartsTimer current runDecision then
      foldFermentation current request.envelope.monotonicMillis
    else some current) = some folded ∧
    run.applyAdjustment runDecision = .ok (adjusted, effect) ∧
    makeProcessRunSnapshot adjusted.snapshot adjusted.effectiveValues = some process ∧
    (if !run.effectiveValues.targetTemperatureCelsius.eq
          adjusted.effectiveValues.targetTemperatureCelsius &&
        decide (current.processState.state ≠ .fermenting) then
      applyTransition { folded with
          activeProgramRun := some adjusted
          processRunSnapshot := some process } .targetChanged
        request.envelope.monotonicMillis (some process)
    else some { folded with
      activeProgramRun := some adjusted
      processRunSnapshot := some process }) = some reevaluated ∧
    let timed := if restartsTimer current runDecision then
        restartFermentationTimer reevaluated request.envelope.monotonicMillis
      else reevaluated
    Booked { timed with runRevision := current.runRevision + 1 } decision.after

theorem decideRunAdjustment_cases {current : RunCommandState}
    {request : RunAdjustmentCommandRequest} :
    Inert current (decideRunAdjustment current request) ∨
      RunAdjusted current request (decideRunAdjustment current request) := by
  have hsilent := @silent_beginDecision current request.envelope .adjustRun
  have hshown : ∀ transition, ({ beginDecision current request.envelope .adjustRun with
      committedControlContextTransition := transition } : CommandDecision).Silent
        current := fun _ => ⟨rfl, rfl, rfl, rfl⟩
  apply settle_cases
  · refine failsWith_bind hsilent.requireRevision fun _ => ?_
    refine failsWith_bind (hsilent.check (by decide)) fun _ => ?_
    refine failsWith_bind (hsilent.demand (by decide)) fun run => ?_
    refine failsWith_bind (hsilent.checkAdjustment) fun _ => ?_
    refine failsWith_bind hsilent.requireRevisionCapacity fun _ => ?_
    refine failsWith_bind (hsilent.demand (by decide)) fun folded => ?_
    refine failsWith_bind (hsilent.demand (by decide)) fun adjusted => ?_
    refine failsWith_bind (hsilent.demand (by decide)) fun process => ?_
    refine failsWith_bind (hsilent.demand (by decide)) fun reevaluated => ?_
    refine failsWith_bind ((hshown _).check (by decide)) fun _ => ?_
    exact failsWith_ok _
  · intro decision h
    simp only [bind_eq_ok, CommandDecision.check, CommandDecision.demand,
      CommandDecision.requireRunRevision, CommandDecision.requireRevisionCapacity,
      require_eq_ok, orFail_eq_ok] at h
    obtain ⟨_, hbegun, _, hallowed, run, hrun, _, -, _, hcapacity, folded, hfolded,
      ⟨adjusted, effect⟩, hadjusted, process, hprocess, reevaluated, hreevaluated, _, -,
      hdecision⟩ := h
    cases hdecision
    have hproposed := (begun_of_requireRevision hbegun).1
    refine ⟨?_, addEffect_kind, of_decide_eq_true hcapacity,
      (Bool.and_eq_true_iff.mp hallowed).1, (Bool.and_eq_true_iff.mp hallowed).2, ?_⟩
    · apply Accepts.addEffect
      · exact accepts_beginMutation rfl rfl hproposed ⟨_, of_decide_eq_true hproposed⟩
      · exact show 0 < 6 by decide
    · refine ⟨run, _, folded, adjusted, effect, process, reevaluated, hrun, rfl, hfolded,
        toOption_eq_some.mp hadjusted, hprocess, hreevaluated, ?_⟩
      rw [addEffect_after]
      exact booked_beginMutation rfl

/-! ### Recovery time -/

structure RecoveryTimeCorrected (current : RunCommandState)
    (request : ApplyRecoveryTimeCorrectionRequest) (decision : CommandDecision) : Prop
    extends decision.Accepts current request.envelope where
  kind : decision.kind = .applyRecoveryTimeCorrection
  fermenting : current.processState.state = .fermenting
  corrected : ∃ corrected,
    Booked { current with nominalRecoveryAdjustment := some corrected } decision.after

theorem decideApplyRecoveryTimeCorrection_cases {current : RunCommandState}
    {request : ApplyRecoveryTimeCorrectionRequest} :
    Inert current (decideApplyRecoveryTimeCorrection current request) ∨
      RecoveryTimeCorrected current request
        (decideApplyRecoveryTimeCorrection current request) := by
  have hsilent := @silent_beginDecision current request.envelope .applyRecoveryTimeCorrection
  apply settle_cases
  · refine failsWith_bind hsilent.requireRevision fun _ => ?_
    refine failsWith_bind hsilent.requireRevision fun _ => ?_
    refine failsWith_bind (hsilent.check (by decide)) fun _ => ?_
    refine failsWith_bind (hsilent.demand (by decide)) fun prior => ?_
    refine failsWith_bind (hsilent.demand (by decide)) fun upperBound => ?_
    refine failsWith_bind (hsilent.check ?_) fun _ => ?_
    · split <;> decide
    refine failsWith_bind (hsilent.demand (by decide)) fun corrected => ?_
    refine failsWith_bind (hsilent.check (by decide)) fun _ => ?_
    exact failsWith_ok _
  · intro decision h
    simp only [bind_eq_ok, CommandDecision.check, CommandDecision.demand,
      CommandDecision.requireRunRevision, require_eq_ok, orFail_eq_ok,
      decide_eq_true_eq] at h
    obtain ⟨_, hbegun, _, -, _, hfermenting, _, -, _, -, _, -, corrected, -, _, -,
      hdecision⟩ := h
    cases hdecision
    have hproposed := (begun_of_requireRevision hbegun).1
    refine ⟨?_, rfl, hfermenting, corrected, booked_beginMutation rfl⟩
    exact accepts_beginMutation rfl rfl hproposed ⟨_, of_decide_eq_true hproposed⟩

/-! ### Messages -/

/-- A message command changes the messages and their revision only. -/
structure MessageFlagged (current : RunCommandState) (request : MessageCommandRequest)
    (decision : CommandDecision) : Prop extends
    decision.Accepts current request.envelope where
  kind : decision.kind = .acknowledgeMessage ∨ decision.kind = .muteMessage
  capacity : current.messageRevision ≠ maxUInt32
  flagged : ∃ messages, Booked { current with
    messages
    messageRevision := current.messageRevision + 1 } decision.after

theorem decideMessageFlag_cases {current : RunCommandState}
    {request : MessageCommandRequest} {kind : CommandKind} {flag : RuntimeMessage → Bool}
    {setFlag : RuntimeMessage → RuntimeMessage} {effect : CommandEffect}
    (hkind : kind = .acknowledgeMessage ∨ kind = .muteMessage) :
    Inert current (decideMessageFlag current request kind flag setFlag effect) ∨
      MessageFlagged current request
        (decideMessageFlag current request kind flag setFlag effect) := by
  have hsilent := @silent_beginDecision current request.envelope kind
  apply settle_cases
  · refine failsWith_bind hsilent.requireRevision fun _ => ?_
    refine failsWith_bind (hsilent.demand (by decide)) fun message => ?_
    refine failsWith_bind (hsilent.check (by decide)) fun _ => ?_
    refine failsWith_bind hsilent.requireRevisionCapacity fun _ => ?_
    exact failsWith_bind hsilent.requireRevisionCapacity fun _ => failsWith_ok _
  · intro decision h
    simp only [bind_eq_ok, CommandDecision.check, CommandDecision.demand,
      CommandDecision.requireMessageRevision, CommandDecision.requireRevisionCapacity,
      require_eq_ok, orFail_eq_ok, decide_eq_true_eq] at h
    obtain ⟨_, hbegun, message, -, _, -, _, -, _, hcapacity, hdecision⟩ := h
    cases hdecision
    have hproposed := (begun_of_requireRevision hbegun).1
    refine ⟨?_, by rwa [addEffect_kind], hcapacity, ?_⟩
    · apply Accepts.addEffect
      · exact accepts_beginMutation rfl rfl hproposed ⟨_, of_decide_eq_true hproposed⟩
      · exact show 0 < 6 by decide
    · rw [addEffect_after]
      exact ⟨_, booked_beginMutation rfl⟩

/-! ### Sensor actions -/

/-- The mutation a sensor action leads to. -/
def sensorActionMutation (current : RunCommandState)
    (request : SensorSelectionCommandRequest)
    (plausibility : CrossRolePlausibilityContext) : SensorSelectionStateMutation :=
  applySensorSelectionDecision (sensorSelectionViewFrom current) {
      expected := sensorSelectionViewFrom current
      program := sensorSelectionProgramContextFor current
      plausibility
      userAction := some request.action } request.envelope.monotonicMillis

structure SensorActionApplied (current : RunCommandState)
    (request : SensorSelectionCommandRequest)
    (plausibility : CrossRolePlausibilityContext) (decision : CommandDecision) : Prop
    extends decision.Accepts current request.envelope where
  kind : decision.kind = .applySensorSelectionAction
  active : current.hasActiveRun = true
  status : (sensorActionMutation current request plausibility).status =
      .appliedPersistentCandidate ∨
    (sensorActionMutation current request plausibility).status = .appliedRamOnly
  applyStatus : decision.sensorSelectionApplyStatus =
    some (sensorActionMutation current request plausibility).status
  applied : ∃ after,
    resetChangedSensorRole current
      (applySensorSelectionMutation current
        (sensorActionMutation current request plausibility))
      (sensorActionMutation current request plausibility)
      request.envelope.monotonicMillis = some after ∧
    Booked after decision.after

theorem CommandDecision.Silent.applySensorAction {current : RunCommandState}
    {decision : CommandDecision} {mutation : SensorSelectionStateMutation}
    (h : decision.Silent current) :
    FailsWith (Inert current) (Fermentationsschrank.applySensorAction decision mutation) :=
  failsWith_bind (h.demand (by decide)) fun _ =>
    failsWith_bind (h.check (by decide)) fun _ => failsWith_ok _

theorem applySensorAction_eq_ok {current : RunCommandState}
    {decision applied : CommandDecision} {mutation : SensorSelectionStateMutation}
    (h : applySensorAction decision mutation = .ok applied)
    (hsilent : decision.Silent current) (hproposed : decision.proposed = true)
    (hbegun : ∃ kind, beginStatus current decision.envelope kind = .proposed) :
    applied.Accepts current decision.envelope ∧ applied.kind = decision.kind ∧
      applied.sensorSelectionApplyStatus = decision.sensorSelectionApplyStatus ∧
      ∃ after, resetChangedSensorRole current
          (applySensorSelectionMutation current mutation) mutation
          decision.envelope.monotonicMillis = some after ∧
        Booked after applied.after := by
  obtain ⟨rfl, hnone, -, -⟩ := hsilent
  simp only [applySensorAction, bind_eq_ok, CommandDecision.check,
    CommandDecision.demand, require_eq_ok, orFail_eq_ok] at h
  obtain ⟨after, hafter, _, -, happlied⟩ := h
  have hmutated := @accepts_beginMutation _ { decision with after } _ rfl rfl hproposed
    hbegun
  have hannounced : ∀ announced : CommandDecision,
      (if mutation.event.isSome then
        { beginMutation { decision with after } with
          sensorSelectionEvent := mutation.event
          committedControlContextTransition :=
            resolveControlSensorRoleTransition decision.before.processState.state
              decision.before.activeRunSensorMode
              (beginMutation { decision with after }).after.processState.state
              (beginMutation { decision with after }).after.activeRunSensorMode }
      else { beginMutation { decision with after } with
        sensorSelectionNotice := mutation.notice }) = announced →
      announced.Accepts decision.before decision.envelope ∧
        announced.effects = [] ∧ announced.kind = decision.kind ∧
        announced.sensorSelectionApplyStatus = decision.sensorSelectionApplyStatus ∧
        Booked after announced.after := by
    rintro announced rfl
    have hbooked : Booked after (beginMutation { decision with after }).after :=
      booked_beginMutation rfl
    split
    · exact ⟨⟨rfl, rfl, hproposed, hbegun, hmutated.sequence⟩, hnone, rfl, rfl, hbooked⟩
    · exact ⟨⟨rfl, rfl, hproposed, hbegun, hmutated.sequence⟩, hnone, rfl, rfl, hbooked⟩
  obtain ⟨haccepts, heffects, hkind, hstatus, hbooked⟩ := hannounced _ rfl
  split at happlied
  · cases happlied
    refine ⟨haccepts.addEffect ?_, ?_, ?_, after, hafter, ?_⟩
    · rw [heffects]
      decide
    · rw [addEffect_kind, hkind]
    · rw [addEffect_applyStatus, hstatus]
    · rwa [addEffect_after]
  · cases happlied
    exact ⟨haccepts, hkind, hstatus, after, hafter, hbooked⟩

theorem decideApplySensorSelectionAction_cases {current : RunCommandState}
    {request : SensorSelectionCommandRequest}
    {plausibility : CrossRolePlausibilityContext} :
    Inert current (decideApplySensorSelectionAction current request plausibility) ∨
      SensorActionApplied current request plausibility
        (decideApplySensorSelectionAction current request plausibility) := by
  have hsilent := @silent_beginDecision current request.envelope .applySensorSelectionAction
  have hshown : ∀ status, ({ beginDecision current request.envelope
      .applySensorSelectionAction with
        sensorSelectionApplyStatus := status } : CommandDecision).Silent current :=
    fun _ => ⟨rfl, rfl, rfl, rfl⟩
  apply settle_cases
  · refine failsWith_bind hsilent.requireRevision fun _ => ?_
    refine failsWith_bind (hsilent.check (by decide)) fun _ => ?_
    refine failsWith_bind (hsilent.check (by decide)) fun _ => ?_
    refine failsWith_bind ((hshown _).check (by decide)) fun _ => ?_
    refine failsWith_bind ((hshown _).check (by decide)) fun _ => ?_
    split
    · exact failsWith_error ((hshown _).rejected (by decide))
    · exact (hshown _).applySensorAction
    · exact (hshown _).applySensorAction
    · refine failsWith_error ((hshown _).rejected ?_)
      rw [mapSensorSelectionRejection.eq_def]
      split <;> decide
  · intro decision h
    simp only [bind_eq_ok, CommandDecision.check, CommandDecision.requireRunRevision,
      require_eq_ok] at h
    obtain ⟨_, hbegun, _, hactive, _, -, _, -, _, -, hdecision⟩ := h
    have hproposed := (begun_of_requireRevision hbegun).1
    have hbegun' : ∃ kind, beginStatus current request.envelope kind = .proposed :=
      ⟨_, of_decide_eq_true hproposed⟩
    split at hdecision
    · cases hdecision
    · rename_i hstatus
      obtain ⟨haccepts, hkind, happly, happlied⟩ :=
        applySensorAction_eq_ok hdecision (hshown _) hproposed hbegun'
      exact ⟨haccepts, hkind, hactive, .inl hstatus, happly, happlied⟩
    · rename_i hstatus
      obtain ⟨haccepts, hkind, happly, happlied⟩ :=
        applySensorAction_eq_ok hdecision (hshown _) hproposed hbegun'
      exact ⟨haccepts, hkind, hactive, .inr hstatus, happly, happlied⟩
    · cases hdecision

/-! ### Every command -/

/-- A refused command of any kind is inert. -/
theorem CommandRequest.decide_refused {current : RunCommandState}
    {request : CommandRequest} (h : (request.decide current).proposed = false) :
    Inert current (request.decide current) := by
  have haccepted : ∀ {envelope}, ¬ (request.decide current).Accepts current envelope := by
    intro envelope haccepts
    rw [haccepts.proposed] at h
    cases h
  cases request with
  | startProgram request =>
      exact decideProgramStart_cases.resolve_right fun started => haccepted started.toAccepts
  | startManualHolding request =>
      exact decideManualStart_cases.resolve_right fun started => haccepted started.toAccepts
  | stop request =>
      exact decideStop_cases.resolve_right fun stopped => haccepted stopped.toAccepts
  | complete request =>
      exact decideCompletion_cases.resolve_right fun ended => haccepted ended.toAccepts
  | adjustRun request =>
      exact decideRunAdjustment_cases.resolve_right fun run => haccepted run.toAccepts
  | applyRecoveryTimeCorrection request =>
      exact decideApplyRecoveryTimeCorrection_cases.resolve_right
        fun corrected => haccepted corrected.toAccepts
  | acknowledgeMessage request =>
      exact (decideMessageFlag_cases (.inl rfl)).resolve_right
        fun flagged => haccepted flagged.toAccepts
  | muteMessage request =>
      exact (decideMessageFlag_cases (.inr rfl)).resolve_right
        fun flagged => haccepted flagged.toAccepts
  | applySensorSelectionAction request plausibility =>
      exact decideApplySensorSelectionAction_cases.resolve_right
        fun applied => haccepted applied.toAccepts

end Fermentationsschrank

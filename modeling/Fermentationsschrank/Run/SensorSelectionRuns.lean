import Fermentationsschrank.Core.Runs
import Fermentationsschrank.Run.RunCommands
import Fermentationsschrank.Run.SensorSelectionSteps

/-!
# Runs of the sensor selection

A run begins with the selection of its start, or with the one found after a
restart, and takes one decision after the other.  Phase, mode and stored provenance
agree on every way.
-/

namespace Fermentationsschrank

open SensorSelectionProposal

/-! ## Calls -/

/-- A decision of a run, less the selection it expects. -/
structure SensorSelectionCall where
  program : SensorSelectionProgramContext
  plausibility : CrossRolePlausibilityContext
  userAction : Option SensorSelectionUserAction := none
  nowMonotonicMillis : UInt64
  deriving DecidableEq, Repr

namespace SensorSelectionCall

/-- The decision of a call that knows the current selection. -/
def decision (call : SensorSelectionCall) (current : SensorSelectionStateView) :
    SensorSelectionDecision where
  expected := current
  program := call.program
  plausibility := call.plausibility
  userAction := call.userAction

def mutation (call : SensorSelectionCall) (current : SensorSelectionStateView) :
    SensorSelectionStateMutation :=
  applySensorSelectionDecision current (call.decision current) call.nowMonotonicMillis

end SensorSelectionCall

/-- The selection that a mutation leaves. -/
def SensorSelectionStateView.after (current : SensorSelectionStateView)
    (mutation : SensorSelectionStateMutation) : SensorSelectionStateView :=
  { current with
    runtime := mutation.runtime
    activeMode := mutation.activeMode
    persisted := mutation.persisted
    runRevision := mutation.resultingRunRevision }

/-! ## Beginnings -/

/-- The settings of a manual run. -/
def manualSensorSelectionContext : SensorSelectionProgramContext where
  sensorPreference := .productIfAvailableElseAir
  policy := .waitForUser
  returnStrategy := .manualReturnToProduct

def ProgramDefinition.sensorSelectionContext (program : ProgramDefinition) :
    SensorSelectionProgramContext where
  sensorPreference := program.sensorPreference
  policy := program.productSensorFailure.policy
  returnStrategy := program.productSensorFailure.returnStrategy
  fallbackDelaySeconds := program.productSensorFailure.fallbackDelaySeconds

/-- The settings a run can have. -/
inductive RunSettings : SensorSelectionProgramContext → Prop
  | stored {document : ProgramDocument}
      (hvalid : (validateProgram document .runnable).valid = true) :
      RunSettings document.program.sensorSelectionContext
  | manual : RunSettings manualSensorSelectionContext

/-- The selection right after a start. -/
def startedSelection (id : Bytes) (mode : RunSensorMode)
    (substituted productValid airValid coolingValid : Bool) (runRevision : UInt32) :
    SensorSelectionStateView :=
  let outcome := startSensorSelectionOutcome mode substituted productValid airValid coolingValid
    runRevision
  { activeRunId := id
    runtime := outcome.runtime
    activeMode := some mode
    persisted := some outcome.persisted
    runRevision }

/-- The selection a restart recommends. -/
def restartedSelection (id : Bytes) (persisted : PersistedSensorSelectionState)
    (lastActiveMode : RunSensorMode) (program : SensorSelectionProgramContext)
    (plausibility : CrossRolePlausibilityContext) (runRevision : UInt32) :
    SensorSelectionStateView :=
  let recommendation := computeRestartSensorSelection persisted lastActiveMode program
    plausibility
  { activeRunId := id
    runtime := recommendation.runtime
    activeMode := some recommendation.activeMode
    persisted := some persisted
    runRevision }

/-- The selections a run begins with. -/
inductive SelectionOrigin (program : SensorSelectionProgramContext) :
    SensorSelectionStateView → Prop
  | program {resolution : ProgramStartSensorResolution} {requested : RunSensorMode}
      {productValid : Bool} (id : Bytes) (airValid coolingValid : Bool) (runRevision : UInt32)
      (hresolved : resolveProgramStartSensorMode program.sensorPreference requested
        productValid = some resolution) :
      SelectionOrigin program (startedSelection id resolution.effectiveMode
        resolution.substituted productValid airValid coolingValid runRevision)
  | manual (id : Bytes) (mode : RunSensorMode) (productValid airValid coolingValid : Bool)
      (runRevision : UInt32) (hsettings : program = manualSensorSelectionContext) :
      SelectionOrigin program
        (startedSelection id mode false productValid airValid coolingValid runRevision)
  | restart (id : Bytes) (persisted : PersistedSensorSelectionState)
      (lastActiveMode : RunSensorMode) (plausibility : CrossRolePlausibilityContext)
      (runRevision : UInt32)
      (hallowed : (computeRestartSensorSelection persisted lastActiveMode program
        plausibility).runtime.permission = .allowed) :
      SelectionOrigin program
        (restartedSelection id persisted lastActiveMode program plausibility runRevision)

/-! ## Outcomes of a call -/

/-- Why a call that knows the current selection is refused. -/
inductive CallRefusal (current : SensorSelectionStateView) (call : SensorSelectionCall) :
    SensorSelectionApplyStatus → Prop
  | inconsistent (hinvalid : validRuntimeCombination current.runtime = false) :
      CallRefusal current call .invalidDecision
  | backwards {applied : UInt64}
      (happlied : current.runtime.lastAppliedMonotonicMillis = some applied)
      (hearlier : call.nowMonotonicMillis < applied) :
      CallRefusal current call .timeWentBackwards
  | phase {status : SensorSelectionApplyStatus}
      (hphase : evaluatePhase current (call.decision current) call.nowMonotonicMillis =
        .error status) : CallRefusal current call status
  | exhausted (hrevision : current.runRevision = maxUInt32) :
      CallRefusal current call .capacityReached
  | modeless {proposal : SensorSelectionProposal}
      (hproposed : Proposes current (call.decision current) call.nowMonotonicMillis proposal)
      (hmode : current.activeMode = none ∨ proposal.activeMode = none) :
      CallRefusal current call .invalidDecision

/-- What a call does to the selection. -/
inductive CallOutcome (current : SensorSelectionStateView) (call : SensorSelectionCall) :
    SensorSelectionStateMutation → Prop
  | refused {status : SensorSelectionApplyStatus} (hrefused : CallRefusal current call status) :
      CallOutcome current call (sensorSelectionUnchanged current status)
  | unchanged {proposal : SensorSelectionProposal}
      (hvalid : validRuntimeCombination current.runtime = true)
      (hproposed : Proposes current (call.decision current) call.nowMonotonicMillis proposal)
      (hruntime : proposal.runtime = current.runtime)
      (hmode : proposal.activeMode = current.activeMode) :
      CallOutcome current call (sensorSelectionUnchanged current .noChange)
  | applied {proposal : SensorSelectionProposal} {mutation : SensorSelectionStateMutation}
      (hvalid : validRuntimeCombination current.runtime = true)
      (htime : ∀ earlier ∈ current.runtime.lastAppliedMonotonicMillis,
        earlier ≤ call.nowMonotonicMillis)
      (hproposed : Proposes current (call.decision current) call.nowMonotonicMillis proposal)
      (hruntime : mutation.runtime =
        { proposal.runtime with lastAppliedMonotonicMillis := some call.nowMonotonicMillis })
      (hmode : mutation.activeMode = proposal.activeMode)
      (hprovenance : (mutation.persisted.getD {}).provenance =
        provenanceAfter proposal.cause (current.persisted.getD {}).provenance)
      (hpersisted : current.persisted.isSome → mutation.persisted.isSome)
      (hstatus : mutation.status = .appliedRamOnly ∨
        mutation.status = .appliedPersistentCandidate) :
      CallOutcome current call mutation

section Outcome

variable {current : SensorSelectionStateView} {call : SensorSelectionCall}
  {proposal : SensorSelectionProposal}

theorem persistentCandidate_outcome (hvalid : validRuntimeCombination current.runtime = true)
    (htime : ∀ earlier ∈ current.runtime.lastAppliedMonotonicMillis,
      earlier ≤ call.nowMonotonicMillis)
    (hproposed : Proposes current (call.decision current) call.nowMonotonicMillis proposal) :
    CallOutcome current call
      (match persistentCandidate current proposal
          { proposal.runtime with lastAppliedMonotonicMillis := some call.nowMonotonicMillis }
          call.nowMonotonicMillis with
      | .ok mutation => mutation
      | .error status => sensorSelectionUnchanged current status) := by
  rw [persistentCandidate]
  by_cases hrevision : current.runRevision = maxUInt32
  · rw [show decide (current.runRevision ≠ maxUInt32) = false from
      decide_eq_false (not_not.mpr hrevision)]
    exact .refused (.exhausted hrevision)
  rw [show decide (current.runRevision ≠ maxUInt32) = true from decide_eq_true hrevision,
    require_true, ok_bind]
  by_cases hmode : proposal.activeMode = current.activeMode
  · rw [if_pos hmode]
    exact .applied hvalid htime hproposed rfl rfl rfl (fun _ => rfl) (.inr rfl)
  rw [if_neg hmode]
  cases hbefore : current.activeMode with
  | none => exact .refused (.modeless hproposed (.inl hbefore))
  | some beforeMode =>
      cases hafter : proposal.activeMode with
      | none => exact .refused (.modeless hproposed (.inr hafter))
      | some afterMode =>
          exact .applied hvalid htime hproposed rfl hafter.symm rfl (fun _ => rfl) (.inr rfl)

theorem mutation_of_inconsistent (h : validRuntimeCombination current.runtime = false) :
    call.mutation current = sensorSelectionUnchanged current .invalidDecision := by
  rw [SensorSelectionCall.mutation, applySensorSelectionDecision, decideSensorSelectionMutation,
    show decide (current = (call.decision current).expected) = true from decide_eq_true rfl, h]
  rfl

/-- Every call ends in one of the outcomes. -/
theorem mutation_outcome (current : SensorSelectionStateView) (call : SensorSelectionCall) :
    CallOutcome current call (call.mutation current) := by
  cases hvalid : validRuntimeCombination current.runtime with
  | false =>
      rw [mutation_of_inconsistent hvalid]
      exact .refused (.inconsistent hvalid)
  | true =>
      rw [SensorSelectionCall.mutation, applySensorSelectionDecision,
        decideSensorSelectionMutation,
        show decide (current = (call.decision current).expected) = true from decide_eq_true rfl,
        hvalid, require_true, ok_bind, require_true, ok_bind]
      cases htime : current.runtime.lastAppliedMonotonicMillis.all
          (· ≤ call.nowMonotonicMillis) with
      | false =>
          cases happlied : current.runtime.lastAppliedMonotonicMillis with
          | none =>
              rw [happlied] at htime
              cases htime
          | some applied =>
              rw [happlied, Option.all_some, decide_eq_false_iff_not, UInt64.not_le] at htime
              exact .refused (.backwards happlied htime)
      | true =>
          rw [require_true, ok_bind]
          have hearlier : ∀ earlier ∈ current.runtime.lastAppliedMonotonicMillis,
              earlier ≤ call.nowMonotonicMillis := by
            intro earlier hmem
            rw [Option.mem_def] at hmem
            rwa [hmem, Option.all_some, decide_eq_true_eq] at htime
          cases hphase : evaluatePhase current (call.decision current)
              call.nowMonotonicMillis with
          | error status => exact .refused (.phase hphase)
          | ok proposal =>
              have hproposed := evaluatePhase_proposes hvalid hphase
              rw [ok_bind]
              by_cases hsame : proposal.runtime = current.runtime ∧
                  proposal.activeMode = current.activeMode
              · simp only [if_pos hsame]
                exact .unchanged hvalid hproposed hsame.1 hsame.2
              by_cases hcause : proposal.cause = .none
              · simp only [if_neg hsame, if_pos hcause]
                refine .applied hvalid hearlier hproposed rfl rfl ?_ (fun h => h) (.inl rfl)
                rw [hcause]
                rfl
              · simp only [if_neg hsame, if_neg hcause]
                exact persistentCandidate_outcome hvalid hearlier hproposed

end Outcome

end Fermentationsschrank

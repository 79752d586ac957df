import Fermentationsschrank.Guarantees.ObservedRecoveries

/-!
# Observed time

Over a whole boot the observed time of a run is what it was loaded with, plus what the
ledger of the boot has credited since the run began.  What the counter cannot hold is
refused.
-/

namespace Fermentationsschrank

open CommandDecision RunPersistenceCoordinator

/-! ## Runs -/

section

variable {environment : RunStoreEnvironment} {device last : LiveDevice} {event : LiveEvent}

theorem recorded_of_endingKind {kind : CommandKind} (h : endingKind kind = true) :
    isPersistedRunCommand kind = true := by
  cases kind with
  | acknowledgeMessage => cases h
  | muteMessage => cases h
  | _ => rfl

/-- A message command is entered as nothing. -/
theorem command_undisturbed {current after : RunCommandState} {request : CommandRequest}
    (hunrecorded : isPersistedRunCommand (request.decide current).kind = false)
    (happlied : applyRunCommand current (request.decide current) (.exact current) =
      (.applied, after)) : Undisturbed current after := by
  have hafter : after = (request.decide current).after ∧
      (request.decide current).proposed = true := by
    rw [applyRunCommand, Prod.mk.injEq] at happlied
    refine ⟨by rw [← happlied.2, if_pos happlied.1], ?_⟩
    exact (validateRunCommand_eq_applied.mp happlied.1).2.2.1
  obtain ⟨rfl, hproposed⟩ := hafter
  have hnot : ¬ isPersistedRunCommand (request.decide current).kind = true := by
    rw [hunrecorded]
    decide
  cases accepted_accounted hproposed with
  | undisturbed hends hsame => exact hsame
  | started hends hrecorded => exact absurd hrecorded hnot
  | cleared hends => exact absurd (recorded_of_endingKind hends) hnot
  | restarted hends hrecorded => exact absurd hrecorded hnot

/-- One step does to the observed time what it enters into the ledger. -/
theorem LiveStep.books (hstep : LiveStep environment device event last)
    (hidle : device.current.IdleCleared)
    (hover : ∀ operation, event.operation = some operation → event.after ≠ event.before →
      ¬ operation.AssumesFermentationOver event.before) :
    last.current.observedSeconds = event.entry.book device.current.observedSeconds ∧
      last.current.IdleCleared := by
  cases hstep with
  | @operate operation outcome store hdecided hrun =>
      by_cases hsame : outcome.current = device.current
      · rw [LiveEvent.entry]
        simp only [hsame, if_pos]
        exact ⟨rfl, hidle⟩
      · have haccounted := (accounts_perform operation hidle hdecided
          (hover operation rfl hsame)).finishes hrun
        exact haccounted.booked hidle
  | @command request after hunrecorded happlied =>
      have hsame := command_undisturbed hunrecorded happlied
      refine ⟨hsame.observed, fun hafter => ?_⟩
      obtain ⟨hprocess, hzero⟩ := hidle (hsame.active ▸ hafter)
      have hnone := hsame.process
      rw [hprocess] at hnone
      exact ⟨Option.not_isSome_iff_eq_none.mp (by rw [hnone]; exact Bool.false_ne_true),
        hsame.observed.trans hzero⟩

theorem restored_idleCleared {snapshot : RunPersistenceSnapshot} {state : RunCommandState}
    (h : restoreRunPersistenceSnapshot snapshot = some state) : state.IdleCleared := by
  intro hidle
  rw [restoreRunPersistenceSnapshot] at h
  split at h
  · cases h
  · rename_i hrejected
    simp only at h
    split at h
    · simp only [Option.bind_eq_bind, Option.bind_eq_some_iff, Option.some.injEq] at h
      obtain ⟨_, -, _, -, rfl⟩ := h
      cases hidle
    · rename_i hvariant
      have hvalid : validateRunPersistenceSnapshot snapshot = true := by
        simpa using hrejected
      obtain ⟨plan, hplan, -⟩ :=
        RunPersistenceSnapshot.manualRun_of_validate hvalid hvariant
      cases h
      rw [RunCommandState.hasActiveRun, hplan] at hidle
      simp at hidle
    · cases h
      exact ⟨rfl, rfl⟩

theorem LiveDevice.Loaded.idleCleared (h : device.Loaded) : device.current.IdleCleared := by
  rcases h with ⟨processState, h⟩ | ⟨snapshot, h⟩
  · rw [h]
    exact fun _ => ⟨rfl, rfl⟩
  · exact restored_idleCleared h

end

/-! ## Overflow -/

/-- The counter cannot hold the seconds of the fermentation. -/
def FoldOverflows (current : RunCommandState) (endMillis : UInt64) : Prop :=
  maxUInt32.toNat < current.observedSeconds + current.fermentedSeconds endMillis

/-- The operation would credit more than the counter can hold. -/
def RunOperation.Overflows (operation : RunOperation)
    (coordinator : RunPersistenceCoordinator) (current : RunCommandState) : Prop :=
  match operation with
  | .persistTransition decision _ _ =>
      decision.after.state ≠ .fermenting ∧ FoldOverflows current decision.monotonicMillis
  | .activateLoadedRun _ _ | .evaluateCurrentFermentingRecovery _
  | .activateFallbackRecoveredRun _ _ =>
      ∃ record ∈ interruptedRecord coordinator current,
        FoldOverflows current record.snapshot.checkpointMonotonicMillis
  | _ => False

section

variable {coordinator : RunPersistenceCoordinator} {current : RunCommandState}
variable {record : RunPersistenceRawRecord} {time : RunCheckpointTime}

theorem FoldOverflows.fermenting {endMillis : UInt64} (h : FoldOverflows current endMillis) :
    current.processState.state = .fermenting := by
  by_contra hother
  rw [FoldOverflows, fermentedSeconds_eq_zero hother] at h
  exact absurd observedSeconds_le (Nat.not_le_of_lt h)

theorem planTransition_overflow {decision : TransitionDecision}
    {live : Option CrossRolePlausibilityContext} {planned : PlannedWrite}
    (hleaves : decision.after.state ≠ .fermenting)
    (hfull : FoldOverflows current decision.monotonicMillis) :
    coordinator.planTransition current decision time live ≠ .ok planned := by
  intro h
  obtain ⟨delta, folded, -, -, -, -, -, -, hfold, -⟩ := planTransition_eq_ok h
  rcases foldTransition_eq_ok hfold with ⟨-, hdelta, hfolded⟩ | ⟨hkeeps, -⟩
  · obtain ⟨hobserved, -⟩ := foldObservedRunSeconds_eq_some hfolded
    rw [UInt32.toNat_toUInt64, hdelta] at hobserved
    rw [FoldOverflows, ← hobserved] at hfull
    exact absurd observedSeconds_le (Nat.not_le_of_lt hfull)
  · rw [foldsObservedFermentingTime, decide_eq_false_iff_not] at hkeeps
    exact hkeeps ⟨hfull.fermenting, hleaves⟩

theorem planActivation_overflow {live : CrossRolePlausibilityContext}
    {planned : PlannedWrite}
    (hfull : FoldOverflows current record.snapshot.checkpointMonotonicMillis) :
    coordinator.planActivation current record time live ≠ .ok planned := by
  intro h
  obtain ⟨candidate, directive, write, -, hcandidate, -⟩ := planActivation_eq_ok h
  rw [if_neg (by rw [hfull.fermenting]; decide)] at hcandidate
  obtain ⟨opened, hopened, -⟩ := Option.bind_eq_some_iff.mp hcandidate
  rw [FoldOverflows, ← (openEpisode_credits hopened).1] at hfull
  exact absurd observedSeconds_le (Nat.not_le_of_lt hfull)

theorem planExactFermenting_overflow {targetSlot : Option ℕ}
    {directive : RunPersistenceFallbackDirective}
    {rollbackState : RunPersistenceCoordinatorState} {completion : Bool}
    {planned : PlannedWrite}
    (hfull : FoldOverflows current record.snapshot.checkpointMonotonicMillis) :
    coordinator.planExactFermenting current record time targetSlot directive rollbackState
      completion ≠ .ok planned := by
  intro h
  obtain ⟨candidate, write, hcandidate, -⟩ := planExactFermenting_eq_ok h
  exact absurd (credits_exactFermenting hcandidate).2.1 (Nat.not_le_of_lt hfull)

theorem planFallback_overflow {head : RunPersistenceHead}
    {reference : RunCheckpointReference} {live : CrossRolePlausibilityContext}
    {planned : PlannedWrite}
    (hfull : FoldOverflows current record.snapshot.checkpointMonotonicMillis) :
    coordinator.planFallback current head reference record time live ≠ .ok planned := by
  intro h
  rw [planFallback, if_pos hfull.fermenting] at h
  simp only [bind_eq_ok] at h
  obtain ⟨-, -, -, -, hplan⟩ := h
  exact planExactFermenting_overflow hfull hplan

/-- Neither the live state nor the store is touched. -/
abbrev LeavesAlone (current : RunCommandState)
    (program : RunStoreProgram RunPersistenceOutcome) : Prop :=
  program.Only IsRead fun outcome => outcome.current = current

theorem leavesAlone_performWrite {start : RunPersistenceCoordinator}
    {plan : Except RunPersistenceResult PlannedWrite}
    (h : ∀ planned, plan ≠ .ok planned) :
    LeavesAlone current (start.performWrite current plan) := by
  cases plan with
  | error refused => exact rfl
  | ok planned => exact absurd rfl (h planned)

theorem leavesAlone_unlessBorrowed {program : RunStoreProgram RunPersistenceOutcome}
    (h : LeavesAlone current program) :
    LeavesAlone current (coordinator.unlessBorrowed current program) := by
  rw [unlessBorrowed]
  split
  · exact rfl
  · exact h

theorem leavesAlone_evaluateCurrent
    (hfull : ∀ record, coordinator.loadedRecord = some record →
      FoldOverflows current record.snapshot.checkpointMonotonicMillis) :
    LeavesAlone current (RunOperation.perform (.evaluateCurrentFermentingRecovery time)
      coordinator current) := by
  refine Program.only_bind ?_
  show (coordinator.evaluateCurrentFermentingRecovery current time).Only IsRead
    fun evaluation => evaluation.outcome.current = current
  rw [evaluateCurrentFermentingRecovery]
  split
  · exact rfl
  · split
    · rename_i head record _ hrecord
      refine Program.only_bind (only_readHead fun headReply => ?_)
      cases headReply.bytes? with
      | none => exact rfl
      | some headBytes =>
          simp only
          split
          · refine Program.only_bind (only_readSlot fun slotReply => ?_)
            cases slotReply.bytes? with
            | none => exact rfl
            | some slotBytes =>
                simp only
                split
                · rw [evaluateConfirmedFermenting]
                  split
                  · exact rfl
                  split
                  · exact rfl
                  simp only
                  split
                  · exact rfl
                  split
                  · exact rfl
                  refine Program.only_bind ?_
                  exact leavesAlone_performWrite fun planned =>
                    planExactFermenting_overflow (hfull record hrecord)
                · exact rfl
          · exact rfl
    · exact rfl

theorem leavesAlone_activateFallback {live : CrossRolePlausibilityContext}
    (hfull : ∀ record, interruptedRecord coordinator current = some record →
      FoldOverflows current record.snapshot.checkpointMonotonicMillis) :
    LeavesAlone current (coordinator.activateFallbackRecoveredRun current time live) := by
  apply leavesAlone_unlessBorrowed
  split
  · exact rfl
  · rename_i head reference hoffer
    obtain ⟨found, hfound, hoffered⟩ := Option.bind_eq_some_iff.mp hoffer
    split at hoffered
    · rename_i hpending
      obtain ⟨reference', hreference, hpair⟩ := Option.map_eq_some_iff.mp hoffered
      cases hpair
      split
      · exact rfl
      · rename_i offered hoffered
        refine Program.only_bind (only_readOffered rfl fun record hrecord => ?_)
        refine leavesAlone_performWrite fun planned => planFallback_overflow (hfull record ?_)
        rw [interruptedRecord_offered hpending hfound hreference hoffered, hrecord]
    · cases hoffered

/-- An adjustment that would overflow the counter is refused. -/
theorem decideRunAdjustment_overflow {request : RunAdjustmentCommandRequest}
    {run : ActiveRun} {minutes : UInt32} (hrun : current.activeProgramRun = some run)
    (hminutes : request.remainingDurationMinutes = some minutes)
    (hchanges : minutes ≠ run.effectiveValues.remainingDurationMinutes)
    (hfull : FoldOverflows current request.envelope.monotonicMillis) :
    (decideRunAdjustment current request).proposed = false := by
  rcases @decideRunAdjustment_cases current request with hinert | hadjusted
  · exact hinert.refused
  · obtain ⟨found, runDecision, folded, adjusted, effect, process, reevaluated, hfound,
      hdecision, hfolded, happlied, -⟩ := hadjusted.adjusted
    obtain rfl := Option.some.inj (hrun.symm.trans hfound)
    have hrestarts : restartsTimer current runDecision = true := by
      simp only [ActiveRun.applyAdjustment, bind_eq_ok, orFail_eq_ok] at happlied
      obtain ⟨-, -, revision, hrevision, -⟩ := happlied
      rw [restartsTimer, hfull.fermenting, hrevision]
      rw [hdecision] at hrevision
      obtain ⟨-, -, -, hafter, -, hchanged, -⟩ := decideAdjustment_revision hrevision
      rw [hafter, hminutes] at hchanged
      simpa [hchanged] using hchanges
    rw [hrestarts, if_pos rfl] at hfolded
    rw [FoldOverflows, ← (foldFermentation_eq_some hfolded).1] at hfull
    exact absurd observedSeconds_le (Nat.not_le_of_lt hfull)

/-- An operation that would overflow the counter touches nothing. -/
theorem leavesAlone_overflow {operation : RunOperation}
    (h : operation.Overflows coordinator current) :
    LeavesAlone current (operation.perform coordinator current) := by
  have hrecords : (∃ record ∈ interruptedRecord coordinator current,
      FoldOverflows current record.snapshot.checkpointMonotonicMillis) →
      ∀ record, interruptedRecord coordinator current = some record →
        FoldOverflows current record.snapshot.checkpointMonotonicMillis := by
    rintro ⟨found, hfound, hfull⟩ record hrecord
    rwa [← Option.some.inj (hfound.symm.trans hrecord)]
  cases operation with
  | persistTransition decision time live =>
      exact leavesAlone_unlessBorrowed (leavesAlone_performWrite fun planned =>
        planTransition_overflow h.1 h.2)
  | activateLoadedRun time live =>
      apply leavesAlone_unlessBorrowed
      cases hrecord : coordinator.loadedRecord with
      | none => exact rfl
      | some record =>
          have hfull := hrecords h record (interruptedRecord_loaded hrecord)
          simp only [hfull.fermenting]
          exact leavesAlone_performWrite fun planned => planActivation_overflow hfull
  | evaluateCurrentFermentingRecovery time =>
      exact leavesAlone_evaluateCurrent fun record hrecord =>
        hrecords h record (interruptedRecord_loaded hrecord)
  | activateFallbackRecoveredRun time live =>
      exact leavesAlone_activateFallback (hrecords h)
  | _ => exact h.elim

end

/-! ## The observed time of a boot -/

/-- In a whole boot the observed time follows its ledger, and a step that would overflow
it changes nothing. -/
theorem observedTime_booked {unknown : UnknownOutcome} {device last : LiveDevice}
    {events : List LiveEvent} (hloaded : device.Loaded)
    (hrun : Steps (LiveStep (stateStore unknown)) device events last)
    (hover : ∀ event ∈ events, ∀ operation, event.operation = some operation →
      event.after ≠ event.before → ¬ operation.AssumesFermentationOver event.before) :
    last.current.observedSeconds =
        (events.map LiveEvent.entry).foldl ObservedEntry.book
          device.current.observedSeconds ∧
      (∀ operation outcome store, operation.Overflows last.coordinator last.current →
        Program.Finishes (stateStore unknown)
          (RunOperation.perform operation last.coordinator last.current) last.store outcome
          store →
        store = last.store ∧ outcome.current = last.current) ∧
      ∀ request run minutes, last.current.activeProgramRun = some run →
        request.remainingDurationMinutes = some minutes →
        minutes ≠ run.effectiveValues.remainingDurationMinutes →
        FoldOverflows last.current request.envelope.monotonicMillis →
        (decideRunAdjustment last.current request).proposed = false := by
  refine ⟨?_, ?_, fun request run minutes => decideRunAdjustment_overflow⟩
  · rw [List.foldl_map]
    exact (@Steps.ledger _ _ _ _ _ _ _ (fun device => device.current.observedSeconds)
      (fun observed event => event.entry.book observed)
      (fun device => device.current.IdleCleared) _ hrun hloaded.idleCleared hover
      fun hidle hallowed hstep => hstep.books hidle hallowed).1
  · intro operation outcome store hfull hperformed
    exact (leavesAlone_overflow hfull).finishes quiet_reads hperformed

/-! ### An hour of fermentation -/

/-- Sixty minutes at 20 °C, qualified after one minute. -/
def hourProgram : ManualTimedRunSource where
  stage := {
    targetTemperatureCelsius := some (.ofBits 0x4034000000000000)
    durationMinutes := some 60 }
  preheatEnabled := false
  targetQualification := {
    bandCelsius := some (.ofBits 0x3FF0000000000000)
    durationMinutes := some 1 }
  maximumTargetReachMinutes := some 60
  completion := { mode := .finishWithoutCooling }

def startHour : RunOperation :=
  .persistCommand ((CommandRequest.startProgram {
    envelope := {
      id := 1
      monotonicMillis := 1000
      expectedRunRevision := some 0
      confirmed := true }
    runId := [101, 49]
    program := .manualTimed hourProgram
    sourceProgramRevision := none
    sensorMode := .air
    safetyAllowsStart := true
    airSensorValid := true
    coolingSensorValid := true
    productSensorValid := true }).decide standby) ⟨1000, some 1700000000⟩ none

/-- The temperature takes the run to its next phase. -/
def LiveDevice.evaluate (device : LiveDevice) (progress : QualificationProgress)
    (monotonicMillis : UInt64) : RunOperation :=
  .persistTransition
    (decideProcessTransition device.current.processState device.current.processRunSnapshot
      { qualificationProgress := progress } {} monotonicMillis)
    ⟨monotonicMillis, some 1700000000⟩ none

def LiveDevice.stopRun (device : LiveDevice) (monotonicMillis : UInt64) : RunOperation :=
  .persistCommand ((CommandRequest.stop {
    envelope := {
      id := 2
      monotonicMillis
      expectedStateSequence := device.current.processState.transitionSequence
      expectedRunRevision := some device.current.runRevision
      confirmed := true }
    option := .abortAndTurnOff }).decide device.current)
    ⟨monotonicMillis, some 1700000000⟩ none

def startedHour : LiveDevice := freshLiveDevice.operate startHour

def qualifyingHour : LiveDevice := startedHour.operate (startedHour.evaluate .inBand 2000)

def fermentingHour : LiveDevice :=
  qualifyingHour.operate (qualifyingHour.evaluate .complete 62000)

def stoppedHour : LiveDevice := fermentingHour.operate (fermentingHour.stopRun 3662000)

def hourEvents : List LiveEvent :=
  [freshLiveDevice.event startHour, startedHour.event (startedHour.evaluate .inBand 2000),
    qualifyingHour.event (qualifyingHour.evaluate .complete 62000),
    fermentingHour.event (fermentingHour.stopRun 3662000)]

theorem steps_fermentingHour (unknown : UnknownOutcome) :
    Steps (LiveStep (stateStore unknown)) freshLiveDevice
      [freshLiveDevice.event startHour, startedHour.event (startedHour.evaluate .inBand 2000),
        qualifyingHour.event (qualifyingHour.evaluate .complete 62000)] fermentingHour := by
  have hstart : startHour.DecidedOn freshLiveDevice.current := ⟨_, rfl⟩
  have hqualify : (startedHour.evaluate .inBand 2000).DecidedOn startedHour.current := trivial
  have hferment :
      (qualifyingHour.evaluate .complete 62000).DecidedOn qualifyingHour.current := trivial
  exact ((Steps.start.step (LiveDevice.step_operate unknown hstart)).step
    (LiveDevice.step_operate unknown hqualify)).step
      (LiveDevice.step_operate unknown hferment)

theorem steps_hour (unknown : UnknownOutcome) :
    Steps (LiveStep (stateStore unknown)) freshLiveDevice hourEvents stoppedHour := by
  have hstop : (fermentingHour.stopRun 3662000).DecidedOn fermentingHour.current :=
    ⟨_, rfl⟩
  exact (steps_fermentingHour unknown).step (LiveDevice.step_operate unknown hstop)

def completedHour : LiveDevice :=
  fermentingHour.operate (fermentingHour.evaluate .complete 3662000)

def completionEvents : List LiveEvent :=
  [freshLiveDevice.event startHour, startedHour.event (startedHour.evaluate .inBand 2000),
    qualifyingHour.event (qualifyingHour.evaluate .complete 62000),
    fermentingHour.event (fermentingHour.evaluate .complete 3662000)]

theorem steps_completedHour (unknown : UnknownOutcome) :
    Steps (LiveStep (stateStore unknown)) freshLiveDevice completionEvents completedHour := by
  have hcomplete :
      (fermentingHour.evaluate .complete 3662000).DecidedOn fermentingHour.current := trivial
  exact (steps_fermentingHour unknown).step (LiveDevice.step_operate unknown hcomplete)

theorem completion_assumes_nothing : ∀ event ∈ completionEvents, ∀ operation,
    event.operation = some operation → event.after ≠ event.before →
      ¬ operation.AssumesFermentationOver event.before := by
  intro event hevent operation hoperation _
  rw [completionEvents] at hevent
  simp only [List.mem_cons, List.not_mem_nil, or_false] at hevent
  rcases hevent with rfl | rfl | rfl | rfl
  all_goals
    cases hoperation
    rintro ⟨-, request, time, live, hresolves, -⟩
    cases hresolves

set_option maxRecDepth 1000000 in
/-- The ledger of the hour that is completed holds its 3600 seconds. -/
theorem observedTime_booked_hour :
    completedHour.current.observedSeconds =
        (completionEvents.map LiveEvent.entry).foldl ObservedEntry.book 0 ∧
      completedHour.current.observedSeconds = 3600 := by
  refine ⟨?_, by decide +kernel⟩
  exact (observedTime_booked loaded_freshLiveDevice (steps_completedHour allOrNothing)
    completion_assumes_nothing).1

set_option maxRecDepth 1000000 in
/-- A run that is stopped takes its observed time with it: the seconds of the hour that
have ended are not in the counter. -/
theorem stopped_hour_unobserved :
    ¬ ∀ (unknown : UnknownOutcome) (device last : LiveDevice) (events : List LiveEvent),
      device.Loaded → Steps (LiveStep (stateStore unknown)) device events last →
        last.current.observedSeconds = device.current.observedSeconds +
          (events.map fun event => event.operation.elim 0 fun operation =>
            operation.dueSeconds event.coordinator event.before event.after).sum := by
  intro hcomplete
  have hhour := hcomplete allOrNothing _ _ _ loaded_freshLiveDevice (steps_hour allOrNothing)
  have hmissing : ¬ stoppedHour.current.observedSeconds =
      freshLiveDevice.current.observedSeconds +
        (hourEvents.map fun event => event.operation.elim 0 fun operation =>
          operation.dueSeconds event.coordinator event.before event.after).sum := by
    decide +kernel
  exact hmissing hhour

end Fermentationsschrank

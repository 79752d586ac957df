import Fermentationsschrank.Recovery.OperationFacts
import Fermentationsschrank.Recovery.RunRecovery

/-!
# What becomes of the live state

Whatever the store replies, an operation keeps the live state, applies a decision
that is not recorded, restores a completed run, or finishes a write that it has
planned.
-/

namespace Fermentationsschrank

open RunPersistenceCoordinator

/-- The time an operation is performed at. -/
def RunOperation.time : RunOperation → RunCheckpointTime
  | .persistCommand _ time _ | .persistFreshStartCommand _ _ time _
  | .persistBorrowedCommand _ time _ _ | .persistTransition _ time _
  | .checkpointPeriodic time _ | .persistSensorSelection _ time _
  | .persistRecoveryCandidate _ time _ | .discardAsNoActiveRun time
  | .activateLoadedRun time _ | .activateR1EligibleRun time _
  | .evaluateCurrentFermentingRecovery time | .activateFallbackRecoveredRun time _
  | .reevaluateRecoveryEvaluation time _ | .resolveRecoveryOutcome _ time _ => time

/-- The decision and the readings of a command. -/
def RunOperation.command : RunOperation →
    Option (CommandDecision × Option CrossRolePlausibilityContext)
  | .persistCommand decision _ live | .persistFreshStartCommand decision _ _ live
  | .persistBorrowedCommand decision _ live _ => some (decision, live)
  | _ => none

/-- The live state an operation may leave. -/
inductive LiveEnds (operation : RunOperation) (coordinator : RunPersistenceCoordinator)
    (current : RunCommandState) : RunCommandState → Prop
  | kept : LiveEnds operation coordinator current current
  | acted {decision live guard provenance after}
      (hcommand : operation.command = some (decision, live))
      (hadmitted : coordinator.admitCommand decision operation.time provenance = .ok ())
      (haction : ramOnlySensorAction decision = true)
      (happlied : applyRunCommand current decision guard = (.applied, after)) :
      LiveEnds operation coordinator current (withLiveEvidence after live)
  | restored (hcommand : operation.command = none)
      (hloaded : coordinator.state = .loadedActiveRun)
      (hcompleted : current.processState.state = .completed) :
      LiveEnds operation coordinator current { current with
        processState := { current.processState with
          stateEnteredAtMillis := operation.time.monotonicMillis } }
  | wrote {planned after persisted} (hplans : operation.Plans coordinator current planned)
      (happlied : persisted.status = .applied) :
      LiveEnds operation coordinator current (planned.finish after persisted).current

variable {operation : RunOperation} {coordinator : RunPersistenceCoordinator}
variable {current : RunCommandState}

/-- The live state is one the operation may leave. -/
abbrev LeavesLive (operation : RunOperation) (coordinator : RunPersistenceCoordinator)
    (current : RunCommandState) (program : RunStoreProgram RunPersistenceOutcome) : Prop :=
  program.Yields fun outcome => LiveEnds operation coordinator current outcome.current

theorem leavesLive_performWrite {start : RunPersistenceCoordinator}
    {plan : Except RunPersistenceResult PlannedWrite}
    (hplans : ∀ planned, plan = .ok planned →
      operation.Plans coordinator current planned) :
    LeavesLive operation coordinator current (start.performWrite current plan) := by
  cases plan with
  | error refused => exact .kept
  | ok planned =>
      refine Program.yields_bind.mpr (Program.yields_of_forall (fun ended => ?_) _)
      show LiveEnds operation coordinator current (planned.settle current ended).current
      rw [PlannedWrite.settle]
      split
      · rename_i happlied
        exact .wrote (hplans planned rfl) happlied
      · exact .kept

theorem leavesLive_unlessBorrowed {program : RunStoreProgram RunPersistenceOutcome}
    (h : LeavesLive operation coordinator current program) :
    LeavesLive operation coordinator current
      (coordinator.unlessBorrowed current program) := by
  rw [unlessBorrowed]
  split
  · exact .kept
  · exact h

theorem leavesLive_persistCommandInternal {decision : CommandDecision}
    {guard : CommandApplyGuard} {live : Option CrossRolePlausibilityContext}
    {provenance : Option FreshStartSnapshotProvenance}
    (hcommand : operation.command = some (decision, live))
    (hplans : ∀ planned,
      coordinator.admitCommand decision operation.time provenance = .ok () →
      coordinator.planCommand current decision guard operation.time live provenance =
        .ok planned → operation.Plans coordinator current planned) :
    LeavesLive operation coordinator current
      (coordinator.persistCommandInternal current decision guard operation.time live
        provenance) := by
  rw [persistCommandInternal]
  cases hadmitted : coordinator.admitCommand decision operation.time provenance with
  | error refused => exact .kept
  | ok _ =>
      simp only
      split
      · rename_i haction
        show LiveEnds operation coordinator current
          (coordinator.applyRamOnly current decision guard live).current
        rw [applyRamOnly]
        split
        · rename_i after happlied
          exact .acted hcommand hadmitted haction happlied
        · exact .kept
        · exact .kept
        · exact .kept
      · exact leavesLive_performWrite fun planned => hplans planned hadmitted

/-- A loaded run is restored when it is terminal, else its recovery is written. -/
theorem leavesLive_loaded
    {plan : RunPersistenceRawRecord → Except RunPersistenceResult PlannedWrite}
    (hcommand : operation.command = none)
    (hplans : ∀ record planned, coordinator.loadedRecord = some record →
      plan record = .ok planned → operation.Plans coordinator current planned) :
    LeavesLive operation coordinator current
      (coordinator.unlessBorrowed current <|
        match coordinator.loadedRecord with
        | none => pure ⟨coordinator.unavailableResult, coordinator, current⟩
        | some record =>
            match current.processState.state with
            | .fault => pure (coordinator.restoreTerminal current)
            | .completed =>
                pure (coordinator.restoreCompleted current operation.time.monotonicMillis)
            | _ => coordinator.performWrite current (plan record)) := by
  apply leavesLive_unlessBorrowed
  cases hrecord : coordinator.loadedRecord with
  | none => exact .kept
  | some record =>
      have hloaded := (state_of_loadedRecord hrecord).1
      simp only
      split
      · exact .kept
      · rename_i hcompleted
        exact .restored hcommand hloaded hcompleted
      · exact leavesLive_performWrite fun planned => hplans record planned hrecord

theorem leavesLive_evaluateCurrent {time : RunCheckpointTime} :
    (coordinator.evaluateCurrentFermentingRecovery current time).Yields fun evaluation =>
      LiveEnds (.evaluateCurrentFermentingRecovery time) coordinator current
        evaluation.outcome.current := by
  rw [evaluateCurrentFermentingRecovery]
  split
  · exact .kept
  · split
    · rename_i head record _ hrecord
      refine Program.yields_bind.mpr (Program.yields_of_forall (fun reply => ?_) _)
      cases reply.bytes? with
      | none => exact .kept
      | some headBytes =>
          simp only
          split
          · refine Program.yields_bind.mpr (Program.yields_of_forall (fun reply => ?_) _)
            cases reply.bytes? with
            | none => exact .kept
            | some slotBytes =>
                simp only
                split
                · rw [evaluateConfirmedFermenting]
                  split
                  · exact .kept
                  split
                  · exact .kept
                  simp only
                  split
                  · exact .kept
                  split
                  · exact .kept
                  refine Program.yields_bind.mpr ?_
                  exact leavesLive_performWrite fun planned hplan =>
                    ⟨record, hrecord, hplan⟩
                · exact .kept
          · exact .kept
    · exact .kept

theorem leavesLive_activateFallback {time : RunCheckpointTime}
    {live : CrossRolePlausibilityContext} :
    LeavesLive (.activateFallbackRecoveredRun time live) coordinator current
      (coordinator.activateFallbackRecoveredRun current time live) := by
  apply leavesLive_unlessBorrowed
  split
  · exact .kept
  · rename_i head reference hoffer
    obtain ⟨found, hfound, hoffered⟩ := Option.bind_eq_some_iff.mp hoffer
    split at hoffered
    · rename_i hpending
      obtain ⟨reference', hreference, hpair⟩ := Option.map_eq_some_iff.mp hoffered
      cases hpair
      split
      · exact .kept
      · refine Program.yields_bind.mpr (Program.yields_of_forall (fun record => ?_) _)
        cases record with
        | none => exact .kept
        | some record =>
            exact leavesLive_performWrite fun planned hplan =>
              ⟨head, reference, record, hpending, hfound, hreference, hplan⟩
    · cases hoffered

/-- What any operation leaves, whatever the store replies. -/
theorem leavesLive_perform (operation : RunOperation) :
    LeavesLive operation coordinator current (operation.perform coordinator current) := by
  cases operation with
  | persistCommand decision time live =>
      exact leavesLive_unlessBorrowed (leavesLive_persistCommandInternal rfl
        fun planned hadmitted hplan => ⟨hadmitted, hplan⟩)
  | persistFreshStartCommand decision provenance time live =>
      exact leavesLive_unlessBorrowed (leavesLive_persistCommandInternal rfl
        fun planned hadmitted hplan => ⟨hadmitted, hplan⟩)
  | persistBorrowedCommand decision time live provenance =>
      refine leavesLive_unlessBorrowed ?_
      split
      · exact .kept
      · exact leavesLive_persistCommandInternal rfl
          fun planned hadmitted hplan => ⟨hadmitted, hplan⟩
  | persistTransition decision time live =>
      exact leavesLive_unlessBorrowed (leavesLive_performWrite fun planned hplan => hplan)
  | checkpointPeriodic time live =>
      exact leavesLive_unlessBorrowed (leavesLive_performWrite fun planned hplan => hplan)
  | persistSensorSelection mutation time live =>
      exact leavesLive_unlessBorrowed (leavesLive_performWrite fun planned hplan => hplan)
  | persistRecoveryCandidate candidate time directive =>
      exact leavesLive_unlessBorrowed (leavesLive_performWrite fun planned hplan => hplan)
  | discardAsNoActiveRun time =>
      exact leavesLive_unlessBorrowed (leavesLive_performWrite fun planned hplan => hplan)
  | activateLoadedRun time live =>
      exact leavesLive_loaded rfl fun record planned hrecord hplan => ⟨record, hrecord, hplan⟩
  | activateR1EligibleRun time live =>
      exact leavesLive_loaded rfl fun record planned hrecord hplan => ⟨record, hrecord, hplan⟩
  | evaluateCurrentFermentingRecovery time =>
      exact Program.yields_bind.mpr leavesLive_evaluateCurrent
  | activateFallbackRecoveredRun time live => exact leavesLive_activateFallback
  | reevaluateRecoveryEvaluation time live =>
      exact leavesLive_unlessBorrowed (leavesLive_performWrite fun planned hplan => hplan)
  | resolveRecoveryOutcome request time live =>
      exact leavesLive_unlessBorrowed (leavesLive_performWrite fun planned hplan => hplan)

end Fermentationsschrank

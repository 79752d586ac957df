import Fermentationsschrank.Recovery.RecoveryCandidate

/-!
# Recovery operations

The operations that turn a loaded run into a live one, and the ones that settle
an open recovery.  As with the other operations the candidate is decided first
and becomes the live state only when it has been written.
-/

namespace Fermentationsschrank

/-- A run without any recovery history in a phase that has no timer. -/
def isR1ResumeEligible (snapshot : RunPersistenceSnapshot) : Bool :=
  if snapshot.variant = .noActiveRun ∨ snapshot.processState.state = .completed ∨
      snapshot.processState.state = .fault ∨
      snapshot.processState.state = .recoveryEvaluation ∨
      snapshot.pendingRecoveryAnchor.isSome ∨
      snapshot.recoveryBootAnchorMonotonicMillis.isSome ∨
      snapshot.lastRecoveryEpisodeEvidence.isSome ∨
      snapshot.priorBootPhaseElapsed.isSome ∨
      snapshot.nominalRecoveryAdjustment.isSome ∨
      snapshot.runProgress.weightedProgress.isSome ∨
      snapshot.runProgress.basis = .partialUnknownHistory then false
  else
    match snapshot.processState.state with
    | .preheating | .cooling | .manualHolding => true
    | _ => false

inductive RecoveryDisposition
  | waitingForTrustedTime
  | currentRunRecoverable
  | recoveryRejectedOrFailClosed
  deriving DecidableEq, Repr

structure R1RecoveryEvaluation where
  disposition : RecoveryDisposition
  outcome : RunPersistenceOutcome

inductive RecoveryUncertaintyDecision
  | assumeStillValid
  | assumeThresholdCrossed
  deriving DecidableEq, Repr

structure ResolveRecoveryUncertaintyRequest where
  commandId : CommandId
  expectedRunRevision : UInt32
  expectedRecoveryEpisodeRevision : UInt32
  decision : RecoveryUncertaintyDecision
  deriving DecidableEq, Repr

/-- The bytes of a read that answered. -/
def StateStoreReadResult.bytes? : StateStoreReadResult → Option Bytes
  | .success value => some value
  | .notFound | .readError | .capacityError => none

namespace RunPersistenceCoordinator

/-! ## Shared steps -/

/-- The live state follows the write and the result is passed on. -/
def adoptCandidate (candidate : RunCommandState) (coordinator : RunPersistenceCoordinator)
    (persisted : RunPersistenceResult) : RunPersistenceOutcome :=
  ⟨persisted, coordinator, candidate⟩

/-- The same, reported as applied to the live state. -/
def adoptRecovered (candidate : RunCommandState) (coordinator : RunPersistenceCoordinator)
    (persisted : RunPersistenceResult) : RunPersistenceOutcome :=
  ⟨{ persisted with step := .ramApply, coordinatorState := coordinator.state },
    coordinator, candidate⟩

/-- The write of a recovered candidate. -/
def planRecovered (coordinator : RunPersistenceCoordinator)
    (current candidate : RunCommandState) (time : RunCheckpointTime)
    (rollbackState : RunPersistenceCoordinatorState)
    (fallbackDirective : RunPersistenceFallbackDirective := {})
    (targetSlotOverride : Option ℕ := none) : Except RunPersistenceResult SnapshotWrite := do
  let snapshot ← coordinator.projectCandidate candidate coordinator.persistedIds
    .transition time
  return {
    snapshot, time
    before := .ofState current
    mutationKind := .recovery
    targetSlotOverride, fallbackDirective, rollbackState }

/-- A terminal run is restored in the live state alone. -/
def restoreTerminal (coordinator : RunPersistenceCoordinator) (current : RunCommandState) :
    RunPersistenceOutcome :=
  let ready := coordinator.withState .ready
  ⟨ready.result .applied .ramApply, ready, current⟩

/-- A completed run only moves its timestamp into this boot. -/
def restoreCompleted (coordinator : RunPersistenceCoordinator) (current : RunCommandState)
    (monotonicMillis : UInt64) : RunPersistenceOutcome :=
  coordinator.restoreTerminal { current with
    processState := { current.processState with stateEnteredAtMillis := monotonicMillis } }

/-- The record of a loaded run, while its recovery is pending. -/
def loadedRecord (coordinator : RunPersistenceCoordinator) :
    Option RunPersistenceRawRecord :=
  if coordinator.state = .loadedActiveRun then coordinator.currentRecord else none

/-! ## Activation of a loaded run -/

def planActivation (coordinator : RunPersistenceCoordinator) (current : RunCommandState)
    (record : RunPersistenceRawRecord) (time : RunCheckpointTime)
    (live : CrossRolePlausibilityContext) : Except RunPersistenceResult PlannedWrite := do
  require current.processRunSnapshot.isSome coordinator.invalidCandidate
  let (candidate, fallbackDirective) ← orFail
    (if current.processState.state = .recoveryEvaluation then
      (refreshEpisode current time.monotonicMillis live).map (·, {})
    else
      (openEpisode current record time.monotonicMillis live).bind fun opened =>
        settleEpisode current.processState opened time live)
    coordinator.invalidCandidate
  let write ← coordinator.planRecovered current candidate time .loadedActiveRun
    fallbackDirective
  return { write, finish := adoptCandidate candidate }

def activateLoadedRun (coordinator : RunPersistenceCoordinator) (current : RunCommandState)
    (time : RunCheckpointTime) (live : CrossRolePlausibilityContext) :
    RunStoreProgram RunPersistenceOutcome :=
  coordinator.unlessBorrowed current <|
    match coordinator.loadedRecord with
    | none => pure ⟨coordinator.unavailableResult, coordinator, current⟩
    | some record =>
        match current.processState.state with
        | .fault => pure (coordinator.restoreTerminal current)
        | .completed => pure (coordinator.restoreCompleted current time.monotonicMillis)
        | _ => coordinator.performWrite current
            (coordinator.planActivation current record time live)

/-! ## Activation without a recovery history -/

def planR1Activation (coordinator : RunPersistenceCoordinator) (current : RunCommandState)
    (record : RunPersistenceRawRecord) (time : RunCheckpointTime)
    (live : Option CrossRolePlausibilityContext) :
    Except RunPersistenceResult PlannedWrite := do
  let notEligible := coordinator.result .notEligible .candidateApply
  require (isR1ResumeEligible record.snapshot &&
    decide (current.processState.state = record.snapshot.processState.state)) notEligible
  let live ← orFail live notEligible
  let rebased := { current with
    processState := rebasedRecoveredState current.processState time.monotonicMillis }
  let (permission, candidate) ← orFail (restartSensors rebased live)
    coordinator.invalidCandidate
  require (permission = .allowed) notEligible
  let write ← coordinator.planRecovered current candidate time .loadedActiveRun
  return { write, finish := adoptCandidate candidate }

def activateR1EligibleRun (coordinator : RunPersistenceCoordinator)
    (current : RunCommandState) (time : RunCheckpointTime)
    (live : Option CrossRolePlausibilityContext) : RunStoreProgram RunPersistenceOutcome :=
  coordinator.unlessBorrowed current <|
    match coordinator.loadedRecord with
    | none => pure ⟨coordinator.unavailableResult, coordinator, current⟩
    | some record =>
        match current.processState.state with
        | .fault => pure (coordinator.restoreTerminal current)
        | .completed => pure (coordinator.restoreCompleted current time.monotonicMillis)
        | _ => coordinator.performWrite current
            (coordinator.planR1Activation current record time live)

/-! ## Evaluation of a fermentation -/

def planExactFermenting (coordinator : RunPersistenceCoordinator)
    (current : RunCommandState) (record : RunPersistenceRawRecord)
    (time : RunCheckpointTime) (targetSlot : Option ℕ)
    (fallbackDirective : RunPersistenceFallbackDirective)
    (rollbackState : RunPersistenceCoordinatorState) (completionToNoActiveRun : Bool) :
    Except RunPersistenceResult PlannedWrite :=
  match exactFermentingCandidate current record time completionToNoActiveRun with
  | .error .invalid => .error coordinator.invalidCandidate
  | .error .counterOverflow =>
      .error (coordinator.result .counterOverflow .candidateApply .invalidProjection)
  | .ok candidate => do
      let write ← coordinator.planRecovered current candidate time rollbackState
        fallbackDirective targetSlot
      return { write, finish := adoptRecovered candidate }

def activateR1ExactFermentingCore (coordinator : RunPersistenceCoordinator)
    (current : RunCommandState) (record : RunPersistenceRawRecord)
    (time : RunCheckpointTime) (targetSlot : Option ℕ)
    (fallbackDirective : RunPersistenceFallbackDirective)
    (rollbackState : RunPersistenceCoordinatorState) (completionToNoActiveRun : Bool) :
    RunStoreProgram RunPersistenceOutcome :=
  coordinator.performWrite current
    (coordinator.planExactFermenting current record time targetSlot fallbackDirective
      rollbackState completionToNoActiveRun)

/-- The live state still projects to the record, under the record's own time. -/
def currentMatchesLoadedRecord (current : RunCommandState)
    (record : RunPersistenceRawRecord) (ids : List CommandId) : Bool :=
  let snapshot := record.snapshot
  (makeRunPersistenceSnapshot current ids snapshot.trigger
    ⟨snapshot.checkpointMonotonicMillis, record.utcUnixSeconds⟩
    snapshot.intervalMinutes).any fun projection =>
      match encodeRunPersistenceSnapshot projection,
          encodeRunPersistenceSnapshot snapshot with
      | .ok projected, .ok loaded => projected = loaded
      | _, _ => false

def withPendingR1 (coordinator : RunPersistenceCoordinator)
    (pendingR1CheckpointRevision : Option UInt64) (pendingR1RunRevision : Option UInt32) :
    RunPersistenceCoordinator :=
  { coordinator with pendingR1CheckpointRevision, pendingR1RunRevision }

/-- Nothing is pending after a final answer. -/
def clearPendingR1 (coordinator : RunPersistenceCoordinator) : RunPersistenceCoordinator :=
  coordinator.withPendingR1 none none

def rejectR1 (coordinator : RunPersistenceCoordinator) (current : RunCommandState)
    (status : RunPersistenceResultStatus) (step : RunPersistenceStep := .candidateApply)
    (reason : RunPersistenceTechnicalReason := .invalidProjection) :
    R1RecoveryEvaluation :=
  let cleared := coordinator.clearPendingR1
  ⟨.recoveryRejectedOrFailClosed, ⟨cleared.result status step reason, cleared, current⟩⟩

/-- The stored head still names the loaded record. -/
def headStillCurrent (coordinator : RunPersistenceCoordinator) (head : RunPersistenceHead)
    (bytes : Bytes) : Bool :=
  (decodeRunPersistenceHead bytes coordinator.epoch).any (·.current = head.current)

/-- The stored slot still holds the loaded record. -/
def slotStillCurrent (coordinator : RunPersistenceCoordinator) (current : RunCommandState)
    (reference : RunCheckpointReference) (bytes : Bytes) : Bool :=
  (decodeRunPersistenceRecord bytes coordinator.epoch).any fun record =>
    runCheckpointReferenceMatches reference record reference.slot.toNat &&
      currentMatchesLoadedRecord current record coordinator.persistedIds

/-- What the evaluation needs of the live state and the loaded record. -/
def fermentingEvaluable (coordinator : RunPersistenceCoordinator)
    (current : RunCommandState) (head : RunPersistenceHead)
    (record : RunPersistenceRawRecord) : Bool :=
  decide (current.processState.state = .fermenting ∧
    current.runProgress.basis = .knownTotal) &&
  (current.processRunSnapshot.bind (·.fermentationDurationMinutes)).isSome &&
  decide (record.checkpointRevision = head.current.checkpointRevision) &&
  currentMatchesLoadedRecord current record coordinator.persistedIds

/-- A pending evaluation belongs to one record and one run revision. -/
def pendingR1Agrees (coordinator : RunPersistenceCoordinator) (current : RunCommandState)
    (record : RunPersistenceRawRecord) : Bool :=
  coordinator.pendingR1CheckpointRevision.all fun revision =>
    revision = record.checkpointRevision ∧
      coordinator.pendingR1RunRevision = some current.runRevision

def evaluateConfirmedFermenting (coordinator : RunPersistenceCoordinator)
    (current : RunCommandState) (head : RunPersistenceHead)
    (record : RunPersistenceRawRecord) (time : RunCheckpointTime) :
    RunStoreProgram R1RecoveryEvaluation :=
  if !coordinator.fermentingEvaluable current head record then
    pure (coordinator.rejectR1 current .invalidDecision)
  else if !coordinator.pendingR1Agrees current record then
    pure (coordinator.rejectR1 current .staleDecision)
  else
    let pending := coordinator.withPendingR1 (some record.checkpointRevision)
      (some current.runRevision)
    if record.utcUnixSeconds = none then pure (pending.rejectR1 current .invalidDecision)
    else if time.utcUnixSeconds = none then
      pure ⟨.waitingForTrustedTime,
        ⟨pending.result .recoveryPending .candidateApply, pending, current⟩⟩
    else do
      let outcome ← pending.activateR1ExactFermentingCore current record time none {}
        .loadedActiveRun false
      let cleared := { outcome with coordinator := outcome.coordinator.clearPendingR1 }
      pure ⟨if outcome.result.status = .applied then .currentRunRecoverable
        else .recoveryRejectedOrFailClosed, cleared⟩

def evaluateCurrentFermentingRecovery (coordinator : RunPersistenceCoordinator)
    (current : RunCommandState) (time : RunCheckpointTime) :
    RunStoreProgram R1RecoveryEvaluation :=
  if coordinator.commandBorrowed then
    pure ⟨.recoveryRejectedOrFailClosed,
      ⟨coordinator.borrowedBusyResult, coordinator, current⟩⟩
  else
    match coordinator.currentHead, coordinator.loadedRecord with
    | some head, some record => do
        match (← readHead).bytes? with
        | none =>
            pure (coordinator.enterBlockedIndeterminate.rejectR1 current
              .persistenceIndeterminate .loadHead .storeReadError)
        | some headBytes =>
            if coordinator.headStillCurrent head headBytes then
              match (← readSlot head.current.slot.toNat).bytes? with
              | none =>
                  pure (coordinator.enterBlockedIndeterminate.rejectR1 current
                    .persistenceIndeterminate .loadCurrent .storeReadError)
              | some slotBytes =>
                  if coordinator.slotStillCurrent current head.current slotBytes then
                    coordinator.evaluateConfirmedFermenting current head record time
                  else pure (coordinator.rejectR1 current .staleDecision .loadCurrent)
            else pure (coordinator.rejectR1 current .staleDecision .loadHead)
    | _, _ =>
        pure (coordinator.rejectR1 current
          (if coordinator.state = .ready then .staleDecision else .notEligible))

/-! ## Activation of a fallback -/

/-- The fallback the head offers, with its record as it was loaded. -/
def offeredFallback (coordinator : RunPersistenceCoordinator) (head : RunPersistenceHead)
    (reference : RunCheckpointReference) (current : RunCommandState) :
    Option RunPersistenceRawRecord :=
  if head.current.slot.toNat ≤ 1 ∧ reference.slot.toNat ≤ 1 ∧
      head.current.slot ≠ reference.slot ∧ current.processRunSnapshot.isSome then
    coordinator.slotRecord reference.slot.toNat
  else none

def headStillOffers (coordinator : RunPersistenceCoordinator) (head : RunPersistenceHead)
    (reference : RunCheckpointReference) (bytes : Bytes) : Bool :=
  (decodeRunPersistenceHead bytes coordinator.epoch).any fun live =>
    live.revision = head.revision ∧ live.fallback = some reference ∧
      live.current = head.current

def slotStillOffers (coordinator : RunPersistenceCoordinator) (current : RunCommandState)
    (reference : RunCheckpointReference) (offered : RunPersistenceRawRecord)
    (bytes : Bytes) : Option RunPersistenceRawRecord :=
  (decodeRunPersistenceRecord bytes coordinator.epoch).filter fun record =>
    runCheckpointReferenceMatches reference record reference.slot.toNat &&
      currentMatchesLoadedRecord current record coordinator.persistedIds &&
      decide (record.bytes = offered.bytes)

def planFallback (coordinator : RunPersistenceCoordinator) (current : RunCommandState)
    (head : RunPersistenceHead) (reference : RunCheckpointReference)
    (record : RunPersistenceRawRecord) (time : RunCheckpointTime)
    (live : CrossRolePlausibilityContext) : Except RunPersistenceResult PlannedWrite :=
  let directive : RunPersistenceFallbackDirective :=
    { mode := .setExplicitReference, reference := some reference }
  let target := some head.current.slot.toNat
  if current.processState.state = .fermenting then do
    require record.utcUnixSeconds.isSome coordinator.invalidCandidate
    require time.utcUnixSeconds.isSome (coordinator.result .recoveryPending .candidateApply)
    coordinator.planExactFermenting current record time target directive
      .fallbackRecoveryPending true
  else do
    require (isR1ResumeEligible record.snapshot) coordinator.invalidCandidate
    let candidate := applyLiveRecoveryEvidence current live
    let write ← coordinator.planRecovered current candidate time .fallbackRecoveryPending
      directive target
    return { write, finish := adoptRecovered candidate }

/-- What the slot of the fallback still holds, once the head has been confirmed. -/
def readOffered (coordinator : RunPersistenceCoordinator) (current : RunCommandState)
    (head : RunPersistenceHead) (reference : RunCheckpointReference)
    (offered : RunPersistenceRawRecord) :
    RunStoreProgram (Option RunPersistenceRawRecord) := do
  let headReply ← readHead
  match headReply.bytes?.filter (coordinator.headStillOffers head reference) with
  | none => pure none
  | some _ =>
      let slotReply ← readSlot reference.slot.toNat
      pure (slotReply.bytes?.bind (coordinator.slotStillOffers current reference offered))

/-- Head and fallback are read again: the loaded copy is only an offer. -/
def activateOffered (coordinator : RunPersistenceCoordinator) (current : RunCommandState)
    (head : RunPersistenceHead) (reference : RunCheckpointReference)
    (offered : RunPersistenceRawRecord) (time : RunCheckpointTime)
    (live : CrossRolePlausibilityContext) : RunStoreProgram RunPersistenceOutcome := do
  match ← coordinator.readOffered current head reference offered with
  | none => pure ⟨coordinator.invalidCandidate, coordinator, current⟩
  | some record =>
      coordinator.performWrite current
        (coordinator.planFallback current head reference record time live)

def activateFallbackRecoveredRun (coordinator : RunPersistenceCoordinator)
    (current : RunCommandState) (time : RunCheckpointTime)
    (live : CrossRolePlausibilityContext) : RunStoreProgram RunPersistenceOutcome :=
  coordinator.unlessBorrowed current <|
    match coordinator.currentHead.bind fun head =>
        if coordinator.state = .fallbackRecoveryPending then
          head.fallback.map (head, ·)
        else none with
    | none => pure ⟨coordinator.unavailableResult, coordinator, current⟩
    | some (head, reference) =>
        match coordinator.offeredFallback head reference current with
        | none => pure ⟨coordinator.invalidCandidate, coordinator, current⟩
        | some offered =>
            coordinator.activateOffered current head reference offered time live

/-! ## An open product wait -/

/-- The time of an open evaluation of a product wait, and the limit it has. -/
def openWait (current : RunCommandState) (time : RunCheckpointTime) :
    Option (RecoveryTimeContext × UInt32) := do
  let anchor ← current.pendingRecoveryAnchor
  let bootAnchor ← current.recoveryBootAnchorMonotonicMillis
  let process ← current.processRunSnapshot
  let minutes ← process.maximumProductWaitMinutes
  if current.processState.state ≠ .recoveryEvaluation ∨
      anchor.originalProcessState.state ≠ .waitingForProduct then none
  else do
    let context ← deriveRecoveryTimeContext anchor time.utcUnixSeconds time.monotonicMillis
      bootAnchor
    some (context, minutes * 60)

/-- The wait goes on when the sensors permit it; else the run is given up. -/
def resumeWait (candidate : RunCommandState) (context : RecoveryTimeContext)
    (monotonicMillis : UInt64) (live : CrossRolePlausibilityContext)
    (prior : Option PriorBootPhaseElapsed) : Option RunCommandState := do
  let accumulated ← accumulatedPriorForResume context
  let prior ← prior
  let anchor ← candidate.pendingRecoveryAnchor
  let resumed ← resumePhase candidate
    (rebasedRecoveredState anchor.originalProcessState monotonicMillis) monotonicMillis
    prior
  some (closeResolvedAnchor (applyLiveRecoveryEvidence { resumed with
    priorBootPhaseElapsed := some ⟨.waitingForProduct, accumulated⟩ } live))

/-- A candidate with the directive and the messages it is written with. -/
structure WaitResolution where
  candidate : RunCommandState
  fallbackDirective : RunPersistenceFallbackDirective := {}
  messages : List ProcessMessage := []

def rejectWait (candidate : RunCommandState) (monotonicMillis : UInt64)
    (closeSegment : RunCommandState → RunCommandState) : Option WaitResolution := do
  let rejection := recoveryRejection candidate monotonicMillis
  let rejected ← transitioned candidate rejection
  some ⟨clearRejectedRun (closeSegment rejected), clearFallback, rejection.messages⟩

/-- The latest possible time counts against a wait that is still valid. -/
def latestPossiblePrior (context : RecoveryTimeContext) : Option PriorBootPhaseElapsed := do
  let upper ← context.elapsed.totalSecondsUpperBound
  let upper ← checkedToUint32 upper
  some ⟨upper, some upper⟩

def reevaluatedWait (current : RunCommandState) (context : RecoveryTimeContext)
    (verdict : RecoveryTimeVerdict) (monotonicMillis : UInt64)
    (live : Option CrossRolePlausibilityContext) : Option WaitResolution :=
  if verdict = .definitelyExpired then do
    let ended ← endExpiredWait current monotonicMillis
    some { candidate := clearActiveRunState ended, fallbackDirective := clearFallback }
  else do
    let live ← live
    let (permission, selected) ← restartSensors (updateLastKnownEvidence current live) live
    if permission ≠ .allowed then
      rejectWait selected monotonicMillis closeWeightedSegment
    else do
      let candidate ← resumeWait selected context monotonicMillis live
        (latestPossiblePrior context)
      some { candidate }

def planReevaluation (coordinator : RunPersistenceCoordinator) (current : RunCommandState)
    (time : RunCheckpointTime) (live : Option CrossRolePlausibilityContext) :
    Except RunPersistenceResult PlannedWrite := do
  let notAllowed := coordinator.result .notAllowedInState .candidateApply
  coordinator.requireReady
  let (context, limitSeconds) ← orFail (openWait current time) notAllowed
  let verdict := evaluateRecoveryTimeVerdict context.elapsed limitSeconds
  require (verdict ≠ .uncertain) (coordinator.result .notDue .candidateApply)
  require (current.runRevision ≠ maxUInt32)
    (coordinator.result .counterOverflow .candidateApply)
  let resolved ← orFail
    (reevaluatedWait current context verdict time.monotonicMillis live) notAllowed
  let planned ← coordinator.planRecoveryCandidate current
    { resolved.candidate with runRevision := resolved.candidate.runRevision + 1 } time
    resolved.fallbackDirective
  return { planned with
    finish := fun after persisted =>
      let outcome := planned.finish after persisted
      { outcome with result := { outcome.result with messages := resolved.messages } } }

def reevaluateRecoveryEvaluation (coordinator : RunPersistenceCoordinator)
    (current : RunCommandState) (time : RunCheckpointTime)
    (live : Option CrossRolePlausibilityContext) : RunStoreProgram RunPersistenceOutcome :=
  coordinator.unlessBorrowed current <|
    coordinator.performWrite current (coordinator.planReevaluation current time live)

/-! ## The user's answer -/

/-- The phase in question with what is known of its time and its limit. -/
def uncertainPhase (current : RunCommandState) (time : RunCheckpointTime) :
    Option (ProcessState × RecoveryTimeContext × UInt32) :=
  let tagged (limit : ProcessRunSnapshot → Option UInt32) : Option
      (ProcessState × RecoveryTimeContext × UInt32) := do
    let process ← current.processRunSnapshot
    let prior ← current.priorBootPhaseElapsed.filter
      (·.taggedState = current.processState.state)
    let minutes ← limit process
    some (current.processState.state, {
      basis := {}
      outage := none
      elapsed := ⟨0, prior.elapsed.lowerBoundSeconds.toUInt64,
        prior.elapsed.upperBoundSeconds.map (·.toUInt64)⟩ }, minutes * 60)
  match current.processState.state with
  | .recoveryEvaluation =>
      (openWait current time).map fun (context, limit) =>
        (.waitingForProduct, context, limit)
  | .fermenting => tagged (·.fermentationDurationMinutes)
  | .coolHolding => tagged (·.holdDurationMinutes)
  | _ => none

/-- The wait is taken as still valid; its earliest possible time counts. -/
def assumeWaitValid (current : RunCommandState) (context : RecoveryTimeContext)
    (monotonicMillis : UInt64) (live : CrossRolePlausibilityContext) :
    Option WaitResolution := do
  let (permission, selected) ← restartSensors (updateLastKnownEvidence current live) live
  if permission ≠ .allowed then rejectWait selected monotonicMillis id
  else do
    let candidate ← resumeWait (applyLiveRecoveryEvidence selected live) context
      monotonicMillis live (accumulatedPriorForResume context)
    some { candidate }

/-- The phase is taken as over; its time must be bounded. -/
def assumePhaseOver (current : RunCommandState) (phase : ProcessState)
    (monotonicMillis : UInt64) : Option WaitResolution := do
  let prior ← current.priorBootPhaseElapsed
  let _ ← prior.elapsed.upperBoundSeconds
  let process ← current.processRunSnapshot
  let completion :=
    if phase = .fermenting then
      completeTimedRun current.processState process monotonicMillis
    else completeHoldDuration current.processState monotonicMillis
  let completed ← transitioned current completion
  some {
    candidate := { closeWeightedSegment completed with
      pendingRecoveryAnchor := none
      recoveryBootAnchorMonotonicMillis := none
      priorBootPhaseElapsed := none }
    messages := completion.messages }

def resolvedUncertainty (current : RunCommandState) (phase : ProcessState)
    (context : RecoveryTimeContext) (decision : RecoveryUncertaintyDecision)
    (monotonicMillis : UInt64) (live : CrossRolePlausibilityContext) :
    Option WaitResolution :=
  match phase, decision with
  | .waitingForProduct, .assumeStillValid =>
      assumeWaitValid current context monotonicMillis live
  | .waitingForProduct, .assumeThresholdCrossed =>
      (endExpiredWait current monotonicMillis).map fun ended =>
        { candidate := clearActiveRunState ended }
  | .fermenting, .assumeThresholdCrossed | .coolHolding, .assumeThresholdCrossed =>
      assumePhaseOver current phase monotonicMillis
  | _, _ => none

def planResolution (coordinator : RunPersistenceCoordinator) (current : RunCommandState)
    (request : ResolveRecoveryUncertaintyRequest) (time : RunCheckpointTime)
    (live : CrossRolePlausibilityContext) : Except RunPersistenceResult PlannedWrite := do
  let notAllowed := coordinator.result .notAllowedInState .candidateApply
  coordinator.requireReady
  require (request.commandId ≠ 0) coordinator.invalidCandidate
  require (request.expectedRunRevision = current.runRevision ∧
    request.expectedRecoveryEpisodeRevision = current.recoveryEpisodeRevision)
    (coordinator.result .staleDecision .candidateApply)
  require (request.commandId ∉ coordinator.persistedIds)
    (coordinator.result .alreadyPersisted)
  let (phase, context, limitSeconds) ← orFail (uncertainPhase current time) notAllowed
  require (evaluateRecoveryTimeVerdict context.elapsed limitSeconds = .uncertain) notAllowed
  let resolved ← orFail (resolvedUncertainty current phase context request.decision
    time.monotonicMillis live) notAllowed
  let ids := rememberPersistedCommand coordinator.persistedIds request.commandId
  let snapshot ← coordinator.projectCandidate resolved.candidate ids .command time
  return {
    write := {
      snapshot, time
      before := .ofState current
      mutationKind := .command
      commandId := some request.commandId
      fallbackDirective := resolved.fallbackDirective
      rollbackState := .ready }
    finish := fun after persisted =>
      ⟨{ persisted with
          step := .ramApply
          durability := .changed
          coordinatorState := after.state
          messages := resolved.messages },
        { after with persistedIds := ids }, resolved.candidate⟩ }

def resolveRecoveryOutcome (coordinator : RunPersistenceCoordinator)
    (current : RunCommandState) (request : ResolveRecoveryUncertaintyRequest)
    (time : RunCheckpointTime) (live : CrossRolePlausibilityContext) :
    RunStoreProgram RunPersistenceOutcome :=
  coordinator.unlessBorrowed current <|
    coordinator.performWrite current
      (coordinator.planResolution current request time live)

end RunPersistenceCoordinator

end Fermentationsschrank

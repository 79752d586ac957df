import Fermentationsschrank.Persistence.Contract
import Fermentationsschrank.Program.ProgramDocumentCodec

/-!
# Fields of a checkpoint

The wire formats of the parts a checkpoint payload is made of.  Enumerations
are written as consecutive numbers from one; everything here can be read back
without a limit.
-/

namespace Fermentationsschrank

/-! ## Enumerations -/

def variantFormat : Format RunCheckpointVariant :=
  .tagged 1 [.programRun, .manualRun, .noActiveRun]
    (by intro value; cases value <;> decide) (by decide) (by decide)

def triggerFormat : Format RunCheckpointTrigger :=
  .tagged 1 [.command, .transition, .periodic, .sensorSelection]
    (by intro value; cases value <;> decide) (by decide) (by decide)

def provenanceFormat : Format SensorSelectionProvenance :=
  .tagged 1 [.initialSelection, .fallbackActive, .returnedToProduct, .legacyUnknown]
    (by intro value; cases value <;> decide) (by decide) (by decide)

def decisionCauseFormat : Format SensorSelectionDecisionCause :=
  .tagged 1 [.none, .startSelection, .productFailureBlock, .fallbackToAir,
      .manualUserFallback, .automaticValidatedReturn, .manualUserReturn,
      .recoveryRevalidation, .safeStateEntry, .returnValidationAborted]
    (by intro value; cases value <;> decide) (by decide) (by decide)

def sensorModeFormat : Format RunSensorMode :=
  .tagged 1 [.product, .air] (by intro value; cases value <;> decide) (by decide)
    (by decide)

def commandSourceFormat : Format CommandSource :=
  .tagged 1 [.localDisplay, .webInterface] (by intro value; cases value <;> decide)
    (by decide) (by decide)

def processKindFormat : Format ProcessKind :=
  .tagged 1 [.timed, .manualHolding] (by intro value; cases value <;> decide) (by decide)
    (by decide)

def processStateFormat : Format ProcessState :=
  .tagged 1 [.boot, .safeBoot, .standby, .preheating, .waitingForProduct,
      .reachingTarget, .qualifyingTarget, .fermenting, .cooling, .coolHolding,
      .manualHolding, .completed, .recoveryEvaluation, .fault, .serviceMode]
    (by intro value; cases value <;> decide) (by decide) (by decide)

def programSourceKindFormat : Format ProgramSourceKind :=
  .tagged 1 [.factoryCatalog, .userProgram, .manualTimed]
    (by intro value; cases value <;> decide) (by decide) (by decide)

def adjustmentEffectFormat : Format RunAdjustmentEffect :=
  .tagged 1 [.none, .restartTargetQualification,
      .continueFermentationWithoutRequalification]
    (by intro value; cases value <;> decide) (by decide) (by decide)

def changeSourceFormat : Format RunChangeSource :=
  .tagged 1 [.localDisplay, .webInterface, .recovery]
    (by intro value; cases value <;> decide) (by decide) (by decide)

def changeReasonFormat : Format RunChangeReason :=
  .tagged 1 [.userAdjustment, .recoveryCorrection]
    (by intro value; cases value <;> decide) (by decide) (by decide)

def qualityFormat : Format SensorQuality :=
  .tagged 1 [.valid, .stale, .failed] (by intro value; cases value <;> decide) (by decide)
    (by decide)

def progressBasisFormat : Format RunProgressBasis :=
  .tagged 1 [.knownTotal, .partialUnknownHistory]
    (by intro value; cases value <;> decide) (by decide) (by decide)

def weightedProgressConfidenceFormat : Format WeightedProgressConfidence :=
  .tagged 1 [.productPreferred, .airReduced] (by intro value; cases value <;> decide)
    (by decide) (by decide)

def weightedProgressCoverageFormat : Format WeightedProgressCoverage :=
  .tagged 1 [.complete, .partialUnknown] (by intro value; cases value <;> decide)
    (by decide) (by decide)

instance : variantFormat.Total := by unfold variantFormat; infer_instance
instance : triggerFormat.Total := by unfold triggerFormat; infer_instance
instance : provenanceFormat.Total := by unfold provenanceFormat; infer_instance
instance : decisionCauseFormat.Total := by unfold decisionCauseFormat; infer_instance
instance : sensorModeFormat.Total := by unfold sensorModeFormat; infer_instance
instance : commandSourceFormat.Total := by unfold commandSourceFormat; infer_instance
instance : processKindFormat.Total := by unfold processKindFormat; infer_instance
instance : processStateFormat.Total := by unfold processStateFormat; infer_instance
instance : programSourceKindFormat.Total := by
  unfold programSourceKindFormat; infer_instance
instance : adjustmentEffectFormat.Total := by
  unfold adjustmentEffectFormat; infer_instance
instance : changeSourceFormat.Total := by unfold changeSourceFormat; infer_instance
instance : changeReasonFormat.Total := by unfold changeReasonFormat; infer_instance
instance : qualityFormat.Total := by unfold qualityFormat; infer_instance
instance : progressBasisFormat.Total := by unfold progressBasisFormat; infer_instance
instance : weightedProgressConfidenceFormat.Total := by
  unfold weightedProgressConfidenceFormat; infer_instance
instance : weightedProgressCoverageFormat.Total := by
  unfold weightedProgressCoverageFormat; infer_instance
instance : completionModeFormat.Total := by unfold completionModeFormat; infer_instance

/-! ## Run data -/

def plannerParametersFormat : Format ActuatorPlannerParameters :=
  ((Format.uint64.pair <| Format.uint64.pair <| Format.uint64.pair <|
    Format.uint64.pair <| Format.uint64.pair <| Format.binary64.pair <|
    Format.uint64.pair <| Format.uint64.pair <| Format.uint64.pair Format.uint64).equiv
    ⟨fun (window, on, off, dead, cap, quote, confirm, watchdog, outer, inner) =>
        ⟨window, on, off, dead, cap, quote, confirm, watchdog, outer, inner⟩,
      fun p => (p.switchingWindowMillis, p.minimumOnMillis, p.minimumOffMillis,
        p.polarityDeadTimeMillis, p.pulseAccumulatorCapMillis,
        p.counterDirectionConfirmationQuoteThreshold,
        p.counterDirectionConfirmationDurationMillis, p.requestWatchdogMillis,
        p.outerFanPostRunMillis, p.innerFanPostRunMillis),
      fun _ => rfl, fun _ => rfl⟩).guard
    fun parameters => classifyActuatorPlannerParameters parameters = .valid

def persistedSensorSelectionFormat : Format PersistedSensorSelectionState :=
  (provenanceFormat.pair <| decisionCauseFormat.pair Format.uint32).equiv
    ⟨fun (provenance, cause, revision) => ⟨provenance, cause, revision⟩,
      fun s => (s.provenance, s.lastDecisionCause, s.lastDecisionRunRevision),
      fun _ => rfl, fun _ => rfl⟩

def manualTimedSourceFormat : Format ManualTimedRunSource :=
  (fermentationStageFormat.pair <| Format.bool.pair <| optionalUint32.pair <|
    optionalDouble.pair <| optionalUint32.pair <| optionalUint32.pair <|
    completionModeFormat.pair <| optionalDouble.pair optionalUint32).equiv
    ⟨fun (stage, preheat, wait, band, qualification, reach, mode, cooling, hold) =>
        ⟨stage, preheat, wait, ⟨band, qualification⟩, reach, ⟨mode, cooling, hold⟩⟩,
      fun s => (s.stage, s.preheatEnabled, s.maximumProductWaitMinutes,
        s.targetQualification.bandCelsius, s.targetQualification.durationMinutes,
        s.maximumTargetReachMinutes, s.completion.mode,
        s.completion.coolingTargetCelsius, s.completion.holdDurationMinutes),
      fun _ => rfl, fun _ => rfl⟩

def valuesFormat : Format EffectiveRunValues :=
  (Format.binary64.pair Format.uint32).equiv
    ⟨fun (target, remaining) => ⟨target, remaining⟩,
      fun v => (v.targetTemperatureCelsius, v.remainingDurationMinutes),
      fun _ => rfl, fun _ => rfl⟩

def revisionFormat : Format RunRevision :=
  (Format.uint32.pair <| Format.uint32.pair <| Format.uint32.pair <|
    Format.uint32.pair <| valuesFormat.pair <| valuesFormat.pair <| Format.bool.pair <|
    Format.bool.pair <| adjustmentEffectFormat.pair <| changeSourceFormat.pair <|
    changeReasonFormat.pair <| Format.uint64.pair optionalInt64).equiv
    ⟨fun (sequence, epoch, index, completed, before, after, target, remaining, effect,
          source, reason, millis, seconds) =>
        ⟨sequence, epoch, index, completed, before, after, target, remaining, effect,
          source, reason, ⟨millis, seconds⟩⟩,
      fun r => (r.sequence, r.monotonicEpoch, r.stageIndex, r.completedStageCount,
        r.before, r.after, r.targetTemperatureChanged, r.remainingDurationChanged,
        r.effect, r.source, r.reason, r.timestamp.monotonicMillis,
        r.timestamp.unixTimeSeconds),
      fun _ => rfl, fun _ => rfl⟩

def processSnapshotFields : Format ProcessRunSnapshot :=
  (processKindFormat.pair <| Format.bool.pair <| completionModeFormat.pair <|
    Format.uint32.pair <| Format.uint32.pair <| optionalUint32.pair <|
    optionalUint32.pair optionalUint32).equiv
    ⟨fun (kind, preheat, mode, qualification, reach, wait, fermentation, hold) =>
        ⟨kind, preheat, mode, qualification, reach, wait, fermentation, hold⟩,
      fun p => (p.kind, p.preheatEnabled, p.completionMode,
        p.qualificationDurationMinutes, p.maximumTargetReachMinutes,
        p.maximumProductWaitMinutes, p.fermentationDurationMinutes,
        p.holdDurationMinutes),
      fun _ => rfl, fun _ => rfl⟩

/-- The reader validates the snapshot, the writer trusts it. -/
def processSnapshotFormat : Format ProcessRunSnapshot :=
  processSnapshotFields.readGuard validateProcessRunSnapshot

def runtimeFormat : Format ProcessRuntimeState :=
  (processStateFormat.pair <| Format.uint64.pair <| Format.uint64.pair <|
    optionalUint64.pair <| Format.bool.pair Format.uint32).equiv
    ⟨fun (state, entered, reach, qualification, warning, sequence) =>
        ⟨state, entered, reach, qualification, warning, sequence⟩,
      fun p => (p.state, p.stateEnteredAtMillis, p.targetReachStartedAtMillis,
        p.qualificationValidSinceMillis, p.targetReachWarningIssued,
        p.transitionSequence),
      fun _ => rfl, fun _ => rfl⟩

/-- A manual plan without its run identity, which the payload carries once. -/
def manualFields : Format (Binary64 × RunSensorMode × Bool × Option UInt32 × Binary64 ×
    UInt32 × UInt32 × CommandSource × UInt64 × ProcessKind) :=
  Format.binary64.pair <| sensorModeFormat.pair <| Format.bool.pair <|
    optionalUint32.pair <| Format.binary64.pair <| Format.uint32.pair <|
    Format.uint32.pair <| commandSourceFormat.pair <| Format.uint64.pair processKindFormat

def writeManual (plan : ManualRunPlan) : Option Bytes :=
  manualFields.write (plan.values.targetTemperatureCelsius, plan.values.sensorMode,
    plan.values.preheatEnabled, plan.values.maximumProductWaitMinutes,
    plan.values.qualificationBandCelsius, plan.values.qualificationDurationMinutes,
    plan.values.maximumTargetReachMinutes, plan.source, plan.createdAtMonotonicMillis,
    plan.kind)

def readManual (runId : Bytes) (bytes : Bytes) : Option (ManualRunPlan × Bytes) := do
  let ((target, mode, preheat, wait, band, qualification, reach, source, created, kind),
    rest) ← manualFields.read bytes
  return (⟨⟨runId, target, mode, preheat, wait, band, qualification, reach⟩, source,
    created, kind⟩, rest)

/-! ## Recovery and progress data -/

def roleEvidenceFormat : Format RoleTemperatureEvidence :=
  (optionalDouble.pair qualityFormat).equiv
    ⟨fun (celsius, quality) => ⟨celsius, quality⟩,
      fun v => (v.filteredCelsius, v.quality), fun _ => rfl, fun _ => rfl⟩

def crossRoleEvidenceFormat : Format CrossRoleEvidence :=
  (roleEvidenceFormat.pair <| roleEvidenceFormat.pair roleEvidenceFormat).equiv
    ⟨fun (air, product, cooling) => ⟨air, product, cooling⟩,
      fun v => (v.air, v.product, v.cooling), fun _ => rfl, fun _ => rfl⟩

def firstAfterRestartEvidenceFormat : Format FirstAfterRestartEvidence :=
  (roleEvidenceFormat.optional.pair <|
    roleEvidenceFormat.optional.pair roleEvidenceFormat.optional).equiv
    ⟨fun (air, product, cooling) => ⟨air, product, cooling⟩,
      fun v => (v.air, v.product, v.cooling), fun _ => rfl, fun _ => rfl⟩

def recoveryEpisodeEvidenceFormat : Format RecoveryEpisodeEvidence :=
  (crossRoleEvidenceFormat.pair <|
    firstAfterRestartEvidenceFormat.pair optionalUint32).equiv
    ⟨fun (before, first, segment) => ⟨before, first, segment⟩,
      fun v => (v.beforeOutage, v.firstAfterRestart, v.weightedProgressSegmentId),
      fun _ => rfl, fun _ => rfl⟩

def priorBootPhaseElapsedFormat : Format PriorBootPhaseElapsed :=
  (Format.uint32.pair optionalUint32).equiv
    ⟨fun (lower, upper) => ⟨lower, upper⟩,
      fun v => (v.lowerBoundSeconds, v.upperBoundSeconds), fun _ => rfl, fun _ => rfl⟩

instance : plannerParametersFormat.Total := by
  unfold plannerParametersFormat; infer_instance
instance : persistedSensorSelectionFormat.Total := by
  unfold persistedSensorSelectionFormat; infer_instance
instance : manualTimedSourceFormat.Total := by
  unfold manualTimedSourceFormat; infer_instance
instance : valuesFormat.Total := by unfold valuesFormat; infer_instance
instance : revisionFormat.Total := by unfold revisionFormat; infer_instance
instance : processSnapshotFields.Total := by unfold processSnapshotFields; infer_instance
instance : runtimeFormat.Total := by unfold runtimeFormat; infer_instance
instance : manualFields.Total := by unfold manualFields; infer_instance
instance : roleEvidenceFormat.Total := by unfold roleEvidenceFormat; infer_instance
instance : crossRoleEvidenceFormat.Total := by
  unfold crossRoleEvidenceFormat; infer_instance
instance : firstAfterRestartEvidenceFormat.Total := by
  unfold firstAfterRestartEvidenceFormat; infer_instance
instance : recoveryEpisodeEvidenceFormat.Total := by
  unfold recoveryEpisodeEvidenceFormat; infer_instance
instance : priorBootPhaseElapsedFormat.Total := by
  unfold priorBootPhaseElapsedFormat; infer_instance

def pendingRecoveryAnchorFormat : Format PendingRecoveryAnchor :=
  (runtimeFormat.pair <| Format.uint64.pair <| optionalInt64.pair <| triggerFormat.pair <|
    Format.uint32.pair <| priorBootPhaseElapsedFormat.pair Format.uint64).equiv
    ⟨fun (state, known, utc, trigger, interval, accumulated, since) =>
        ⟨state, known, utc, trigger, interval, accumulated, since⟩,
      fun v => (v.originalProcessState, v.knownPhaseSecondsAtOriginalCheckpoint,
        v.originalCheckpointUtc, v.originalCheckpointTrigger,
        v.originalCheckpointIntervalMinutes, v.accumulatedBeforeEpisode,
        v.knownSecondsSinceOriginalCheckpoint),
      fun _ => rfl, fun _ => rfl⟩

def taggedPriorBootPhaseElapsedFormat : Format TaggedPriorBootPhaseElapsed :=
  (processStateFormat.pair priorBootPhaseElapsedFormat).equiv
    ⟨fun (tag, elapsed) => ⟨tag, elapsed⟩, fun v => (v.taggedState, v.elapsed),
      fun _ => rfl, fun _ => rfl⟩

def nominalRecoveryAdjustmentFormat : Format NominalRecoveryAdjustmentState :=
  (Format.uint32.pair <| Format.uint32.pair Format.uint32).equiv
    ⟨fun (cumulative, revision, delta) => ⟨cumulative, revision, delta⟩,
      fun v => (v.cumulativeAppliedSeconds, v.lastAppliedEpisodeRevision,
        v.lastAppliedEpisodeDelta),
      fun _ => rfl, fun _ => rfl⟩

def weightedProgressProvenanceFormat : Format WeightedProgressProvenance :=
  (sensorModeFormat.pair <| weightedProgressConfidenceFormat.pair <|
    Format.uint32.pair Format.uint32).equiv
    ⟨fun (role, confidence, model, segment) => ⟨role, confidence, model, segment⟩,
      fun v => (v.lastSourceRole, v.confidence, v.modelRevision, v.lastAppliedSegmentId),
      fun _ => rfl, fun _ => rfl⟩

instance : pendingRecoveryAnchorFormat.Total := by
  unfold pendingRecoveryAnchorFormat; infer_instance
instance : taggedPriorBootPhaseElapsedFormat.Total := by
  unfold taggedPriorBootPhaseElapsedFormat; infer_instance
instance : nominalRecoveryAdjustmentFormat.Total := by
  unfold nominalRecoveryAdjustmentFormat; infer_instance
instance : weightedProgressProvenanceFormat.Total := by
  unfold weightedProgressProvenanceFormat; infer_instance

def weightedProgressStateFormat : Format WeightedProgressState :=
  (Format.uint64.pair <| optionalUint64.pair <| weightedProgressCoverageFormat.pair
    weightedProgressProvenanceFormat.optional).equiv
    ⟨fun (lower, upper, coverage, last) => ⟨⟨lower, upper⟩, coverage, last⟩,
      fun v => (v.cumulative.lowerBoundSeconds, v.cumulative.upperBoundSeconds,
        v.coverage, v.lastApplied),
      fun _ => rfl, fun _ => rfl⟩

instance : weightedProgressStateFormat.Total := by
  unfold weightedProgressStateFormat; infer_instance

def runProgressStateFormat : Format RunProgressState :=
  (progressBasisFormat.pair <| Format.uint32.pair
    weightedProgressStateFormat.optional).equiv
    ⟨fun (basis, observed, weighted) => ⟨basis, observed, weighted⟩,
      fun v => (v.basis, v.observedRunSeconds, v.weightedProgress),
      fun _ => rfl, fun _ => rfl⟩

instance : runProgressStateFormat.Total := by
  unfold runProgressStateFormat; infer_instance

/-- The block appended to the payload with schema 3. -/
def recoveryFields : Format (Option PendingRecoveryAnchor × Option UInt64 ×
    CrossRoleEvidence × Option RecoveryEpisodeEvidence ×
    Option TaggedPriorBootPhaseElapsed × Option NominalRecoveryAdjustmentState ×
    UInt32 × RunProgressState) :=
  pendingRecoveryAnchorFormat.optional.pair <| optionalUint64.pair <|
    crossRoleEvidenceFormat.pair <| recoveryEpisodeEvidenceFormat.optional.pair <|
    taggedPriorBootPhaseElapsedFormat.optional.pair <|
    nominalRecoveryAdjustmentFormat.optional.pair <|
    Format.uint32.pair runProgressStateFormat

instance : recoveryFields.Total := by unfold recoveryFields; infer_instance

/-! ## Sizes -/

instance : valuesFormat.Bounded 12 := by unfold valuesFormat; infer_instance
instance : adjustmentEffectFormat.Bounded 1 := by
  unfold adjustmentEffectFormat; infer_instance
instance : changeSourceFormat.Bounded 1 := by unfold changeSourceFormat; infer_instance
instance : changeReasonFormat.Bounded 1 := by unfold changeReasonFormat; infer_instance
instance : revisionFormat.Bounded 62 := by unfold revisionFormat; infer_instance
instance : manualTimedSourceFormat.Bounded 54 := by
  unfold manualTimedSourceFormat; infer_instance
instance : programSourceKindFormat.Bounded 1 := by
  unfold programSourceKindFormat; infer_instance
instance : variantFormat.Bounded 1 := by unfold variantFormat; infer_instance
instance : triggerFormat.Bounded 1 := by unfold triggerFormat; infer_instance
instance : sensorModeFormat.Bounded 1 := by unfold sensorModeFormat; infer_instance
instance : provenanceFormat.Bounded 1 := by unfold provenanceFormat; infer_instance
instance : decisionCauseFormat.Bounded 1 := by unfold decisionCauseFormat; infer_instance
instance : persistedSensorSelectionFormat.Bounded 6 := by
  unfold persistedSensorSelectionFormat; infer_instance
instance : commandSourceFormat.Bounded 1 := by unfold commandSourceFormat; infer_instance
instance : processKindFormat.Bounded 1 := by unfold processKindFormat; infer_instance
instance : processStateFormat.Bounded 1 := by unfold processStateFormat; infer_instance
instance : processSnapshotFields.Bounded 26 := by
  unfold processSnapshotFields; infer_instance
instance : processSnapshotFormat.Bounded 26 := by
  unfold processSnapshotFormat; infer_instance
instance : runtimeFormat.Bounded 31 := by unfold runtimeFormat; infer_instance
instance : manualFields.Bounded 41 := by unfold manualFields; infer_instance
instance : plannerParametersFormat.Bounded 80 := by
  unfold plannerParametersFormat; infer_instance
instance : qualityFormat.Bounded 1 := by unfold qualityFormat; infer_instance
instance : progressBasisFormat.Bounded 1 := by unfold progressBasisFormat; infer_instance
instance : weightedProgressConfidenceFormat.Bounded 1 := by
  unfold weightedProgressConfidenceFormat; infer_instance
instance : weightedProgressCoverageFormat.Bounded 1 := by
  unfold weightedProgressCoverageFormat; infer_instance
instance : roleEvidenceFormat.Bounded 10 := by unfold roleEvidenceFormat; infer_instance
instance : crossRoleEvidenceFormat.Bounded 30 := by
  unfold crossRoleEvidenceFormat; infer_instance
instance : firstAfterRestartEvidenceFormat.Bounded 33 := by
  unfold firstAfterRestartEvidenceFormat; infer_instance
instance : recoveryEpisodeEvidenceFormat.Bounded 68 := by
  unfold recoveryEpisodeEvidenceFormat; infer_instance
instance : priorBootPhaseElapsedFormat.Bounded 9 := by
  unfold priorBootPhaseElapsedFormat; infer_instance
instance : pendingRecoveryAnchorFormat.Bounded 70 := by
  unfold pendingRecoveryAnchorFormat; infer_instance
instance : taggedPriorBootPhaseElapsedFormat.Bounded 10 := by
  unfold taggedPriorBootPhaseElapsedFormat; infer_instance
instance : nominalRecoveryAdjustmentFormat.Bounded 12 := by
  unfold nominalRecoveryAdjustmentFormat; infer_instance
instance : weightedProgressProvenanceFormat.Bounded 10 := by
  unfold weightedProgressProvenanceFormat; infer_instance
instance : weightedProgressStateFormat.Bounded 29 := by
  unfold weightedProgressStateFormat; infer_instance
instance : runProgressStateFormat.Bounded 35 := by
  unfold runProgressStateFormat; infer_instance
instance : recoveryFields.Bounded 242 := by unfold recoveryFields; infer_instance

/-! ## Reading what was written -/

theorem readManual_writeManual {plan : ManualRunPlan} {out : Bytes}
    (hwrite : writeManual plan = some out) (rest : Bytes) :
    readManual plan.values.runId (out ++ rest) = some (plan, rest) := by
  have hread := Format.Total.read_write hwrite rest
  simp [readManual, hread]

theorem processSnapshotFormat_read_write {snapshot : ProcessRunSnapshot} {out : Bytes}
    (hvalid : validateProcessRunSnapshot snapshot = true)
    (hwrite : processSnapshotFormat.write snapshot = some out) (rest : Bytes) :
    processSnapshotFormat.read (out ++ rest) = some (snapshot, rest) :=
  processSnapshotFormat.read_write ⟨Format.Total.readable snapshot, hvalid⟩ hwrite rest

end Fermentationsschrank

import Fermentationsschrank.Persistence.CheckpointCodec

/-!
# Checkpoints that can be encoded

A valid checkpoint always fits into the payload, and the validation bounds
every temperature of its run.  It does not look at the temperatures of the
recovery evidence, so these are what is left for the encoder to refuse.
-/

namespace Fermentationsschrank

open Format

/-! ## Temperatures of a run -/

theorem isFinite_of_inRange {value minimum maximum : Binary64}
    (h : inRange value minimum maximum = true) : value.isFinite = true := by
  simp only [inRange, Bool.and_eq_true] at h
  exact h.1.1

theorem isFinite_of_optionalInRange {value : Option Binary64} {minimum maximum : Binary64}
    (h : optionalInRange value minimum maximum = true) :
    ∀ found ∈ value, found.isFinite = true := by
  intro found hfound
  simp only [optionalInRange, Option.any_eq_true] at h
  obtain ⟨_, hvalue, hrange⟩ := h
  rw [hvalue, Option.mem_some_iff] at hfound
  subst hfound
  exact isFinite_of_inRange hrange

theorem isFinite_of_validateOptionalDouble {value : Option Binary64} {field : String}
    {minimum maximum : Binary64} {purpose : ValidationPurpose}
    (h : validateOptionalDouble value field minimum maximum purpose = []) :
    ∀ found ∈ value, found.isFinite = true := by
  intro found hfound
  rw [Option.mem_def] at hfound
  subst hfound
  by_contra hinfinite
  have hrange : inRange found minimum maximum = false := by
    simp [inRange, hinfinite]
  simp [validateOptionalDouble, validateOptional, failWhen, hrange] at h

/-- All temperatures of a valid program are finite. -/
theorem isFinite_of_validateProgram {document : ProgramDocument} {purpose : ValidationPurpose}
    (h : (validateProgram document purpose).valid = true) :
    (∀ stage ∈ document.program.fermentationStages,
      ∀ value ∈ stage.targetTemperatureCelsius, value.isFinite = true) ∧
    (∀ value ∈ document.program.targetQualification.bandCelsius, value.isFinite = true) ∧
    ∀ value ∈ document.program.completion.coolingTargetCelsius, value.isFinite = true := by
  have hversion := validateProgram_version h
  obtain ⟨stage, hstage⟩ := validateProgram_stage h
  simp only [validateProgram, hversion, ne_eq, not_true_eq_false, if_false,
    ValidationResult.valid, List.isEmpty_iff, List.append_eq_nil_iff] at h
  obtain ⟨⟨⟨⟨⟨⟨⟨⟨-, hstages⟩, hband⟩, -⟩, -⟩, -⟩, -⟩, hcooling⟩, -⟩ := h
  refine ⟨?_, isFinite_of_validateOptionalDouble hband, ?_⟩
  · intro found hfound
    rw [hstage, List.mem_singleton] at hfound
    subst hfound
    simp only [validateStages, hstage, List.append_eq_nil_iff] at hstages
    exact isFinite_of_validateOptionalDouble hstages.1
  · split at hcooling
    · exact isFinite_of_validateOptionalDouble hcooling
    · intro value hvalue
      rw [Option.mem_def] at hvalue
      simp [failWhen, hvalue] at hcooling

theorem isFinite_of_validateManualTimedRunSource {source : ManualTimedRunSource}
    (h : validateManualTimedRunSource source = true) :
    (∀ value ∈ source.stage.targetTemperatureCelsius, value.isFinite = true) ∧
    (∀ value ∈ source.targetQualification.bandCelsius, value.isFinite = true) ∧
    ∀ value ∈ source.completion.coolingTargetCelsius, value.isFinite = true := by
  simp only [validateManualTimedRunSource, Bool.and_eq_true] at h
  obtain ⟨⟨⟨⟨⟨⟨hstage, hband⟩, -⟩, -⟩, -⟩, -⟩, hcompletion⟩ := h
  refine ⟨isFinite_of_optionalInRange hstage.1, isFinite_of_optionalInRange hband.1, ?_⟩
  rw [validCompletion] at hcompletion
  split at hcompletion <;> simp only [Bool.and_eq_true] at hcompletion
  · intro value hvalue
    rw [Option.isNone_iff_eq_none.mp hcompletion.1] at hvalue
    cases hvalue
  all_goals exact isFinite_of_optionalInRange hcompletion.1

/-- A target temperature accepted for a stage of a run is finite. -/
theorem isFinite_of_validTargetTemperature {snapshot : RunProgramSnapshot}
    {stageIndex : UInt32} {target : Binary64}
    (h : validTargetTemperature snapshot stageIndex target = true) :
    target.isFinite = true := by
  simp only [validTargetTemperature, decide_eq_true_eq] at h
  obtain ⟨hindex, hsource⟩ := h
  cases hcase : snapshot.source with
  | manualTimed manual =>
      rw [hcase] at hsource
      obtain ⟨hstage, -⟩ := isFinite_of_validateManualTimedRunSource hsource
      exact hstage target rfl
  | stored document =>
      rw [hcase] at hindex hsource
      obtain ⟨hstages, -⟩ := isFinite_of_validateProgram hsource
      have hlength : stageIndex.toNat < (document.program.fermentationStages.modify
          stageIndex.toNat fun stage =>
            { stage with targetTemperatureCelsius := some target }).length := by
        rw [List.length_modify]
        exact hindex
      apply hstages _ (List.getElem_mem hlength) target
      rw [List.getElem_modify_eq]
      rfl

/-- The two target temperatures of a revision can be written. -/
def RunRevision.FiniteTargets (revision : RunRevision) : Prop :=
  revision.before.targetTemperatureCelsius.isFinite = true ∧
    revision.after.targetTemperatureCelsius.isFinite = true

theorem finiteTargets_of_validateRevisions {snapshot : RunProgramSnapshot}
    {revisions : List RunRevision} {index : ℕ} {previous : Option RunRevision}
    {current values : EffectiveRunValues} {latest : Option Int64}
    (hcurrent : current.targetTemperatureCelsius.isFinite = true)
    (h : validateRevisions snapshot index previous current latest revisions =
      some values) :
    ∀ revision ∈ revisions, revision.FiniteTargets := by
  induction revisions generalizing index previous current latest with
  | nil => simp
  | cons revision revisions ih =>
      rw [validateRevisions] at h
      split at h
      · rename_i hchecks
        obtain ⟨-, -, -, hbefore, -, hafter, -⟩ := hchecks
        simp only [equalValues, Bool.and_eq_true] at hbefore
        have htarget := Binary64.eq_of_eq hbefore.1
        have hfinite := isFinite_of_validTargetTemperature hafter
        rintro found (_ | ⟨_, hfound⟩)
        · exact ⟨htarget ▸ hcurrent, hfinite⟩
        · exact ih hfinite h found hfound
      · cases h

theorem isFinite_of_makeInitial {source : ProgramRunSource} {revision : Option UInt64}
    {values : EffectiveRunValues}
    (h : makeInitialEffectiveRunValues source revision = some values) :
    values.targetTemperatureCelsius.isFinite = true := by
  simp only [makeInitialEffectiveRunValues, Option.pure_def, Option.bind_eq_bind,
    Option.ite_none_right_eq_some, Option.bind_eq_some_iff, Option.some.injEq] at h
  obtain ⟨haccepted, stage, hstage, target, htarget, _, -, rfl⟩ := h
  cases source with
  | stored document =>
      simp only [Bool.and_eq_true] at haccepted
      obtain ⟨hstages, -⟩ := isFinite_of_validateProgram haccepted.2
      exact hstages stage (List.mem_of_mem_head? hstage) target htarget
  | manualTimed manual =>
      simp only [Bool.and_eq_true] at haccepted
      cases hstage
      exact (isFinite_of_validateManualTimedRunSource haccepted.2).1 target htarget

theorem finiteTargets_of_validate {program : RunProgramSnapshot}
    {revisions : List RunRevision} {values : EffectiveRunValues}
    (h : validateRunProgramSnapshotInto program revisions = some values) :
    ∀ revision ∈ revisions, revision.FiniteTargets := by
  simp only [validateRunProgramSnapshotInto, Option.bind_eq_bind,
    Option.ite_none_right_eq_some, Option.bind_eq_some_iff] at h
  obtain ⟨-, initial, hinitial, hchain⟩ := h
  exact finiteTargets_of_validateRevisions (isFinite_of_makeInitial hinitial) hchain

/-! ## Temperatures of the recovery evidence -/

def RoleTemperatureEvidence.Finite (evidence : RoleTemperatureEvidence) : Prop :=
  ∀ value ∈ evidence.filteredCelsius, value.isFinite = true

def CrossRoleEvidence.Finite (evidence : CrossRoleEvidence) : Prop :=
  evidence.air.Finite ∧ evidence.product.Finite ∧ evidence.cooling.Finite

def FirstAfterRestartEvidence.Finite (evidence : FirstAfterRestartEvidence) : Prop :=
  (∀ role ∈ evidence.air, role.Finite) ∧ (∀ role ∈ evidence.product, role.Finite) ∧
    ∀ role ∈ evidence.cooling, role.Finite

/-- No recorded temperature is NaN or infinite. -/
def RunPersistenceSnapshot.EvidenceFinite (snapshot : RunPersistenceSnapshot) : Prop :=
  snapshot.recoveryTemperatureEvidence.lastKnown.Finite ∧
    ∀ episode ∈ snapshot.lastRecoveryEpisodeEvidence,
      episode.beforeOutage.Finite ∧ episode.firstAfterRestart.Finite

theorem writes_optionalDouble {value : Option Binary64} :
    optionalDouble.Writes value ↔ ∀ found ∈ value, found.isFinite = true := by
  cases value with
  | none => simp
  | some found => simp

theorem writes_roleEvidence {evidence : RoleTemperatureEvidence} :
    roleEvidenceFormat.Writes evidence ↔ evidence.Finite := by
  simp [roleEvidenceFormat, qualityFormat, writes_optionalDouble,
    RoleTemperatureEvidence.Finite]

theorem writes_crossRoleEvidence {evidence : CrossRoleEvidence} :
    crossRoleEvidenceFormat.Writes evidence ↔ evidence.Finite := by
  simp [crossRoleEvidenceFormat, writes_roleEvidence, CrossRoleEvidence.Finite]

theorem writes_firstAfterRestartEvidence {evidence : FirstAfterRestartEvidence} :
    firstAfterRestartEvidenceFormat.Writes evidence ↔ evidence.Finite := by
  simp [firstAfterRestartEvidenceFormat, writes_optional_iff, writes_roleEvidence,
    FirstAfterRestartEvidence.Finite]

theorem writes_recoveryEpisodeEvidence {evidence : RecoveryEpisodeEvidence} :
    recoveryEpisodeEvidenceFormat.Writes evidence ↔
      evidence.beforeOutage.Finite ∧ evidence.firstAfterRestart.Finite := by
  simp [recoveryEpisodeEvidenceFormat, writes_crossRoleEvidence, writes_optional_iff,
    writes_firstAfterRestartEvidence]

/-! ## Writing the parts -/

@[simp]
theorem writes_runtime (value : ProcessRuntimeState) : runtimeFormat.Writes value := by
  simp [runtimeFormat, processStateFormat, writes_optional_iff]

@[simp]
theorem writes_priorBootPhaseElapsed (value : PriorBootPhaseElapsed) :
    priorBootPhaseElapsedFormat.Writes value := by
  simp [priorBootPhaseElapsedFormat, writes_optional_iff]

@[simp]
theorem writes_pendingRecoveryAnchor (value : PendingRecoveryAnchor) :
    pendingRecoveryAnchorFormat.Writes value := by
  simp [pendingRecoveryAnchorFormat, triggerFormat, writes_optional_iff]

@[simp]
theorem writes_taggedPriorBootPhaseElapsed (value : TaggedPriorBootPhaseElapsed) :
    taggedPriorBootPhaseElapsedFormat.Writes value := by
  simp [taggedPriorBootPhaseElapsedFormat, processStateFormat]

@[simp]
theorem writes_nominalRecoveryAdjustment (value : NominalRecoveryAdjustmentState) :
    nominalRecoveryAdjustmentFormat.Writes value := by
  simp [nominalRecoveryAdjustmentFormat]

@[simp]
theorem writes_runProgressState (value : RunProgressState) :
    runProgressStateFormat.Writes value := by
  simp [runProgressStateFormat, progressBasisFormat, weightedProgressStateFormat,
    weightedProgressCoverageFormat, weightedProgressProvenanceFormat, sensorModeFormat,
    weightedProgressConfidenceFormat, writes_optional_iff]

/-- Only the evidence can keep the recovery block from being written. -/
theorem writes_recoveryFields {snapshot : RunPersistenceSnapshot} :
    recoveryFields.Writes (snapshot.pendingRecoveryAnchor,
      snapshot.recoveryBootAnchorMonotonicMillis,
      snapshot.recoveryTemperatureEvidence.lastKnown,
      snapshot.lastRecoveryEpisodeEvidence, snapshot.priorBootPhaseElapsed,
      snapshot.nominalRecoveryAdjustment, snapshot.recoveryEpisodeRevision,
      snapshot.runProgress) ↔ snapshot.EvidenceFinite := by
  simp [recoveryFields, writes_optional_iff, writes_crossRoleEvidence,
    writes_recoveryEpisodeEvidence, RunPersistenceSnapshot.EvidenceFinite]

theorem writes_plannerParameters {parameters : ActuatorPlannerParameters}
    (h : classifyActuatorPlannerParameters parameters = .valid) :
    plannerParametersFormat.Writes parameters := by
  have hfinite : parameters.counterDirectionConfirmationQuoteThreshold.isFinite = true := by
    simp only [classifyActuatorPlannerParameters] at h
    split at h
    · cases h
    · split at h
      · rename_i hvalid
        obtain ⟨-, -, -, -, -, -, hfinite, -⟩ := hvalid
        exact hfinite
      · cases h
  simp [plannerParametersFormat, h, hfinite]

theorem writes_revision {revision : RunRevision} (h : revision.FiniteTargets) :
    revisionFormat.Writes revision := by
  simp [revisionFormat, valuesFormat, adjustmentEffectFormat, changeSourceFormat,
    changeReasonFormat, writes_optional_iff, h.1, h.2]

theorem writes_manualTimedSource {source : ManualTimedRunSource}
    (h : validateManualTimedRunSource source = true) :
    manualTimedSourceFormat.Writes source := by
  obtain ⟨hstage, hband, hcooling⟩ := isFinite_of_validateManualTimedRunSource h
  simpa [manualTimedSourceFormat, fermentationStageFormat, completionModeFormat,
    writes_optional_iff] using ⟨hstage, hband, hcooling⟩

/-! ## Sizes of the parts -/

instance : snapshotKind.Bounded 2 := by unfold snapshotKind; infer_instance
instance : activeSelection.Bounded 8 := by unfold activeSelection; infer_instance

theorem fits_programTexts {program : ProgramDefinition} (h : program.textsReadable) :
    Fits (programTexts.write (program.id, program.name, program.notes)) 1174 := by
  obtain ⟨hid, hname, hnotes⟩ := h
  have hidFits : Fits ((text kMaximumProgramIdBytes).write program.id) (2 + 48) :=
    fits_text hid (by decide)
  have hnameFits : Fits ((text kMaximumVisibleNameBytes).write program.name) (2 + 96) :=
    fits_text hname (by decide)
  have hnotesFits : Fits ((text kMaximumNotesBytes).write program.notes) (2 + 1024) :=
    fits_text hnotes (by decide)
  exact fits_pair hidFits (fits_pair hnameFits hnotesFits)

theorem fits_programStages {stage : FermentationStage}
    (h : ∀ value ∈ stage.targetTemperatureCelsius, value.isFinite = true) :
    Fits (writeProgramStages [stage]) 15 := by
  have hwrites : fermentationStageFormat.Writes stage := by
    simpa [fermentationStageFormat, writes_optional_iff] using h
  obtain ⟨out, hout, hlength⟩ : Fits (fermentationStageFormat.write stage) 14 :=
    hwrites.fits
  refine ⟨1 :: out, ?_, Nat.succ_le_succ hlength⟩
  simp [writeProgramStages, writeAll, hout]

/-- A valid program needs a sixth of the payload at most. -/
theorem fits_writeProgram {document : ProgramDocument} {purpose : ValidationPurpose}
    (hvalid : (validateProgram document purpose).valid = true)
    (htexts : document.program.textsReadable) : Fits (writeProgram document) 1255 := by
  obtain ⟨hstages, hband, hcooling⟩ := isFinite_of_validateProgram hvalid
  obtain ⟨stage, hstage⟩ := validateProgram_stage hvalid
  have htarget := hstages stage (by rw [hstage]; exact List.mem_singleton_self stage)
  obtain ⟨schema, hschema, _⟩ : Fits ((uint32.pair uint64).write
      (document.schema.version, document.schema.presentFields)) 12 :=
    Writes.fits (by simp)
  obtain ⟨texts, htextsOut, _⟩ := fits_programTexts htexts
  obtain ⟨stages, hstagesOut, _⟩ := fits_programStages htarget
  rw [← hstage] at hstagesOut
  have hversion := validateProgram_version hvalid
  have hflagsWrites : (programFlags document.schema.version).Writes
      ((document.program.builtIn, document.program.factoryCatalogEntry,
          document.program.resettable, document.program.userDeletable,
          document.program.installed, document.program.enabled, document.program.preheat),
        document.program.sensorPreference, document.program.productSensorFailure.policy,
        document.program.productSensorFailure.fallbackDelaySeconds,
        document.program.productSensorFailure.returnStrategy) := by
    rw [hversion]
    simp [programFlags, sensorPreferenceFormat, productSensorFailurePolicyFormat,
      returnStrategyFormat, writes_optional_iff, kReturnStrategyFieldIntroducedInSchema,
      kCurrentProgramSchemaVersion]
  have hlimitsWrites : (programLimitsAndCompletion document.schema.version).Writes
      ((document.program.targetQualification.bandCelsius,
          document.program.targetQualification.durationMinutes),
        document.program.maximumTargetReachMinutes,
        document.program.maximumProductWaitMinutes, document.program.completion.mode,
        document.program.completion.coolingTargetCelsius,
        document.program.completion.holdDurationMinutes) := by
    rw [hversion]
    simpa [programLimitsAndCompletion, completionModeFormat, writes_optional_iff,
      kProductWaitFieldIntroducedInSchema, kCurrentProgramSchemaVersion]
      using ⟨hband, hcooling⟩
  obtain ⟨flags, hflags, _⟩ := hflagsWrites.fits
  obtain ⟨limits, hlimits, _⟩ := hlimitsWrites.fits
  refine ⟨schema ++ (texts ++ (flags ++ (stages ++ limits))), ?_, ?_⟩
  · simp only [writeProgram, hschema, htextsOut, hflags, hstagesOut, hlimits,
      Option.pure_def, Option.bind_eq_bind, Option.bind_some]
  · simp only [List.length_append]
    omega

theorem fits_manualPlan {plan : ManualRunPlan} (h : validateManualRunPlan plan = true) :
    Fits (writeManual plan) 41 := by
  simp only [validateManualRunPlan, Bool.and_eq_true] at h
  obtain ⟨⟨⟨⟨⟨-, htarget⟩, hband⟩, -⟩, -⟩, -⟩ := h
  apply Writes.fits
  simp [manualFields, sensorModeFormat, commandSourceFormat, processKindFormat,
    writes_optional_iff, isFinite_of_inRange htarget, isFinite_of_inRange hband]

theorem fits_encodeProgram {document : ProgramDocument}
    (hvalid : (validateProgram document .runnable).valid = true)
    (htexts : document.program.textsReadable) :
    Fits (encodeSingleProgramDocumentPayload document).toOption 1255 := by
  obtain ⟨out, hout, hlength⟩ := fits_writeProgram hvalid htexts
  have hsize : out.length ≤ kMaximumProgramCatalogPayloadBytes :=
    hlength.trans (by decide)
  refine ⟨out, ?_, hlength⟩
  simp [encodeSingleProgramDocumentPayload, hvalid, hout, hsize, Except.toOption]

theorem fits_programSource {program : RunProgramSnapshot} {revisions : List RunRevision}
    {values : EffectiveRunValues}
    (hvalues : validateRunProgramSnapshotInto program revisions = some values)
    (htexts : ∀ document ∈ storedProgram program.source,
      document.program.textsReadable) :
    Fits (writeProgramSource program) 1257 := by
  obtain ⟨hkind, -, initial, hinitial⟩ := validRunSource_of_validate hvalues
  simp only [makeInitialEffectiveRunValues, Option.pure_def, Option.bind_eq_bind,
    Option.ite_none_right_eq_some] at hinitial
  obtain ⟨haccepted, -⟩ := hinitial
  rw [writeProgramSource]
  cases hsource : program.source with
  | manualTimed manual =>
      rw [hsource] at haccepted hkind
      simp only [Bool.and_eq_true, Option.isNone_iff_eq_none] at haccepted
      dsimp only
      rw [if_pos ⟨hkind, haccepted.1⟩]
      exact (Writes.fits (writes_manualTimedSource haccepted.2)).mono (by decide)
  | stored document =>
      rw [hsource] at haccepted hkind htexts
      simp only [Bool.and_eq_true, Option.any_eq_true] at haccepted
      obtain ⟨⟨⟨number, hnumber, -⟩, -⟩, hdocument⟩ := haccepted
      have hrevision : program.sourceProgramRevision.isSome = true := by
        rw [hnumber]
        rfl
      have hstored : program.sourceKind ≠ .manualTimed := by
        rw [hkind, programSourceKind]
        split <;> decide
      obtain ⟨payload, hpayload, hlength⟩ :=
        fits_encodeProgram hdocument (htexts document rfl)
      dsimp only
      rw [if_pos ⟨hstored, hrevision⟩, hpayload, Option.bind_some]
      exact fits_text hlength (by decide)

/-- The source of a valid run and its adjustments. -/
theorem fits_runSource {snapshot : RunPersistenceSnapshot}
    (hvalid : validateRunPersistenceSnapshot snapshot = true)
    (htexts : snapshot.textsReadable) : Fits (writeRunSource snapshot) 3252 := by
  rw [writeRunSource]
  cases hvariant : snapshot.variant with
  | programRun =>
      obtain ⟨program, values, hprogram, -, hvalues, -⟩ :=
        RunPersistenceSnapshot.programRun_of_validate hvalid hvariant
      obtain ⟨-, hcount, -⟩ := validRunSource_of_validate hvalues
      obtain ⟨kind, hkind, _⟩ : Fits (programSourceKindFormat.write program.sourceKind) 1 :=
        Writes.fits (by simp [programSourceKindFormat])
      obtain ⟨number, hnumber, _⟩ :
          Fits (optionalUint64.write program.sourceProgramRevision) 9 :=
        Writes.fits (by simp [writes_optional_iff])
      obtain ⟨source, hsource, _⟩ := fits_programSource hvalues (htexts program hprogram)
      obtain ⟨revisions, hrevisions, _⟩ :
          Fits (revisionList.write snapshot.revisions) (1 + 32 * 62) :=
        fits_counted (fun revision hrevision =>
          writes_revision (finiteTargets_of_validate hvalues revision hrevision)) hcount
      refine ⟨kind ++ (number ++ source) ++ revisions, ?_, ?_⟩
      · simp only [hprogram, writeRunProgram, hkind, hnumber, hsource, hrevisions,
          Option.pure_def, Option.bind_eq_bind, Option.bind_some]
      · simp only [List.length_append]
        omega
  | manualRun =>
      obtain ⟨plan, hplan, -, -, -, -, hmake⟩ :=
        RunPersistenceSnapshot.manualRun_of_validate hvalid hvariant
      obtain ⟨-, -, -, ⟨process, hprocess, -⟩, -⟩ :=
        RunPersistenceSnapshot.activeRun_of_validate hvalid (by rw [hvariant]; decide)
      have hplanValid : validateManualRunPlan plan = true := by
        by_contra hinvalid
        rw [makeManualProcessRunSnapshot, if_neg hinvalid, hprocess] at hmake
        cases hmake
      rw [hplan]
      exact (fits_manualPlan hplanValid).mono (by decide)
  | noActiveRun => exact ⟨[], rfl, by simp⟩

theorem fits_activeRun {snapshot : RunPersistenceSnapshot}
    (hvalid : validateRunPersistenceSnapshot snapshot = true)
    (htexts : snapshot.textsReadable) :
    Fits (unlessTombstone snapshot.variant (writeActiveRun snapshot)) 3286 := by
  rw [unlessTombstone]
  by_cases hvariant : snapshot.variant = .noActiveRun
  · rw [if_pos hvariant]
    exact ⟨[], rfl, by simp⟩
  · rw [if_neg hvariant]
    obtain ⟨-, ⟨mode, hmode⟩, -, ⟨process, hprocess, -⟩, -⟩ :=
      RunPersistenceSnapshot.activeRun_of_validate hvalid hvariant
    obtain ⟨selection, hselection, _⟩ :
        Fits (activeSelection.write (mode, snapshot.sensorSelection)) 8 :=
      Writes.fits (by simp [activeSelection, sensorModeFormat,
        persistedSensorSelectionFormat, provenanceFormat, decisionCauseFormat,
        writes_optional_iff])
    obtain ⟨source, hsource, _⟩ := fits_runSource hvalid htexts
    obtain ⟨fields, hfields, _⟩ : Fits (processSnapshotFormat.write process) 26 :=
      Writes.fits (by simp [processSnapshotFormat, processSnapshotFields,
        processKindFormat, completionModeFormat, writes_optional_iff])
    refine ⟨selection ++ (source ++ fields), ?_, ?_⟩
    · simp only [writeActiveRun, hmode, hselection, hsource, hprocess, hfields,
        Option.pure_def, Option.bind_eq_bind, Option.bind_some]
    · simp only [List.length_append]
      omega

theorem fits_commandIds {ids : List CommandId} (h : validIds ids = true) :
    Fits (writeCommandIds ids) 257 := by
  simp only [validIds, decide_eq_true_eq] at h
  obtain ⟨out, hout⟩ := exists_writeAll uint64 fun (id : CommandId) (_ : id ∈ ids) =>
    writes_uint64 id
  have hlength := writeAll_length uint64 hout
  have hcount := h.1
  rw [kMaximumPersistedRunCommandIds] at hcount
  refine ⟨UInt8.ofNat ids.length :: out, by simp [writeCommandIds, hout], ?_⟩
  rw [List.length_cons]
  omega

theorem fits_plannerParameters {snapshot : RunPersistenceSnapshot}
    (hvalid : validateRunPersistenceSnapshot snapshot = true) :
    Fits (unlessTombstone snapshot.variant (plannerParametersFormat.optional.write
      snapshot.actuatorPlannerParametersSnapshot)) 81 := by
  rw [unlessTombstone]
  by_cases hvariant : snapshot.variant = .noActiveRun
  · rw [if_pos hvariant]
    exact ⟨[], rfl, by simp⟩
  · rw [if_neg hvariant]
    obtain ⟨-, -, -, -, hparameters⟩ :=
      RunPersistenceSnapshot.activeRun_of_validate hvalid hvariant
    exact Writes.fits (writes_optional _ fun parameters hfound =>
      writes_plannerParameters (hparameters parameters hfound))

/-- Every valid checkpoint with finite evidence is written, and fits. -/
theorem fits_snapshot {snapshot : RunPersistenceSnapshot}
    (hvalid : validateRunPersistenceSnapshot snapshot = true)
    (htexts : snapshot.textsReadable) (hevidence : snapshot.EvidenceFinite) :
    Fits (writeSnapshot snapshot) 3963 := by
  have hrunId : snapshot.activeRunId.length ≤ 48 :=
    (snapshotHeader_readable hvalid).2.2.2
  obtain ⟨kind, hkind, _⟩ :
      Fits (snapshotKind.write (snapshot.variant, snapshot.trigger)) 2 :=
    Writes.fits (by simp [snapshotKind, variantFormat, triggerFormat])
  have hrunIdFits : Fits ((text kMaximumRunIdBytes).write snapshot.activeRunId) (2 + 48) :=
    fits_text hrunId (by decide)
  obtain ⟨header, hheader, _⟩ : Fits (snapshotHeader.write
      (snapshot.checkpointMonotonicMillis, snapshot.intervalMinutes,
        snapshot.runRevision, snapshot.activeRunId)) (8 + (2 + (4 + (2 + 48)))) :=
    fits_pair (Writes.fits (writes_uint64 _)) <|
      fits_pair (Writes.fits (writes_uint16 _)) <|
        fits_pair (Writes.fits (writes_uint32 _)) hrunIdFits
  obtain ⟨active, hactive, _⟩ := fits_activeRun hvalid htexts
  obtain ⟨runtime, hruntime, _⟩ : Fits (runtimeFormat.write snapshot.processState) 31 :=
    Writes.fits (writes_runtime _)
  obtain ⟨ids, hids, _⟩ :=
    fits_commandIds (RunPersistenceSnapshot.validIds_of_validate hvalid)
  obtain ⟨recovery, hrecovery, _⟩ := (writes_recoveryFields.mpr hevidence).fits
  obtain ⟨planner, hplanner, _⟩ := fits_plannerParameters hvalid
  refine ⟨kind ++ (header ++ (active ++ (runtime ++ (ids ++ (recovery ++ planner))))), ?_, ?_⟩
  · simp only [writeSnapshot, hkind, hheader, hactive, hruntime, hids, hrecovery, hplanner,
      Option.pure_def, Option.bind_eq_bind, Option.bind_some]
  · simp only [List.length_append]
    omega

end Fermentationsschrank

import Fermentationsschrank.Configuration.ConfigurationText
import Fermentationsschrank.Core.FormatWriting
import Fermentationsschrank.Program.ProgramModel

/-!
# Program document codec

The payload of a single program document, as embedded in catalogs and in run
checkpoints.  Older schemas lack the product wait (before 5) and the return
strategy (before 6); the reader migrates them to the current schema.

`decodeSingleProgramDocumentPayload_encode` is the round trip for the documents
a run may start with.
-/

namespace Fermentationsschrank

inductive ConfigurationCodecStatus
  | success
  | invalidDocument
  | unsupportedSchema
  | capacityExceeded
  | truncated
  | trailingBytes
  | invalidWireValue
  | migrationFailed
  deriving DecidableEq, Repr

def kMaximumProgramCatalogPayloadBytes : ℕ := 32768

def kProductWaitFieldIntroducedInSchema : UInt32 := 5
def kReturnStrategyFieldIntroducedInSchema : UInt32 := 6

/-! ## Fields -/

def sensorPreferenceFormat : Format SensorPreference :=
  .tagged 1 [.productIfAvailableElseAir, .airProductOptional, .productRequired, .airOnly]
    (by intro value; cases value <;> decide) (by decide) (by decide)

def productSensorFailurePolicyFormat : Format ProductSensorFailurePolicy :=
  .tagged 1 [.fallbackToAirAfterTimeout, .waitForUser, .stopToSafeState]
    (by intro value; cases value <;> decide) (by decide) (by decide)

def returnStrategyFormat : Format ReturnStrategy :=
  .tagged 1 [.remainOnAirUntilEnd, .manualReturnToProduct,
      .automaticValidatedReturnToProduct]
    (by intro value; cases value <;> decide) (by decide) (by decide)

def completionModeFormat : Format CompletionMode :=
  .tagged 1 [.finishWithoutCooling, .coolThenFinish, .coolAndHoldForDuration,
      .coolAndHoldUntilManualStop]
    (by intro value; cases value <;> decide) (by decide) (by decide)

abbrev optionalUint32 : Format (Option UInt32) := Format.uint32.optional
abbrev optionalUint64 : Format (Option UInt64) := Format.uint64.optional
abbrev optionalInt64 : Format (Option Int64) := Format.int64.optional
abbrev optionalDouble : Format (Option Binary64) := Format.binary64.optional

/-- Identifier, visible name and notes. -/
def programTexts : Format (Bytes × Bytes × Bytes) :=
  (Format.text kMaximumProgramIdBytes).pair <|
    (Format.text kMaximumVisibleNameBytes).pair (Format.text kMaximumNotesBytes)

/-- From `builtIn` to `preheat`, then the sensor policy. -/
def programFlags (schemaVersion : UInt32) :
    Format ((Bool × Bool × Bool × Bool × Bool × Bool × Bool) ×
      SensorPreference × ProductSensorFailurePolicy × Option UInt32 × ReturnStrategy) :=
  (Format.bool.pair <| Format.bool.pair <| Format.bool.pair <| Format.bool.pair <|
    Format.bool.pair <| Format.bool.pair Format.bool).pair <|
  sensorPreferenceFormat.pair <| productSensorFailurePolicyFormat.pair <|
  optionalUint32.pair <|
    .since (kReturnStrategyFieldIntroducedInSchema ≤ schemaVersion)
      .manualReturnToProduct returnStrategyFormat

def fermentationStageFormat : Format FermentationStage :=
  (optionalDouble.pair optionalUint32).equiv
    ⟨fun found => ⟨found.1, found.2⟩,
      fun stage => (stage.targetTemperatureCelsius, stage.durationMinutes),
      fun _ => rfl, fun _ => rfl⟩

def programLimitsAndCompletion (schemaVersion : UInt32) :
    Format ((Option Binary64 × Option UInt32) × Option UInt32 × Option UInt32 ×
      CompletionMode × Option Binary64 × Option UInt32) :=
  (optionalDouble.pair optionalUint32).pair <| optionalUint32.pair <|
  (Format.since (kProductWaitFieldIntroducedInSchema ≤ schemaVersion) none
    optionalUint32).pair <|
  completionModeFormat.pair <| optionalDouble.pair optionalUint32

instance : sensorPreferenceFormat.Bounded 1 := by
  unfold sensorPreferenceFormat; infer_instance
instance : productSensorFailurePolicyFormat.Bounded 1 := by
  unfold productSensorFailurePolicyFormat; infer_instance
instance : returnStrategyFormat.Bounded 1 := by unfold returnStrategyFormat; infer_instance
instance : completionModeFormat.Bounded 1 := by unfold completionModeFormat; infer_instance
instance : fermentationStageFormat.Bounded 14 := by
  unfold fermentationStageFormat; infer_instance
instance (schemaVersion : UInt32) : (programFlags schemaVersion).Bounded 15 := by
  unfold programFlags; infer_instance
instance (schemaVersion : UInt32) : (programLimitsAndCompletion schemaVersion).Bounded 39 := by
  unfold programLimitsAndCompletion; infer_instance

/-! ## Writing and reading -/

def writeProgramStages (stages : List FermentationStage) : Option Bytes :=
  if stages.length ≤ 255 then
    (fermentationStageFormat.writeAll stages).map (UInt8.ofNat stages.length :: ·)
  else none

def writeProgram (document : ProgramDocument) : Option Bytes := do
  let program := document.program
  let schema ← (Format.uint32.pair Format.uint64).write
    (document.schema.version, document.schema.presentFields)
  let texts ← programTexts.write (program.id, program.name, program.notes)
  let flags ← (programFlags document.schema.version).write
    ((program.builtIn, program.factoryCatalogEntry, program.resettable,
        program.userDeletable, program.installed, program.enabled, program.preheat),
      program.sensorPreference, program.productSensorFailure.policy,
      program.productSensorFailure.fallbackDelaySeconds,
      program.productSensorFailure.returnStrategy)
  let stages ← writeProgramStages program.fermentationStages
  let limits ← (programLimitsAndCompletion document.schema.version).write
    ((program.targetQualification.bandCelsius,
        program.targetQualification.durationMinutes),
      program.maximumTargetReachMinutes, program.maximumProductWaitMinutes,
      program.completion.mode, program.completion.coolingTargetCelsius,
      program.completion.holdDurationMinutes)
  return schema ++ (texts ++ (flags ++ (stages ++ limits)))

def readProgramSchema (bytes : Bytes) :
    Except ConfigurationCodecStatus (ProgramSchemaMetadata × Bytes) := do
  let ((version, presentFields), rest) ←
    orFail ((Format.uint32.pair Format.uint64).read bytes) .truncated
  let required ← orFail
    (if version = kMinimumMigratableProgramSchemaVersion then
      some kSchema4RequiredProgramFields
    else if version = kProductWaitFieldIntroducedInSchema then
      some kSchema5RequiredProgramFields
    else if version = kCurrentProgramSchemaVersion then
      some kCurrentRequiredProgramFields
    else none) .unsupportedSchema
  require (carriesExactly required presentFields) .invalidWireValue
  return ({ version, presentFields }, rest)

def readProgramStages (bytes : Bytes) :
    Except ConfigurationCodecStatus (List FermentationStage × Bytes) := do
  let (stageCount, rest) ← orFail (Format.uint8.read bytes) .invalidWireValue
  require (stageCount = 1) .invalidWireValue
  let (stage, rest) ← orFail (fermentationStageFormat.read rest) .truncated
  return ([stage], rest)

def readProgram (bytes : Bytes) :
    Except ConfigurationCodecStatus (ProgramDocument × Bytes) := do
  let (schema, rest) ← readProgramSchema bytes
  let ((id, name, notes), rest) ← orFail (programTexts.read rest) .truncated
  let (flags, rest) ← orFail ((programFlags schema.version).read rest) .invalidWireValue
  let ((builtIn, factoryCatalogEntry, resettable, userDeletable, installed, enabled,
    preheat), sensorPreference, policy, fallbackDelaySeconds, returnStrategy) := flags
  let (fermentationStages, rest) ← readProgramStages rest
  let (limits, rest) ←
    orFail ((programLimitsAndCompletion schema.version).read rest) .truncated
  let ((bandCelsius, durationMinutes), maximumTargetReachMinutes,
    maximumProductWaitMinutes, mode, coolingTargetCelsius, holdDurationMinutes) := limits
  let candidate : ProgramDocument := {
    schema
    program := {
      id, name, notes, builtIn, factoryCatalogEntry, resettable, userDeletable
      installed, enabled, preheat, sensorPreference
      productSensorFailure := { policy, fallbackDelaySeconds, returnStrategy }
      fermentationStages
      targetQualification := { bandCelsius, durationMinutes }
      maximumTargetReachMinutes, maximumProductWaitMinutes
      completion := { mode, coolingTargetCelsius, holdDurationMinutes } } }
  if schema.version < kCurrentProgramSchemaVersion then
    match migrateProgramToCurrentSchema candidate with
    | .ok migrated => return (migrated, rest)
    | .error _ => .error .migrationFailed
  else return (candidate, rest)

/-- The size accumulator of the source adds up exactly the bytes the writer
produces, and every failure of either is reported as exceeded capacity. -/
def encodeSingleProgramDocumentPayload (document : ProgramDocument) :
    Except ConfigurationCodecStatus Bytes := do
  require (validateProgram document .runnable).valid .invalidDocument
  let out ← orFail (writeProgram document) .capacityExceeded
  require (out.length ≤ kMaximumProgramCatalogPayloadBytes) .capacityExceeded
  return out

def decodeSingleProgramDocumentPayload (payload : Bytes) :
    Except ConfigurationCodecStatus ProgramDocument := do
  require (payload.length ≤ kMaximumProgramCatalogPayloadBytes) .capacityExceeded
  let (document, rest) ← readProgram payload
  require rest.isEmpty .trailingBytes
  return document

/-! ## Round trip -/

/-- The reader bounds the texts, the writer does not. -/
def ProgramDefinition.textsReadable (program : ProgramDefinition) : Prop :=
  program.id.length ≤ kMaximumProgramIdBytes ∧
    program.name.length ≤ kMaximumVisibleNameBytes ∧
      program.notes.length ≤ kMaximumNotesBytes

instance (program : ProgramDefinition) : Decidable program.textsReadable :=
  inferInstanceAs (Decidable (_ ∧ _ ∧ _))

theorem readable_programTexts {program : ProgramDefinition} :
    programTexts.Readable (program.id, program.name, program.notes) ↔
      program.textsReadable := Iff.rfl

theorem readable_programFlags_current {value} :
    (programFlags kCurrentProgramSchemaVersion).Readable value := by
  exact ⟨⟨trivial, trivial, trivial, trivial, trivial, trivial, trivial⟩, trivial, trivial,
    Format.Total.readable _, trivial⟩

theorem readable_programLimitsAndCompletion_current {value} :
    (programLimitsAndCompletion kCurrentProgramSchemaVersion).Readable value :=
  ⟨Format.Total.readable _, Format.Total.readable _,
    Format.readable_total optionalUint32 _, trivial,
    Format.Total.readable _, Format.Total.readable _⟩

instance : fermentationStageFormat.Total := by
  unfold fermentationStageFormat
  infer_instance

theorem readProgramStages_write {stage : FermentationStage} {out : Bytes}
    (hwrite : writeProgramStages [stage] = some out) (rest : Bytes) :
    readProgramStages (out ++ rest) = .ok ([stage], rest) := by
  rw [writeProgramStages, if_pos (by simp)] at hwrite
  simp only [Format.writeAll, Option.pure_def, Option.bind_eq_bind,
    Option.map_eq_some_iff, Option.bind_eq_some_iff, Option.some.injEq] at hwrite
  obtain ⟨_, ⟨front, hfront, _, rfl, rfl⟩, rfl⟩ := hwrite
  have hstage := Format.Total.read_write hfront
  have hone : Format.uint8.write 1 = some [1] := rfl
  have hcount : Format.uint8.read (1 :: (front ++ rest)) = some (1, front ++ rest) :=
    Format.uint8.read_write (Format.readable_uint8 1) hone _
  simp [readProgramStages, hcount, hstage]

/-- Reading a written document of the current schema. -/
theorem readProgram_writeProgram {document : ProgramDocument} {purpose : ValidationPurpose}
    {out : Bytes} (hvalid : (validateProgram document purpose).valid = true)
    (htexts : document.program.textsReadable)
    (hwrite : writeProgram document = some out) (rest : Bytes) :
    readProgram (out ++ rest) = .ok (document, rest) := by
  have hversion := validateProgram_version hvalid
  have hfields := validateProgram_presentFields hvalid
  obtain ⟨stage, hstage⟩ := validateProgram_stage hvalid
  obtain ⟨⟨version, presentFields⟩, program⟩ := document
  dsimp only at hversion hfields hstage
  subst hversion hfields
  simp only [writeProgram, Option.pure_def, Option.bind_eq_bind,
    Option.bind_eq_some_iff, Option.some.injEq] at hwrite
  obtain ⟨schema, hschema, texts, htextsOut, flags, hflags, stages, hstages, limits,
    hlimits, rfl⟩ := hwrite
  have hreadSchema := (Format.uint32.pair Format.uint64).read_write
    ⟨Format.readable_uint32 _, Format.readable_uint64 _⟩ hschema
  have hreadTexts := programTexts.read_write (readable_programTexts.mpr htexts) htextsOut
  have hreadFlags := (programFlags kCurrentProgramSchemaVersion).read_write
    readable_programFlags_current hflags
  have hreadLimits := (programLimitsAndCompletion kCurrentProgramSchemaVersion).read_write
    readable_programLimitsAndCompletion_current hlimits
  rw [hstage] at hstages
  have hreadStages := readProgramStages_write hstages
  rw [← hstage] at hreadStages
  have hschemaRead : ∀ tail, readProgramSchema (schema ++ tail) =
      .ok (⟨kCurrentProgramSchemaVersion, kCurrentRequiredProgramFields⟩, tail) := by
    intro tail
    have hexact : carriesExactly kCurrentRequiredProgramFields
      kCurrentRequiredProgramFields = true := by decide
    have hmigratable : kCurrentProgramSchemaVersion ≠
      kMinimumMigratableProgramSchemaVersion := by decide
    have hwait : kCurrentProgramSchemaVersion ≠
      kProductWaitFieldIntroducedInSchema := by decide
    simp [readProgramSchema, hreadSchema, hexact, hmigratable, hwait]
  have hcurrent : ¬ kCurrentProgramSchemaVersion < kCurrentProgramSchemaVersion := by
    decide
  simp only [List.append_assoc, readProgram, hschemaRead, ok_bind, hreadTexts,
    orFail_some, hreadFlags, hreadStages, hreadLimits, if_neg hcurrent]
  rfl

/-- A document a run may start with survives the payload unchanged, provided its
texts respect the reader's bounds. -/
theorem decodeSingleProgramDocumentPayload_encode {document : ProgramDocument}
    {out : Bytes} (htexts : document.program.textsReadable)
    (hencode : encodeSingleProgramDocumentPayload document = .ok out) :
    decodeSingleProgramDocumentPayload out = .ok document := by
  simp only [encodeSingleProgramDocumentPayload, bind_eq_ok, require_eq_ok,
    orFail_eq_ok, exists_const] at hencode
  obtain ⟨hvalid, _, hwrite, hsize, hout⟩ := hencode
  cases hout
  have hread := readProgram_writeProgram hvalid htexts hwrite []
  rw [List.append_nil] at hread
  simp [decodeSingleProgramDocumentPayload, hsize, hread]

end Fermentationsschrank

import Fermentationsschrank.Core.Fallible
import Fermentationsschrank.Storage.Binary64

/-!
# Program definitions

The fermentation program with its schema metadata and the validation every
started program passes.  Enumerations of the source are inductive types here,
so its checks for unassigned enumeration values have nothing left to reject.
-/

namespace Fermentationsschrank

abbrev ProgramFieldMask := UInt64

def kCurrentProgramSchemaVersion : UInt32 := 6
def kMinimumMigratableProgramSchemaVersion : UInt32 := 4

inductive ProgramField
  | id
  | name
  | builtIn
  | resettable
  | enabled
  | preheat
  | sensorPreference
  | productSensorFailure
  | fermentationStages
  | targetQualification
  | maximumTargetReach
  | completion
  | factoryCatalogEntry
  | userDeletable
  | installed
  | maximumProductWait
  | returnStrategy
  deriving DecidableEq, Repr

/-- The bits are numbered in the order of declaration. -/
def fieldMask (field : ProgramField) : ProgramFieldMask :=
  1 <<< UInt64.ofNat field.ctorIdx

def maskOf (fields : List ProgramField) : ProgramFieldMask :=
  fields.foldl (fun mask field => mask ||| fieldMask field) 0

def kSchema3RequiredProgramFields : ProgramFieldMask :=
  maskOf [.id, .name, .builtIn, .resettable, .enabled, .preheat, .sensorPreference,
    .productSensorFailure, .fermentationStages, .targetQualification,
    .maximumTargetReach, .completion]

def kSchema4RequiredProgramFields : ProgramFieldMask :=
  kSchema3RequiredProgramFields |||
    maskOf [.factoryCatalogEntry, .userDeletable, .installed]

def kSchema5RequiredProgramFields : ProgramFieldMask :=
  kSchema4RequiredProgramFields ||| fieldMask .maximumProductWait

def kCurrentRequiredProgramFields : ProgramFieldMask :=
  kSchema5RequiredProgramFields ||| fieldMask .returnStrategy

def kCurrentKnownProgramFields : ProgramFieldMask := kCurrentRequiredProgramFields

inductive SensorPreference
  | productIfAvailableElseAir
  | airProductOptional
  | productRequired
  | airOnly
  deriving DecidableEq, Repr

inductive ProductSensorFailurePolicy
  | fallbackToAirAfterTimeout
  | waitForUser
  | stopToSafeState
  deriving DecidableEq, Repr

inductive ReturnStrategy
  | remainOnAirUntilEnd
  | manualReturnToProduct
  | automaticValidatedReturnToProduct
  deriving DecidableEq, Repr

inductive CompletionMode
  | finishWithoutCooling
  | coolThenFinish
  | coolAndHoldForDuration
  | coolAndHoldUntilManualStop
  deriving DecidableEq, Repr

structure ProductSensorFailure where
  policy : ProductSensorFailurePolicy := .fallbackToAirAfterTimeout
  fallbackDelaySeconds : Option UInt32 := none
  returnStrategy : ReturnStrategy := .manualReturnToProduct
  deriving DecidableEq, Repr

structure FermentationStage where
  targetTemperatureCelsius : Option Binary64 := none
  durationMinutes : Option UInt32 := none
  deriving DecidableEq, Repr

structure TargetQualification where
  bandCelsius : Option Binary64 := none
  durationMinutes : Option UInt32 := none
  deriving DecidableEq, Repr

structure ProgramCompletion where
  mode : CompletionMode := .finishWithoutCooling
  coolingTargetCelsius : Option Binary64 := none
  holdDurationMinutes : Option UInt32 := none
  deriving DecidableEq, Repr

structure ProgramDefinition where
  id : Bytes := []
  name : Bytes := []
  notes : Bytes := []
  builtIn : Bool := false
  factoryCatalogEntry : Bool := false
  resettable : Bool := false
  userDeletable : Bool := true
  installed : Bool := true
  enabled : Bool := true
  preheat : Bool := false
  sensorPreference : SensorPreference := .airProductOptional
  productSensorFailure : ProductSensorFailure := {}
  fermentationStages : List FermentationStage := []
  targetQualification : TargetQualification := {}
  maximumTargetReachMinutes : Option UInt32 := none
  maximumProductWaitMinutes : Option UInt32 := none
  completion : ProgramCompletion := {}
  deriving DecidableEq, Repr

structure ProgramSchemaMetadata where
  version : UInt32 := kCurrentProgramSchemaVersion
  presentFields : ProgramFieldMask := kCurrentRequiredProgramFields
  deriving DecidableEq, Repr

structure ProgramDocument where
  schema : ProgramSchemaMetadata := {}
  program : ProgramDefinition := {}
  deriving DecidableEq, Repr

inductive ValidationPurpose
  | catalogTemplate
  | runnable
  deriving DecidableEq, Repr

inductive ValidationErrorCode
  | unsupportedSchemaVersion
  | missingRequiredField
  | unknownField
  | emptyId
  | emptyName
  | unsupportedStageCount
  | missingCommissioningValue
  | valueOutOfRange
  | invalidEnumValue
  | unexpectedValue
  | incompatibleCombination
  deriving DecidableEq, Repr

structure ValidationError where
  code : ValidationErrorCode
  field : String
  deriving DecidableEq, Repr

abbrev ValidationResult := List ValidationError

def ValidationResult.valid (result : ValidationResult) : Bool := result.isEmpty

/-! ## Limits -/

/-- `4.0` -/
def kMinimumFermentationTemperatureCelsius : Binary64 := .ofBits 0x4010000000000000
/-- `45.0` -/
def kMaximumFermentationTemperatureCelsius : Binary64 := .ofBits 0x4046800000000000
def kMinimumFermentationDurationMinutes : UInt32 := 1
def kMaximumFermentationDurationMinutes : UInt32 := 20160
/-- `0.1` -/
def kMinimumQualificationBandCelsius : Binary64 := .ofBits 0x3FB999999999999A
/-- `2.0` -/
def kMaximumQualificationBandCelsius : Binary64 := .ofBits 0x4000000000000000
def kMinimumQualificationDurationMinutes : UInt32 := 1
def kMaximumQualificationDurationMinutes : UInt32 := 4294967295
def kMinimumTargetReachMinutes : UInt32 := 1
def kMaximumTargetReachMinutes : UInt32 := 4294967295
def kMinimumProductWaitMinutes : UInt32 := 1
def kMaximumProductWaitMinutes : UInt32 := 1440
def kMinimumFallbackDelaySeconds : UInt32 := 0
def kMaximumFallbackDelaySeconds : UInt32 := 3600
/-- `4.0` -/
def kMinimumCoolingTargetCelsius : Binary64 := .ofBits 0x4010000000000000
/-- `25.0` -/
def kMaximumCoolingTargetCelsius : Binary64 := .ofBits 0x4039000000000000
def kMinimumHoldDurationMinutes : UInt32 := 1
def kMaximumHoldDurationMinutes : UInt32 := 4294967295

def inRange (value minimum maximum : Binary64) : Bool :=
  value.isFinite && minimum.le value && value.le maximum

/-! ## Validation -/

def kRequiredFields : List (ProgramField × String) :=
  [(.id, "id"),
   (.name, "name"),
   (.builtIn, "built_in"),
   (.factoryCatalogEntry, "factory_catalog_entry"),
   (.resettable, "resettable"),
   (.userDeletable, "user_deletable"),
   (.installed, "installed"),
   (.enabled, "enabled"),
   (.preheat, "defaults.preheat"),
   (.sensorPreference, "defaults.sensor_preference"),
   (.productSensorFailure, "defaults.product_sensor_failure"),
   (.fermentationStages, "defaults.fermentation_stages"),
   (.targetQualification, "defaults.target_qualification"),
   (.maximumTargetReach, "defaults.max_target_reach_min"),
   (.maximumProductWait, "defaults.max_product_wait_min"),
   (.completion, "defaults.completion"),
   (.returnStrategy, "defaults.product_sensor_failure.return_strategy")]

/-- A single error when the condition fails. -/
def failWhen (condition : Bool) (code : ValidationErrorCode) (field : String) :
    ValidationResult :=
  if condition then [⟨code, field⟩] else []

/-- An optional field: a missing value is an error only for a runnable program,
a present one must be `acceptable`. -/
def validateOptional {α : Type} (value : Option α) (field : String)
    (acceptable : α → Bool) (purpose : ValidationPurpose) : ValidationResult :=
  match value with
  | none => failWhen (purpose = .runnable) .missingCommissioningValue field
  | some value => failWhen (!acceptable value) .valueOutOfRange field

def validateOptionalDouble (value : Option Binary64) (field : String)
    (minimum maximum : Binary64) (purpose : ValidationPurpose) : ValidationResult :=
  validateOptional value field (inRange · minimum maximum) purpose

def validateOptionalDuration (value : Option UInt32) (field : String)
    (minimum maximum : UInt32) (purpose : ValidationPurpose) : ValidationResult :=
  validateOptional value field (fun value => minimum ≤ value ∧ value ≤ maximum) purpose

def hasCooling (mode : CompletionMode) : Bool := mode ≠ .finishWithoutCooling

def programUsesProductWait (program : ProgramDefinition) : Bool := program.preheat

def programUsesFallbackDelay (program : ProgramDefinition) : Bool :=
  program.productSensorFailure.policy = .fallbackToAirAfterTimeout ∧
    program.sensorPreference ≠ .airOnly

def programUsesCoolingTarget (program : ProgramDefinition) : Bool :=
  hasCooling program.completion.mode

def programUsesHoldDuration (program : ProgramDefinition) : Bool :=
  program.completion.mode = .coolAndHoldForDuration

def programHasFixedSensorFailure (program : ProgramDefinition) : Bool :=
  program.sensorPreference = .airOnly

def validateSensorFailureCrossFields (program : ProgramDefinition) : ValidationResult :=
  failWhen (program.sensorPreference = .productRequired ∧
      program.productSensorFailure.policy = .fallbackToAirAfterTimeout)
    .incompatibleCombination "defaults.product_sensor_failure.policy" ++
  failWhen (program.sensorPreference = .airOnly ∧
      program.productSensorFailure.returnStrategy ≠ .remainOnAirUntilEnd)
    .incompatibleCombination "defaults.product_sensor_failure.return_strategy" ++
  failWhen (program.sensorPreference = .airOnly ∧
      program.productSensorFailure.policy ≠ .fallbackToAirAfterTimeout)
    .incompatibleCombination "defaults.product_sensor_failure.policy" ++
  failWhen (program.sensorPreference = .airOnly ∧
      program.productSensorFailure.fallbackDelaySeconds.isSome)
    .unexpectedValue "defaults.product_sensor_failure.fallback_delay_s" ++
  failWhen (program.productSensorFailure.policy ≠ .fallbackToAirAfterTimeout ∧
      program.productSensorFailure.fallbackDelaySeconds.isSome)
    .unexpectedValue "defaults.product_sensor_failure.fallback_delay_s"

def validateStages (program : ProgramDefinition) (purpose : ValidationPurpose) :
    ValidationResult :=
  match program.fermentationStages with
  | [stage] =>
      validateOptionalDouble stage.targetTemperatureCelsius
        "defaults.fermentation_temperature_c" kMinimumFermentationTemperatureCelsius
        kMaximumFermentationTemperatureCelsius purpose ++
      validateOptionalDuration stage.durationMinutes
        "defaults.fermentation_duration_min" kMinimumFermentationDurationMinutes
        kMaximumFermentationDurationMinutes purpose
  -- Both limits of the stage count are one.
  | _ => [⟨.unsupportedStageCount, "defaults.fermentation_stages"⟩]

def validateProgram (document : ProgramDocument)
    (purpose : ValidationPurpose := .runnable) : ValidationResult :=
  if document.schema.version ≠ kCurrentProgramSchemaVersion then
    [⟨.unsupportedSchemaVersion, "schema_version"⟩]
  else
    let program := document.program
    (kRequiredFields.flatMap fun required =>
      failWhen (document.schema.presentFields &&& fieldMask required.1 = 0)
        .missingRequiredField required.2) ++
    failWhen (document.schema.presentFields &&& ~~~kCurrentKnownProgramFields ≠ 0)
      .unknownField "program" ++
    failWhen program.id.isEmpty .emptyId "id" ++
    failWhen program.name.isEmpty .emptyName "name" ++
    validateSensorFailureCrossFields program ++
    validateStages program purpose ++
    validateOptionalDouble program.targetQualification.bandCelsius
      "defaults.target_qualification_band_c" kMinimumQualificationBandCelsius
      kMaximumQualificationBandCelsius purpose ++
    validateOptionalDuration program.targetQualification.durationMinutes
      "defaults.target_qualification_duration_min" kMinimumQualificationDurationMinutes
      kMaximumQualificationDurationMinutes purpose ++
    validateOptionalDuration program.maximumTargetReachMinutes
      "defaults.max_target_reach_min" kMinimumTargetReachMinutes
      kMaximumTargetReachMinutes purpose ++
    (if programUsesProductWait program then
      validateOptionalDuration program.maximumProductWaitMinutes
        "defaults.max_product_wait_min" kMinimumProductWaitMinutes
        kMaximumProductWaitMinutes purpose
    else failWhen program.maximumProductWaitMinutes.isSome .unexpectedValue
      "defaults.max_product_wait_min") ++
    (if programUsesFallbackDelay program then
      validateOptionalDuration program.productSensorFailure.fallbackDelaySeconds
        "defaults.product_sensor_failure.fallback_delay_s" kMinimumFallbackDelaySeconds
        kMaximumFallbackDelaySeconds purpose
    else []) ++
    (if programUsesCoolingTarget program then
      validateOptionalDouble program.completion.coolingTargetCelsius
        "defaults.completion.cooling_target_c" kMinimumCoolingTargetCelsius
        kMaximumCoolingTargetCelsius purpose
    else failWhen program.completion.coolingTargetCelsius.isSome .unexpectedValue
      "defaults.completion.cooling_target_c") ++
    (if programUsesHoldDuration program then
      validateOptionalDuration program.completion.holdDurationMinutes
        "defaults.completion.hold_duration_min" kMinimumHoldDurationMinutes
        kMaximumHoldDurationMinutes purpose
    else failWhen program.completion.holdDurationMinutes.isSome .unexpectedValue
      "defaults.completion.hold_duration_min")

/-- Only a program of the current schema passes. -/
theorem validateProgram_version {document : ProgramDocument}
    {purpose : ValidationPurpose}
    (h : (validateProgram document purpose).valid = true) :
    document.schema.version = kCurrentProgramSchemaVersion := by
  by_contra hversion
  simp [validateProgram, hversion, ValidationResult.valid] at h

/-- A valid program has exactly one stage. -/
theorem validateProgram_stage {document : ProgramDocument}
    {purpose : ValidationPurpose}
    (h : (validateProgram document purpose).valid = true) :
    ∃ stage, document.program.fermentationStages = [stage] := by
  have hversion := validateProgram_version h
  simp only [validateProgram, hversion, ne_eq, not_true_eq_false, if_false,
    ValidationResult.valid, List.isEmpty_iff, List.append_eq_nil_iff] at h
  have hstages : validateStages document.program purpose = [] := by
    obtain ⟨⟨⟨⟨⟨⟨⟨⟨-, hstages⟩, -⟩, -⟩, -⟩, -⟩, -⟩, -⟩, -⟩ := h
    exact hstages
  unfold validateStages at hstages
  split at hstages
  · rename_i stage hstage
    exact ⟨stage, hstage⟩
  · cases hstages

/-! ## Schema migration -/

inductive MigrationStatus
  | notRequired
  | migrated
  | unsupportedSourceVersion
  | invalidSourceDocument
  deriving DecidableEq, Repr

def applyAirOnlySensorFailure (program : ProgramDefinition) : ProgramDefinition :=
  { program with productSensorFailure :=
      { policy := .fallbackToAirAfterTimeout
        fallbackDelaySeconds := none
        returnStrategy := .remainOnAirUntilEnd } }

/-- Exactly the `required` fields of a schema are present. -/
def carriesExactly (required presentFields : ProgramFieldMask) : Bool :=
  presentFields &&& ~~~required = 0 ∧ presentFields &&& required = required

def migrateProgramSchema4To5Into (source : ProgramDocument) :
    Except MigrationStatus ProgramDocument := do
  require (carriesExactly kSchema4RequiredProgramFields source.schema.presentFields)
    .invalidSourceDocument
  return {
    schema := { version := 5, presentFields := kSchema5RequiredProgramFields }
    program := { source.program with maximumProductWaitMinutes := none } }

def migrateProgramSchema5To6Into (source : ProgramDocument) :
    Except MigrationStatus ProgramDocument := do
  require (carriesExactly kSchema5RequiredProgramFields source.schema.presentFields)
    .invalidSourceDocument
  return {
    schema := { version := 6, presentFields := kCurrentRequiredProgramFields }
    program :=
      if programHasFixedSensorFailure source.program then
        applyAirOnlySensorFailure source.program
      else
        { source.program with productSensorFailure :=
            { source.program.productSensorFailure with
              returnStrategy := .automaticValidatedReturnToProduct } } }

/-- The loop over the schema versions takes at most two turns.  `Migrated` and
`NotRequired` are the two successful outcomes of the source. -/
def migrateProgramToCurrentSchema (source : ProgramDocument) :
    Except MigrationStatus ProgramDocument :=
  if source.schema.version = kCurrentProgramSchemaVersion then .ok source
  else if source.schema.version = 4 then do
    let schema5 ← migrateProgramSchema4To5Into source
    migrateProgramSchema5To6Into schema5
  else if source.schema.version = 5 then migrateProgramSchema5To6Into source
  else .error .unsupportedSourceVersion

/-! ## Present fields of a valid program -/

private theorem and_shift_ne_zero {mask : UInt64} {position : ℕ}
    (hposition : position < 64) (h : mask &&& 1 <<< UInt64.ofNat position ≠ 0) :
    mask.toNat.testBit position = true := by
  by_contra hbit
  apply h
  apply UInt64.toNat_inj.mp
  apply Nat.eq_of_testBit_eq
  intro index
  have hmod : position % 18446744073709551616 % 64 = position := by omega
  simp only [UInt64.toNat_and, UInt64.toNat_shiftLeft, UInt64.toNat_ofNat',
    Nat.testBit_and, UInt64.reduceToNat, Nat.zero_testBit, Nat.shiftLeft_eq,
    one_mul, Nat.testBit_mod_two_pow, Nat.testBit_two_pow, hmod]
  by_cases hindex : index = position
  · subst hindex
    simp [hbit]
  · simp [Ne.symm hindex]

private theorem and_not_eq_zero {mask known : UInt64}
    (h : mask &&& ~~~known = 0) {position : ℕ}
    (hknown : known.toNat.testBit position = false) :
    mask.toNat.testBit position = false := by
  have hword : (mask.toBitVec &&& ~~~known.toBitVec).getLsbD position = false := by
    have := congrArg UInt64.toBitVec h
    simp only [UInt64.toBitVec_and, UInt64.toBitVec_not] at this
    rw [this]
    exact BitVec.getLsbD_zero
  by_cases hposition : position < 64
  · have hclear : known.toBitVec.getLsbD position = false := hknown
    simp only [BitVec.getLsbD_and, BitVec.getLsbD_not, hposition, hclear,
      decide_true, Bool.not_false, Bool.and_true] at hword
    exact hword
  · exact Nat.testBit_lt_two_pow
      (lt_of_lt_of_le mask.toNat_lt (Nat.pow_le_pow_right (by omega) (by omega)))

private theorem flatMap_failWhen_eq_nil {α : Type} {entries : List α}
    {condition : α → Bool} {code : ValidationErrorCode} {field : α → String}
    (h : entries.flatMap (fun entry => failWhen (condition entry) code (field entry)) = [])
    {entry : α} (hentry : entry ∈ entries) : condition entry = false := by
  rw [List.flatMap_eq_nil_iff] at h
  have := h entry hentry
  cases hcondition : condition entry
  · rfl
  · simp [failWhen, hcondition] at this

/-- A valid program carries the fields of the current schema and no others. -/
theorem validateProgram_presentFields {document : ProgramDocument}
    {purpose : ValidationPurpose}
    (h : (validateProgram document purpose).valid = true) :
    document.schema.presentFields = kCurrentRequiredProgramFields := by
  have hversion := validateProgram_version h
  simp only [validateProgram, hversion, ne_eq, not_true_eq_false, if_false,
    ValidationResult.valid, List.isEmpty_iff, List.append_eq_nil_iff] at h
  obtain ⟨⟨⟨⟨⟨⟨⟨⟨⟨⟨⟨⟨hrequired, hunknown⟩, -⟩, -⟩, -⟩, -⟩, -⟩, -⟩, -⟩, -⟩, -⟩, -⟩, -⟩ := h
  have hbit : ∀ required ∈ kRequiredFields,
      document.schema.presentFields &&& fieldMask required.1 ≠ 0 := by
    intro required hmem
    simpa using flatMap_failWhen_eq_nil hrequired hmem
  have hnone : document.schema.presentFields &&& ~~~kCurrentKnownProgramFields = 0 := by
    by_contra hne
    simp [failWhen, hne] at hunknown
  have hset : ∀ position < 17,
      document.schema.presentFields.toNat.testBit position = true := by
    have hfields : ∀ position < 17,
        ∃ required ∈ kRequiredFields, required.1.ctorIdx = position := by decide
    intro position hposition
    obtain ⟨required, hmem, hindex⟩ := hfields position hposition
    refine and_shift_ne_zero (by omega) ?_
    have := hbit required hmem
    rwa [fieldMask, hindex] at this
  apply UInt64.toNat_inj.mp
  apply Nat.eq_of_testBit_eq
  intro position
  have hmask : kCurrentRequiredProgramFields.toNat = 2 ^ 17 - 1 := by decide
  rw [hmask, Nat.testBit_two_pow_sub_one]
  by_cases hposition : position < 17
  · simpa [hposition] using hset position hposition
  · have hclear : kCurrentKnownProgramFields.toNat.testBit position = false := by
      rw [show kCurrentKnownProgramFields.toNat = 2 ^ 17 - 1 by decide,
        Nat.testBit_two_pow_sub_one]
      simpa using hposition
    simpa [hposition] using and_not_eq_zero hnone hclear

end Fermentationsschrank

import Fermentationsschrank.Core.FormatSizes
import Fermentationsschrank.Persistence.CheckpointCanonical
import Fermentationsschrank.Persistence.CheckpointEncodable
import Fermentationsschrank.Program.ProgramCatalog

/-!
# Program catalog codec

The payload of a catalog is the number of its programs and one document after the other.  Its
size is added up before anything is written, and a written payload is checked program by program,
without a second catalog in memory.
-/

namespace Fermentationsschrank

/-! ## Sizes -/

/-- The accumulator of the payload size. -/
def addPayloadSize (bytes size : ℕ) : Except ConfigurationCodecStatus ℕ :=
  if size + bytes ≤ kMaximumProgramCatalogPayloadBytes then .ok (size + bytes)
  else .error .capacityExceeded

def addStringPayloadSize (value : Bytes) (size : ℕ) : Except ConfigurationCodecStatus ℕ := do
  require (value.length ≤ 65535) .invalidDocument
  let size ← addPayloadSize 2 size
  addPayloadSize value.length size

def addOptionalPayloadSize (present : Bool) (valueBytes size : ℕ) :
    Except ConfigurationCodecStatus ℕ := do
  let size ← addPayloadSize 1 size
  if present then addPayloadSize valueBytes size else return size

/-- A size that only some layouts need. -/
def addSizeSince (present : Bool) (add : ℕ → Except ConfigurationCodecStatus ℕ) (size : ℕ) :
    Except ConfigurationCodecStatus ℕ :=
  if present then add size else return size

def addProgramIdentityAndFlagsPayloadSize (document : ProgramDocument) (size : ℕ) :
    Except ConfigurationCodecStatus ℕ := do
  let program := document.program
  let size ← addPayloadSize 4 size
  let size ← addPayloadSize 8 size
  let size ← addStringPayloadSize program.id size
  let size ← addStringPayloadSize program.name size
  let size ← addStringPayloadSize program.notes size
  let size ← addPayloadSize 7 size
  let size ← addPayloadSize 2 size
  let size ←
    addOptionalPayloadSize program.productSensorFailure.fallbackDelaySeconds.isSome 4 size
  addSizeSince (kReturnStrategyFieldIntroducedInSchema ≤ document.schema.version)
    (addPayloadSize 1) size

def addStagePayloadSize (stage : FermentationStage) (size : ℕ) :
    Except ConfigurationCodecStatus ℕ := do
  let size ← addOptionalPayloadSize stage.targetTemperatureCelsius.isSome 8 size
  addOptionalPayloadSize stage.durationMinutes.isSome 4 size

def addProgramStagesAndLimitsPayloadSize (document : ProgramDocument) (size : ℕ) :
    Except ConfigurationCodecStatus ℕ := do
  let program := document.program
  require (program.fermentationStages.length ≤ 255) .invalidDocument
  let size ← addPayloadSize 1 size
  let size ← program.fermentationStages.foldlM (fun size stage => addStagePayloadSize stage size)
    size
  let size ← addOptionalPayloadSize program.targetQualification.bandCelsius.isSome 8 size
  let size ← addOptionalPayloadSize program.targetQualification.durationMinutes.isSome 4 size
  let size ← addOptionalPayloadSize program.maximumTargetReachMinutes.isSome 4 size
  addSizeSince (kProductWaitFieldIntroducedInSchema ≤ document.schema.version)
    (addOptionalPayloadSize program.maximumProductWaitMinutes.isSome 4) size

def addProgramPayloadSize (document : ProgramDocument) (size : ℕ) :
    Except ConfigurationCodecStatus ℕ := do
  let completion := document.program.completion
  let size ← addProgramIdentityAndFlagsPayloadSize document size
  let size ← addProgramStagesAndLimitsPayloadSize document size
  let size ← addPayloadSize 1 size
  let size ← addOptionalPayloadSize completion.coolingTargetCelsius.isSome 8 size
  addOptionalPayloadSize completion.holdDurationMinutes.isSome 4 size

def calculateProgramCatalogPayloadSize (catalog : ProgramCatalog) :
    Except ConfigurationCodecStatus ℕ := do
  require (catalog.programs.length ≤ 255) .invalidDocument
  let size ← addPayloadSize 1 0
  catalog.programs.foldlM (fun size document => addProgramPayloadSize document size) size

/-! ## Encoding and decoding -/

def writePrograms : List ProgramDocument → Option Bytes
  | [] => some []
  | document :: documents => do
    let front ← writeProgram document
    let back ← writePrograms documents
    return front ++ back

/-- The writer has room for exactly the size that was added up. -/
def encodeProgramCatalogPayload (catalog : ProgramCatalog) :
    Except ConfigurationCodecStatus Bytes := do
  let size ← calculateProgramCatalogPayloadSize catalog
  require (validateProgramCatalog catalog = .success) .invalidDocument
  let documents ← orFail (writePrograms catalog.programs) .capacityExceeded
  let out := UInt8.ofNat catalog.programs.length :: documents
  require (out.length = size) .capacityExceeded
  return out

def readPrograms : ℕ → Bytes → Except ConfigurationCodecStatus (List ProgramDocument × Bytes)
  | 0, bytes => return ([], bytes)
  | count + 1, bytes => do
    let (document, rest) ← readProgram bytes
    let (documents, rest) ← readPrograms count rest
    return (document :: documents, rest)

/-- The number of programs, which both readers of a payload check first. -/
def readProgramCount (schemaVersion : UInt32) (payload : Bytes) :
    Except ConfigurationCodecStatus (ℕ × Bytes) := do
  require (schemaVersion = 1) .unsupportedSchema
  require (payload.length ≤ kMaximumProgramCatalogPayloadBytes) .capacityExceeded
  let (count, rest) ← orFail (Format.uint8.read payload) .truncated
  require (kFactoryProgramCount ≤ count.toNat ∧ count.toNat ≤ kMaximumProgramCount)
    .invalidWireValue
  return (count.toNat, rest)

def decodeProgramCatalogPayload (schemaVersion : UInt32) (payload : Bytes) :
    Except ConfigurationCodecStatus ProgramCatalog := do
  let (count, rest) ← readProgramCount schemaVersion payload
  let (programs, rest) ← readPrograms count rest
  require rest.isEmpty .trailingBytes
  require (validateProgramCatalog ⟨programs⟩ = .success) .invalidDocument
  return ⟨programs⟩

/-! ## Comparing and checking without a second catalog -/

/-- Optional `double`s that are equal to the language. -/
def optionalEq : Option Binary64 → Option Binary64 → Bool
  | some left, some right => left.eq right
  | none, none => true
  | _, _ => false

def stageEquals (left right : FermentationStage) : Bool :=
  optionalEq left.targetTemperatureCelsius right.targetTemperatureCelsius &&
    left.durationMinutes = right.durationMinutes

/-- The return strategy after a failure of the sensor is not compared. -/
def ProgramDocument.configurationContentEquals (left right : ProgramDocument) : Bool :=
  let a := left.program
  let b := right.program
  left.schema = right.schema &&
  (a.id, a.name, a.notes) = (b.id, b.name, b.notes) &&
  (a.builtIn, a.factoryCatalogEntry, a.resettable, a.userDeletable, a.installed, a.enabled,
      a.preheat) =
    (b.builtIn, b.factoryCatalogEntry, b.resettable, b.userDeletable, b.installed, b.enabled,
      b.preheat) &&
  a.sensorPreference = b.sensorPreference &&
  a.productSensorFailure.policy = b.productSensorFailure.policy &&
  a.productSensorFailure.fallbackDelaySeconds = b.productSensorFailure.fallbackDelaySeconds &&
  a.fermentationStages.length = b.fermentationStages.length &&
  optionalEq a.targetQualification.bandCelsius b.targetQualification.bandCelsius &&
  a.targetQualification.durationMinutes = b.targetQualification.durationMinutes &&
  a.maximumTargetReachMinutes = b.maximumTargetReachMinutes &&
  a.maximumProductWaitMinutes = b.maximumProductWaitMinutes &&
  a.completion.mode = b.completion.mode &&
  optionalEq a.completion.coolingTargetCelsius b.completion.coolingTargetCelsius &&
  a.completion.holdDurationMinutes = b.completion.holdDurationMinutes &&
  (a.fermentationStages.zip b.fermentationStages).all fun stages => stageEquals stages.1 stages.2

def ProgramCatalog.configurationContentEquals (left right : ProgramCatalog) : Bool :=
  left.programs.length = right.programs.length &&
    (left.programs.zip right.programs).all fun documents =>
      documents.1.configurationContentEquals documents.2

local instance lawfulStreamedIdentifiers : LawfulBEq Bytes := inferInstance

def validateStreamedProgram (document : ProgramDocument) (index : ℕ)
    (factory : List ProgramDocument) (identifiers : List Bytes) : ProgramCatalogStatus :=
  let program := document.program
  let position : ProgramCatalogStatus :=
    if index < kFactoryProgramCount then
      if factory[index]?.map (·.program.id) ≠ some program.id then .invalidFactoryOrder
      else if !program.builtIn || !program.factoryCatalogEntry || !program.resettable then
        .invalidFactoryMarkers
      else .success
    else if program.builtIn || program.factoryCatalogEntry || program.resettable then
      .invalidUserMarkers
    else if factory.any fun entry => program.id = entry.program.id then .reservedFactoryId
    else .success
  if position ≠ .success then position
  else if program.id ∈ identifiers then .duplicateProgramId
  else if validateLowercaseIdentifier program.id kMinimumProgramIdBytes kMaximumProgramIdBytes ≠
      .success then .invalidProgramId
  else if validateVisibleName program.name ≠ .success then .invalidProgramName
  else if validateProgramNotes program.notes ≠ .success then .invalidProgramNotes
  else if !(validateProgram document .catalogTemplate).valid then .invalidProgramDocument
  else .success

/-- The loop over the programs of a payload.  Each is read, checked and compared with the one
that is expected in its place before the next one is read. -/
def streamPrograms (expected : Option ProgramCatalog) (index factoryCount : ℕ)
    (identifiers : List Bytes) : ℕ → Bytes → Except ConfigurationCodecStatus (ℕ × Bytes)
  | 0, bytes => return (factoryCount, bytes)
  | count + 1, bytes => do
    let (document, rest) ← readProgram bytes
    require
      (validateStreamedProgram document index FactoryProgramCatalog.programs identifiers = .success)
      .invalidDocument
    require (expected.all fun expected =>
      expected.programs[index]?.any document.configurationContentEquals) .invalidDocument
    streamPrograms expected (index + 1)
      (if document.program.factoryCatalogEntry then factoryCount + 1 else factoryCount)
      (document.program.id :: identifiers) count rest

def validateProgramCatalogPayload (schemaVersion : UInt32) (payload : Bytes)
    (expected : Option ProgramCatalog) : Except ConfigurationCodecStatus Unit := do
  let (count, rest) ← readProgramCount schemaVersion payload
  require (expected.all fun expected => expected.programs.length = count) .invalidDocument
  let (factoryCount, rest) ← streamPrograms expected 0 0 [] count rest
  require rest.isEmpty .trailingBytes
  require (factoryCount = kFactoryProgramCount) .invalidDocument

/-! ## What a size adds up to -/

section Sizes

instance : sensorPreferenceFormat.Exact 1 := by
  rw [sensorPreferenceFormat]
  infer_instance

instance : productSensorFailurePolicyFormat.Exact 1 := by
  rw [productSensorFailurePolicyFormat]
  infer_instance

instance : returnStrategyFormat.Exact 1 := by
  rw [returnStrategyFormat]
  infer_instance

instance : completionModeFormat.Exact 1 := by
  rw [completionModeFormat]
  infer_instance

variable {add f : ℕ → Except ConfigurationCodecStatus ℕ} {g : ℕ → Except ConfigurationCodecStatus ℕ}
variable {m n : ℕ} {value : Bytes} {document : ProgramDocument} {out : Bytes}

/-- A step adds so many bytes, and it does so as long as the payload has room for them. -/
def Adds (add : ℕ → Except ConfigurationCodecStatus ℕ) (bytes : ℕ) : Prop :=
  ∀ size ≤ kMaximumProgramCatalogPayloadBytes, ∀ next, add size = .ok next ↔
    size + bytes ≤ kMaximumProgramCatalogPayloadBytes ∧ next = size + bytes

theorem Adds.congr (h : Adds add m) (hsame : m = n) : Adds add n := by
  rw [← hsame]
  exact h

theorem adds_addPayloadSize (bytes : ℕ) : Adds (addPayloadSize bytes) bytes := by
  intro size _ next
  rw [addPayloadSize]
  by_cases hroom : size + bytes ≤ kMaximumProgramCatalogPayloadBytes
  · rw [if_pos hroom, Except.ok.injEq, and_iff_right hroom]
    exact eq_comm
  · rw [if_neg hroom]
    exact iff_of_false nofun fun h => hroom h.1

theorem adds_ok : Adds .ok 0 := by
  intro size hsize next
  rw [Except.ok.injEq, Nat.add_zero, and_iff_right hsize]
  exact eq_comm

theorem Adds.bind (hf : Adds f m) (hg : Adds g n) : Adds (fun size => f size >>= g) (m + n) := by
  intro size hsize next
  rw [bind_eq_ok]
  constructor
  · rintro ⟨middle, hmiddle, hnext⟩
    obtain ⟨hroom, rfl⟩ := (hf size hsize middle).mp hmiddle
    obtain ⟨hroom', rfl⟩ := (hg _ hroom next).mp hnext
    exact ⟨by omega, by omega⟩
  · rintro ⟨hroom, rfl⟩
    have hmiddle : size + m ≤ kMaximumProgramCatalogPayloadBytes := by omega
    exact ⟨size + m, (hf size hsize _).mpr ⟨hmiddle, rfl⟩,
      (hg _ hmiddle _).mpr ⟨by omega, by omega⟩⟩

theorem Adds.require {condition : Bool} {failure : ConfigurationCodecStatus} (hf : Adds f n)
    (hcondition : condition = true) :
    Adds (fun size => Fermentationsschrank.require condition failure >>= fun _ => f size) n := by
  rw [hcondition]
  exact hf

theorem adds_string (h : value.length ≤ 65535) :
    Adds (addStringPayloadSize value) (2 + value.length) :=
  ((adds_addPayloadSize 2).bind (adds_addPayloadSize value.length)).require (decide_eq_true h)

theorem adds_optional {α : Type} {bytes : ℕ} (format : Format α) [format.Exact bytes]
    {value : Option α} (h : format.optional.write value = some out) :
    Adds (addOptionalPayloadSize value.isSome bytes) out.length := by
  rw [format.optional_length h]
  apply (adds_addPayloadSize 1).bind
  cases value with
  | none => exact adds_ok
  | some _ => exact adds_addPayloadSize bytes

/-- A step that only some layouts take adds what the field of these layouts needs. -/
theorem adds_since {α : Type} {present : Bool} {absent value : α} {format : Format α}
    (h : (Format.since present absent format).write value = some out)
    (hadd : ∀ back, format.write value = some back → Adds add back.length) :
    Adds (addSizeSince present add) out.length := by
  cases present with
  | true => exact hadd out h
  | false =>
      cases h
      exact adds_ok

theorem text_limit {limit : ℕ} (h : (Format.text limit).write value = some out) :
    value.length ≤ 65535 := by
  simp only [Format.text, Option.ite_none_right_eq_some] at h
  exact h.1

theorem adds_text {limit : ℕ} (h : (Format.text limit).write value = some out) :
    Adds (addStringPayloadSize value) out.length := by
  rw [Format.text_length h]
  exact adds_string (text_limit h)

theorem adds_identityAndFlags {texts flags : Bytes}
    (htexts : programTexts.write
      (document.program.id, document.program.name, document.program.notes) = some texts)
    (hflags : (programFlags document.schema.version).write
      ((document.program.builtIn, document.program.factoryCatalogEntry,
          document.program.resettable, document.program.userDeletable,
          document.program.installed, document.program.enabled, document.program.preheat),
        document.program.sensorPreference, document.program.productSensorFailure.policy,
        document.program.productSensorFailure.fallbackDelaySeconds,
        document.program.productSensorFailure.returnStrategy) = some flags) :
    Adds (addProgramIdentityAndFlagsPayloadSize document)
      (12 + (texts.length + flags.length)) := by
  obtain ⟨id, rest, hid, hrest, rfl⟩ := Format.pair_write_eq_some.mp htexts
  obtain ⟨name, notes, hname, hnotes, rfl⟩ := Format.pair_write_eq_some.mp hrest
  obtain ⟨bools, policies, hbools, hpolicies, rfl⟩ := Format.pair_write_eq_some.mp hflags
  obtain ⟨preference, failures, hpreference, hfailures, rfl⟩ :=
    Format.pair_write_eq_some.mp hpolicies
  obtain ⟨policy, others, hpolicy, hothers, rfl⟩ := Format.pair_write_eq_some.mp hfailures
  obtain ⟨delay, strategy, hdelay, hstrategy, rfl⟩ := Format.pair_write_eq_some.mp hothers
  have hseven : bools.length = 7 := Format.length_eq hbools
  have hone : preference.length = 1 := Format.length_eq hpreference
  have htwo : policy.length = 1 := Format.length_eq hpolicy
  have hadds : Adds (addProgramIdentityAndFlagsPayloadSize document) _ :=
    (adds_addPayloadSize 4).bind <| (adds_addPayloadSize 8).bind <| (adds_text hid).bind <|
      (adds_text hname).bind <| (adds_text hnotes).bind <| (adds_addPayloadSize 7).bind <|
      (adds_addPayloadSize 2).bind <| (adds_optional _ hdelay).bind <|
      adds_since hstrategy fun back hback => by
        rw [Format.length_eq hback]
        exact adds_addPayloadSize 1
  apply hadds.congr
  simp only [List.length_append, hseven, hone, htwo]
  omega

theorem adds_stage {stage : FermentationStage}
    (h : fermentationStageFormat.write stage = some out) :
    Adds (addStagePayloadSize stage) out.length := by
  obtain ⟨target, duration, htarget, hduration, rfl⟩ := Format.pair_write_eq_some.mp h
  rw [List.length_append]
  exact (adds_optional _ htarget).bind (adds_optional _ hduration)

theorem adds_stages {stages : List FermentationStage}
    (h : fermentationStageFormat.writeAll stages = some out) :
    Adds (fun size => stages.foldlM (fun size stage => addStagePayloadSize stage size) size)
      out.length := by
  induction stages generalizing out with
  | nil =>
      cases h
      exact adds_ok
  | cons stage stages ih =>
      simp only [Format.writeAll, Option.pure_def, Option.bind_eq_bind, Option.bind_eq_some_iff,
        Option.some.injEq] at h
      obtain ⟨front, hfront, back, hback, rfl⟩ := h
      rw [List.length_append]
      exact (adds_stage hfront).bind (ih hback)

theorem adds_stagesAndLimits {stages limits : Bytes}
    (hstages : writeProgramStages document.program.fermentationStages = some stages)
    (hlimits : (programLimitsAndCompletion document.schema.version).write
      ((document.program.targetQualification.bandCelsius,
          document.program.targetQualification.durationMinutes),
        document.program.maximumTargetReachMinutes, document.program.maximumProductWaitMinutes,
        document.program.completion.mode, document.program.completion.coolingTargetCelsius,
        document.program.completion.holdDurationMinutes) = some limits) :
    Adds (fun size => addProgramStagesAndLimitsPayloadSize document size >>= fun size =>
        addPayloadSize 1 size >>= fun size =>
        addOptionalPayloadSize document.program.completion.coolingTargetCelsius.isSome 8 size >>=
          addOptionalPayloadSize document.program.completion.holdDurationMinutes.isSome 4)
      (stages.length + limits.length) := by
  rw [writeProgramStages, Option.ite_none_right_eq_some, Option.map_eq_some_iff] at hstages
  obtain ⟨hcount, front, hfront, rfl⟩ := hstages
  obtain ⟨qualification, rest, hqualification, hrest, rfl⟩ := Format.pair_write_eq_some.mp hlimits
  obtain ⟨band, duration, hband, hduration, rfl⟩ := Format.pair_write_eq_some.mp hqualification
  obtain ⟨reach, behindReach, hreach, hbehindReach, rfl⟩ := Format.pair_write_eq_some.mp hrest
  obtain ⟨wait, behindWait, hwait, hbehindWait, rfl⟩ :=
    Format.pair_write_eq_some.mp hbehindReach
  obtain ⟨mode, behindMode, hmode, hbehindMode, rfl⟩ :=
    Format.pair_write_eq_some.mp hbehindWait
  obtain ⟨cooling, hold, hcooling, hhold, rfl⟩ := Format.pair_write_eq_some.mp hbehindMode
  have hone : mode.length = 1 := Format.length_eq hmode
  have hlimits : Adds (addProgramStagesAndLimitsPayloadSize document) _ :=
    Adds.require ((adds_addPayloadSize 1).bind <| (adds_stages hfront).bind <|
      (adds_optional _ hband).bind <| (adds_optional _ hduration).bind <|
      (adds_optional _ hreach).bind <|
      adds_since hwait fun back hback => adds_optional _ hback) (decide_eq_true hcount)
  have hadds := hlimits.bind <| (adds_addPayloadSize 1).bind <|
    (adds_optional _ hcooling).bind (adds_optional _ hhold)
  apply hadds.congr
  simp only [List.length_append, List.length_cons, hone]
  omega

/-- The accumulator adds up what the writer writes. -/
theorem adds_program (h : writeProgram document = some out) :
    Adds (addProgramPayloadSize document) out.length := by
  simp only [writeProgram, Option.pure_def, Option.bind_eq_bind, Option.bind_eq_some_iff,
    Option.some.injEq] at h
  obtain ⟨schema, hschema, texts, htexts, flags, hflags, stages, hstages, limits, hlimits, rfl⟩ :=
    h
  have htwelve : schema.length = 12 := Format.length_eq hschema
  have hadds : Adds (addProgramPayloadSize document) _ :=
    (adds_identityAndFlags htexts hflags).bind (adds_stagesAndLimits hstages hlimits)
  apply hadds.congr
  simp only [List.length_append, htwelve]
  omega

theorem adds_programs {documents : List ProgramDocument} (h : writePrograms documents = some out) :
    Adds (fun size =>
        documents.foldlM (fun size document => addProgramPayloadSize document size) size)
      out.length := by
  induction documents generalizing out with
  | nil =>
      cases h
      exact adds_ok
  | cons document documents ih =>
      simp only [writePrograms, Option.pure_def, Option.bind_eq_bind, Option.bind_eq_some_iff,
        Option.some.injEq] at h
      obtain ⟨front, hfront, back, hback, rfl⟩ := h
      rw [List.length_append]
      exact (adds_program hfront).bind (ih hback)

end Sizes

/-! ## Valid catalogs -/

variable {document : ProgramDocument} {documents : List ProgramDocument} {catalog : ProgramCatalog}
variable {out payload bytes rest : Bytes} {index factoryCount count : ℕ}
variable {identifiers : List Bytes}

theorem ProgramContentsValid.textsReadable (h : ProgramContentsValid document) :
    document.program.textsReadable :=
  ⟨length_le_of_validateLowercaseIdentifier h.id, length_le_of_validateUnicodeText h.name,
    length_le_of_validateUnicodeText h.notes⟩

theorem contentsValid_of_entries
    (h : validateProgramEntries index factoryCount identifiers documents = .success) :
    ∀ document ∈ documents, ProgramContentsValid document := by
  intro document hmem
  obtain ⟨position, hposition⟩ := List.mem_iff_getElem?.mp hmem
  exact (valid_of_validateProgramEntries h position document hposition).2

theorem validateProgramCatalog_eq_success :
    validateProgramCatalog catalog = .success ↔
      (kFactoryProgramCount ≤ catalog.programs.length ∧
        catalog.programs.length ≤ kMaximumProgramCount) ∧
      validateProgramEntries 0 0 [] catalog.programs = .success := by
  rw [validateProgramCatalog]
  by_cases hcount : catalog.programs.length < kFactoryProgramCount ∨
      kMaximumProgramCount < catalog.programs.length
  · rw [if_pos hcount]
    refine iff_of_false nofun fun h => ?_
    omega
  · rw [if_neg hcount, iff_and_self]
    intro _
    omega

/-- Programs that the catalog takes are written, each in the room of one program. -/
theorem fits_programs (h : ∀ document ∈ documents, ProgramContentsValid document) :
    Format.Fits (writePrograms documents) (documents.length * 1255) := by
  induction documents with
  | nil => exact ⟨[], rfl, Nat.zero_le _⟩
  | cons document documents ih =>
      obtain ⟨hfirst, hothers⟩ := List.forall_mem_cons.mp h
      obtain ⟨front, hfront, hfrontLength⟩ :=
        fits_writeProgram hfirst.program hfirst.textsReadable
      obtain ⟨back, hback, hbackLength⟩ := ih hothers
      refine ⟨front ++ back, ?_, ?_⟩
      · simp only [writePrograms, hfront, hback, Option.bind_eq_bind, Option.bind_some,
          Option.pure_def]
      · rw [List.length_append, List.length_cons]
        omega

theorem readPrograms_writePrograms (h : ∀ document ∈ documents, ProgramContentsValid document)
    (hwrite : writePrograms documents = some out) (rest : Bytes) :
    readPrograms documents.length (out ++ rest) = .ok (documents, rest) := by
  induction documents generalizing out with
  | nil =>
      cases hwrite
      rfl
  | cons document documents ih =>
      obtain ⟨hfirst, hothers⟩ := List.forall_mem_cons.mp h
      simp only [writePrograms, Option.pure_def, Option.bind_eq_bind, Option.bind_eq_some_iff,
        Option.some.injEq] at hwrite
      obtain ⟨front, hfront, back, hback, rfl⟩ := hwrite
      have hread := readProgram_writeProgram hfirst.program hfirst.textsReadable hfront
        (back ++ rest)
      rw [List.length_cons, List.append_assoc]
      simp only [readPrograms, hread, ih hothers hback, ok_bind]
      rfl

/-- A catalog is encoded when it is valid, and in no other case. -/
theorem encodeProgramCatalogPayload_eq_ok :
    encodeProgramCatalogPayload catalog = .ok payload ↔
      validateProgramCatalog catalog = .success ∧
        ∃ out, writePrograms catalog.programs = some out ∧
          payload = UInt8.ofNat catalog.programs.length :: out := by
  simp only [encodeProgramCatalogPayload, bind_eq_ok, require_eq_ok, orFail_eq_ok,
    decide_eq_true_eq, exists_const]
  constructor
  · rintro ⟨size, -, hvalid, out, hout, -, hpayload⟩
    cases hpayload
    exact ⟨hvalid, out, hout, rfl⟩
  · rintro ⟨hvalid, out, hout, rfl⟩
    obtain ⟨⟨-, hcount⟩, hentries⟩ := validateProgramCatalog_eq_success.mp hvalid
    obtain ⟨written, hwritten, hlength⟩ := fits_programs (contentsValid_of_entries hentries)
    rw [hout, Option.some.injEq] at hwritten
    subst hwritten
    rw [kMaximumProgramCount] at hcount
    have hadds := (adds_addPayloadSize 1).bind (adds_programs hout)
    have hsize := (hadds 0 (Nat.zero_le _) (1 + out.length)).mpr
      ⟨by rw [kMaximumProgramCatalogPayloadBytes]; omega, (Nat.zero_add _).symm⟩
    refine ⟨1 + out.length, ?_, hvalid, out, hout, ?_, rfl⟩
    · rw [calculateProgramCatalogPayloadSize, decide_eq_true (by omega)]
      exact hsize
    · rw [List.length_cons, Nat.add_comm]

theorem encodeProgramCatalogPayload_length
    (h : encodeProgramCatalogPayload catalog = .ok payload) :
    calculateProgramCatalogPayloadSize catalog = .ok payload.length ∧
      payload.length ≤ 1 + catalog.programs.length * 1255 := by
  obtain ⟨hvalid, out, hout, rfl⟩ := encodeProgramCatalogPayload_eq_ok.mp h
  obtain ⟨-, hentries⟩ := validateProgramCatalog_eq_success.mp hvalid
  obtain ⟨written, hwritten, hlength⟩ := fits_programs (contentsValid_of_entries hentries)
  rw [hout, Option.some.injEq] at hwritten
  subst hwritten
  simp only [encodeProgramCatalogPayload, bind_eq_ok, require_eq_ok, orFail_eq_ok,
    decide_eq_true_eq, exists_const] at h
  obtain ⟨size, hsize, -, found, -, hfound, hsame⟩ := h
  cases hsame
  rw [hfound]
  refine ⟨hsize, ?_⟩
  rw [← hfound, List.length_cons, Nat.add_comm 1]
  exact Nat.succ_le_succ hlength

theorem exists_encodeProgramCatalogPayload (h : validateProgramCatalog catalog = .success) :
    ∃ payload, encodeProgramCatalogPayload catalog = .ok payload := by
  obtain ⟨-, hentries⟩ := validateProgramCatalog_eq_success.mp h
  obtain ⟨out, hout, -⟩ := fits_programs (contentsValid_of_entries hentries)
  exact ⟨_, encodeProgramCatalogPayload_eq_ok.mpr ⟨h, out, hout, rfl⟩⟩

theorem readProgramCount_eq_ok {schemaVersion : UInt32} :
    readProgramCount schemaVersion payload = .ok (count, rest) ↔
      schemaVersion = 1 ∧ payload.length ≤ kMaximumProgramCatalogPayloadBytes ∧
        (kFactoryProgramCount ≤ count ∧ count ≤ kMaximumProgramCount) ∧
        payload = UInt8.ofNat count :: rest := by
  simp only [readProgramCount, bind_eq_ok, require_eq_ok, orFail_eq_ok, decide_eq_true_eq,
    exists_const, Prod.exists]
  constructor
  · rintro ⟨hversion, hlength, found, tail, hread, hcount, hsame⟩
    cases hsame
    refine ⟨hversion, hlength, hcount, ?_⟩
    rw [UInt8.ofNat_toNat]
    exact Format.uint8_read_eq_some hread
  · rintro ⟨hversion, hlength, ⟨hleast, hmost⟩, rfl⟩
    have hnumber : (UInt8.ofNat count).toNat = count :=
      UInt8.toNat_ofNat_of_lt' (hmost.trans_lt (by decide))
    have hwrite : Format.uint8.write (UInt8.ofNat count) = some [UInt8.ofNat count] := by
      simp [Format.uint8, Format.embed, Format.number, Format.bigEndian]
    have hread := Format.uint8.read_write (Format.readable_uint8 _) hwrite rest
    refine ⟨hversion, hlength, UInt8.ofNat count, rest, hread, ?_, ?_⟩
    · rw [hnumber]
      exact ⟨hleast, hmost⟩
    · rw [hnumber]
      rfl

theorem decodeProgramCatalogPayload_eq_ok {schemaVersion : UInt32} :
    decodeProgramCatalogPayload schemaVersion payload = .ok catalog ↔
      ∃ count rest, readProgramCount schemaVersion payload = .ok (count, rest) ∧
        readPrograms count rest = .ok (catalog.programs, []) ∧
        validateProgramCatalog catalog = .success := by
  simp only [decodeProgramCatalogPayload, bind_eq_ok, require_eq_ok, decide_eq_true_eq,
    exists_const, Prod.exists, List.isEmpty_iff]
  constructor
  · rintro ⟨count, rest, hcount, programs, tail, hread, rfl, hvalid, hsame⟩
    cases hsame
    exact ⟨count, rest, hcount, hread, hvalid⟩
  · rintro ⟨count, rest, hcount, hread, hvalid⟩
    exact ⟨count, rest, hcount, catalog.programs, [], hread, rfl, hvalid, rfl⟩

/-- A written catalog is read as itself. -/
theorem decodeProgramCatalogPayload_encode
    (h : encodeProgramCatalogPayload catalog = .ok payload) :
    decodeProgramCatalogPayload 1 payload = .ok catalog := by
  obtain ⟨-, hlength⟩ := encodeProgramCatalogPayload_length h
  obtain ⟨hvalid, out, hout, rfl⟩ := encodeProgramCatalogPayload_eq_ok.mp h
  obtain ⟨hcount, hentries⟩ := validateProgramCatalog_eq_success.mp hvalid
  have hread := readPrograms_writePrograms (contentsValid_of_entries hentries) hout []
  rw [List.append_nil] at hread
  refine decodeProgramCatalogPayload_eq_ok.mpr
    ⟨catalog.programs.length, out, readProgramCount_eq_ok.mpr ⟨rfl, ?_, hcount, rfl⟩, hread, hvalid⟩
  obtain ⟨-, hmost⟩ := hcount
  rw [kMaximumProgramCount] at hmost
  rw [kMaximumProgramCatalogPayloadBytes]
  omega

/-- Every program of the payload has the layout of the current schema. -/
def CurrentPrograms : ℕ → Bytes → Prop
  | 0, _ => True
  | count + 1, bytes => programSchemaVersion bytes = some kCurrentProgramSchemaVersion ∧
      ∀ document rest, readProgram bytes = .ok (document, rest) → CurrentPrograms count rest

theorem writePrograms_readPrograms (hcurrent : CurrentPrograms count bytes)
    (h : readPrograms count bytes = .ok (documents, rest)) :
    ∃ out, writePrograms documents = some out ∧ bytes = out ++ rest := by
  induction count generalizing bytes documents with
  | zero =>
      cases h
      exact ⟨[], rfl, rfl⟩
  | succ count ih =>
      obtain ⟨hversion, hothers⟩ := hcurrent
      simp only [readPrograms, bind_eq_ok, Prod.exists] at h
      obtain ⟨document, tail, hread, found, last, hfound, hsame⟩ := h
      cases hsame
      obtain ⟨front, hfront, rfl⟩ := writeProgram_readProgram hread hversion
      obtain ⟨back, hback, rfl⟩ := ih (hothers document tail hread) hfound
      refine ⟨front ++ back, ?_, (List.append_assoc _ _ _).symm⟩
      simp only [writePrograms, hfront, hback, Option.bind_eq_bind, Option.bind_some,
        Option.pure_def]

theorem length_readPrograms (h : readPrograms count bytes = .ok (documents, rest)) :
    documents.length = count := by
  induction count generalizing bytes documents with
  | zero =>
      cases h
      rfl
  | succ count ih =>
      simp only [readPrograms, bind_eq_ok, Prod.exists] at h
      obtain ⟨document, tail, -, found, last, hfound, hsame⟩ := h
      cases hsame
      rw [List.length_cons, ih hfound]

/-- A payload in the current layouts is the one that its catalog is encoded to. -/
theorem encodeProgramCatalogPayload_decode
    (h : decodeProgramCatalogPayload 1 payload = .ok catalog)
    (hcurrent : CurrentPrograms catalog.programs.length payload.tail) :
    encodeProgramCatalogPayload catalog = .ok payload := by
  obtain ⟨count, rest, hcount, hread, hvalid⟩ := decodeProgramCatalogPayload_eq_ok.mp h
  obtain ⟨-, -, -, rfl⟩ := readProgramCount_eq_ok.mp hcount
  rw [length_readPrograms hread] at hcurrent
  obtain ⟨out, hout, hrest⟩ := writePrograms_readPrograms hcurrent hread
  rw [List.append_nil, List.tail_cons] at hrest
  refine encodeProgramCatalogPayload_eq_ok.mpr ⟨hvalid, out, hout, ?_⟩
  rw [length_readPrograms hread, hrest]

/-! ## The streamed check -/

variable {expected : Option ProgramCatalog} {other : ProgramCatalog} {total : ℕ}

theorem getElem?_programs_eq_none :
    FactoryProgramCatalog.programs[index]? = none ↔ ¬index < kFactoryProgramCount := by
  rw [List.getElem?_eq_none_iff, Nat.not_lt]
  rfl

/-- The streamed check of a program takes what the check of a whole catalog takes there. -/
theorem validateStreamedProgram_eq_success :
    validateStreamedProgram document index FactoryProgramCatalog.programs identifiers = .success ↔
      validateProgramPosition document.program index = .success ∧
        document.program.id ∉ identifiers ∧ ProgramContentsValid document := by
  have hposition : (if index < kFactoryProgramCount then
        if FactoryProgramCatalog.programs[index]?.map (·.program.id) ≠ some document.program.id then
          ProgramCatalogStatus.invalidFactoryOrder
        else if !document.program.builtIn || !document.program.factoryCatalogEntry ||
            !document.program.resettable then .invalidFactoryMarkers
        else .success
      else if document.program.builtIn || document.program.factoryCatalogEntry ||
          document.program.resettable then .invalidUserMarkers
      else if FactoryProgramCatalog.programs.any fun entry =>
          document.program.id = entry.program.id then .reservedFactoryId
      else .success) = validateProgramPosition document.program index := by
    rw [validateProgramPosition]
    cases hfactory : FactoryProgramCatalog.programs[index]? with
    | none => rw [if_neg (getElem?_programs_eq_none.mp hfactory), isReservedFactoryId]
    | some factory =>
        have hindex : index < kFactoryProgramCount := by
          by_contra hindex
          rw [getElem?_programs_eq_none.mpr hindex] at hfactory
          cases hfactory
        rw [if_pos hindex]
        simp only [Option.map_some, Option.some.injEq, ne_eq, eq_comm]
  rw [← validateProgramContents_eq_success, validateStreamedProgram, hposition,
    validateProgramContents]
  by_cases hplace : validateProgramPosition document.program index = .success
  · by_cases hnew : document.program.id ∈ identifiers
    · simp [hplace, hnew]
    · simp [hplace, hnew]
  · simp [hplace]

/-- The programs are those that are expected from a place on. -/
def ProgramCatalog.MatchesFrom (other : ProgramCatalog) : ℕ → List ProgramDocument → Prop
  | _, [] => True
  | index, document :: documents =>
      other.programs[index]?.any document.configurationContentEquals = true ∧
        other.MatchesFrom (index + 1) documents

/-- The streamed check takes the payloads whose programs the whole check takes. -/
theorem streamPrograms_eq_ok :
    streamPrograms expected index factoryCount identifiers count bytes =
        .ok (kFactoryProgramCount, rest) ↔
      ∃ documents, readPrograms count bytes = .ok (documents, rest) ∧
        validateProgramEntries index factoryCount identifiers documents = .success ∧
        ∀ other ∈ expected, other.MatchesFrom index documents := by
  induction count generalizing index factoryCount identifiers bytes with
  | zero =>
      have hdone : streamPrograms expected index factoryCount identifiers 0 bytes =
          .ok (factoryCount, bytes) := rfl
      have hread : readPrograms 0 bytes = .ok ([], bytes) := rfl
      rw [hdone, hread]
      constructor
      · intro h
        cases h
        exact ⟨[], rfl, rfl, fun _ _ => trivial⟩
      · rintro ⟨documents, hdocuments, hentries, -⟩
        cases hdocuments
        rw [validateProgramEntries, ite_eq_right_iff] at hentries
        have hcount : factoryCount = kFactoryProgramCount := by
          by_contra hcount
          cases hentries hcount
        rw [hcount]
  | succ count ih =>
      simp only [streamPrograms, readPrograms, bind_eq_ok, require_eq_ok, decide_eq_true_eq,
        exists_const, Prod.exists, ih, Option.all_eq_true]
      constructor
      · rintro ⟨document, tail, hread, hplace, hmatch, documents, hdocuments, hentries, hothers⟩
        obtain ⟨hposition, hnew, hcontents⟩ := validateStreamedProgram_eq_success.mp hplace
        exact ⟨document :: documents, ⟨document, tail, hread, documents, rest, hdocuments, rfl⟩,
          validateProgramEntries_cons.mpr ⟨hposition, hnew, hcontents, hentries⟩,
          fun other hother => ⟨hmatch other hother, hothers other hother⟩⟩
      · rintro ⟨_, ⟨document, tail, hread, documents, last, hdocuments, hsame⟩, hentries, hothers⟩
        cases hsame
        obtain ⟨hposition, hnew, hcontents, hrest⟩ := validateProgramEntries_cons.mp hentries
        exact ⟨document, tail, hread,
          validateStreamedProgram_eq_success.mpr ⟨hposition, hnew, hcontents⟩,
          fun other hother => (hothers other hother).1, documents, hdocuments, hrest,
          fun other hother => (hothers other hother).2⟩

theorem matchesFrom_iff (hlength : other.programs.length = index + documents.length) :
    other.MatchesFrom index documents ↔
      (documents.zip (other.programs.drop index)).all
        (fun pair => pair.1.configurationContentEquals pair.2) = true := by
  induction documents generalizing index with
  | nil => simp [ProgramCatalog.MatchesFrom]
  | cons document documents ih =>
      have hindex : index < other.programs.length := by
        rw [hlength, List.length_cons]
        omega
      have hnext : other.programs.length = index + 1 + documents.length := by
        rw [hlength, List.length_cons]
        omega
      rw [ProgramCatalog.MatchesFrom, ih hnext, List.getElem?_eq_getElem hindex, Option.any_some,
        List.drop_eq_getElem_cons hindex, List.zip_cons_cons, List.all_cons, Bool.and_eq_true]

/-- The streamed check takes exactly what the decoder takes, and with an expected catalog what
has the content of that one. -/
theorem validateProgramCatalogPayload_eq_ok {schemaVersion : UInt32} :
    validateProgramCatalogPayload schemaVersion payload expected = .ok () ↔
      ∃ catalog, decodeProgramCatalogPayload schemaVersion payload = .ok catalog ∧
        ∀ other ∈ expected, catalog.configurationContentEquals other = true := by
  simp only [validateProgramCatalogPayload, bind_eq_ok, require_eq_ok, decide_eq_true_eq,
    exists_const, Prod.exists, Option.all_eq_true, List.isEmpty_iff,
    decodeProgramCatalogPayload_eq_ok]
  constructor
  · rintro ⟨count, rest, hcount, hlengths, total, last, hstream, rfl, rfl⟩
    obtain ⟨documents, hread, hentries, hothers⟩ := streamPrograms_eq_ok.mp hstream
    have hlength := length_readPrograms hread
    obtain ⟨-, -, hlimits, -⟩ := readProgramCount_eq_ok.mp hcount
    refine ⟨⟨documents⟩, ⟨count, rest, hcount, hread, ?_⟩, fun other hother => ?_⟩
    · rw [← hlength] at hlimits
      exact validateProgramCatalog_eq_success.mpr ⟨hlimits, hentries⟩
    · have hsame := hlengths other hother
      have hmatches := (matchesFrom_iff (by rw [hsame, hlength, Nat.zero_add])).mp
        (hothers other hother)
      rw [ProgramCatalog.configurationContentEquals, Bool.and_eq_true]
      exact ⟨decide_eq_true (hlength.trans hsame.symm), hmatches⟩
  · rintro ⟨catalog, ⟨count, rest, hcount, hread, hvalid⟩, hothers⟩
    have hlength := length_readPrograms hread
    obtain ⟨-, hentries⟩ := validateProgramCatalog_eq_success.mp hvalid
    have hcontents : ∀ other ∈ expected, other.programs.length = catalog.programs.length ∧
        other.MatchesFrom 0 catalog.programs := by
      intro other hother
      have hequals := hothers other hother
      rw [ProgramCatalog.configurationContentEquals, Bool.and_eq_true] at hequals
      have hsame := of_decide_eq_true hequals.1
      exact ⟨hsame.symm, (matchesFrom_iff (by rw [← hsame, Nat.zero_add])).mpr hequals.2⟩
    refine ⟨count, rest, hcount, fun other hother => ?_, kFactoryProgramCount, [],
      streamPrograms_eq_ok.mpr ⟨catalog.programs, hread, hentries, fun other hother =>
        (hcontents other hother).2⟩, rfl, rfl⟩
    rw [(hcontents other hother).1, hlength]

/-! ## What the comparison sees -/

def ProgramDocument.withReturnStrategy (document : ProgramDocument) (strategy : ReturnStrategy) :
    ProgramDocument :=
  { document with
    program := { document.program with
      productSensorFailure := { document.program.productSensorFailure with
        returnStrategy := strategy } } }

/-- No temperature of the program is a NaN. -/
structure ProgramDocument.Finite (document : ProgramDocument) : Prop where
  stages : ∀ stage ∈ document.program.fermentationStages,
    ∀ value ∈ stage.targetTemperatureCelsius, value.isFinite = true
  band : ∀ value ∈ document.program.targetQualification.bandCelsius, value.isFinite = true
  cooling : ∀ value ∈ document.program.completion.coolingTargetCelsius, value.isFinite = true

theorem ProgramContentsValid.finite (h : ProgramContentsValid document) : document.Finite := by
  obtain ⟨hstages, hband, hcooling⟩ := isFinite_of_validateProgram h.program
  exact ⟨hstages, hband, hcooling⟩

theorem optionalEq_iff {left right : Option Binary64}
    (h : ∀ value ∈ left, value.isFinite = true) : optionalEq left right = true ↔ left = right := by
  cases left with
  | none => cases right <;> simp [optionalEq]
  | some left =>
      cases right with
      | none => simp [optionalEq]
      | some right =>
          rw [optionalEq, Option.some.injEq]
          constructor
          · exact Binary64.eq_of_eq
          · rintro rfl
            cases left with
            | nan => cases h .nan rfl
            | ordered position => exact decide_eq_true rfl

theorem zip_all_iff {α : Type} {equal : α → α → Bool} {left right : List α} :
    (left.length = right.length ∧ (left.zip right).all (fun pair => equal pair.1 pair.2) = true) ↔
      List.Forall₂ (fun a b => equal a b = true) left right := by
  rw [List.forall₂_iff_zip, List.all_eq_true, Prod.forall]

theorem forall₂_iff_of_left {α : Type} {relation relation' : α → α → Prop} {left right : List α}
    (h : ∀ a ∈ left, ∀ b, relation a b ↔ relation' a b) :
    List.Forall₂ relation left right ↔ List.Forall₂ relation' left right := by
  induction left generalizing right with
  | nil => rw [List.forall₂_nil_left_iff, List.forall₂_nil_left_iff]
  | cons a left ih =>
      obtain ⟨hfirst, hothers⟩ := List.forall_mem_cons.mp h
      rw [List.forall₂_cons_left_iff, List.forall₂_cons_left_iff]
      simp only [hfirst, ih hothers]

theorem stageEquals_iff {left right : FermentationStage}
    (h : ∀ value ∈ left.targetTemperatureCelsius, value.isFinite = true) :
    stageEquals left right = true ↔ left = right := by
  rw [stageEquals, Bool.and_eq_true, optionalEq_iff h, decide_eq_true_eq]
  cases left
  cases right
  rw [FermentationStage.mk.injEq]

theorem stages_equal_iff {left : List FermentationStage} (right : List FermentationStage)
    (h : ∀ stage ∈ left, ∀ value ∈ stage.targetTemperatureCelsius, value.isFinite = true) :
    (left.length = right.length ∧
        (left.zip right).all (fun stages => stageEquals stages.1 stages.2) = true) ↔
      left = right := by
  rw [zip_all_iff, forall₂_iff_of_left fun stage hmem other => stageEquals_iff (h stage hmem),
    List.forall₂_eq_eq_eq]

/-- Two programs have the same content when they agree up to the return strategy. -/
theorem configurationContentEquals_iff {left right : ProgramDocument} (h : left.Finite)
    (strategy : ReturnStrategy) :
    left.configurationContentEquals right = true ↔
      left.withReturnStrategy strategy = right.withReturnStrategy strategy := by
  obtain ⟨hstages, hband, hcooling⟩ := h
  have hlists := stages_equal_iff right.program.fermentationStages hstages
  obtain ⟨schema, program⟩ := left
  obtain ⟨schema', program'⟩ := right
  obtain ⟨_, _, _, _, _, _, _, _, _, _, _, ⟨_, _, _⟩, _, ⟨_, _⟩, _, _, ⟨_, _, _⟩⟩ := program
  obtain ⟨_, _, _, _, _, _, _, _, _, _, _, ⟨_, _, _⟩, _, ⟨_, _⟩, _, _, ⟨_, _, _⟩⟩ := program'
  simp only [ProgramDocument.configurationContentEquals, ProgramDocument.withReturnStrategy,
    Bool.and_eq_true, decide_eq_true_eq, optionalEq_iff hband, optionalEq_iff hcooling,
    Prod.mk.injEq, ProgramDocument.mk.injEq, ProgramDefinition.mk.injEq,
    ProductSensorFailure.mk.injEq, TargetQualification.mk.injEq, ProgramCompletion.mk.injEq,
    ← hlists]
  tauto

/-- Two catalogs have the same content when their programs agree up to the return strategies. -/
theorem catalogContentEquals_iff {left right : ProgramCatalog}
    (h : ∀ document ∈ left.programs, document.Finite) (strategy : ReturnStrategy) :
    left.configurationContentEquals right = true ↔
      left.programs.map (·.withReturnStrategy strategy) =
        right.programs.map (·.withReturnStrategy strategy) := by
  rw [ProgramCatalog.configurationContentEquals, Bool.and_eq_true, decide_eq_true_eq, zip_all_iff,
    forall₂_iff_of_left fun document hmem other =>
      configurationContentEquals_iff (h document hmem) strategy,
    ← List.forall₂_eq_eq_eq, List.forall₂_map_left_iff, List.forall₂_map_right_iff]

end Fermentationsschrank

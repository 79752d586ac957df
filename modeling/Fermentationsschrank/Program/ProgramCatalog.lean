import Fermentationsschrank.Configuration.ConfigurationText
import Fermentationsschrank.Program.ProgramModel

/-!
# Program catalog

The catalog holds the programs of the factory, in their order, and behind them those of the
user.
-/

namespace Fermentationsschrank

/-! ## The factory -/

def makeFactoryProgram (id name : String) (preheat : Bool) (sensorPreference : SensorPreference)
    (completionMode : CompletionMode) : ProgramDocument where
  program := {
    id := literal id
    name := literal name
    builtIn := true
    factoryCatalogEntry := true
    resettable := true
    userDeletable := true
    installed := true
    enabled := true
    preheat
    sensorPreference
    productSensorFailure := {
      policy := .fallbackToAirAfterTimeout
      returnStrategy := .automaticValidatedReturnToProduct }
    fermentationStages := [{}]
    completion := { mode := completionMode } }

namespace FactoryProgramCatalog

def programs : List ProgramDocument :=
  [makeFactoryProgram "yogurt-mild" "Joghurt mild" true .productIfAvailableElseAir
      .coolAndHoldUntilManualStop,
    makeFactoryProgram "yogurt-firm" "Joghurt stichfest" true .productIfAvailableElseAir
      .coolAndHoldUntilManualStop,
    makeFactoryProgram "milk-kefir" "Milchkefir" false .airProductOptional
      .coolAndHoldUntilManualStop,
    makeFactoryProgram "water-kefir" "Wasserkefir" false .airProductOptional
      .finishWithoutCooling]

end FactoryProgramCatalog

/-! ## Validation -/

def kFactoryProgramCount : ℕ := 4
def kMaximumProgramCount : ℕ := 16

inductive ProgramCatalogStatus
  | success
  | invalidProgramCount
  | invalidFactoryCount
  | invalidFactoryOrder
  | duplicateProgramId
  | invalidProgramId
  | reservedFactoryId
  | invalidProgramName
  | invalidProgramNotes
  | invalidProgramDocument
  | invalidFactoryMarkers
  | invalidUserMarkers
  deriving DecidableEq, Repr

structure ProgramCatalog where
  programs : List ProgramDocument
  deriving DecidableEq, Repr

def isReservedFactoryId (identifier : Bytes) : Bool :=
  FactoryProgramCatalog.programs.any fun document => identifier = document.program.id

def validateProgramContents (document : ProgramDocument) : ProgramCatalogStatus :=
  let program := document.program
  if validateLowercaseIdentifier program.id kMinimumProgramIdBytes kMaximumProgramIdBytes ≠
      .success then .invalidProgramId
  else if validateVisibleName program.name ≠ .success then .invalidProgramName
  else if validateProgramNotes program.notes ≠ .success then .invalidProgramNotes
  else if !(validateProgram document .catalogTemplate).valid then .invalidProgramDocument
  else .success

def validateProgramPosition (program : ProgramDefinition) (index : ℕ) : ProgramCatalogStatus :=
  match FactoryProgramCatalog.programs[index]? with
  | some factory =>
    if program.id ≠ factory.program.id then .invalidFactoryOrder
    else if !program.builtIn || !program.factoryCatalogEntry || !program.resettable then
      .invalidFactoryMarkers
    else .success
  | none =>
    if program.builtIn || program.factoryCatalogEntry || program.resettable then
      .invalidUserMarkers
    else if isReservedFactoryId program.id then .reservedFactoryId
    else .success

/-- The loop over the programs: the place of each, its identifier among those before it, and
what it holds.  At the end the programs that are marked as the factory's are counted. -/
def validateProgramEntries (index factoryCount : ℕ) (identifiers : List Bytes) :
    List ProgramDocument → ProgramCatalogStatus
  | [] => if factoryCount ≠ kFactoryProgramCount then .invalidFactoryCount else .success
  | document :: rest =>
    let program := document.program
    match validateProgramPosition program index with
    | .success =>
      if program.id ∈ identifiers then .duplicateProgramId
      else
        match validateProgramContents document with
        | .success =>
          validateProgramEntries (index + 1)
            (if program.factoryCatalogEntry then factoryCount + 1 else factoryCount)
            (program.id :: identifiers) rest
        | status => status
    | status => status

def validateProgramCatalog (catalog : ProgramCatalog) : ProgramCatalogStatus :=
  if catalog.programs.length < kFactoryProgramCount ∨
      kMaximumProgramCount < catalog.programs.length then .invalidProgramCount
  else validateProgramEntries 0 0 [] catalog.programs

def makeFactoryProgramCatalog : ProgramCatalog where
  programs := FactoryProgramCatalog.programs

/-! ## What is valid -/

variable {document : ProgramDocument} {documents : List ProgramDocument} {index factoryCount : ℕ}
variable {identifiers : List Bytes}

/-- The parts of a program that the catalog takes. -/
structure ProgramContentsValid (document : ProgramDocument) : Prop where
  id : validateLowercaseIdentifier document.program.id kMinimumProgramIdBytes
    kMaximumProgramIdBytes = .success
  name : validateVisibleName document.program.name = .success
  notes : validateProgramNotes document.program.notes = .success
  program : (validateProgram document .catalogTemplate).valid = true

theorem validateProgramContents_eq_success :
    validateProgramContents document = .success ↔ ProgramContentsValid document := by
  simp only [validateProgramContents]
  constructor
  · intro h
    split_ifs at h with hid hname hnotes hprogram
    exact ⟨not_not.mp hid, not_not.mp hname, not_not.mp hnotes, by simpa using hprogram⟩
  · intro h
    rw [if_neg (not_not.mpr h.id), if_neg (not_not.mpr h.name), if_neg (not_not.mpr h.notes),
      h.program]
    rfl

theorem validateProgramEntries_cons :
    validateProgramEntries index factoryCount identifiers (document :: documents) = .success ↔
      validateProgramPosition document.program index = .success ∧
        document.program.id ∉ identifiers ∧ ProgramContentsValid document ∧
        validateProgramEntries (index + 1)
          (if document.program.factoryCatalogEntry then factoryCount + 1 else factoryCount)
          (document.program.id :: identifiers) documents = .success := by
  rw [validateProgramEntries, ← validateProgramContents_eq_success]
  cases hposition : validateProgramPosition document.program index <;> simp only [reduceCtorEq,
    false_and, true_and]
  by_cases hduplicate : document.program.id ∈ identifiers
  · simp [hduplicate]
  · rw [if_neg hduplicate]
    cases hcontents : validateProgramContents document <;> simp [hduplicate]

/-- Each program of a valid catalog stands in a place that is its own. -/
theorem valid_of_validateProgramEntries
    (h : validateProgramEntries index factoryCount identifiers documents = .success) :
    ∀ position, ∀ document ∈ documents[position]?,
      validateProgramPosition document.program (index + position) = .success ∧
        ProgramContentsValid document := by
  induction documents generalizing index factoryCount identifiers with
  | nil => exact fun position document hmem => by cases hmem
  | cons first documents ih =>
      obtain ⟨hposition, -, hcontents, hrest⟩ := validateProgramEntries_cons.mp h
      intro position document hmem
      cases position with
      | zero =>
          cases hmem
          exact ⟨hposition, hcontents⟩
      | succ position =>
          rw [List.getElem?_cons_succ] at hmem
          obtain ⟨hplace, hvalid⟩ := ih hrest position document hmem
          rw [Nat.add_assoc, Nat.add_comm 1 position] at hplace
          exact ⟨hplace, hvalid⟩

end Fermentationsschrank

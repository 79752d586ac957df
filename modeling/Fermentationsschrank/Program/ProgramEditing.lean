import Fermentationsschrank.Program.ProgramCatalog

/-!
# Editing of programs

The user makes, copies, edits and removes programs.  An edit works on the catalog of a preview;
what it makes is stored only when the catalog passes its validation.
-/

namespace Fermentationsschrank

/-! ## Identifiers of user programs -/

def kMaximumUserProgramCount : ℕ := 12

def isFactoryProgram (document : ProgramDocument) : Bool :=
  document.program.builtIn && document.program.factoryCatalogEntry

def findProgramIndex (catalog : ProgramCatalog) (id : Bytes) : Option ℕ :=
  catalog.programs.findIdx? fun document => document.program.id = id

/-- A digit in base thirty-six. -/
def base36 (value : ℕ) : Byte :=
  if value < 10 then UInt8.ofNat (48 + value) else UInt8.ofNat (97 + value - 10)

/-- The identifier begins with `user-`. -/
def userProgramId (ordinal : ℕ) : Bytes :=
  [117, 115, 101, 114, 45, base36 (ordinal / 36), base36 (ordinal % 36)]

inductive UserProgramIdAllocationStatus
  | allocated
  | invalidCatalog
  | capacityReached
  deriving DecidableEq, Repr

local instance lawfulUsedIdentifiers : LawfulBEq Bytes := inferInstance

/-- The loop over the ordinals. -/
def firstUnused (used : List Bytes) :
    List ℕ → Except UserProgramIdAllocationStatus Bytes
  | [] => .error .capacityReached
  | ordinal :: ordinals =>
    let candidate := userProgramId ordinal
    if validateLowercaseIdentifier candidate kMinimumProgramIdBytes kMaximumProgramIdBytes ≠
        .success then .error .invalidCatalog
    else if candidate ∉ used then .ok candidate
    else firstUnused used ordinals

/-- An allocated identifier, or the status that tells why there is none. -/
def allocateNextUserProgramId (catalog : ProgramCatalog) :
    Except UserProgramIdAllocationStatus Bytes :=
  let used := catalog.programs.map (·.program.id)
  if catalog.programs.length < kFactoryProgramCount ∨
      kMaximumProgramCount < catalog.programs.length then .error .invalidCatalog
  else if [] ∈ used ∨ ¬used.Nodup then .error .invalidCatalog
  else if kMaximumUserProgramCount ≤ catalog.programs.countP (!isFactoryProgram ·) then
    .error .capacityReached
  else firstUnused used (List.range (36 * 36))

def FactoryProgramCatalog.find (id : Bytes) : Option ProgramDocument :=
  FactoryProgramCatalog.programs.find? fun document => document.program.id = id

/-! ## Requests -/

inductive FermentationUiProgramEditOperation
  | edit
  | copy
  | new
  | reset
  | uninstall
  | delete
  deriving DecidableEq, Repr

inductive FermentationUiProgramEditStatus
  | applied
  | confirmationRequired
  | notFound
  | notAllowed
  | invalidCandidate
  | capacityReached
  deriving DecidableEq, Repr

structure FermentationUiProgramEditRequest where
  operation : FermentationUiProgramEditOperation := .edit
  programId : Bytes := []
  candidate : Option ProgramDocument := none
  name : Option Bytes := none
  confirmed : Bool := false
  deriving DecidableEq, Repr

/-- The program of the run that is active, if one is. -/
structure FermentationUiProgramUsageEvidence where
  activeProgramId : Option Bytes := none
  deriving DecidableEq, Repr

def FermentationUiProgramUsageEvidence.isInUse (usage : FermentationUiProgramUsageEvidence)
    (programId : Bytes) : Bool :=
  usage.activeProgramId = some programId

/-- The answer, with the catalog that the edit leaves. -/
structure FermentationUiProgramEditResult where
  status : FermentationUiProgramEditStatus := .invalidCandidate
  affectedProgramId : Option Bytes := none
  catalog : ProgramCatalog
  deriving DecidableEq, Repr

/-! ## Applying an edit -/

def newProgramName : Bytes := literal "New program"

/-- The program of the user that a document becomes. -/
def asUserProgram (document : ProgramDocument) (id name : Bytes) : ProgramDocument :=
  { document with
    program := { document.program with
      id, name
      builtIn := false
      factoryCatalogEntry := false
      resettable := false
      userDeletable := true
      installed := true } }

/-- A template without the values that the user has to choose. -/
def withoutValues (document : ProgramDocument) : ProgramDocument :=
  { document with
    program := { document.program with
      notes := []
      fermentationStages :=
        match document.program.fermentationStages with
        | [] => []
        | _ :: rest => {} :: rest
      targetQualification := {}
      maximumTargetReachMinutes := none
      maximumProductWaitMinutes := none
      completion := { mode := .finishWithoutCooling } } }

/-- What a new program is made of, and its name. -/
def newProgram (request : FermentationUiProgramEditRequest) (templateProgram : ProgramDocument)
    (id : Bytes) : ProgramDocument :=
  let name :=
    match request.name, request.candidate with
    | some name, _ => name
    | none, some candidate => candidate.program.name
    | none, none => newProgramName
  let name := if name = [] then newProgramName else name
  match request.candidate with
  | some candidate => asUserProgram candidate id name
  | none => withoutValues (asUserProgram templateProgram id name)

/-- The status of an edit for which no identifier was allocated. -/
def statusOfAllocation (status : UserProgramIdAllocationStatus) :
    FermentationUiProgramEditStatus :=
  if status = .capacityReached then .capacityReached else .invalidCandidate

/-- The catalog with another document in a place, or without the document there. -/
def ProgramCatalog.replace (catalog : ProgramCatalog) (index : ℕ) (document : ProgramDocument) :
    ProgramCatalog := ⟨catalog.programs.set index document⟩

def applyNew (catalog : ProgramCatalog) (request : FermentationUiProgramEditRequest) :
    FermentationUiProgramEditResult :=
  match allocateNextUserProgramId catalog with
  | .error status => { status := statusOfAllocation status, catalog }
  | .ok id =>
    match FactoryProgramCatalog.find (literal "water-kefir") with
    | none => { status := .invalidCandidate, catalog }
    | some templateProgram =>
      { status := .applied
        affectedProgramId := some id
        catalog := ⟨catalog.programs ++ [newProgram request templateProgram id]⟩ }

def applyCopy (catalog : ProgramCatalog) (request : FermentationUiProgramEditRequest)
    (document : ProgramDocument) : FermentationUiProgramEditResult :=
  match allocateNextUserProgramId catalog with
  | .error status => { status := statusOfAllocation status, catalog }
  | .ok id =>
    let name := request.name.getD (document.program.name ++ literal " copy")
    { status := .applied
      affectedProgramId := some id
      catalog := ⟨catalog.programs ++ [asUserProgram document id name]⟩ }

def applyReset (catalog : ProgramCatalog) (request : FermentationUiProgramEditRequest)
    (index : ℕ) (document : ProgramDocument) : FermentationUiProgramEditResult :=
  if !isFactoryProgram document || !document.program.resettable then
    { status := .notAllowed, catalog }
  else
    match FactoryProgramCatalog.find request.programId with
    | none => { status := .invalidCandidate, catalog }
    | some factory =>
      { status := .applied
        affectedProgramId := some request.programId
        catalog := catalog.replace index factory }

def applyUninstall (catalog : ProgramCatalog) (request : FermentationUiProgramEditRequest)
    (usage : FermentationUiProgramUsageEvidence) (index : ℕ) (document : ProgramDocument) :
    FermentationUiProgramEditResult :=
  if !request.confirmed then
    { status := .confirmationRequired, affectedProgramId := some request.programId, catalog }
  else if !isFactoryProgram document || !document.program.userDeletable ||
      usage.isInUse request.programId then { status := .notAllowed, catalog }
  else
    { status := .applied
      affectedProgramId := some request.programId
      catalog := catalog.replace index
        { document with program := { document.program with installed := false } } }

def applyDelete (catalog : ProgramCatalog) (request : FermentationUiProgramEditRequest)
    (usage : FermentationUiProgramUsageEvidence) (index : ℕ) (document : ProgramDocument) :
    FermentationUiProgramEditResult :=
  if !request.confirmed then
    { status := .confirmationRequired, affectedProgramId := some request.programId, catalog }
  else if index < kFactoryProgramCount ∨ document.program.userDeletable = false ∨
      usage.isInUse request.programId = true then { status := .notAllowed, catalog }
  else
    { status := .applied
      affectedProgramId := some request.programId
      catalog := ⟨catalog.programs.eraseIdx index⟩ }

def applyEdit (catalog : ProgramCatalog) (request : FermentationUiProgramEditRequest) (index : ℕ)
    (document : ProgramDocument) : FermentationUiProgramEditResult :=
  match request.candidate with
  | none => { status := .invalidCandidate, catalog }
  | some candidate =>
    if candidate.program.id ≠ request.programId then { status := .invalidCandidate, catalog }
    else if document.program.builtIn ≠ candidate.program.builtIn ∨
        document.program.factoryCatalogEntry ≠ candidate.program.factoryCatalogEntry ∨
        document.program.resettable ≠ candidate.program.resettable ∨
        document.program.userDeletable ≠ candidate.program.userDeletable then
      { status := .notAllowed, catalog }
    else
      { status := .applied
        affectedProgramId := some request.programId
        catalog := catalog.replace index candidate }

def applyProgramEdit (catalog : ProgramCatalog) (request : FermentationUiProgramEditRequest)
    (usage : FermentationUiProgramUsageEvidence) : FermentationUiProgramEditResult :=
  match request.operation with
  | .new => applyNew catalog request
  | operation =>
    match findProgramIndex catalog request.programId with
    | none => { status := .notFound, catalog }
    | some index =>
      match catalog.programs[index]?, operation with
      -- An index that was found is one of the list.
      | none, _ => { status := .notFound, catalog }
      | some document, .copy => applyCopy catalog request document
      | some document, .reset => applyReset catalog request index document
      | some document, .uninstall => applyUninstall catalog request usage index document
      | some document, .delete => applyDelete catalog request usage index document
      | some document, _ => applyEdit catalog request index document

end Fermentationsschrank

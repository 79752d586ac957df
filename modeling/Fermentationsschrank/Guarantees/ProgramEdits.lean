import Fermentationsschrank.Configuration.ProgramCatalogCodec
import Fermentationsschrank.Program.ProgramEditing

/-!
# Edits of the catalog

An edit keeps the places of the catalog: what it makes is valid again when the program that it
touched is.  The other programs stay as they are and in their order, and a program in use is
neither deleted nor uninstalled.
-/

namespace Fermentationsschrank

variable {document created : ProgramDocument} {documents front back : List ProgramDocument}
variable {catalog : ProgramCatalog} {index factoryCount : ℕ} {identifiers : List Bytes}
variable {id name : Bytes}

/-! ## Places of the catalog -/

def ids (documents : List ProgramDocument) : List Bytes := documents.map (·.program.id)

/-- Each program is valid in its place, the first one at `index`. -/
def Placed : ℕ → List ProgramDocument → Prop
  | _, [] => True
  | index, document :: documents =>
      validateProgramPosition document.program index = .success ∧ ProgramContentsValid document ∧
        Placed (index + 1) documents

theorem placed_append :
    Placed index (front ++ back) ↔ Placed index front ∧ Placed (index + front.length) back := by
  induction front generalizing index with
  | nil => simp [Placed]
  | cons document front ih =>
      rw [List.cons_append, Placed, Placed, ih, List.length_cons, Nat.add_assoc index 1,
        Nat.add_comm 1]
      tauto

/-- The place of a program of the user may be any place behind the factory. -/
theorem position_behind {program : ProgramDefinition} (h : kFactoryProgramCount ≤ index) :
    validateProgramPosition program index = .success ↔
      program.builtIn = false ∧ program.factoryCatalogEntry = false ∧
        program.resettable = false ∧ isReservedFactoryId program.id = false := by
  rw [validateProgramPosition, getElem?_programs_eq_none.mpr (Nat.not_lt.mpr h)]
  cases program.builtIn <;> cases program.factoryCatalogEntry <;> cases program.resettable <;>
    cases isReservedFactoryId program.id <;> simp

/-- The place of a program of the factory, by the marks that the validation reads. -/
theorem position_factory {program : ProgramDefinition} (h : index < kFactoryProgramCount)
    (hvalid : validateProgramPosition program index = .success) :
    program.builtIn = true ∧ program.factoryCatalogEntry = true ∧ program.resettable = true := by
  rw [validateProgramPosition] at hvalid
  split at hvalid
  case h_1 factory hfactory =>
    split_ifs at hvalid with hid hmarks
    simpa [and_assoc] using hmarks
  case h_2 hnone => exact absurd h (getElem?_programs_eq_none.mp hnone)

theorem placed_shift {other : ℕ} (h : kFactoryProgramCount ≤ index)
    (hother : kFactoryProgramCount ≤ other) (hplaced : Placed index documents) :
    Placed other documents := by
  induction documents generalizing index other with
  | nil => exact trivial
  | cons document documents ih =>
      obtain ⟨hposition, hcontents, hrest⟩ := hplaced
      refine ⟨(position_behind hother).mpr ((position_behind h).mp hposition), hcontents, ?_⟩
      exact ih (h.trans (Nat.le_succ index)) (hother.trans (Nat.le_succ other)) hrest

/-- A mark of the factory's places is as frequent as these places. -/
theorem countP_placed {mark : ProgramDocument → Bool}
    (hmark : ∀ index document, validateProgramPosition document.program index = .success →
      mark document = decide (index < kFactoryProgramCount)) (hplaced : Placed index documents) :
    documents.countP mark = min documents.length (kFactoryProgramCount - index) := by
  induction documents generalizing index with
  | nil => simp
  | cons document documents ih =>
      obtain ⟨hposition, -, hrest⟩ := hplaced
      rw [List.countP_cons, ih hrest, List.length_cons, hmark index document hposition]
      by_cases hindex : index < kFactoryProgramCount
      · rw [decide_eq_true hindex, if_pos rfl]
        omega
      · rw [decide_eq_false hindex, if_neg Bool.false_ne_true]
        omega

theorem factoryCatalogEntry_eq (index : ℕ) (document : ProgramDocument)
    (h : validateProgramPosition document.program index = .success) :
    document.program.factoryCatalogEntry = decide (index < kFactoryProgramCount) := by
  by_cases hindex : index < kFactoryProgramCount
  · rw [decide_eq_true hindex]
    exact (position_factory hindex h).2.1
  · rw [decide_eq_false hindex]
    exact ((position_behind (Nat.not_lt.mp hindex)).mp h).2.1

theorem isFactoryProgram_eq (index : ℕ) (document : ProgramDocument)
    (h : validateProgramPosition document.program index = .success) :
    isFactoryProgram document = decide (index < kFactoryProgramCount) := by
  rw [isFactoryProgram, factoryCatalogEntry_eq index document h]
  by_cases hindex : index < kFactoryProgramCount
  · rw [(position_factory hindex h).1, Bool.true_and]
  · rw [decide_eq_false hindex, Bool.and_false]

theorem validateProgramEntries_iff :
    validateProgramEntries index factoryCount identifiers documents = .success ↔
      Placed index documents ∧ (ids documents).Nodup ∧
        (∀ id ∈ ids documents, id ∉ identifiers) ∧
        factoryCount + documents.countP (·.program.factoryCatalogEntry) =
          kFactoryProgramCount := by
  induction documents generalizing index factoryCount identifiers with
  | nil =>
      rw [validateProgramEntries, ite_eq_right_iff]
      simp [Placed, ids]
  | cons document documents ih =>
      rw [validateProgramEntries_cons, ih]
      simp only [ids, List.map_cons, List.nodup_cons, forall_eq_or_imp, Placed,
        List.countP_cons, List.mem_cons, not_or]
      have hcount : (if document.program.factoryCatalogEntry = true then factoryCount + 1
            else factoryCount) + documents.countP (·.program.factoryCatalogEntry) =
          factoryCount + (documents.countP (·.program.factoryCatalogEntry) +
            if document.program.factoryCatalogEntry = true then 1 else 0) := by
        split <;> omega
      rw [hcount]
      constructor
      · rintro ⟨hposition, hnew, hcontents, hrest, hnodup, hothers, htotal⟩
        exact ⟨⟨hposition, hcontents, hrest⟩,
          ⟨fun hmem => (hothers _ hmem).1 rfl, hnodup⟩,
          ⟨hnew, fun id hmem => (hothers id hmem).2⟩, htotal⟩
      · rintro ⟨⟨hposition, hcontents, hrest⟩, ⟨hfirst, hnodup⟩, ⟨hnew, hothers⟩, htotal⟩
        refine ⟨hposition, hnew, hcontents, hrest, hnodup, fun id hmem => ⟨?_, hothers id hmem⟩,
          htotal⟩
        rintro rfl
        exact hfirst hmem

/-- A catalog is valid when its programs are in their places and have identifiers of their own. -/
theorem catalog_valid_iff :
    validateProgramCatalog catalog = .success ↔
      (kFactoryProgramCount ≤ catalog.programs.length ∧
        catalog.programs.length ≤ kMaximumProgramCount) ∧
      Placed 0 catalog.programs ∧ (ids catalog.programs).Nodup := by
  rw [validateProgramCatalog_eq_success, validateProgramEntries_iff]
  constructor
  · rintro ⟨hcount, hplaced, hnodup, -⟩
    exact ⟨hcount, hplaced, hnodup⟩
  · rintro ⟨hcount, hplaced, hnodup⟩
    refine ⟨hcount, hplaced, hnodup, by simp, ?_⟩
    rw [countP_placed factoryCatalogEntry_eq hplaced]
    omega

/-! ## New identifiers -/

theorem isLowercaseAlphaNumeric_base36 :
    ∀ value < 36, isLowercaseAlphaNumeric (base36 value) = true := by decide

theorem base36_injective : ∀ value < 36, ∀ other < 36, base36 value = base36 other →
    value = other := by decide

theorem userProgramId_valid {ordinal : ℕ} (h : ordinal < 36 * 36) :
    validateLowercaseIdentifier (userProgramId ordinal) kMinimumProgramIdBytes
      kMaximumProgramIdBytes = .success := by
  have hhigh := isLowercaseAlphaNumeric_base36 (ordinal / 36) (by omega)
  have hlow := isLowercaseAlphaNumeric_base36 (ordinal % 36) (by omega)
  have hu : isLowercaseAlphaNumeric 117 = true := rfl
  have hs : isLowercaseAlphaNumeric 115 = true := rfl
  have he : isLowercaseAlphaNumeric 101 = true := rfl
  have hr : isLowercaseAlphaNumeric 114 = true := rfl
  have hhyphen : isLowercaseAlphaNumeric 45 = false := rfl
  have hnotHyphen : ∀ byte, isLowercaseAlphaNumeric byte = true → byte ≠ 45 := by
    rintro byte hbyte rfl
    rw [hhyphen] at hbyte
    cases hbyte
  simp [validateLowercaseIdentifier, userProgramId, scanIdentifier, hhigh, hlow, hu, hs, he, hr,
    hnotHyphen _ hhigh, hnotHyphen _ hlow, kMinimumProgramIdBytes, kMaximumProgramIdBytes]

theorem userProgramId_unreserved (ordinal : ℕ) :
    isReservedFactoryId (userProgramId ordinal) = false := by
  have hlengths : ∀ factory ∈ FactoryProgramCatalog.programs, factory.program.id.length ≠ 7 := by
    decide
  rw [isReservedFactoryId, List.any_eq_false]
  intro factory hmem hsame
  apply hlengths factory hmem
  rw [← of_decide_eq_true hsame]
  rfl

theorem userProgramId_injective {ordinal other : ℕ} (h : ordinal < 36 * 36)
    (hother : other < 36 * 36) (hsame : userProgramId ordinal = userProgramId other) :
    ordinal = other := by
  simp only [userProgramId, List.cons.injEq, true_and, and_true] at hsame
  have hhigh := base36_injective _ (by omega) _ (by omega) hsame.1
  have hlow := base36_injective _ (by omega) _ (by omega) hsame.2
  omega

theorem firstUnused_eq_ok {used : List Bytes} {ordinals : List ℕ}
    (h : firstUnused used ordinals = .ok id) :
    ∃ ordinal ∈ ordinals, id = userProgramId ordinal ∧ id ∉ used := by
  induction ordinals with
  | nil => cases h
  | cons ordinal ordinals ih =>
      rw [firstUnused] at h
      split_ifs at h with hinvalid hunused
      · obtain ⟨found, hfound, hid⟩ := ih h
        exact ⟨found, List.mem_cons_of_mem _ hfound, hid⟩
      · cases h
        exact ⟨ordinal, List.mem_cons_self, rfl, hunused⟩

theorem firstUnused_eq_error {used : List Bytes} {ordinals : List ℕ}
    {status : UserProgramIdAllocationStatus} (hordinals : ∀ ordinal ∈ ordinals, ordinal < 36 * 36)
    (h : firstUnused used ordinals = .error status) :
    ∀ ordinal ∈ ordinals, userProgramId ordinal ∈ used := by
  induction ordinals with
  | nil => nofun
  | cons ordinal ordinals ih =>
      obtain ⟨hfirst, hothers⟩ := List.forall_mem_cons.mp hordinals
      rw [firstUnused, userProgramId_valid hfirst] at h
      simp only [ne_eq, not_true_eq_false, if_false, ite_not] at h
      split_ifs at h with hused
      exact List.forall_mem_cons.mpr ⟨hused, ih hothers h⟩

/-- There are more identifiers than a list can use up. -/
theorem exists_firstUnused {used : List Bytes} (hused : used.length < 36 * 36) :
    ∃ id, firstUnused used (List.range (36 * 36)) = .ok id := by
  cases h : firstUnused used (List.range (36 * 36)) with
  | ok id => exact ⟨id, rfl⟩
  | error status =>
      have hall := firstUnused_eq_error (fun ordinal hmem => List.mem_range.mp hmem) h
      have hnodup : ((List.range (36 * 36)).map userProgramId).Nodup :=
        List.Nodup.map_on (fun ordinal hmem other hother =>
          userProgramId_injective (List.mem_range.mp hmem) (List.mem_range.mp hother))
          List.nodup_range
      have hsubset : (List.range (36 * 36)).map userProgramId ⊆ used := by
        intro found hmem
        obtain ⟨ordinal, hordinal, rfl⟩ := List.mem_map.mp hmem
        exact hall ordinal hordinal
      have hlength := (hnodup.subperm hsubset).length_le
      rw [List.length_map, List.length_range] at hlength
      omega

/-- An identifier that was allocated is one for a new program of the user. -/
theorem allocated_new (h : allocateNextUserProgramId catalog = .ok id) :
    id ∉ ids catalog.programs ∧ id ≠ [] ∧ isReservedFactoryId id = false ∧
      validateLowercaseIdentifier id kMinimumProgramIdBytes kMaximumProgramIdBytes =
        .success := by
  rw [allocateNextUserProgramId] at h
  split_ifs at h
  obtain ⟨ordinal, hordinal, rfl, hunused⟩ := firstUnused_eq_ok h
  exact ⟨hunused, nofun, userProgramId_unreserved ordinal,
    userProgramId_valid (List.mem_range.mp hordinal)⟩

/-- In a valid catalog there is an identifier as long as there is a place. -/
theorem exists_allocated_iff (hvalid : validateProgramCatalog catalog = .success) :
    (∃ id, allocateNextUserProgramId catalog = .ok id) ↔
      catalog.programs.length < kMaximumProgramCount := by
  obtain ⟨⟨hleast, hmost⟩, hplaced, hnodup⟩ := catalog_valid_iff.mp hvalid
  have hcount := countP_placed isFactoryProgram_eq hplaced
  have htotal := List.length_eq_countP_add_countP isFactoryProgram (l := catalog.programs)
  have husers : catalog.programs.countP (!isFactoryProgram ·) =
      catalog.programs.length - kFactoryProgramCount := by
    have hsame : catalog.programs.countP (!isFactoryProgram ·) =
        catalog.programs.countP fun document => ¬isFactoryProgram document = true := by
      apply List.countP_congr
      simp
    rw [hsame]
    omega
  have hempty : [] ∉ catalog.programs.map (·.program.id) := by
    intro hmem
    obtain ⟨document, hdocument, hid⟩ := List.mem_map.mp hmem
    obtain ⟨-, hentries⟩ := validateProgramCatalog_eq_success.mp hvalid
    have hcontents := (contentsValid_of_entries hentries document hdocument).id
    rw [hid] at hcontents
    cases hcontents
  have hsize : ¬(catalog.programs.length < kFactoryProgramCount ∨
      kMaximumProgramCount < catalog.programs.length) := by omega
  have hids : ¬([] ∈ catalog.programs.map (·.program.id) ∨
      ¬(catalog.programs.map (·.program.id)).Nodup) := by
    rw [not_or, not_not]
    exact ⟨hempty, hnodup⟩
  rw [allocateNextUserProgramId, if_neg hsize, if_neg hids, husers]
  rw [kFactoryProgramCount] at hleast ⊢
  rw [kMaximumProgramCount] at hmost ⊢
  by_cases hfull : kMaximumUserProgramCount ≤ catalog.programs.length - 4
  · rw [if_pos hfull]
    rw [kMaximumUserProgramCount] at hfull
    refine iff_of_false (by rintro ⟨_, ⟨⟩⟩) ?_
    omega
  · rw [if_neg hfull]
    rw [kMaximumUserProgramCount] at hfull
    refine iff_of_true (exists_firstUnused ?_) (by omega)
    rw [List.length_map]
    omega

/-! ## What an edit does -/

/-- The marks by which the validation tells the programs of the factory. -/
def ProgramDefinition.marks (program : ProgramDefinition) : Bool × Bool × Bool :=
  (program.builtIn, program.factoryCatalogEntry, program.resettable)

theorem position_congr {program other : ProgramDefinition} (hid : program.id = other.id)
    (hmarks : program.marks = other.marks) :
    validateProgramPosition program index = validateProgramPosition other index := by
  simp only [ProgramDefinition.marks, Prod.mk.injEq] at hmarks
  obtain ⟨hbuiltIn, hentry, hresettable⟩ := hmarks
  rw [validateProgramPosition, validateProgramPosition, hid, hbuiltIn, hentry, hresettable]

/-- A program was added behind the others, one was replaced in its place, or one of the user was
taken out. -/
inductive Edited (catalog : ProgramCatalog) (request : FermentationUiProgramEditRequest)
    (affected : Bytes) : ProgramCatalog → Prop
  | added (created : ProgramDocument)
      (hoperation : request.operation = .new ∨ request.operation = .copy)
      (hid : created.program.id = affected)
      (hnew : affected ∉ ids catalog.programs) (hreserved : isReservedFactoryId affected = false)
      (hmarks : created.program.marks = (false, false, false))
      (hroom : catalog.programs.length < kMaximumProgramCount) :
      Edited catalog request affected ⟨catalog.programs ++ [created]⟩
  | replaced (front : List ProgramDocument) (document written : ProgramDocument)
      (back : List ProgramDocument)
      (hoperation : request.operation = .edit ∨ request.operation = .reset ∨
        request.operation = .uninstall)
      (hprograms : catalog.programs = front ++ document :: back)
      (hid : document.program.id = affected) (hwritten : written.program.id = affected)
      (hmarks : written.program.marks = document.program.marks) :
      Edited catalog request affected ⟨front ++ written :: back⟩
  | removed (front : List ProgramDocument) (document : ProgramDocument)
      (back : List ProgramDocument) (hoperation : request.operation = .delete)
      (hprograms : catalog.programs = front ++ document :: back)
      (hid : document.program.id = affected) (hplace : kFactoryProgramCount ≤ front.length) :
      Edited catalog request affected ⟨front ++ back⟩

variable {affected : Bytes} {catalog' : ProgramCatalog}
variable {request : FermentationUiProgramEditRequest} {usage : FermentationUiProgramUsageEvidence}

theorem ids_append : ids (front ++ back) = ids front ++ ids back := List.map_append

theorem ids_cons : ids (document :: back) = document.program.id :: ids back := rfl

/-- After an edit the catalog is valid when the program that was touched is. -/
theorem Edited.valid_iff (hedited : Edited catalog request affected catalog')
    (hvalid : validateProgramCatalog catalog = .success) :
    validateProgramCatalog catalog' = .success ↔
      ∀ document ∈ catalog'.programs, document.program.id = affected →
        ProgramContentsValid document := by
  constructor
  · intro h document hmem _
    obtain ⟨-, hentries⟩ := validateProgramCatalog_eq_success.mp h
    exact contentsValid_of_entries hentries document hmem
  · intro hcontents
    obtain ⟨⟨hleast, hmost⟩, hplaced, hnodup⟩ := catalog_valid_iff.mp hvalid
    refine catalog_valid_iff.mpr ?_
    cases hedited with
    | added created _ hid hnew hreserved hmarks hroom =>
        have hcreated := hcontents created (by simp) hid
        simp only [ProgramDefinition.marks, Prod.mk.injEq] at hmarks
        obtain ⟨hbuiltIn, hentry, hresettable⟩ := hmarks
        refine ⟨⟨?_, ?_⟩, ?_, ?_⟩
        · rw [List.length_append]
          exact hleast.trans (Nat.le_add_right _ _)
        · rw [List.length_append, List.length_singleton]
          exact hroom
        · rw [placed_append, Nat.zero_add]
          rw [← hid] at hreserved
          exact ⟨hplaced, (position_behind hleast).mpr ⟨hbuiltIn, hentry, hresettable, hreserved⟩,
            hcreated, trivial⟩
        · rw [ids_append, List.nodup_append]
          refine ⟨hnodup, List.nodup_singleton _, ?_⟩
          intro found hfound other hother hsame
          rw [ids_cons, hid] at hother
          rw [List.mem_singleton.mp hother] at hsame
          exact hnew (hsame ▸ hfound)
    | replaced front document written back _ hprograms hid hwritten hmarks =>
        rw [hprograms] at hleast hmost hplaced hnodup
        have hsame : ids (front ++ written :: back) = ids (front ++ document :: back) := by
          rw [ids_append, ids_append, ids_cons, ids_cons, hid, hwritten]
        obtain ⟨hfront, hposition, -, hback⟩ := placed_append.mp hplaced
        rw [List.length_append, List.length_cons] at hleast hmost
        refine ⟨⟨?_, ?_⟩, placed_append.mpr ⟨hfront, ?_, hcontents written (by simp) hwritten,
          hback⟩, hsame ▸ hnodup⟩
        · rw [List.length_append, List.length_cons]
          exact hleast
        · rw [List.length_append, List.length_cons]
          exact hmost
        · rw [position_congr (hwritten.trans hid.symm) hmarks]
          exact hposition
    | removed front document back _ hprograms hid hplace =>
        rw [hprograms] at hleast hmost hplaced hnodup
        obtain ⟨hfront, -, -, hback⟩ := placed_append.mp hplaced
        rw [List.length_append, List.length_cons] at hmost
        rw [Nat.zero_add] at hback
        refine ⟨⟨?_, ?_⟩, placed_append.mpr ⟨hfront, ?_⟩, ?_⟩
        · rw [List.length_append]
          exact hplace.trans (Nat.le_add_right _ _)
        · rw [List.length_append]
          omega
        · rw [Nat.zero_add]
          exact placed_shift (hplace.trans (Nat.le_succ _)) hplace hback
        · rw [ids_append, ids_cons] at hnodup
          rw [ids_append]
          exact hnodup.sublist (List.Sublist.append_left (List.sublist_cons_self _ _) _)

/-- The programs that an edit does not touch stay as they are and in their order. -/
theorem Edited.others (hedited : Edited catalog request affected catalog') :
    catalog'.programs.filter (·.program.id ≠ affected) =
      catalog.programs.filter (·.program.id ≠ affected) := by
  cases hedited with
  | added created _ hid => simp [hid]
  | replaced front document written back _ hprograms hid hwritten =>
      rw [hprograms]
      simp [hid, hwritten]
  | removed front document back _ hprograms hid =>
      rw [hprograms]
      simp [hid]

/-! ## Applied edits -/

/-- The program that was found, between those before and behind it. -/
theorem exists_split_of_find (h : findProgramIndex catalog id = some index) :
    ∃ front document back, catalog.programs = front ++ document :: back ∧
      front.length = index ∧ document.program.id = id ∧
      catalog.programs[index]? = some document := by
  obtain ⟨hindex, hid, -⟩ := List.findIdx?_eq_some_iff_getElem.mp h
  refine ⟨catalog.programs.take index, catalog.programs[index], catalog.programs.drop (index + 1),
    ?_, ?_, of_decide_eq_true hid, List.getElem?_eq_getElem hindex⟩
  · rw [← List.drop_eq_getElem_cons hindex, List.take_append_drop]
  · rw [List.length_take, Nat.min_eq_left hindex.le]

theorem find_factory {factory : ProgramDocument}
    (h : FactoryProgramCatalog.find id = some factory) :
    factory.program.id = id ∧ factory.program.marks = (true, true, true) ∧
      ProgramContentsValid factory := by
  have hfactory : ∀ factory ∈ FactoryProgramCatalog.programs,
      factory.program.marks = (true, true, true) ∧
        validateProgramContents factory = .success := by decide +kernel
  have hid := List.find?_some h
  obtain ⟨hmarks, hcontents⟩ := hfactory factory (List.mem_of_find?_eq_some h)
  exact ⟨of_decide_eq_true hid, hmarks, validateProgramContents_eq_success.mp hcontents⟩

/-- What the request brings is valid by itself, and a copy has a name. -/
@[mk_iff]
structure FermentationUiProgramEditRequest.Safe (request : FermentationUiProgramEditRequest) :
    Prop where
  candidate : ∀ candidate ∈ request.candidate, ProgramContentsValid candidate
  name : ∀ name ∈ request.name, validateVisibleName name = .success
  copy : request.operation = .copy → request.name.isSome = true

instance (document : ProgramDocument) : Decidable (ProgramContentsValid document) :=
  decidable_of_iff _ validateProgramContents_eq_success

instance (request : FermentationUiProgramEditRequest) : Decidable request.Safe :=
  decidable_of_iff _ (FermentationUiProgramEditRequest.safe_iff request).symm

theorem ne_nil_of_validateVisibleName (h : validateVisibleName name = .success) : name ≠ [] := by
  rintro rfl
  cases h

/-- A valid program stays one under another identifier and name, as a program of the user. -/
theorem contents_asUserProgram (h : ProgramContentsValid document) (hid : id ≠ [])
    (hidentifier : validateLowercaseIdentifier id kMinimumProgramIdBytes kMaximumProgramIdBytes =
      .success) (hname : validateVisibleName name = .success) :
    ProgramContentsValid (asUserProgram document id name) := by
  refine ⟨hidentifier, hname, h.notes, ?_⟩
  have hprogram := h.program
  have hversion := validateProgram_version hprogram
  have hnameEmpty := ne_nil_of_validateVisibleName hname
  simp only [validateProgram, hversion, ne_eq, not_true_eq_false, if_false,
    ValidationResult.valid, List.isEmpty_iff, List.append_eq_nil_iff] at hprogram
  simp only [validateProgram, asUserProgram, hversion, ne_eq, not_true_eq_false, if_false,
    ValidationResult.valid, List.isEmpty_iff, List.append_eq_nil_iff]
  obtain ⟨⟨⟨⟨⟨⟨⟨⟨⟨⟨⟨⟨hrequired, hunknown⟩, -⟩, -⟩, hcross⟩, hstages⟩, hband⟩, hduration⟩, hreach⟩,
    hwait⟩, hdelay⟩, hcooling⟩, hhold⟩ := hprogram
  refine ⟨⟨⟨⟨⟨⟨⟨⟨⟨⟨⟨⟨hrequired, hunknown⟩, ?_⟩, ?_⟩, hcross⟩, hstages⟩, hband⟩, hduration⟩, hreach⟩,
    hwait⟩, hdelay⟩, hcooling⟩, hhold⟩
  · simp [failWhen, hid]
  · simp [failWhen, hnameEmpty]

theorem newProgramName_valid : validateVisibleName newProgramName = .success := by decide

/-- The template of a new program, under an identifier that can be checked. -/
theorem contents_template {templateProgram : ProgramDocument}
    (h : FactoryProgramCatalog.find (literal "water-kefir") = some templateProgram) :
    ProgramContentsValid (withoutValues templateProgram) := by
  have htemplate : ∀ factory ∈ FactoryProgramCatalog.programs,
      validateProgramContents (withoutValues factory) = .success := by decide +kernel
  exact validateProgramContents_eq_success.mp (htemplate _ (List.mem_of_find?_eq_some h))

theorem newProgram_contents (hsafe : request.Safe) {templateProgram : ProgramDocument}
    (htemplate : FactoryProgramCatalog.find (literal "water-kefir") = some templateProgram)
    (hid : id ≠ [])
    (hidentifier : validateLowercaseIdentifier id kMinimumProgramIdBytes kMaximumProgramIdBytes =
      .success) : ProgramContentsValid (newProgram request templateProgram id) := by
  have hname : ∀ name, validateVisibleName name = .success →
      validateVisibleName (if name = [] then newProgramName else name) = .success := by
    intro name h
    rw [if_neg (ne_nil_of_validateVisibleName h)]
    exact h
  rw [newProgram]
  cases hcandidate : request.candidate with
  | some candidate =>
      have hcontents := hsafe.candidate candidate hcandidate
      apply contents_asUserProgram hcontents hid hidentifier
      apply hname
      cases hgiven : request.name with
      | none => exact hcontents.name
      | some name => exact hsafe.name name hgiven
  | none =>
      apply contents_asUserProgram (contents_template htemplate) hid hidentifier
      apply hname
      cases hgiven : request.name with
      | none => exact newProgramName_valid
      | some name => exact hsafe.name name hgiven

/-- Whether a program is installed is not a part of what is validated. -/
theorem contents_installed (h : ProgramContentsValid document) (installed : Bool) :
    ProgramContentsValid { document with program := { document.program with installed } } :=
  ⟨h.id, h.name, h.notes, h.program⟩

/-- What the answer of an edit says: nothing happened, or the named program was touched. -/
structure EditAnswer (catalog : ProgramCatalog) (request : FermentationUiProgramEditRequest)
    (usage : FermentationUiProgramUsageEvidence) (result : FermentationUiProgramEditResult) :
    Prop where
  refused : result.status ≠ .applied → result.catalog = catalog
  applied : result.status = .applied → ∃ affected, result.affectedProgramId = some affected ∧
    Edited catalog request affected result.catalog ∧
    (request.operation = .delete ∨ request.operation = .uninstall →
      usage.activeProgramId ≠ some affected)
  safe : request.Safe → validateProgramCatalog result.catalog = .success

theorem editAnswer_refused {result : FermentationUiProgramEditResult}
    (hvalid : validateProgramCatalog catalog = .success) (hcatalog : result.catalog = catalog)
    (hstatus : result.status ≠ .applied) : EditAnswer catalog request usage result :=
  ⟨fun _ => hcatalog, fun h => absurd h hstatus, fun _ => hcatalog ▸ hvalid⟩

/-- A program of a valid catalog has valid contents, and so has one that is valid itself. -/
theorem Edited.safe (hvalid : validateProgramCatalog catalog = .success)
    (hedited : Edited catalog request affected catalog')
    (hwritten : ∀ document ∈ catalog'.programs,
      document ∈ catalog.programs ∨ ProgramContentsValid document) :
    validateProgramCatalog catalog' = .success := by
  obtain ⟨-, hentries⟩ := validateProgramCatalog_eq_success.mp hvalid
  refine (hedited.valid_iff hvalid).mpr fun document hmem _ => ?_
  rcases hwritten document hmem with hold | hnew
  · exact contentsValid_of_entries hentries document hold
  · exact hnew

/-- An edit that was applied to a program in its place. -/
theorem editAnswer_replaced {front back : List ProgramDocument} {document written : ProgramDocument}
    (hvalid : validateProgramCatalog catalog = .success)
    (hoperation : request.operation = .edit ∨ request.operation = .reset ∨
      request.operation = .uninstall)
    (hprograms : catalog.programs = front ++ document :: back)
    (hid : document.program.id = request.programId)
    (hwritten : written.program.id = request.programId)
    (hmarks : written.program.marks = document.program.marks)
    (huse : request.operation = .uninstall → usage.activeProgramId ≠ some request.programId)
    (hcontents : request.Safe → ProgramContentsValid written) :
    EditAnswer catalog request usage
      { status := .applied, affectedProgramId := some request.programId
        catalog := catalog.replace front.length written } := by
  have hcatalog : catalog.replace front.length written = ⟨front ++ written :: back⟩ := by
    rw [ProgramCatalog.replace, hprograms, List.set_append_right _ _ le_rfl, Nat.sub_self,
      List.set_cons_zero]
  have hedited :=
    Edited.replaced front document written back hoperation hprograms hid hwritten hmarks
  rw [hcatalog]
  refine ⟨fun h => absurd rfl h, fun _ => ⟨_, rfl, hedited, fun huninstall => ?_⟩,
    fun hsafe => ?_⟩
  · rcases huninstall with hdelete | huninstall
    · rw [hdelete] at hoperation
      simp at hoperation
    · exact huse huninstall
  refine hedited.safe hvalid fun found hmem => ?_
  rw [List.mem_append, List.mem_cons] at hmem
  rw [hprograms, List.mem_append, List.mem_cons]
  rcases hmem with hfront | rfl | hback
  · exact Or.inl (Or.inl hfront)
  · exact Or.inr (hcontents hsafe)
  · exact Or.inl (Or.inr (Or.inr hback))

/-- An edit that made a program of the user. -/
theorem editAnswer_added (hvalid : validateProgramCatalog catalog = .success)
    (hallocated : allocateNextUserProgramId catalog = .ok id)
    (hid : created.program.id = id) (hmarks : created.program.marks = (false, false, false))
    (hoperation : request.operation = .new ∨ request.operation = .copy)
    (hcontents : request.Safe → ProgramContentsValid created) :
    EditAnswer catalog request usage
      { status := .applied, affectedProgramId := some id
        catalog := ⟨catalog.programs ++ [created]⟩ } := by
  obtain ⟨hnew, -, hreserved, -⟩ := allocated_new hallocated
  have hroom := (exists_allocated_iff hvalid).mp ⟨id, hallocated⟩
  have hedited := Edited.added created hoperation hid hnew hreserved hmarks hroom
  have huse : ¬(request.operation = .delete ∨ request.operation = .uninstall) := by
    rcases hoperation with hoperation | hoperation <;> simp [hoperation]
  refine ⟨fun h => absurd rfl h, fun _ => ⟨id, rfl, hedited, fun h => absurd h huse⟩,
    fun hsafe => ?_⟩
  refine hedited.safe hvalid fun found hmem => ?_
  rcases List.mem_append.mp hmem with hold | hlast
  · exact Or.inl hold
  · rw [List.mem_singleton.mp hlast]
    exact Or.inr (hcontents hsafe)

theorem statusOfAllocation_ne_applied (status : UserProgramIdAllocationStatus) :
    statusOfAllocation status ≠ .applied := by
  rw [statusOfAllocation]
  split <;> nofun

theorem newProgram_id (request : FermentationUiProgramEditRequest)
    (templateProgram : ProgramDocument) (id : Bytes) :
    (newProgram request templateProgram id).program.id = id ∧
      (newProgram request templateProgram id).program.marks = (false, false, false) := by
  rw [newProgram]
  cases request.candidate <;> exact ⟨rfl, rfl⟩

theorem applyNew_answer (hvalid : validateProgramCatalog catalog = .success)
    (hoperation : request.operation = .new) :
    EditAnswer catalog request usage (applyNew catalog request) := by
  rw [applyNew]
  cases hallocated : allocateNextUserProgramId catalog with
  | error status => exact editAnswer_refused hvalid rfl (statusOfAllocation_ne_applied status)
  | ok id =>
      cases htemplate : FactoryProgramCatalog.find (literal "water-kefir") with
      | none => exact editAnswer_refused hvalid rfl nofun
      | some templateProgram =>
          obtain ⟨hid, hmarks⟩ := newProgram_id request templateProgram id
          obtain ⟨-, hempty, -, hidentifier⟩ := allocated_new hallocated
          exact editAnswer_added hvalid hallocated hid hmarks (Or.inl hoperation) fun hsafe =>
            newProgram_contents hsafe htemplate hempty hidentifier

theorem applyCopy_answer (hvalid : validateProgramCatalog catalog = .success)
    (hdocument : document ∈ catalog.programs) (hoperation : request.operation = .copy) :
    EditAnswer catalog request usage (applyCopy catalog request document) := by
  rw [applyCopy]
  cases hallocated : allocateNextUserProgramId catalog with
  | error status => exact editAnswer_refused hvalid rfl (statusOfAllocation_ne_applied status)
  | ok id =>
      refine editAnswer_added hvalid hallocated rfl rfl (Or.inr hoperation) fun hsafe => ?_
      obtain ⟨-, hempty, -, hidentifier⟩ := allocated_new hallocated
      obtain ⟨name, hname⟩ := Option.isSome_iff_exists.mp (hsafe.copy hoperation)
      obtain ⟨-, hentries⟩ := validateProgramCatalog_eq_success.mp hvalid
      rw [hname]
      exact contents_asUserProgram (contentsValid_of_entries hentries document hdocument) hempty
        hidentifier (hsafe.name name hname)

section Found

variable (hvalid : validateProgramCatalog catalog = .success)
variable (hprograms : catalog.programs = front ++ document :: back)
variable (hid : document.program.id = request.programId)
include hvalid hprograms hid

theorem applyReset_answer (hoperation : request.operation = .reset) :
    EditAnswer catalog request usage (applyReset catalog request front.length document) := by
  rw [applyReset]
  split_ifs with hrefused
  · exact editAnswer_refused hvalid rfl nofun
  · cases hfactory : FactoryProgramCatalog.find request.programId with
    | none => exact editAnswer_refused hvalid rfl nofun
    | some factory =>
        obtain ⟨hwritten, hmarks, hcontents⟩ := find_factory hfactory
        refine editAnswer_replaced hvalid (Or.inr (Or.inl hoperation)) hprograms hid hwritten ?_
          (by simp [hoperation]) fun _ => hcontents
        simp only [isFactoryProgram, Bool.or_eq_true, Bool.not_eq_true', not_or,
          Bool.not_eq_false, Bool.and_eq_true] at hrefused
        rw [hmarks, ProgramDefinition.marks, hrefused.1.1, hrefused.1.2, hrefused.2]

theorem applyUninstall_answer (hoperation : request.operation = .uninstall) :
    EditAnswer catalog request usage
      (applyUninstall catalog request usage front.length document) := by
  rw [applyUninstall]
  split_ifs with hconfirmed hrefused
  · exact editAnswer_refused hvalid rfl nofun
  · exact editAnswer_refused hvalid rfl nofun
  · rw [Bool.or_eq_true, not_or, FermentationUiProgramUsageEvidence.isInUse,
      decide_eq_true_eq] at hrefused
    obtain ⟨-, hentries⟩ := validateProgramCatalog_eq_success.mp hvalid
    have hdocument : document ∈ catalog.programs := by
      rw [hprograms]
      exact List.mem_append_right _ List.mem_cons_self
    exact editAnswer_replaced hvalid (Or.inr (Or.inr hoperation)) hprograms hid hid rfl
      (fun _ => hrefused.2) fun _ =>
      contents_installed (contentsValid_of_entries hentries document hdocument) false

theorem applyDelete_answer (hoperation : request.operation = .delete) :
    EditAnswer catalog request usage
      (applyDelete catalog request usage front.length document) := by
  rw [applyDelete]
  split_ifs with hconfirmed hrefused
  · exact editAnswer_refused hvalid rfl nofun
  · exact editAnswer_refused hvalid rfl nofun
  · rw [not_or, not_or, FermentationUiProgramUsageEvidence.isInUse, decide_eq_true_eq,
      Nat.not_lt] at hrefused
    obtain ⟨hplace, -, huse⟩ := hrefused
    have hcatalog : catalog.programs.eraseIdx front.length = front ++ back := by
      rw [hprograms, List.eraseIdx_append_of_length_le le_rfl, Nat.sub_self,
        List.eraseIdx_cons_zero]
    have hedited := Edited.removed front document back hoperation hprograms hid hplace
    rw [hcatalog]
    refine ⟨fun h => absurd rfl h, fun _ => ⟨_, rfl, hedited, fun _ => huse⟩, fun _ => ?_⟩
    refine hedited.safe hvalid fun found hmem => Or.inl ?_
    rw [hprograms, List.mem_append, List.mem_cons]
    exact (List.mem_append.mp hmem).imp_right Or.inr

theorem applyEdit_answer (hoperation : request.operation = .edit) :
    EditAnswer catalog request usage (applyEdit catalog request front.length document) := by
  rw [applyEdit]
  cases hcandidate : request.candidate with
  | none => exact editAnswer_refused hvalid rfl nofun
  | some candidate =>
      dsimp only
      split_ifs with hname hmarks
      · exact editAnswer_refused hvalid rfl nofun
      · exact editAnswer_refused hvalid rfl nofun
      · rw [not_or, not_or, not_or, not_not, not_not, not_not] at hmarks
        obtain ⟨hbuiltIn, hentry, hresettable, -⟩ := hmarks
        refine editAnswer_replaced hvalid (Or.inl hoperation) hprograms hid (not_not.mp hname) ?_
          (by simp [hoperation]) fun hsafe => hsafe.candidate candidate hcandidate
        rw [ProgramDefinition.marks, ProgramDefinition.marks, hbuiltIn, hentry, hresettable]

end Found

theorem applyProgramEdit_answer (hvalid : validateProgramCatalog catalog = .success) :
    EditAnswer catalog request usage (applyProgramEdit catalog request usage) := by
  by_cases hnew : request.operation = .new
  · simp only [applyProgramEdit, hnew]
    exact applyNew_answer hvalid hnew
  · cases hfind : findProgramIndex catalog request.programId with
    | none =>
        have hresult :
            applyProgramEdit catalog request usage = { status := .notFound, catalog } := by
          simp only [applyProgramEdit, hfind]
        rw [hresult]
        exact editAnswer_refused hvalid rfl nofun
    | some index =>
        obtain ⟨front, document, back, hprograms, rfl, hid, hfound⟩ := exists_split_of_find hfind
        cases hoperation : request.operation with
        | new => exact absurd hoperation hnew
        | edit =>
            simp only [applyProgramEdit, hoperation, hfind, hfound]
            exact applyEdit_answer hvalid hprograms hid hoperation
        | copy =>
            simp only [applyProgramEdit, hoperation, hfind, hfound]
            exact applyCopy_answer hvalid (List.mem_of_getElem? hfound) hoperation
        | reset =>
            simp only [applyProgramEdit, hoperation, hfind, hfound]
            exact applyReset_answer hvalid hprograms hid hoperation
        | uninstall =>
            simp only [applyProgramEdit, hoperation, hfind, hfound]
            exact applyUninstall_answer hvalid hprograms hid hoperation
        | delete =>
            simp only [applyProgramEdit, hoperation, hfind, hfound]
            exact applyDelete_answer hvalid hprograms hid hoperation

/-! ## Main results -/

theorem applyNew_applied_iff (request : FermentationUiProgramEditRequest)
    (hvalid : validateProgramCatalog catalog = .success) :
    (applyNew catalog request).status = .applied ↔
      catalog.programs.length < kMaximumProgramCount := by
  rw [← exists_allocated_iff hvalid, applyNew]
  cases allocateNextUserProgramId catalog with
  | error status =>
      exact iff_of_false (statusOfAllocation_ne_applied status) fun ⟨_, h⟩ => nomatch h
  | ok id =>
      have htemplate : (FactoryProgramCatalog.find (literal "water-kefir")).isSome = true := by
        decide
      obtain ⟨templateProgram, htemplate⟩ := Option.isSome_iff_exists.mp htemplate
      rw [htemplate]
      exact iff_of_true rfl ⟨id, rfl⟩

/-- An edit of a valid catalog does nothing, or it touches one program: the catalog is valid
again when that program is, the others stay as they are and in their order, a program that is
made has an identifier of its own, and a program in use is neither deleted nor uninstalled.  There
is a new program as long as there is a place. -/
theorem applyProgramEdit_keeps_catalog (catalog : ProgramCatalog)
    (request : FermentationUiProgramEditRequest) (usage : FermentationUiProgramUsageEvidence)
    (hvalid : validateProgramCatalog catalog = .success) :
    let result := applyProgramEdit catalog request usage
    (result.status ≠ .applied → result.catalog = catalog) ∧
      (result.status = .applied → ∃ affected, result.affectedProgramId = some affected ∧
        (validateProgramCatalog result.catalog = .success ↔
          ∀ document ∈ result.catalog.programs, document.program.id = affected →
            ProgramContentsValid document) ∧
        result.catalog.programs.filter (·.program.id ≠ affected) =
          catalog.programs.filter (·.program.id ≠ affected) ∧
        (request.operation = .new ∨ request.operation = .copy → affected ∉ ids catalog.programs) ∧
        (request.operation = .delete ∨ request.operation = .uninstall →
          usage.activeProgramId ≠ some affected)) ∧
      (request.operation = .new →
        (result.status = .applied ↔ catalog.programs.length < kMaximumProgramCount)) := by
  have hanswer : EditAnswer catalog request usage (applyProgramEdit catalog request usage) :=
    applyProgramEdit_answer hvalid
  refine ⟨hanswer.refused, fun happlied => ?_, fun hnew => ?_⟩
  · obtain ⟨affected, haffected, hedited, huse⟩ := hanswer.applied happlied
    refine ⟨affected, haffected, hedited.valid_iff hvalid, hedited.others, fun hmade => ?_, huse⟩
    generalize (applyProgramEdit catalog request usage).catalog = catalog' at hedited
    cases hedited with
    | added _ _ _ hunused => exact hunused
    | replaced _ _ _ _ hoperation =>
        rcases hmade with hmade | hmade <;> simp [hmade] at hoperation
    | removed _ _ _ hoperation => rcases hmade with hmade | hmade <;> simp [hmade] at hoperation
  · rw [← applyNew_applied_iff request hvalid]
    simp only [applyProgramEdit, hnew]

theorem applyProgramEdit_keeps_factory :
    (applyProgramEdit makeFactoryProgramCatalog { operation := .new } {}).status = .applied :=
  ((applyProgramEdit_keeps_catalog makeFactoryProgramCatalog { operation := .new } {}
    (by decide +kernel)).2.2 rfl).mpr (by decide)

/-- One edit after the other, each with the run that is active at that time. -/
def editPrograms (catalog : ProgramCatalog)
    (edits : List (FermentationUiProgramEditRequest × FermentationUiProgramUsageEvidence)) :
    ProgramCatalog :=
  edits.foldl (fun catalog edit => (applyProgramEdit catalog edit.1 edit.2).catalog) catalog

/-- The identifier of a program in use stays in the catalog. -/
theorem Edited.keeps_used (hedited : Edited catalog request affected catalog')
    (huse : request.operation = .delete ∨ request.operation = .uninstall → id ≠ affected)
    (hid : id ∈ ids catalog.programs) : id ∈ ids catalog'.programs := by
  cases hedited with
  | added created =>
      rw [ids_append]
      exact List.mem_append_left _ hid
  | replaced front document written back _ hprograms hdocument hwritten =>
      rw [hprograms, ids_append, ids_cons, hdocument] at hid
      rw [ids_append, ids_cons, hwritten]
      exact hid
  | removed front document back hoperation hprograms hdocument =>
      rw [hprograms, ids_append, ids_cons, hdocument, List.mem_append, List.mem_cons] at hid
      rw [ids_append, List.mem_append]
      rcases hid with hfront | hsame | hback
      · exact Or.inl hfront
      · exact absurd hsame (huse (Or.inl hoperation))
      · exact Or.inr hback

/-- Over every sequence of edits that bring valid programs and names, the catalog stays valid,
and a program that is in use all the time stays in it. -/
theorem edits_keep_catalog
    (edits : List (FermentationUiProgramEditRequest × FermentationUiProgramUsageEvidence))
    (catalog : ProgramCatalog) (hvalid : validateProgramCatalog catalog = .success)
    (hsafe : ∀ edit ∈ edits, edit.1.Safe) :
    validateProgramCatalog (editPrograms catalog edits) = .success ∧
      ∀ id ∈ ids catalog.programs, (∀ edit ∈ edits, edit.2.activeProgramId = some id) →
        id ∈ ids (editPrograms catalog edits).programs := by
  induction edits generalizing catalog with
  | nil => exact ⟨hvalid, fun id hid _ => hid⟩
  | cons edit edits ih =>
      obtain ⟨hfirst, hothers⟩ := List.forall_mem_cons.mp hsafe
      have hanswer : EditAnswer catalog edit.1 edit.2 (applyProgramEdit catalog edit.1 edit.2) :=
        applyProgramEdit_answer hvalid
      obtain ⟨hrest, hused⟩ := ih _ (hanswer.safe hfirst) hothers
      refine ⟨hrest, fun id hid huse => hused id ?_ fun other hmem =>
        huse other (List.mem_cons_of_mem _ hmem)⟩
      by_cases happlied : (applyProgramEdit catalog edit.1 edit.2).status = .applied
      · obtain ⟨affected, -, hedited, hnotUsed⟩ := hanswer.applied happlied
        refine hedited.keeps_used (fun hoperation hsame => ?_) hid
        apply hnotUsed hoperation
        rw [huse edit List.mem_cons_self, hsame]
      · rw [hanswer.refused happlied]
        exact hid

/-- The factory's milk kefir under another name. -/
def renamedMilkKefir : ProgramDocument :=
  let factory := makeFactoryProgram "milk-kefir" "Milchkefir" false .airProductOptional
    .coolAndHoldUntilManualStop
  { factory with program := { factory.program with name := literal "Kefir" } }

/-- The milk kefir is copied, changed, and refused to be uninstalled while it runs; its copy is
deleted. -/
def milkKefirEdits : List FermentationUiProgramEditRequest :=
  [{ operation := .copy, programId := literal "milk-kefir", name := some (literal "Ours") },
    { operation := .edit, programId := literal "milk-kefir", candidate := some renamedMilkKefir },
    { operation := .uninstall, programId := literal "milk-kefir", confirmed := true },
    { operation := .delete, programId := literal "user-00", confirmed := true }]

def duringMilkKefir :
    List (FermentationUiProgramEditRequest × FermentationUiProgramUsageEvidence) :=
  milkKefirEdits.map fun request => (request, ⟨some (literal "milk-kefir")⟩)

theorem edits_keep_catalog_milkKefir :
    validateProgramCatalog (editPrograms makeFactoryProgramCatalog duringMilkKefir) = .success ∧
      literal "milk-kefir" ∈
        ids (editPrograms makeFactoryProgramCatalog duringMilkKefir).programs := by
  obtain ⟨hvalid, hused⟩ := edits_keep_catalog duringMilkKefir makeFactoryProgramCatalog
    (by decide +kernel) (by decide +kernel)
  exact ⟨hvalid, hused _ (by decide +kernel) (by decide +kernel)⟩

end Fermentationsschrank

import Fermentationsschrank.Persistence.CheckpointCodec

/-!
# Accepted checkpoint payloads

What the reader of a checkpoint accepts is exactly what the writer produces,
except that a stored program may be in an older layout, which is migrated.  The
reader consumes a payload to its end and never looks further, so no accepted
payload is a part of another one.
-/

namespace Fermentationsschrank

open Format

/-! ## Stored programs -/

theorem readProgramStages_eq_ok {bytes rest : Bytes} {stages : List FermentationStage}
    (h : readProgramStages bytes = .ok (stages, rest)) :
    ∃ out, writeProgramStages stages = some out ∧ bytes = out ++ rest := by
  simp only [readProgramStages, bind_eq_ok, orFail_eq_ok, require_eq_ok, decide_eq_true_eq,
    Prod.exists] at h
  obtain ⟨count, tail, hcount, _, rfl, stage, last, hstage, h⟩ := h
  cases h
  obtain ⟨front, hfront, rfl⟩ := fermentationStageFormat.write_read hstage
  refine ⟨1 :: front, ?_, uint8_read_eq_some hcount⟩
  simp [writeProgramStages, writeAll, hfront]

/-- The program layout a payload is written in. -/
def programSchemaVersion (payload : Bytes) : Option UInt32 :=
  (uint32.read payload).map (·.1)

/-- A document read in the current layout is reproduced by writing it. -/
theorem writeProgram_readProgram {bytes rest : Bytes} {document : ProgramDocument}
    (h : readProgram bytes = .ok (document, rest))
    (hversion : programSchemaVersion bytes = some kCurrentProgramSchemaVersion) :
    ∃ out, writeProgram document = some out ∧ bytes = out ++ rest := by
  simp only [readProgram, bind_eq_ok, orFail_eq_ok, Prod.exists] at h
  obtain ⟨schema, _, hschema, _, _, _, _, htexts, _, _, _, _, _, _, _, _, _, _, _, _, hflags,
    _, _, hstages, _, _, _, _, _, _, _, _, hlimits, h⟩ := h
  simp only [readProgramSchema, bind_eq_ok, orFail_eq_ok, require_eq_ok,
    Prod.exists] at hschema
  obtain ⟨version, presentFields, _, hread, _, -, _, -, hschema⟩ := hschema
  cases hschema
  have hcurrent : version = kCurrentProgramSchemaVersion := by
    simp only [pair, Option.pure_def, Option.bind_eq_bind, Option.bind_eq_some_iff,
      Prod.exists, Option.some.injEq, Prod.mk.injEq] at hread
    obtain ⟨found, _, hfound, _, _, _, ⟨rfl, -⟩, -⟩ := hread
    rw [programSchemaVersion, hfound, Option.map_some, Option.some_inj] at hversion
    exact hversion
  subst hcurrent
  simp only at h
  cases h
  obtain ⟨front, hfront, rfl⟩ := (uint32.pair uint64).write_read hread
  obtain ⟨textsOut, htextsOut, rfl⟩ := programTexts.write_read htexts
  obtain ⟨flagsOut, hflagsOut, rfl⟩ :=
    (programFlags kCurrentProgramSchemaVersion).write_read hflags
  obtain ⟨stagesOut, hstagesOut, rfl⟩ := readProgramStages_eq_ok hstages
  obtain ⟨limitsOut, hlimitsOut, rfl⟩ :=
    (programLimitsAndCompletion kCurrentProgramSchemaVersion).write_read hlimits
  refine ⟨front ++ (textsOut ++ (flagsOut ++ (stagesOut ++ limitsOut))), ?_, by simp⟩
  simp [writeProgram, hfront, htextsOut, hflagsOut, hstagesOut, hlimitsOut]

/-- A payload in the current layout is reproduced by encoding its document. -/
theorem encodeSingleProgramDocumentPayload_decode {payload : Bytes}
    {document : ProgramDocument}
    (h : decodeSingleProgramDocumentPayload payload = .ok document)
    (hversion : programSchemaVersion payload = some kCurrentProgramSchemaVersion)
    (hvalid : (validateProgram document .runnable).valid = true) :
    encodeSingleProgramDocumentPayload document = .ok payload := by
  simp only [decodeSingleProgramDocumentPayload, bind_eq_ok, require_eq_ok,
    Prod.exists, List.isEmpty_iff] at h
  obtain ⟨_, hsize, found, _, hread, _, rfl, h⟩ := h
  cases h
  obtain ⟨out, hout, rfl⟩ := writeProgram_readProgram hread hversion
  rw [List.append_nil] at hsize ⊢
  simp [encodeSingleProgramDocumentPayload, hvalid, hout, hsize]

/-! ## Sources of a run -/

theorem readStoredProgram_append {bytes rest : Bytes} {source : ProgramRunSource}
    (h : readStoredProgram bytes = some (source, rest)) (tail : Bytes) :
    readStoredProgram (bytes ++ tail) = some (source, rest ++ tail) := by
  simp only [readStoredProgram, Option.pure_def, Option.bind_eq_bind,
    Option.bind_eq_some_iff, Prod.exists, Option.some.injEq, Prod.mk.injEq] at h ⊢
  obtain ⟨payload, last, hread, document, hdocument, hsource, rfl⟩ := h
  exact ⟨payload, last ++ tail, read_append _ hread tail, document, hdocument, hsource, rfl⟩

theorem readProgramSource_append {sourceKind : ProgramSourceKind}
    {revision : Option UInt64} {bytes rest : Bytes} {source : ProgramRunSource}
    (h : readProgramSource sourceKind revision bytes = some (source, rest))
    (tail : Bytes) :
    readProgramSource sourceKind revision (bytes ++ tail) = some (source, rest ++ tail) := by
  rw [readProgramSource] at h ⊢
  split at h
  · rename_i hkind
    split at h
    · rename_i hrevision
      rw [if_pos hkind, if_pos hrevision]
      simp only [Option.map_eq_some_iff, Prod.exists, Prod.mk.injEq] at h ⊢
      obtain ⟨manual, last, hread, hsource, rfl⟩ := h
      exact ⟨manual, last ++ tail, read_append _ hread tail, hsource, rfl⟩
    · cases h
  · rename_i hkind
    split at h
    · rename_i hrevision
      rw [if_neg hkind, if_pos hrevision]
      exact readStoredProgram_append h tail
    · cases h

theorem readRunProgram_append {bytes rest : Bytes} {program : RunProgramSnapshot}
    (h : readRunProgram bytes = some (program, rest)) (tail : Bytes) :
    readRunProgram (bytes ++ tail) = some (program, rest ++ tail) := by
  simp only [readRunProgram, Option.pure_def, Option.bind_eq_bind,
    Option.bind_eq_some_iff, Prod.exists, Option.some.injEq, Prod.mk.injEq] at h ⊢
  obtain ⟨kind, _, hkind, revision, _, hrevision, source, _, hsource, hprogram, rfl⟩ := h
  exact ⟨kind, _, read_append _ hkind tail, revision, _, read_append _ hrevision tail,
    source, _, readProgramSource_append hsource tail, hprogram, rfl⟩

theorem readLegacyRunProgram_append {schemaVersion : UInt32} {bytes rest : Bytes}
    {program : RunProgramSnapshot}
    (h : readLegacyRunProgram schemaVersion bytes = .ok (program, rest)) (tail : Bytes) :
    readLegacyRunProgram schemaVersion (bytes ++ tail) = .ok (program, rest ++ tail) := by
  have hlegacy : ∀ {revision last}, readLegacyRevision schemaVersion bytes =
      some (revision, last) → readLegacyRevision schemaVersion (bytes ++ tail) =
        some (revision, last ++ tail) := by
    intro revision last hread
    rw [readLegacyRevision] at hread ⊢
    split at hread
    · rename_i hschema
      rw [if_pos hschema]
      exact read_append _ hread tail
    · rename_i hschema
      rw [if_neg hschema]
      simp only [Option.map_eq_some_iff, Prod.exists, Prod.mk.injEq] at hread ⊢
      obtain ⟨found, rest, hfound, hvalue, rfl⟩ := hread
      exact ⟨found, rest ++ tail, read_append _ hfound tail, hvalue, rfl⟩
  simp only [readLegacyRunProgram, bind_eq_ok, orFail_eq_ok, require_eq_ok,
    Prod.exists] at h ⊢
  obtain ⟨revision, _, hrevision, _, hnonzero, kind, _, hkind, _, hstored, source, _,
    hsource, h⟩ := h
  cases h
  exact ⟨revision, _, hlegacy hrevision, (), hnonzero, kind, _, read_append _ hkind tail, (),
    hstored, source, _, readStoredProgram_append hsource tail, rfl⟩

theorem readAnyRunProgram_append {schemaVersion : UInt32} {bytes rest : Bytes}
    {program : RunProgramSnapshot}
    (h : readAnyRunProgram schemaVersion bytes = .ok (program, rest)) (tail : Bytes) :
    readAnyRunProgram schemaVersion (bytes ++ tail) = .ok (program, rest ++ tail) := by
  rw [readAnyRunProgram] at h ⊢
  split at h
  · rename_i hschema
    rw [if_pos hschema, orFail_eq_ok]
    exact readRunProgram_append (orFail_eq_ok.mp h) tail
  · rename_i hschema
    rw [if_neg hschema]
    exact readLegacyRunProgram_append h tail

theorem readManual_append {runId bytes rest : Bytes} {plan : ManualRunPlan}
    (h : readManual runId bytes = some (plan, rest)) (tail : Bytes) :
    readManual runId (bytes ++ tail) = some (plan, rest ++ tail) := by
  simp only [readManual, Option.pure_def, Option.bind_eq_bind, Option.bind_eq_some_iff,
    Option.some.injEq] at h ⊢
  obtain ⟨⟨fields, last⟩, hread, h⟩ := h
  cases h
  exact ⟨(fields, last ++ tail), read_append _ hread tail, rfl⟩

theorem readRunSource_append {schemaVersion : UInt32} {variant : RunCheckpointVariant}
    {activeRunId bytes rest : Bytes}
    {found : Option RunProgramSnapshot × List RunRevision × Option ManualRunPlan}
    (h : readRunSource schemaVersion variant activeRunId bytes = .ok (found, rest))
    (tail : Bytes) :
    readRunSource schemaVersion variant activeRunId (bytes ++ tail) =
      .ok (found, rest ++ tail) := by
  cases variant with
  | programRun =>
      simp only [readRunSource, bind_eq_ok, orFail_eq_ok, Prod.exists] at h ⊢
      obtain ⟨program, _, hprogram, revisions, _, hrevisions, h⟩ := h
      cases h
      exact ⟨program, _, readAnyRunProgram_append hprogram tail, revisions, _,
        read_append _ hrevisions tail, rfl⟩
  | manualRun =>
      simp only [readRunSource, bind_eq_ok, orFail_eq_ok, Prod.exists] at h ⊢
      obtain ⟨plan, _, hplan, h⟩ := h
      cases h
      exact ⟨plan, _, readManual_append hplan tail, rfl⟩
  | noActiveRun =>
      cases h
      rfl

/-! ## The whole payload -/

theorem readCommandIds_append {bytes rest : Bytes} {ids : List CommandId}
    (h : readCommandIds bytes = .ok (ids, rest)) (tail : Bytes) :
    readCommandIds (bytes ++ tail) = .ok (ids, rest ++ tail) := by
  simp only [readCommandIds, bind_eq_ok, orFail_eq_ok, require_eq_ok, Prod.exists] at h ⊢
  obtain ⟨count, _, hcount, _, hlimit, hids⟩ := h
  exact ⟨count, _, read_append _ hcount tail, (), hlimit, readMany_append _ hids tail⟩

theorem readActiveRun_append {schemaVersion : UInt32} {variant : RunCheckpointVariant}
    {activeRunId bytes rest : Bytes} {snapshot : RunPersistenceSnapshot}
    (h : readActiveRun schemaVersion variant activeRunId bytes = .ok (snapshot, rest))
    (tail : Bytes) :
    readActiveRun schemaVersion variant activeRunId (bytes ++ tail) =
      .ok (snapshot, rest ++ tail) := by
  rw [readActiveRun] at h ⊢
  split at h
  · rename_i hvariant
    rw [if_pos hvariant]
    cases h
    rfl
  · rename_i hvariant
    rw [if_neg hvariant]
    simp only [bind_eq_ok, orFail_eq_ok, Prod.exists] at h ⊢
    obtain ⟨mode, selection, _, hselection, program, revisions, manual, _, hsource, process,
      _, hprocess, h⟩ := h
    cases h
    exact ⟨mode, selection, _, read_append _ hselection tail, program, revisions, manual, _,
      readRunSource_append hsource tail, process, _, read_append _ hprocess tail, rfl⟩

/-- The reader of a payload looks at nothing behind it. -/
theorem readSnapshot_append {schemaVersion : UInt32} {bytes rest : Bytes}
    {snapshot : RunPersistenceSnapshot}
    (h : readSnapshot schemaVersion bytes = .ok (snapshot, rest)) (tail : Bytes) :
    readSnapshot schemaVersion (bytes ++ tail) = .ok (snapshot, rest ++ tail) := by
  simp only [readSnapshot, bind_eq_ok, orFail_eq_ok] at h ⊢
  obtain ⟨⟨kind, _⟩, hkind, ⟨header, _⟩, hheader, ⟨active, _⟩, hactive, ⟨runtime, _⟩,
    hruntime, ⟨ids, _⟩, hids, ⟨recovery, _⟩, hrecovery, ⟨planner, _⟩, hplanner, h⟩ := h
  cases h
  exact ⟨(kind, _), read_append _ hkind tail, (header, _), read_append _ hheader tail,
    (active, _), readActiveRun_append hactive tail, (runtime, _),
    read_append _ hruntime tail, (ids, _), readCommandIds_append hids tail, (recovery, _),
    read_append _ hrecovery tail, (planner, _), read_append _ hplanner tail, rfl⟩

theorem decodeRunPersistenceSnapshot_eq_ok {payload : Bytes} {schemaVersion : UInt32}
    {snapshot : RunPersistenceSnapshot} :
    decodeRunPersistenceSnapshot payload schemaVersion = .ok snapshot ↔
      payload.length ≤ kMaximumRunPersistencePayloadBytes ∧
        readSnapshot schemaVersion payload = .ok (snapshot, []) ∧
        validateRunPersistenceSnapshotForSchema snapshot schemaVersion = true := by
  simp only [decodeRunPersistenceSnapshot, bind_eq_ok, require_eq_ok, decide_eq_true_eq,
    Prod.exists, List.isEmpty_iff]
  constructor
  · rintro ⟨_, hsize, found, _, hread, _, rfl, _, hvalid, h⟩
    cases h
    exact ⟨hsize, hread, hvalid⟩
  · rintro ⟨hsize, hread, hvalid⟩
    exact ⟨(), hsize, snapshot, [], hread, (), rfl, (), hvalid, rfl⟩

/-- An accepted payload is neither extended nor cut to another accepted one. -/
theorem decodeRunPersistenceSnapshot_prefixFree {front tail : Bytes}
    {schemaVersion : UInt32} {first second : RunPersistenceSnapshot}
    (hfirst : decodeRunPersistenceSnapshot front schemaVersion = .ok first)
    (hsecond : decodeRunPersistenceSnapshot (front ++ tail) schemaVersion = .ok second) :
    tail = [] := by
  obtain ⟨-, hfront, -⟩ := decodeRunPersistenceSnapshot_eq_ok.mp hfirst
  obtain ⟨-, hwhole, -⟩ := decodeRunPersistenceSnapshot_eq_ok.mp hsecond
  rw [readSnapshot_append hfront tail, List.nil_append, Except.ok.injEq,
    Prod.mk.injEq] at hwhole
  exact hwhole.2

/-! ## Encoding what was accepted -/

/-- The bytes that follow hold a program in the current layout, if any. -/
def StoredProgramCurrent (sourceKind : ProgramSourceKind) (bytes : Bytes) : Prop :=
  sourceKind ≠ .manualTimed → ∀ payload rest,
    (text kMaximumRunPersistencePayloadBytes).read bytes = some (payload, rest) →
      programSchemaVersion payload = some kCurrentProgramSchemaVersion

theorem writeProgramSource_read {sourceKind : ProgramSourceKind} {revision : Option UInt64}
    {bytes rest : Bytes} {source : ProgramRunSource}
    (h : readProgramSource sourceKind revision bytes = some (source, rest))
    (hcurrent : StoredProgramCurrent sourceKind bytes)
    (hvalid : ∀ document ∈ storedProgram source,
      (validateProgram document .runnable).valid = true) :
    ∃ out, writeProgramSource ⟨source, sourceKind, revision⟩ = some out ∧
      bytes = out ++ rest := by
  rw [readProgramSource] at h
  split at h
  · rename_i hkind
    split at h
    · rename_i hrevision
      simp only [Option.map_eq_some_iff, Prod.exists, Prod.mk.injEq] at h
      obtain ⟨manual, last, hread, rfl, rfl⟩ := h
      obtain ⟨out, hout, hbytes⟩ := manualTimedSourceFormat.write_read hread
      refine ⟨out, ?_, hbytes⟩
      rw [Option.isNone_iff_eq_none] at hrevision
      simp [writeProgramSource, hkind, hrevision, hout]
    · cases h
  · rename_i hkind
    split at h
    · rename_i hrevision
      simp only [readStoredProgram, Option.pure_def, Option.bind_eq_bind,
        Option.bind_eq_some_iff, Prod.exists, Option.some.injEq, Prod.mk.injEq] at h
      obtain ⟨payload, last, hread, document, hdocument, rfl, rfl⟩ := h
      have hdecode := toOption_eq_some.mp hdocument
      have hencode := encodeSingleProgramDocumentPayload_decode hdecode
        (hcurrent hkind payload last hread) (hvalid document rfl)
      obtain ⟨out, hout, hbytes⟩ :=
        (text kMaximumRunPersistencePayloadBytes).write_read hread
      refine ⟨out, ?_, hbytes⟩
      simpa [writeProgramSource, hkind, hrevision.1, hencode, Except.toOption] using hout
    · cases h

theorem writeRunProgram_read {bytes rest : Bytes} {program : RunProgramSnapshot}
    (h : readRunProgram bytes = some (program, rest))
    (hcurrent : ∀ kind revision middle last,
      programSourceKindFormat.read bytes = some (kind, middle) →
      optionalUint64.read middle = some (revision, last) → StoredProgramCurrent kind last)
    (hvalid : ∀ document ∈ storedProgram program.source,
      (validateProgram document .runnable).valid = true) :
    ∃ out, writeRunProgram program = some out ∧ bytes = out ++ rest := by
  simp only [readRunProgram, Option.pure_def, Option.bind_eq_bind,
    Option.bind_eq_some_iff, Prod.exists, Option.some.injEq, Prod.mk.injEq] at h
  obtain ⟨kind, middle, hkind, revision, last, hrevision, source, _, hsource, rfl, rfl⟩ := h
  obtain ⟨tail, htail, rfl⟩ := writeProgramSource_read hsource
    (hcurrent kind revision middle last hkind hrevision) hvalid
  obtain ⟨front, hfront, rfl⟩ := programSourceKindFormat.write_read hkind
  obtain ⟨number, hnumber, rfl⟩ := optionalUint64.write_read hrevision
  refine ⟨front ++ (number ++ tail), ?_, by simp⟩
  simp [writeRunProgram, hfront, hnumber, htail]

/-- The documents of a valid checkpoint are valid. -/
theorem validProgram_of_validate {snapshot : RunPersistenceSnapshot}
    (h : validateRunPersistenceSnapshot snapshot = true)
    (hvariant : snapshot.variant = .programRun) {program : RunProgramSnapshot}
    (hprogram : snapshot.program = some program) :
    ∀ document ∈ storedProgram program.source,
      (validateProgram document .runnable).valid = true := by
  obtain ⟨found, values, hfound, -, hvalues, -⟩ :=
    RunPersistenceSnapshot.programRun_of_validate h hvariant
  rw [hprogram, Option.some_inj] at hfound
  subst hfound
  obtain ⟨-, -, initial, hinitial⟩ := validRunSource_of_validate hvalues
  intro document hdocument
  cases hsource : program.source with
  | manualTimed manual =>
      rw [hsource] at hdocument
      cases hdocument
  | stored stored =>
      rw [hsource] at hdocument hinitial
      cases hdocument
      by_contra hinvalid
      simp [makeInitialEffectiveRunValues, hinvalid] at hinitial

theorem writeRunSource_read {snapshot : RunPersistenceSnapshot} {bytes rest : Bytes}
    (hvalid : validateRunPersistenceSnapshot snapshot = true)
    (h : readRunSource kCurrentRunPersistenceSchema snapshot.variant snapshot.activeRunId
      bytes = .ok ((snapshot.program, snapshot.revisions, snapshot.manual), rest))
    (hcurrent : snapshot.variant = .programRun → ∀ kind revision middle last,
      programSourceKindFormat.read bytes = some (kind, middle) →
      optionalUint64.read middle = some (revision, last) →
        StoredProgramCurrent kind last) :
    ∃ out, writeRunSource snapshot = some out ∧ bytes = out ++ rest := by
  rw [writeRunSource]
  cases hvariant : snapshot.variant with
  | programRun =>
      rw [hvariant] at h
      simp only [readRunSource, bind_eq_ok, orFail_eq_ok, Prod.exists] at h
      obtain ⟨program, _, hprogram, revisions, _, hrevisions, h⟩ := h
      have hsame := Except.ok.inj h
      simp only [Prod.mk.injEq] at hsame
      obtain ⟨⟨hsnapshot, hlist, -⟩, rfl⟩ := hsame
      have hread : readRunProgram bytes = some (program, _) := orFail_eq_ok.mp hprogram
      obtain ⟨front, hfront, rfl⟩ := writeRunProgram_read hread (hcurrent hvariant)
        (validProgram_of_validate hvalid hvariant hsnapshot.symm)
      obtain ⟨back, hback, rfl⟩ := revisionList.write_read hrevisions
      refine ⟨front ++ back, ?_, by simp⟩
      simp [← hsnapshot, ← hlist, hfront, hback]
  | manualRun =>
      rw [hvariant] at h
      simp only [readRunSource, bind_eq_ok, orFail_eq_ok, Prod.exists] at h
      obtain ⟨plan, _, hplan, h⟩ := h
      have hsame := Except.ok.inj h
      simp only [Prod.mk.injEq] at hsame
      obtain ⟨⟨-, -, hmanual⟩, rfl⟩ := hsame
      simp only [readManual, Option.pure_def, Option.bind_eq_bind, Option.bind_eq_some_iff,
        Option.some.injEq, Prod.exists] at hplan
      obtain ⟨target, mode, preheat, wait, band, qualification, reach, source, created,
        kind, last, hread, hplan⟩ := hplan
      cases hplan
      obtain ⟨out, hout, hbytes⟩ := manualFields.write_read hread
      refine ⟨out, ?_, hbytes⟩
      rw [← hmanual]
      exact hout
  | noActiveRun =>
      rw [hvariant] at h
      have hsame := Except.ok.inj h
      simp only [Prod.mk.injEq] at hsame
      obtain ⟨-, rfl⟩ := hsame
      exact ⟨[], rfl, rfl⟩

/-- Where the stored program of a payload begins. -/
def storedProgramStart (payload : Bytes) :
    Option (RunCheckpointVariant × ProgramSourceKind × Bytes) := do
  let ((variant, _), rest) ← snapshotKind.read payload
  let (_, rest) ← snapshotHeader.read rest
  let (_, rest) ← (readActiveSelection kCurrentRunPersistenceSchema).read rest
  let (sourceKind, rest) ← programSourceKindFormat.read rest
  let (_, rest) ← optionalUint64.read rest
  return (variant, sourceKind, rest)

/-- A program stored in the payload is in the current program layout. -/
def CarriesCurrentProgram (payload : Bytes) : Prop :=
  ∀ sourceKind rest, storedProgramStart payload = some (.programRun, sourceKind, rest) →
    StoredProgramCurrent sourceKind rest

theorem writeActiveRun_read {snapshot : RunPersistenceSnapshot} {bytes rest : Bytes}
    {active : RunPersistenceSnapshot} (hactive : active = snapshot.activePart)
    (hvalid : validateRunPersistenceSnapshot snapshot = true)
    (h : readActiveRun kCurrentRunPersistenceSchema snapshot.variant snapshot.activeRunId
      bytes = .ok (active, rest))
    (hcurrent : snapshot.variant = .programRun → ∀ selection kind revision first middle last,
      (readActiveSelection kCurrentRunPersistenceSchema).read bytes =
        some (selection, first) →
      programSourceKindFormat.read first = some (kind, middle) →
      optionalUint64.read middle = some (revision, last) →
        StoredProgramCurrent kind last) :
    ∃ out, unlessTombstone snapshot.variant (writeActiveRun snapshot) = some out ∧
      bytes = out ++ rest := by
  rw [readActiveRun] at h
  rw [unlessTombstone]
  split at h
  · rename_i hvariant
    have hsame := Except.ok.inj h
    simp only [Prod.mk.injEq] at hsame
    rw [if_pos hvariant]
    exact ⟨[], rfl, hsame.2⟩
  · rename_i hvariant
    rw [if_neg hvariant]
    simp only [bind_eq_ok, orFail_eq_ok, Prod.exists] at h
    obtain ⟨mode, selection, afterSelection, hselection, program, revisions, manual, _,
      hsource, process, _, hprocess, h⟩ := h
    have hsame := Except.ok.inj h
    simp only [Prod.mk.injEq] at hsame
    obtain ⟨hfields, rfl⟩ := hsame
    rw [hactive, RunPersistenceSnapshot.activePart] at hfields
    simp only [RunPersistenceSnapshot.mk.injEq] at hfields
    obtain ⟨-, -, -, -, -, hmode, hselected, hprogram, hrevisions, hmanual, hfound, -⟩ :=
      hfields
    rw [hprogram, hrevisions, hmanual] at hsource
    obtain ⟨source, hsourceOut, rfl⟩ := writeRunSource_read hvalid hsource
      fun hprogramRun kind revision middle last =>
        hcurrent hprogramRun _ kind revision afterSelection middle last hselection
    obtain ⟨tail, htail, rfl⟩ := processSnapshotFormat.write_read hprocess
    obtain ⟨front, hfront, rfl⟩ :=
      (readActiveSelection kCurrentRunPersistenceSchema).write_read hselection
    have hselectionOut : activeSelection.write (mode, selection) = some front := hfront
    refine ⟨front ++ (source ++ tail), ?_, by simp⟩
    simp [writeActiveRun, ← hmode, ← hselected, ← hfound, hselectionOut, hsourceOut, htail]

/-- Reading the active part sets nothing else. -/
theorem readActiveRun_activePart {schemaVersion : UInt32} {variant : RunCheckpointVariant}
    {activeRunId bytes rest : Bytes} {active : RunPersistenceSnapshot}
    (h : readActiveRun schemaVersion variant activeRunId bytes = .ok (active, rest)) :
    active = active.activePart := by
  rw [readActiveRun] at h
  split at h
  · cases h
    rfl
  · simp only [bind_eq_ok, orFail_eq_ok] at h
    obtain ⟨_, _, _, _, _, _, h⟩ := h
    cases h
    rfl

theorem writeCommandIds_read {bytes rest : Bytes} {ids : List CommandId}
    (h : readCommandIds bytes = .ok (ids, rest)) :
    ∃ out, writeCommandIds ids = some out ∧ bytes = out ++ rest := by
  simp only [readCommandIds, bind_eq_ok, orFail_eq_ok, require_eq_ok, Prod.exists] at h
  obtain ⟨count, _, hcount, _, hlimit, hids⟩ := h
  obtain ⟨hlength, -, out, hout, rfl⟩ := uint64.writeAll_readMany hids
  refine ⟨count :: out, ?_, uint8_read_eq_some hcount⟩
  simp [writeCommandIds, hout, hlength]

theorem writePlannerParameters_read {variant : RunCheckpointVariant} {bytes rest : Bytes}
    {parameters : Option ActuatorPlannerParameters}
    (h : (readPlannerParameters kCurrentRunPersistenceSchema variant).read bytes =
      some (parameters, rest)) :
    ∃ out, unlessTombstone variant (plannerParametersFormat.optional.write parameters) =
      some out ∧ bytes = out ++ rest := by
  obtain ⟨out, hout, hbytes⟩ :=
    (readPlannerParameters kCurrentRunPersistenceSchema variant).write_read h
  refine ⟨out, ?_, hbytes⟩
  cases variant <;> exact hout

/-- An accepted payload of the current schema is reproduced by encoding what it
was decoded to, provided its program is in the current layout. -/
theorem encodeRunPersistenceSnapshot_decode {payload : Bytes}
    {snapshot : RunPersistenceSnapshot}
    (h : decodeRunPersistenceSnapshot payload kCurrentRunPersistenceSchema = .ok snapshot)
    (hcurrent : CarriesCurrentProgram payload) :
    encodeRunPersistenceSnapshot snapshot = .ok payload := by
  obtain ⟨hsize, hread, hschema⟩ := decodeRunPersistenceSnapshot_eq_ok.mp h
  have hvalid : validateRunPersistenceSnapshot snapshot = true := by
    simp only [validateRunPersistenceSnapshotForSchema, Bool.and_eq_true] at hschema
    exact hschema.2
  simp only [readSnapshot, bind_eq_ok, orFail_eq_ok, Prod.exists] at hread
  obtain ⟨variant, trigger, afterKind, hkind, millis, interval, revision, runId, afterHeader,
    hheader, active, afterActive, hactive, process, _, hruntime, ids, _, hids, anchor, boot,
    known, episode, prior, nominal, episodeRevision, progress, _, hrecovery, planner, last,
    hplanner, hresult⟩ := hread
  have hsame := Except.ok.inj hresult
  simp only [Prod.mk.injEq] at hsame
  obtain ⟨hsnapshot, rfl⟩ := hsame
  -- every part that was read is a field of the snapshot
  obtain rfl : variant = snapshot.variant := by rw [← hsnapshot]
  obtain rfl : runId = snapshot.activeRunId := by rw [← hsnapshot]
  have hpart : active = snapshot.activePart := by
    rw [← hsnapshot, readActiveRun_activePart hactive]
    rfl
  obtain ⟨kindOut, hkindOut, rfl⟩ := snapshotKind.write_read hkind
  obtain ⟨headerOut, hheaderOut, rfl⟩ := snapshotHeader.write_read hheader
  have hprogram : snapshot.variant = .programRun →
      ∀ selection kind revision first middle last,
        (readActiveSelection kCurrentRunPersistenceSchema).read afterHeader =
          some (selection, first) →
        programSourceKindFormat.read first = some (kind, middle) →
        optionalUint64.read middle = some (revision, last) →
          StoredProgramCurrent kind last := by
    intro hvariant selection kind revision first middle last hselection hfound hrevision
    apply hcurrent
    simp [storedProgramStart, hkind, hheader, hselection, hfound, hrevision, hvariant]
  obtain ⟨activeOut, hactiveOut, rfl⟩ := writeActiveRun_read hpart hvalid hactive hprogram
  obtain ⟨runtimeOut, hruntimeOut, rfl⟩ := runtimeFormat.write_read hruntime
  obtain ⟨idsOut, hidsOut, rfl⟩ := writeCommandIds_read hids
  obtain ⟨recoveryOut, hrecoveryOut, rfl⟩ :=
    (readRecoveryFields kCurrentRunPersistenceSchema snapshot.variant).write_read hrecovery
  obtain ⟨plannerOut, hplannerOut, rfl⟩ := writePlannerParameters_read hplanner
  have hrecoveryWritten : recoveryFields.write (anchor, boot, known, episode, prior,
      nominal, episodeRevision, progress) = some recoveryOut := hrecoveryOut
  have hwrite : writeSnapshot snapshot = some (kindOut ++ (headerOut ++ (activeOut ++
      (runtimeOut ++ (idsOut ++ (recoveryOut ++ (plannerOut ++ []))))))) := by
    rw [← hsnapshot] at hkindOut hheaderOut hactiveOut hplannerOut ⊢
    simp only at hkindOut hheaderOut hactiveOut hplannerOut
    simp [writeSnapshot, hkindOut, hheaderOut, hactiveOut, hruntimeOut, hidsOut,
      hrecoveryWritten, hplannerOut]
  simp only [encodeRunPersistenceSnapshot, bind_eq_ok, require_eq_ok, orFail_eq_ok,
    decide_eq_true_eq]
  exact ⟨(), hvalid, _, hwrite, (), hsize, rfl⟩

end Fermentationsschrank

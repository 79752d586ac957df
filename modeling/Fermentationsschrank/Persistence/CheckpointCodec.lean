import Fermentationsschrank.Persistence.CheckpointFields

/-!
# Checkpoint payload

The writer produces the current schema only.  The reader accepts every known
schema and fills what an older one lacks with the defaults of the source.
`decodeRunPersistenceSnapshot_encode` is the round trip; its one proviso is
that the texts of a stored program respect the bounds of the program reader.
-/

namespace Fermentationsschrank

def kMaximumRunPersistencePayloadBytes : ℕ := 8192
def kSensorSelectionFieldIntroducedInSchema : UInt32 := 2
def kRecoveryFieldsIntroducedInSchema : UInt32 := 3

inductive RunPersistenceCodecStatus
  | success
  | invalidSnapshot
  | capacityExceeded
  | truncated
  | trailingBytes
  | invalidWireValue
  | unsupportedSchema
  deriving DecidableEq, Repr

/-! ## Writing -/

def snapshotKind : Format (RunCheckpointVariant × RunCheckpointTrigger) :=
  variantFormat.pair triggerFormat

def snapshotHeader : Format (UInt64 × UInt16 × UInt32 × Bytes) :=
  Format.uint64.pair <| Format.uint16.pair <| Format.uint32.pair
    (Format.text kMaximumRunIdBytes)

def activeSelection : Format (RunSensorMode × Option PersistedSensorSelectionState) :=
  sensorModeFormat.pair persistedSensorSelectionFormat.optional

/-- A manual source has no revision, a stored program has one. -/
def writeProgramSource (program : RunProgramSnapshot) : Option Bytes :=
  match program.source with
  | .manualTimed manual =>
      if program.sourceKind = .manualTimed ∧ program.sourceProgramRevision = none then
        manualTimedSourceFormat.write manual
      else none
  | .stored document =>
      if program.sourceKind ≠ .manualTimed ∧ program.sourceProgramRevision.isSome then
        (encodeSingleProgramDocumentPayload document).toOption.bind
          (Format.text kMaximumRunPersistencePayloadBytes).write
      else none

/-- The program of a run in the layout of schema 5 and later. -/
def writeRunProgram (program : RunProgramSnapshot) : Option Bytes := do
  let kind ← programSourceKindFormat.write program.sourceKind
  let revision ← optionalUint64.write program.sourceProgramRevision
  let source ← writeProgramSource program
  return kind ++ (revision ++ source)

def revisionList : Format (List RunRevision) :=
  revisionFormat.counted kMaximumRunRevisions (by decide)

def writeRunSource (snapshot : RunPersistenceSnapshot) : Option Bytes :=
  match snapshot.variant with
  | .programRun => do
      let program ← snapshot.program
      let source ← writeRunProgram program
      let revisions ← revisionList.write snapshot.revisions
      return source ++ revisions
  | .manualRun => snapshot.manual.bind writeManual
  | .noActiveRun => some []

/-- What lies between the header and the process state of an active run. -/
def writeActiveRun (snapshot : RunPersistenceSnapshot) : Option Bytes := do
  let mode ← snapshot.activeRunSensorMode
  let selection ← activeSelection.write (mode, snapshot.sensorSelection)
  let source ← writeRunSource snapshot
  let process ← snapshot.processRunSnapshot
  let process ← processSnapshotFormat.write process
  return selection ++ (source ++ process)

/-- A part of the payload that a tombstone lacks. -/
def unlessTombstone (variant : RunCheckpointVariant) (part : Option Bytes) :
    Option Bytes :=
  if variant = .noActiveRun then some [] else part

def writeCommandIds (ids : List CommandId) : Option Bytes :=
  (Format.uint64.writeAll ids).map (UInt8.ofNat ids.length :: ·)

def writeSnapshot (snapshot : RunPersistenceSnapshot) : Option Bytes := do
  let kind ← snapshotKind.write (snapshot.variant, snapshot.trigger)
  let header ← snapshotHeader.write (snapshot.checkpointMonotonicMillis,
    snapshot.intervalMinutes, snapshot.runRevision, snapshot.activeRunId)
  let active ← unlessTombstone snapshot.variant (writeActiveRun snapshot)
  let runtime ← runtimeFormat.write snapshot.processState
  let ids ← writeCommandIds snapshot.persistedRunCommandIds
  let recovery ← recoveryFields.write (snapshot.pendingRecoveryAnchor,
    snapshot.recoveryBootAnchorMonotonicMillis,
    snapshot.recoveryTemperatureEvidence.lastKnown,
    snapshot.lastRecoveryEpisodeEvidence, snapshot.priorBootPhaseElapsed,
    snapshot.nominalRecoveryAdjustment, snapshot.recoveryEpisodeRevision,
    snapshot.runProgress)
  let planner ← unlessTombstone snapshot.variant
    (plannerParametersFormat.optional.write snapshot.actuatorPlannerParametersSnapshot)
  return kind ++ (header ++ (active ++ (runtime ++ (ids ++ (recovery ++ planner)))))

def encodeRunPersistenceSnapshot (snapshot : RunPersistenceSnapshot) :
    Except RunPersistenceCodecStatus Bytes := do
  require (validateRunPersistenceSnapshot snapshot) .invalidSnapshot
  let out ← orFail (writeSnapshot snapshot) .capacityExceeded
  require (out.length ≤ kMaximumRunPersistencePayloadBytes) .capacityExceeded
  return out

/-! ## Reading -/

/-- Schema 1 has no sensor selection; it is restored as legacy. -/
def legacySensorSelection : PersistedSensorSelectionState where
  provenance := .legacyUnknown
  lastDecisionCause := .none
  lastDecisionRunRevision := 0

def readActiveSelection (schemaVersion : UInt32) :
    Format (RunSensorMode × Option PersistedSensorSelectionState) :=
  sensorModeFormat.pair <|
    .since (kSensorSelectionFieldIntroducedInSchema ≤ schemaVersion)
      (some legacySensorSelection) persistedSensorSelectionFormat.optional

def readStoredProgram (bytes : Bytes) : Option (ProgramRunSource × Bytes) := do
  let (payload, rest) ← (Format.text kMaximumRunPersistencePayloadBytes).read bytes
  let document ← (decodeSingleProgramDocumentPayload payload).toOption
  return (.stored document, rest)

def readProgramSource (sourceKind : ProgramSourceKind) (revision : Option UInt64)
    (bytes : Bytes) : Option (ProgramRunSource × Bytes) :=
  if sourceKind = .manualTimed then
    if revision.isNone then
      (manualTimedSourceFormat.read bytes).map fun found => (.manualTimed found.1, found.2)
    else none
  else if revision.isSome ∧ revision ≠ some 0 then readStoredProgram bytes
  else none

/-- Schema 5 and later: the source kind, then an optional revision. -/
def readRunProgram (bytes : Bytes) : Option (RunProgramSnapshot × Bytes) := do
  let (sourceKind, rest) ← programSourceKindFormat.read bytes
  let (revision, rest) ← optionalUint64.read rest
  let (source, rest) ← readProgramSource sourceKind revision rest
  return (⟨source, sourceKind, revision⟩, rest)

/-- Schema 4 widened the revision from 32 to 64 bits. -/
def readLegacyRevision (schemaVersion : UInt32) (bytes : Bytes) : Option (UInt64 × Bytes) :=
  if 4 ≤ schemaVersion then Format.uint64.read bytes
  else (Format.uint32.read bytes).map fun found => (found.1.toUInt64, found.2)

/-- Schemas 1 to 4: a mandatory revision, then the kind of a stored program. -/
def readLegacyRunProgram (schemaVersion : UInt32) (bytes : Bytes) :
    Except RunPersistenceCodecStatus (RunProgramSnapshot × Bytes) := do
  let (revision, rest) ← orFail (readLegacyRevision schemaVersion bytes) .truncated
  require (revision ≠ 0) .invalidWireValue
  let (sourceKind, rest) ← orFail (programSourceKindFormat.read rest) .invalidWireValue
  require (sourceKind ≠ .manualTimed) .invalidWireValue
  let (source, rest) ← orFail (readStoredProgram rest) .invalidWireValue
  return (⟨source, sourceKind, some revision⟩, rest)

def readAnyRunProgram (schemaVersion : UInt32) (bytes : Bytes) :
    Except RunPersistenceCodecStatus (RunProgramSnapshot × Bytes) :=
  if 5 ≤ schemaVersion then orFail (readRunProgram bytes) .invalidWireValue
  else readLegacyRunProgram schemaVersion bytes

def readRunSource (schemaVersion : UInt32) (variant : RunCheckpointVariant)
    (activeRunId : Bytes) (bytes : Bytes) :
    Except RunPersistenceCodecStatus
      ((Option RunProgramSnapshot × List RunRevision × Option ManualRunPlan) × Bytes) :=
  match variant with
  | .programRun => do
      let (program, rest) ← readAnyRunProgram schemaVersion bytes
      let (revisions, rest) ← orFail (revisionList.read rest) .invalidWireValue
      return ((some program, revisions, none), rest)
  | .manualRun => do
      let (plan, rest) ← orFail (readManual activeRunId bytes) .invalidWireValue
      return ((none, [], some plan), rest)
  | .noActiveRun => return ((none, [], none), bytes)

def readCommandIds (bytes : Bytes) :
    Except RunPersistenceCodecStatus (List CommandId × Bytes) := do
  let (count, rest) ← orFail (Format.uint8.read bytes) .invalidWireValue
  require (count.toNat ≤ kMaximumPersistedRunCommandIds) .invalidWireValue
  orFail (Format.uint64.readMany count.toNat rest) .truncated

/-- The fields of an active run, all absent for a tombstone. -/
def readActiveRun (schemaVersion : UInt32) (variant : RunCheckpointVariant)
    (activeRunId : Bytes) (bytes : Bytes) :
    Except RunPersistenceCodecStatus (RunPersistenceSnapshot × Bytes) :=
  if variant = .noActiveRun then .ok ({}, bytes)
  else do
    let ((mode, selection), rest) ←
      orFail ((readActiveSelection schemaVersion).read bytes) .invalidWireValue
    let ((program, revisions, manual), rest) ←
      readRunSource schemaVersion variant activeRunId rest
    let (process, rest) ← orFail (processSnapshotFormat.read rest) .invalidWireValue
    return ({
      activeRunSensorMode := some mode
      sensorSelection := selection
      program, revisions, manual
      processRunSnapshot := some process }, rest)

/-- A run stored before schema 3 has an unknown earlier progress. -/
def legacyRunProgress (variant : RunCheckpointVariant) : RunProgressState :=
  if variant = .noActiveRun then {}
  else {
    basis := .partialUnknownHistory
    weightedProgress := some {
      cumulative := ⟨0, none⟩, coverage := .partialUnknown, lastApplied := none } }

/-- The recovery block, by default what a schema without it stands for. -/
def readRecoveryFields (schemaVersion : UInt32) (variant : RunCheckpointVariant) :=
  Format.since (kRecoveryFieldsIntroducedInSchema ≤ schemaVersion)
    (none, none, {}, none, none, none, 0, legacyRunProgress variant) recoveryFields

def readPlannerParameters (schemaVersion : UInt32) (variant : RunCheckpointVariant) :=
  Format.since (6 ≤ schemaVersion ∧ variant ≠ .noActiveRun) none
    plannerParametersFormat.optional

def readSnapshot (schemaVersion : UInt32) (bytes : Bytes) :
    Except RunPersistenceCodecStatus (RunPersistenceSnapshot × Bytes) := do
  let ((variant, trigger), rest) ← orFail (snapshotKind.read bytes) .invalidWireValue
  let ((checkpointMonotonicMillis, intervalMinutes, runRevision, activeRunId), rest) ←
    orFail (snapshotHeader.read rest) .truncated
  let (active, rest) ← readActiveRun schemaVersion variant activeRunId rest
  let (processState, rest) ← orFail (runtimeFormat.read rest) .invalidWireValue
  let (persistedRunCommandIds, rest) ← readCommandIds rest
  let ((pendingRecoveryAnchor, recoveryBootAnchorMonotonicMillis, lastKnown,
      lastRecoveryEpisodeEvidence, priorBootPhaseElapsed, nominalRecoveryAdjustment,
      recoveryEpisodeRevision, runProgress), rest) ←
    orFail ((readRecoveryFields schemaVersion variant).read rest) .invalidWireValue
  let (actuatorPlannerParametersSnapshot, rest) ←
    orFail ((readPlannerParameters schemaVersion variant).read rest) .invalidWireValue
  return ({ active with
    variant, trigger, checkpointMonotonicMillis, intervalMinutes, runRevision
    activeRunId, processState, persistedRunCommandIds, pendingRecoveryAnchor
    recoveryBootAnchorMonotonicMillis
    recoveryTemperatureEvidence := { lastKnown }
    lastRecoveryEpisodeEvidence, priorBootPhaseElapsed, nominalRecoveryAdjustment
    recoveryEpisodeRevision, runProgress, actuatorPlannerParametersSnapshot }, rest)

def decodeRunPersistenceSnapshot (payload : Bytes) (schemaVersion : UInt32) :
    Except RunPersistenceCodecStatus RunPersistenceSnapshot := do
  require (payload.length ≤ kMaximumRunPersistencePayloadBytes) .capacityExceeded
  let (snapshot, rest) ← readSnapshot schemaVersion payload
  require rest.isEmpty .trailingBytes
  require (validateRunPersistenceSnapshotForSchema snapshot schemaVersion)
    .invalidWireValue
  return snapshot

/-! ## Round trip -/

/-- The texts of a stored program respect the bounds of the program reader. -/
def RunPersistenceSnapshot.textsReadable (snapshot : RunPersistenceSnapshot) : Prop :=
  ∀ program ∈ snapshot.program, ∀ document ∈ storedProgram program.source,
    document.program.textsReadable

theorem readCommandIds_write {ids : List CommandId} {out : Bytes}
    (hids : ids.length ≤ kMaximumPersistedRunCommandIds)
    (hwrite : writeCommandIds ids = some out) (rest : Bytes) :
    readCommandIds (out ++ rest) = .ok (ids, rest) := by
  simp only [writeCommandIds, Option.map_eq_some_iff] at hwrite
  obtain ⟨tail, htail, rfl⟩ := hwrite
  have hcount : (UInt8.ofNat ids.length).toNat = ids.length :=
    UInt8.toNat_ofNat_of_lt' (lt_of_le_of_lt hids (by decide))
  have hwritten : Format.uint8.write (UInt8.ofNat ids.length) =
      some [UInt8.ofNat ids.length] := by
    simp [Format.uint8, Format.embed, Format.number, Format.bigEndian]
  have hread : Format.uint8.read (UInt8.ofNat ids.length :: (tail ++ rest)) =
      some (UInt8.ofNat ids.length, tail ++ rest) :=
    Format.uint8.read_write (Format.readable_uint8 _) hwritten _
  have hmany := Format.readMany_writeAll Format.uint64
    (fun value _ => Format.readable_uint64 value) htail rest
  simp [readCommandIds, hread, hcount, hids, hmany]

theorem readStoredProgram_write {document : ProgramDocument} {out : Bytes}
    (htexts : document.program.textsReadable)
    (hwrite : (encodeSingleProgramDocumentPayload document).toOption.bind
      (Format.text kMaximumRunPersistencePayloadBytes).write = some out)
    (hsize : out.length ≤ kMaximumRunPersistencePayloadBytes) (rest : Bytes) :
    readStoredProgram (out ++ rest) = some (.stored document, rest) := by
  obtain ⟨payload, hpayload, hout⟩ := Option.bind_eq_some_iff.mp hwrite
  have hencode : encodeSingleProgramDocumentPayload document = .ok payload := by
    cases hcase : encodeSingleProgramDocumentPayload document with
    | ok found =>
        rw [hcase] at hpayload
        cases hpayload
        rfl
    | error status =>
        rw [hcase] at hpayload
        cases hpayload
  have hlength : payload.length ≤ out.length := by
    unfold Format.text at hout
    simp only at hout
    split at hout
    · cases hout
      simp
    · cases hout
  have hread := (Format.text kMaximumRunPersistencePayloadBytes).read_write
    (show payload.length ≤ _ from hlength.trans hsize) hout rest
  have hdecode := decodeSingleProgramDocumentPayload_encode htexts hencode
  simp [readStoredProgram, hread, hdecode, Except.toOption]

theorem readRunProgram_write {program : RunProgramSnapshot} {out : Bytes}
    (hrevision : program.sourceProgramRevision ≠ some 0)
    (htexts : ∀ document ∈ storedProgram program.source, document.program.textsReadable)
    (hwrite : writeRunProgram program = some out)
    (hsize : out.length ≤ kMaximumRunPersistencePayloadBytes) (rest : Bytes) :
    readRunProgram (out ++ rest) = some (program, rest) := by
  simp only [writeRunProgram, Option.pure_def, Option.bind_eq_bind,
    Option.bind_eq_some_iff, Option.some.injEq] at hwrite
  obtain ⟨kind, hkind, revision, hrevisionOut, source, hsource, rfl⟩ := hwrite
  have hreadKind := Format.Total.read_write hkind (revision ++ (source ++ rest))
  have hreadRevision := Format.Total.read_write hrevisionOut (source ++ rest)
  have hreadSource : readProgramSource program.sourceKind program.sourceProgramRevision
      (source ++ rest) = some (program.source, rest) := by
    unfold writeProgramSource at hsource
    unfold readProgramSource
    split at hsource <;> split at hsource
    · rename_i manual hmanual hcondition
      rw [if_pos hcondition.1, hcondition.2, hmanual]
      simp [Format.Total.read_write hsource rest]
    · cases hsource
    · rename_i document hdocument hcondition
      rw [if_neg hcondition.1, if_pos ⟨hcondition.2, hrevision⟩, hdocument]
      have hsourceSize : source.length ≤ kMaximumRunPersistencePayloadBytes := by
        simp only [List.length_append] at hsize
        omega
      exact readStoredProgram_write
        (htexts document (by rw [hdocument]; rfl)) hsource hsourceSize rest
    · cases hsource
  simp [readRunProgram, hreadKind, hreadRevision, hreadSource]

/-- The source of a run and its revisions. -/
theorem readRunSource_write {snapshot : RunPersistenceSnapshot} {out : Bytes}
    (hvalid : validateRunPersistenceSnapshot snapshot = true)
    (htexts : snapshot.textsReadable) (hwrite : writeRunSource snapshot = some out)
    (hsize : out.length ≤ kMaximumRunPersistencePayloadBytes) (rest : Bytes) :
    readRunSource kCurrentRunPersistenceSchema snapshot.variant snapshot.activeRunId
        (out ++ rest) =
      .ok ((snapshot.program, snapshot.revisions, snapshot.manual), rest) := by
  unfold writeRunSource at hwrite
  cases hvariant : snapshot.variant with
  | programRun =>
      obtain ⟨program, values, hprogram, hmanual, hvalues, -⟩ :=
        RunPersistenceSnapshot.programRun_of_validate hvalid hvariant
      obtain ⟨-, hcount, initial, hinitial⟩ := validRunSource_of_validate hvalues
      rw [hvariant, hprogram] at hwrite
      simp only [Option.pure_def, Option.bind_eq_bind, Option.bind_eq_some_iff,
        Option.some.injEq, exists_eq_left'] at hwrite
      obtain ⟨source, hsource, revisions, hrevisions, rfl⟩ := hwrite
      have hsourceSize : source.length ≤ kMaximumRunPersistencePayloadBytes := by
        simp only [List.length_append] at hsize
        omega
      have hrevision : program.sourceProgramRevision ≠ some 0 := by
        intro hzero
        rw [hzero] at hinitial
        exact absurd hinitial (by cases program.source <;> simp [makeInitialEffectiveRunValues])
      have hreadProgram := readRunProgram_write hrevision (htexts program hprogram) hsource
        hsourceSize (revisions ++ rest)
      have hreadRevisions := revisionList.read_write
        ⟨hcount, fun revision _ => Format.Total.readable revision⟩ hrevisions rest
      simp [readRunSource, readAnyRunProgram, kCurrentRunPersistenceSchema, hreadProgram,
        hreadRevisions, hprogram, hmanual]
  | manualRun =>
      obtain ⟨plan, hplan, hprogram, hrevisions, hid, -, -⟩ :=
        RunPersistenceSnapshot.manualRun_of_validate hvalid hvariant
      rw [hvariant, hplan] at hwrite
      have hread := readManual_writeManual hwrite rest
      rw [hid] at hread
      simp [readRunSource, hread, hprogram, hrevisions, hplan]
  | noActiveRun =>
      obtain ⟨-, -, -, hprogram, hrevisions, hmanual, -, -, -⟩ :=
        RunPersistenceSnapshot.noActiveRun_of_validate hvalid hvariant
      rw [hvariant] at hwrite
      cases hwrite
      rw [hprogram, hrevisions, hmanual]
      rfl

/-- The part of a snapshot that a tombstone lacks. -/
def RunPersistenceSnapshot.activePart (snapshot : RunPersistenceSnapshot) :
    RunPersistenceSnapshot where
  activeRunSensorMode := snapshot.activeRunSensorMode
  sensorSelection := snapshot.sensorSelection
  program := snapshot.program
  revisions := snapshot.revisions
  manual := snapshot.manual
  processRunSnapshot := snapshot.processRunSnapshot

theorem readActiveRun_write {snapshot : RunPersistenceSnapshot} {out : Bytes}
    (hvalid : validateRunPersistenceSnapshot snapshot = true)
    (htexts : snapshot.textsReadable)
    (hwrite : unlessTombstone snapshot.variant (writeActiveRun snapshot) = some out)
    (hsize : out.length ≤ kMaximumRunPersistencePayloadBytes) (rest : Bytes) :
    readActiveRun kCurrentRunPersistenceSchema snapshot.variant snapshot.activeRunId
        (out ++ rest) = .ok (snapshot.activePart, rest) := by
  unfold unlessTombstone at hwrite
  unfold readActiveRun
  split at hwrite
  · rename_i hvariant
    obtain ⟨-, hmode, hselection, hprogram, hrevisions, hmanual, hprocess, -, -⟩ :=
      RunPersistenceSnapshot.noActiveRun_of_validate hvalid hvariant
    cases hwrite
    rw [if_pos hvariant, RunPersistenceSnapshot.activePart, hmode, hselection, hprogram,
      hrevisions, hmanual, hprocess]
    rfl
  · rename_i hvariant
    obtain ⟨-, ⟨mode, hmode⟩, -, ⟨process, hprocess, hprocessValid⟩, -⟩ :=
      RunPersistenceSnapshot.activeRun_of_validate hvalid hvariant
    simp only [writeActiveRun, hmode, hprocess, Option.pure_def, Option.bind_eq_bind,
      Option.bind_some, Option.bind_eq_some_iff, Option.some.injEq] at hwrite
    obtain ⟨selection, hselection, source, hsource, tail, htail, rfl⟩ := hwrite
    have hsourceSize : source.length ≤ kMaximumRunPersistencePayloadBytes := by
      simp only [List.length_append] at hsize
      omega
    have hreadSelection : (readActiveSelection kCurrentRunPersistenceSchema).read
        (selection ++ (source ++ (tail ++ rest))) =
        some ((mode, snapshot.sensorSelection), source ++ (tail ++ rest)) := by
      have htotal := (sensorModeFormat.pair persistedSensorSelectionFormat.optional).read_write
        (Format.Total.readable _) hselection (source ++ (tail ++ rest))
      exact htotal
    have hreadSource := readRunSource_write hvalid htexts hsource hsourceSize
      (tail ++ rest)
    have hreadProcess := processSnapshotFormat_read_write hprocessValid htail rest
    simp [if_neg hvariant, hreadSelection, hreadSource, hreadProcess,
      RunPersistenceSnapshot.activePart, hmode, hprocess]

theorem readPlannerParameters_write {snapshot : RunPersistenceSnapshot} {out : Bytes}
    (hvalid : validateRunPersistenceSnapshot snapshot = true)
    (hwrite : unlessTombstone snapshot.variant (plannerParametersFormat.optional.write
      snapshot.actuatorPlannerParametersSnapshot) = some out) (rest : Bytes) :
    (readPlannerParameters kCurrentRunPersistenceSchema snapshot.variant).read
        (out ++ rest) = some (snapshot.actuatorPlannerParametersSnapshot, rest) := by
  unfold unlessTombstone at hwrite
  split at hwrite
  · rename_i hvariant
    obtain ⟨-, -, -, -, -, -, -, hplanner, -⟩ :=
      RunPersistenceSnapshot.noActiveRun_of_validate hvalid hvariant
    cases hwrite
    rw [hplanner, hvariant]
    rfl
  · rename_i hvariant
    have hread := Format.Total.read_write hwrite rest
    simpa [readPlannerParameters, Format.since, hvariant, kCurrentRunPersistenceSchema]
      using hread

/-- A run identity is written within the bound of the reader. -/
theorem snapshotHeader_readable {snapshot : RunPersistenceSnapshot}
    (hvalid : validateRunPersistenceSnapshot snapshot = true) :
    snapshotHeader.Readable (snapshot.checkpointMonotonicMillis, snapshot.intervalMinutes,
      snapshot.runRevision, snapshot.activeRunId) := by
  refine ⟨Format.readable_uint64 _, Format.readable_uint16 _, Format.readable_uint32 _, ?_⟩
  show snapshot.activeRunId.length ≤ kMaximumRunIdBytes
  by_cases hvariant : snapshot.variant = .noActiveRun
  · obtain ⟨hid, -⟩ := RunPersistenceSnapshot.noActiveRun_of_validate hvalid hvariant
    simp [hid]
  · obtain ⟨hid, -⟩ := RunPersistenceSnapshot.activeRun_of_validate hvalid hvariant
    simp only [validRunId, decide_eq_true_eq] at hid
    exact hid.2

/-- A checkpoint that could be encoded is restored as it was. -/
theorem decodeRunPersistenceSnapshot_encode {snapshot : RunPersistenceSnapshot}
    {payload : Bytes} (htexts : snapshot.textsReadable)
    (hencode : encodeRunPersistenceSnapshot snapshot = .ok payload) :
    decodeRunPersistenceSnapshot payload kCurrentRunPersistenceSchema = .ok snapshot := by
  simp only [encodeRunPersistenceSnapshot, bind_eq_ok, require_eq_ok, orFail_eq_ok] at hencode
  obtain ⟨-, hvalid, out, hwrite, -, hsize, hout⟩ := hencode
  cases hout
  simp only [decide_eq_true_eq] at hsize
  simp only [writeSnapshot, Option.pure_def, Option.bind_eq_bind, Option.bind_eq_some_iff,
    Option.some.injEq] at hwrite
  obtain ⟨kind, hkind, header, hheader, active, hactive, runtime, hruntime, ids, hids,
    recovery, hrecovery, planner, hplanner, rfl⟩ := hwrite
  have hactiveSize : active.length ≤ kMaximumRunPersistencePayloadBytes := by
    simp only [List.length_append] at hsize
    omega
  have hidsLength : snapshot.persistedRunCommandIds.length ≤
      kMaximumPersistedRunCommandIds := by
    have hids := RunPersistenceSnapshot.validIds_of_validate hvalid
    simp only [validIds, decide_eq_true_eq] at hids
    exact hids.1
  have hreadKind := snapshotKind.read_write
    ⟨Format.Total.readable snapshot.variant, Format.Total.readable snapshot.trigger⟩ hkind
    (header ++ (active ++ (runtime ++ (ids ++ (recovery ++ (planner ++ []))))))
  have hreadHeader := snapshotHeader.read_write
    (snapshotHeader_readable hvalid) hheader
    (active ++ (runtime ++ (ids ++ (recovery ++ (planner ++ [])))))
  have hreadActive := readActiveRun_write hvalid htexts hactive hactiveSize
    (runtime ++ (ids ++ (recovery ++ (planner ++ []))))
  have hreadRuntime := Format.Total.read_write hruntime
    (ids ++ (recovery ++ (planner ++ [])))
  have hreadIds := readCommandIds_write hidsLength hids (recovery ++ (planner ++ []))
  have hreadRecovery : (readRecoveryFields kCurrentRunPersistenceSchema
      snapshot.variant).read (recovery ++ (planner ++ [])) = _ :=
    recoveryFields.read_write (Format.Total.readable _) hrecovery (planner ++ [])
  have hreadPlanner := readPlannerParameters_write hvalid hplanner []
  have hread : readSnapshot kCurrentRunPersistenceSchema
      (kind ++ (header ++ (active ++ (runtime ++ (ids ++ (recovery ++ planner)))))) =
      .ok (snapshot, []) := by
    rw [← List.append_nil planner]
    simp only [readSnapshot, hreadKind, hreadHeader, hreadActive, hreadRuntime, hreadIds,
      hreadRecovery, hreadPlanner, orFail_some, ok_bind]
    rfl
  have hschema : validateRunPersistenceSnapshotForSchema snapshot
      kCurrentRunPersistenceSchema = true := by
    simp [validateRunPersistenceSnapshotForSchema, hvalid, knownRunPersistenceSchema,
      kCurrentRunPersistenceSchema, kActiveFaultIntroducedInSchema]
  simp only [decodeRunPersistenceSnapshot, hread, ok_bind, hsize, hschema]
  rfl

end Fermentationsschrank

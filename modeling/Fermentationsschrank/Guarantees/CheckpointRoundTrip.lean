import Fermentationsschrank.Persistence.CheckpointCanonical
import Fermentationsschrank.Persistence.CheckpointEncodable

/-!
# Checkpoint payloads there and back

A valid checkpoint is encoded and decoded to itself, and an accepted payload is
the encoding of what it is decoded to.  Three things are outside: temperatures
of the recovery evidence that are not finite, program texts above the bounds of
the reader, and programs that are stored in an older layout.
-/

namespace Fermentationsschrank

theorem encodeRunPersistenceSnapshot_succeeds {snapshot : RunPersistenceSnapshot}
    (hvalid : validateRunPersistenceSnapshot snapshot = true)
    (htexts : snapshot.textsReadable) (hevidence : snapshot.EvidenceFinite) :
    ∃ payload, encodeRunPersistenceSnapshot snapshot = .ok payload := by
  obtain ⟨payload, hpayload, hlength⟩ := fits_snapshot hvalid htexts hevidence
  have hsize : payload.length ≤ kMaximumRunPersistencePayloadBytes :=
    hlength.trans (by decide)
  refine ⟨payload, ?_⟩
  simp [encodeRunPersistenceSnapshot, hvalid, hpayload, hsize]

/-- Encoding and decoding are inverse to each other, no payload is a part of
another one, and none is accepted for two checkpoints. -/
theorem checkpointPayload_roundTrip :
    (∀ snapshot, validateRunPersistenceSnapshot snapshot = true → snapshot.textsReadable →
      snapshot.EvidenceFinite → ∃ payload,
        encodeRunPersistenceSnapshot snapshot = .ok payload ∧
          decodeRunPersistenceSnapshot payload kCurrentRunPersistenceSchema =
            .ok snapshot) ∧
    (∀ payload snapshot,
      decodeRunPersistenceSnapshot payload kCurrentRunPersistenceSchema = .ok snapshot →
      CarriesCurrentProgram payload →
        encodeRunPersistenceSnapshot snapshot = .ok payload) ∧
    (∀ payload other snapshot,
      decodeRunPersistenceSnapshot payload kCurrentRunPersistenceSchema = .ok snapshot →
      decodeRunPersistenceSnapshot other kCurrentRunPersistenceSchema = .ok snapshot →
      CarriesCurrentProgram payload → CarriesCurrentProgram other → payload = other) ∧
    (∀ front tail schemaVersion snapshot found,
      decodeRunPersistenceSnapshot front schemaVersion = .ok snapshot →
      decodeRunPersistenceSnapshot (front ++ tail) schemaVersion = .ok found →
        tail = []) := by
  refine ⟨?_, ?_, ?_, ?_⟩
  · intro snapshot hvalid htexts hevidence
    obtain ⟨payload, hencode⟩ :=
      encodeRunPersistenceSnapshot_succeeds hvalid htexts hevidence
    exact ⟨payload, hencode, decodeRunPersistenceSnapshot_encode htexts hencode⟩
  · intro payload snapshot hdecode hcurrent
    exact encodeRunPersistenceSnapshot_decode hdecode hcurrent
  · intro payload other snapshot hpayload hother hcurrent hotherCurrent
    have hfirst := encodeRunPersistenceSnapshot_decode hpayload hcurrent
    have hsecond := encodeRunPersistenceSnapshot_decode hother hotherCurrent
    exact Except.ok.inj (hfirst.symm.trans hsecond)
  · intro front tail schemaVersion snapshot found hfront hwhole
    exact decodeRunPersistenceSnapshot_prefixFree hfront hwhole

/-! ## Concrete checkpoints -/

/-- A checkpoint without a run, after a measurement of the air. -/
def measuredTombstone (celsius : Binary64) : RunPersistenceSnapshot where
  processState := { state := .standby }
  recoveryTemperatureEvidence := {
    lastKnown := { air := { filteredCelsius := some celsius, quality := .valid } } }

/-- A yoghurt program that runs on the air sensor. -/
def yoghurt (name : Bytes) : ProgramDocument where
  program := {
    id := [121]
    name
    sensorPreference := .airOnly
    productSensorFailure := { returnStrategy := .remainOnAirUntilEnd }
    fermentationStages := [⟨some kMaximumFermentationTemperatureCelsius, some 480⟩]
    targetQualification := ⟨some kMaximumQualificationBandCelsius, some 5⟩
    maximumTargetReachMinutes := some 120 }

/-- A run of that program that has just been started. -/
def yoghurtCheckpoint (name : Bytes) : RunPersistenceSnapshot where
  variant := .programRun
  activeRunId := [49]
  activeRunSensorMode := some .air
  sensorSelection := some {}
  program := some ⟨.stored (yoghurt name), .userProgram, some 1⟩
  processRunSnapshot := makeProcessRunSnapshot
    ⟨.stored (yoghurt name), .userProgram, some 1⟩
    ⟨kMaximumFermentationTemperatureCelsius, 480⟩
  processState := { state := .reachingTarget }

/-- The payload of a schema 6 checkpoint whose program was stored in schema 5. -/
def migratedPayload : Bytes :=
  let document := { yoghurt [89] with
    schema := { version := 5, presentFields := kSchema5RequiredProgramFields } }
  let snapshot := yoghurtCheckpoint [89]
  (do
    let kind ← snapshotKind.write (snapshot.variant, snapshot.trigger)
    let header ← snapshotHeader.write (snapshot.checkpointMonotonicMillis,
      snapshot.intervalMinutes, snapshot.runRevision, snapshot.activeRunId)
    let selection ← activeSelection.write (.air, snapshot.sensorSelection)
    let sourceKind ← programSourceKindFormat.write .userProgram
    let revision ← optionalUint64.write (some 1)
    let program ← (writeProgram document).bind
      (Format.text kMaximumRunPersistencePayloadBytes).write
    let revisions ← revisionList.write []
    let process ← snapshot.processRunSnapshot.bind processSnapshotFormat.write
    let runtime ← runtimeFormat.write snapshot.processState
    let ids ← writeCommandIds []
    let recovery ← recoveryFields.write (none, none, {}, none, none, none, 0, {})
    let planner ← plannerParametersFormat.optional.write none
    return kind ++ header ++ selection ++ sourceKind ++ revision ++ program ++ revisions ++
      process ++ runtime ++ ids ++ recovery ++ planner).getD []

/-- That run with a temperature of the air that was measured before. -/
def measuredYoghurt : RunPersistenceSnapshot :=
  { yoghurtCheckpoint [89] with
    recoveryTemperatureEvidence :=
      (measuredTombstone kMaximumCoolingTargetCelsius).recoveryTemperatureEvidence }

theorem checkpointPayload_roundTrip_measured :
    ∃ payload, encodeRunPersistenceSnapshot measuredYoghurt = .ok payload ∧
      decodeRunPersistenceSnapshot payload kCurrentRunPersistenceSchema =
        .ok measuredYoghurt := by
  refine checkpointPayload_roundTrip.1 measuredYoghurt (by decide +kernel) ?_
    ⟨⟨by rintro _ ⟨⟩; decide +kernel, by rintro _ ⟨⟩, by rintro _ ⟨⟩⟩, by rintro _ ⟨⟩⟩
  rintro _ ⟨⟩ _ ⟨⟩
  decide

set_option maxRecDepth 1000000 in
/-- A valid checkpoint with a temperature that is not a number is not encoded, one
with a long program name is encoded but not read, and a payload whose program was
migrated is not reproduced. -/
theorem checkpointPayload_limits :
    (validateRunPersistenceSnapshot (measuredTombstone .nan) = true ∧
      encodeRunPersistenceSnapshot (measuredTombstone .nan) = .error .capacityExceeded) ∧
    (validateRunPersistenceSnapshot (yoghurtCheckpoint (List.replicate 97 89)) = true ∧
      ∃ payload, encodeRunPersistenceSnapshot
          (yoghurtCheckpoint (List.replicate 97 89)) = .ok payload ∧
        decodeRunPersistenceSnapshot payload kCurrentRunPersistenceSchema =
          .error .invalidWireValue) ∧
    ∃ snapshot payload,
      decodeRunPersistenceSnapshot migratedPayload kCurrentRunPersistenceSchema =
        .ok snapshot ∧
      encodeRunPersistenceSnapshot snapshot = .ok payload ∧ payload ≠ migratedPayload := by
  refine ⟨⟨by decide +kernel, by decide +kernel⟩, ⟨by decide +kernel, ?_⟩, ?_⟩
  · have hrefused : ((encodeRunPersistenceSnapshot
        (yoghurtCheckpoint (List.replicate 97 89))).toOption.any fun payload =>
          decide (decodeRunPersistenceSnapshot payload kCurrentRunPersistenceSchema =
            .error .invalidWireValue)) = true := by
      decide +kernel
    rw [Option.any_eq_true] at hrefused
    obtain ⟨payload, hpayload, hdecode⟩ := hrefused
    exact ⟨payload, toOption_eq_some.mp hpayload, of_decide_eq_true hdecode⟩
  · have hmigrated : ((decodeRunPersistenceSnapshot migratedPayload
        kCurrentRunPersistenceSchema).toOption.any fun snapshot =>
          (encodeRunPersistenceSnapshot snapshot).toOption.any fun payload =>
            decide (payload ≠ migratedPayload)) = true := by
      decide +kernel
    simp only [Option.any_eq_true, decide_eq_true_eq] at hmigrated
    obtain ⟨snapshot, hdecode, payload, hencode, hdiffers⟩ := hmigrated
    exact ⟨snapshot, payload, toOption_eq_some.mp hdecode, toOption_eq_some.mp hencode,
      hdiffers⟩

end Fermentationsschrank

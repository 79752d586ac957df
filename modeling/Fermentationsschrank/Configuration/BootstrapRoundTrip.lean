import Fermentationsschrank.Configuration.BootstrapFacts

/-!
# Round trip of bootstrap records

The encoder of the bootstrap store writes the second and the third schema.  For
these it accepts exactly the plausible records, and the decoder returns what was
written and accepts nothing else.
-/

namespace Fermentationsschrank

open Envelope
open Format

namespace ConfigurationBootstrapRecord

variable {record : ConfigurationBootstrapRecord} {epochs bytes payload : Bytes}

/-! ## Sizes -/

theorem length_epochBytes (h : record.epochBytes = some epochs) :
    epochs.length = if record.handoff = .none then 0 else 16 := by
  rw [epochBytes] at h
  split at h
  · rename_i hnone
    cases h
    rw [if_pos hnone]
    rfl
  · rename_i hbound
    rw [if_neg hbound]
    split at h
    · cases h
      simp only [List.length_append, length_bigEndian]
    · cases h

theorem length_payloadBytes (h : record.epochBytes = some epochs) :
    (record.payloadBytes epochs).length = record.payloadSize := by
  have hauth : record.authBytes.length =
      if record.schemaVersion = kConfigurationBootstrapSchemaVersion3 then 9 else 0 := by
    rw [authBytes]
    split_ifs
    · rw [List.length_cons, length_bigEndian]
    · rfl
  rw [payloadBytes, payloadSize, List.length_append, length_bigEndian, List.length_cons,
    List.length_cons, List.length_append, length_epochBytes h, hauth]
  split_ifs <;> rfl

theorem length_of_decodeEnvelope {envelope : StorageEnvelope}
    (h : decodeEnvelope bytes = .ok envelope) (hutc : envelope.utcUnixSeconds = none) :
    bytes.length = 37 + envelope.payload.length := by
  obtain ⟨hbytes, -⟩ := bytes_of_decodeEnvelope h
  rw [hbytes, List.length_append, List.length_append, length_headerBytes, length_bigEndian, hutc]
  show 33 + 0 + (4 + _) = _
  omega

/-- No accepted record exceeds what the store reads. -/
theorem length_of_decode (h : decodeConfigurationBootstrapRecord bytes = .ok record) :
    bytes.length ≤ kMaximumConfigurationBootstrapSchema3EnvelopeBytes := by
  obtain ⟨-, payload, hopen, hsize, -⟩ := decode_eq_ok h
  rw [length_of_decodeEnvelope hopen rfl]
  show 37 + payload.length ≤ 68
  unfold validBootstrapPayloadSize at hsize
  split_ifs at hsize <;> rw [decide_eq_true_eq] at hsize <;>
    simp only [kConfigurationBootstrapSchema1PayloadBytes, kConfigurationBootstrapPayloadBytes,
      kConfigurationBootstrapBoundPayloadBytes, kConfigurationBootstrapSchema3PayloadBytes,
      kConfigurationBootstrapSchema3BoundPayloadBytes] at hsize <;> omega

theorem payloadSize_le : 37 + record.payloadSize ≤ record.maximumEnvelopeBytes := by
  rw [payloadSize, maximumEnvelopeBytes]
  split_ifs <;> decide

/-! ## Encoding -/

theorem exists_epochBytes (h : record.isPlausible = true) :
    ∃ epochs, record.epochBytes = some epochs := by
  rw [epochBytes]
  by_cases hhandoff : record.handoff = .none
  · exact ⟨[], if_pos hhandoff⟩
  · obtain ⟨-, hbound⟩ := bound_of_ne_none h hhandoff
    obtain ⟨-, hcurrent, -, hprevious⟩ := boundToEpoch_iff.mp hbound
    rw [if_neg hhandoff, hprevious, hcurrent]
    exact ⟨_, rfl⟩

/-- Past its checks the encoder frames the payload. -/
theorem encode_eq (hwritten : record.Written) (h : record.isPlausible = true)
    (hepochs : record.epochBytes = some epochs) :
    encodeConfigurationBootstrapRecord record =
      mapBootstrapEnvelope (encodeEnvelope (record.envelope (record.payloadBytes epochs))
        record.maximumEnvelopeBytes) := by
  have hlength := length_payloadBytes hepochs
  rw [encodeConfigurationBootstrapRecord, decide_eq_true hwritten, h, hepochs]
  simp only [Bool.true_and, require_true, orFail_some, ok_bind, hlength, le_refl, decide_true]

theorem encode_eq_ok (h : encodeConfigurationBootstrapRecord record = .ok bytes) :
    record.Written ∧ record.isPlausible = true ∧ ∃ epochs, record.epochBytes = some epochs ∧
      encodeEnvelope (record.envelope (record.payloadBytes epochs)) record.maximumEnvelopeBytes =
        .ok bytes := by
  have hchecks := h
  simp only [encodeConfigurationBootstrapRecord, bind_eq_ok, require_eq_ok, Bool.and_eq_true,
    decide_eq_true_eq, orFail_eq_ok] at hchecks
  obtain ⟨_, ⟨hwritten, hlegal⟩, epochs, hepochs, -⟩ := hchecks
  refine ⟨hwritten, hlegal, epochs, hepochs, ?_⟩
  rw [encode_eq hwritten hlegal hepochs] at h
  generalize encodeEnvelope (record.envelope (record.payloadBytes epochs))
    record.maximumEnvelopeBytes = encoded at h ⊢
  cases encoded with
  | ok found =>
      cases h
      rfl
  | error status => cases status <;> cases h

/-- The encoder accepts exactly the plausible records of the schemas it writes. -/
theorem encode_isOk_iff :
    (∃ bytes, encodeConfigurationBootstrapRecord record = .ok bytes) ↔
      record.Written ∧ record.isPlausible = true := by
  constructor
  · rintro ⟨bytes, h⟩
    exact ⟨(encode_eq_ok h).1, (encode_eq_ok h).2.1⟩
  · rintro ⟨hwritten, h⟩
    obtain ⟨epochs, hepochs⟩ := exists_epochBytes h
    obtain ⟨hsequence, hepoch, -⟩ := format_of_isPlausible h
    have hlength := length_payloadBytes hepochs
    have hfits := @payloadSize_le record
    have hfields : (record.envelope (record.payloadBytes epochs)).recordTypeId ≠ 0 ∧
        (record.envelope (record.payloadBytes epochs)).schemaVersion ≠ 0 ∧
        (record.envelope (record.payloadBytes epochs)).storageEpoch ≠ 0 ∧
        (record.envelope (record.payloadBytes epochs)).versionValue ≠ 0 := by
      refine ⟨show kConfigurationBootstrapRecordType ≠ 0 by decide, ?_, hepoch, fun hzero => ?_⟩
      · rcases hwritten with hschema | hschema <;>
          exact fun hzero => absurd (hschema.symm.trans hzero) (by decide)
      · rw [show record.sequence = 0 from hzero] at hsequence
        cases hsequence
    have hmaximum : record.maximumEnvelopeBytes ≤ 68 := by
      rw [maximumEnvelopeBytes]
      split_ifs <;> decide
    rw [encode_eq hwritten h hepochs, encodeEnvelope_of_fits hfields]
    · exact ⟨_, rfl⟩
    · show (record.payloadBytes epochs).length ≤ _
      omega
    · rw [length_headerBytes]
      show 33 + 0 + 4 + (record.payloadBytes epochs).length ≤ _
      omega

/-! ## Both directions -/

theorem encode_decode (hwritten : record.Written)
    (h : decodeConfigurationBootstrapRecord bytes = .ok record) :
    encodeConfigurationBootstrapRecord record = .ok bytes := by
  obtain ⟨hlegal, payload, hopen, -, hpayload⟩ := decode_eq_ok h
  obtain ⟨epochs, hepochs, rfl⟩ := hpayload hwritten
  have hfits := @payloadSize_le record
  have hlength := length_of_decodeEnvelope hopen rfl
  rw [show (record.envelope (record.payloadBytes epochs)).payload = record.payloadBytes epochs
    from rfl, length_payloadBytes hepochs] at hlength
  rw [encode_eq hwritten hlegal hepochs, encodeEnvelope_decodeEnvelope hopen (by omega)]
  rfl

theorem readHandoffEpochs_epochBytes (hwritten : record.Written) (h : record.isPlausible = true)
    (hepochs : record.epochBytes = some epochs) (rest : Bytes) :
    readHandoffEpochs record.schemaVersion record.handoff.code (epochs ++ rest) =
      some ((record.previousEpoch, record.currentEpoch), rest) := by
  rw [readHandoffEpochs]
  by_cases hhandoff : record.handoff = .none
  · obtain ⟨hprevious, hcurrent⟩ := unbound_of_none h hhandoff
    rw [epochBytes, if_pos hhandoff] at hepochs
    cases hepochs
    rw [if_neg (fun hbound => hbound.2 (RunEpochHandoffState.code_eq_zero.mpr hhandoff)),
      hprevious, hcurrent]
    rfl
  · rw [if_pos ⟨schema2_le hwritten, fun hzero =>
      hhandoff (RunEpochHandoffState.code_eq_zero.mp hzero)⟩]
    rw [epochBytes, if_neg hhandoff] at hepochs
    split at hepochs
    · rename_i previous current hprevious hcurrent
      cases hepochs
      rw [hprevious, hcurrent, List.append_assoc, uint64_read_bigEndian]
      dsimp only [bind, Option.bind]
      rw [uint64_read_bigEndian]
      rfl
    · cases hepochs

theorem readAuthHandoff_authBytes (h : record.isPlausible = true) (rest : Bytes) :
    readAuthHandoff record.schemaVersion (record.authBytes ++ rest) =
      some ((record.authDomainHandoff.code, record.authHandoffSequence), rest) := by
  rw [readAuthHandoff, authBytes]
  by_cases hschema : record.schemaVersion = kConfigurationBootstrapSchemaVersion3
  · rw [if_pos hschema, if_pos hschema, List.cons_append, uint8_read_cons]
    dsimp only [bind, Option.bind]
    rw [uint64_read_bigEndian]
    rfl
  · obtain ⟨hauth, hsequence⟩ := noAuthHandoff_of_isPlausible h hschema
    rw [if_neg hschema, if_neg hschema, hauth, hsequence]
    rfl

theorem decode_encode (h : encodeConfigurationBootstrapRecord record = .ok bytes) :
    decodeConfigurationBootstrapRecord bytes = .ok record := by
  obtain ⟨hwritten, hlegal, epochs, hepochs, hencode⟩ := encode_eq_ok h
  have hopen : openBootstrapEnvelope bytes =
      .ok (record.envelope (record.payloadBytes epochs)) :=
    openBootstrapEnvelope_eq_ok.mpr (decodeEnvelope_encodeEnvelope hencode)
  have hsize : validBootstrapPayloadSize record.schemaVersion record.payloadSize = true := by
    rw [payloadSize]
    by_cases hhandoff : record.handoff = .none <;>
      rcases hwritten with hschema | hschema <;>
      simp only [hschema, hhandoff, if_true, if_false] <;> decide
  have hcheck : checkBootstrapEnvelope (record.envelope (record.payloadBytes epochs)) = .ok () := by
    refine checkBootstrapEnvelope_eq_ok.mpr ⟨rfl, .inr hwritten, rfl, ?_⟩
    show validBootstrapPayloadSize record.schemaVersion (record.payloadBytes epochs).length = true
    rw [length_payloadBytes hepochs]
    exact hsize
  have hhandoff : ∀ rest, readHandoffByte record.schemaVersion (record.handoff.code :: rest) =
      some (record.handoff.code, rest) := fun rest => by
    rw [readHandoffByte, if_pos (schema2_le hwritten), uint8_read_cons]
  have hformat := (format_of_isPlausible hlegal).2.2
  have hauth := readAuthHandoff_authBytes hlegal []
  rw [List.append_nil] at hauth
  have hformatRange : record.storageFormatVersion ≠ 0 ∧
      record.storageFormatVersion ≤ kConfigurationStorageFormatVersion1 := by
    rw [hformat]
    decide
  rw [decodeConfigurationBootstrapRecord, hopen, ok_bind, hcheck, ok_bind]
  simp only [envelope, payloadBytes, uint32_read_bigEndian, orFail_some, ok_bind, uint8_read_cons,
    hhandoff, hformatRange.1, hformatRange.2, ne_eq, not_false_eq_true, decide_true, require_true,
    readHandoffEpochs_epochBytes hwritten hlegal hepochs, hauth, List.isEmpty_nil,
    ConfigurationBootstrapState.ofCode_code, AuthDomainHandoffState.ofCode_code,
    RunEpochHandoffState.ofCode_code]
  rw [show ConfigurationBootstrapRecord.isPlausible _ = true from hlegal]
  rfl

end ConfigurationBootstrapRecord

end Fermentationsschrank

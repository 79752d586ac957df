import Fermentationsschrank.Storage.EnvelopeScan

/-!
# The image of the envelope

The decoder accepts what the encoder writes and nothing else.  On a buffer of any
length neither decoder leaves the buffer, and both accept the same.
-/

namespace Fermentationsschrank.Envelope

open Fermentationsschrank.Format
open Fermentationsschrank.Crc32

section

variable {bytes tail : Bytes} {envelope : StorageEnvelope}

/-- The header up to the payload length. -/
def identifyingBytes (envelope : StorageEnvelope) : Bytes :=
  kMagic ++ bigEndian 2 kStorageEnvelopeVersion1.toNat ++
    bigEndian 2 envelope.recordTypeId.toNat ++
    bigEndian 4 envelope.schemaVersion.toNat ++
    bigEndian 8 envelope.storageEpoch.toNat ++
    bigEndian 8 envelope.versionValue.toNat

theorem length_identifyingBytes : (identifyingBytes envelope).length = 28 := by
  simp [identifyingBytes, kMagic]

theorem head_utcField {seconds : Option Int64} (rest : Bytes) :
    (utcField seconds ++ rest).head? = some (if seconds.isSome then 1 else 0) := by
  cases seconds <;> rfl

/-- Where the length and the tag stand, and how long the record is by them. -/
structure Framed (bytes : Bytes) : Prop where
  tag : (bytes.drop 32).head? = some 0 ∨ (bytes.drop 32).head? = some 1
  length : bytes.length = kHeaderBeforeCrcWithoutUtc +
    (if (bytes.drop 32).head? = some 1 then kUtcValueSize else 0) + kCrcSize +
    ofBigEndian ((bytes.drop 28).take 4)

theorem framed_of_decodeEnvelope (h : decodeEnvelope bytes = .ok envelope) :
    Framed bytes := by
  obtain ⟨hbytes, hpayload⟩ := bytes_of_decodeEnvelope h
  set crc := bigEndian 4 (finalize (update (update 0xFFFFFFFF (headerBytes envelope))
    envelope.payload)).toNat with hcrc
  have hsplit : bytes = identifyingBytes envelope ++
      (bigEndian 4 envelope.payload.length ++
        (utcField envelope.utcUnixSeconds ++ (crc ++ envelope.payload))) := by
    rw [hbytes, headerBytes, identifyingBytes]
    simp only [List.append_assoc]
  have hlengthField : bytes.drop 28 = bigEndian 4 envelope.payload.length ++
      (utcField envelope.utcUnixSeconds ++ (crc ++ envelope.payload)) := by
    rw [hsplit]
    exact List.drop_left' length_identifyingBytes
  have htagField : bytes.drop 32 =
      utcField envelope.utcUnixSeconds ++ (crc ++ envelope.payload) := by
    have hdrop : bytes.drop 32 = (bytes.drop 28).drop 4 := by rw [List.drop_drop]
    rw [hdrop, hlengthField]
    exact List.drop_left' (length_bigEndian _ _)
  have hhead : (bytes.drop 32).head? =
      some (if envelope.utcUnixSeconds.isSome then 1 else 0) := by
    rw [htagField, head_utcField]
  have hvalue : ofBigEndian ((bytes.drop 28).take 4) = envelope.payload.length := by
    rw [hlengthField, List.take_left' (length_bigEndian _ _), ofBigEndian_bigEndian]
    exact Nat.mod_eq_of_lt (by norm_num; omega)
  have hlength : bytes.length = kHeaderBeforeCrcWithoutUtc +
      (if envelope.utcUnixSeconds.isSome then kUtcValueSize else 0) + kCrcSize +
      envelope.payload.length := by
    have hcrcLength : crc.length = kCrcSize := length_bigEndian _ _
    rw [hbytes, List.length_append, List.length_append, length_headerBytes, hcrcLength]
    omega
  constructor
  · rw [hhead]
    cases envelope.utcUnixSeconds.isSome with
    | false => exact .inl rfl
    | true => exact .inr rfl
  · rw [hvalue, hlength, hhead]
    cases envelope.utcUnixSeconds.isSome <;> rfl

/-- A record that goes on is another one. -/
theorem tail_eq_nil_of_framed (hshort : Framed bytes) (hlong : Framed (bytes ++ tail)) :
    tail = [] := by
  have hroom : 33 ≤ bytes.length := by
    rw [hshort.length, kHeaderBeforeCrcWithoutUtc]
    omega
  have htag : ((bytes ++ tail).drop 32).head? = (bytes.drop 32).head? := by
    rw [List.drop_append_of_le_length (by omega)]
    cases hdrop : bytes.drop 32 with
    | nil =>
        have hlength := congrArg List.length hdrop
        rw [List.length_drop, List.length_nil] at hlength
        omega
    | cons byte rest => rfl
  have hfield : ((bytes ++ tail).drop 28).take 4 = (bytes.drop 28).take 4 := by
    rw [List.drop_append_of_le_length (by omega), List.take_append_of_le_length]
    rw [List.length_drop]
    omega
  have hlength := hlong.length
  rw [htag, hfield, ← hshort.length, List.length_append] at hlength
  exact List.length_eq_zero_iff.mp (by omega)

theorem error_of_forall_ne {result : Except EnvelopeDecodeStatus StorageEnvelope}
    (h : ∀ envelope, result ≠ .ok envelope) : ∃ status, result = .error status := by
  cases result with
  | ok envelope => exact absurd rfl (h envelope)
  | error status => exact ⟨status, rfl⟩

end

/-- The decoders of the envelope accept exactly what the encoder writes. -/
theorem envelope_image :
    (∀ envelope maxTotalBytes bytes, encodeEnvelope envelope maxTotalBytes = .ok bytes →
      decodeEnvelope bytes = .ok envelope) ∧
    (∀ bytes envelope, decodeEnvelope bytes = .ok envelope →
      ∀ maxTotalBytes, bytes.length ≤ maxTotalBytes →
        encodeEnvelope envelope maxTotalBytes = .ok bytes) ∧
    (∀ bytes, (∀ envelope maxTotalBytes,
        encodeEnvelope envelope maxTotalBytes ≠ .ok bytes) →
      ∃ status, decodeEnvelope bytes = .error status) ∧
    (∀ bytes tail, tail ≠ [] →
      (∃ status, decodeEnvelope bytes = .error status) ∨
        ∃ status, decodeEnvelope (bytes ++ tail) = .error status) ∧
    (∀ bytes, ¬ Framed bytes → ∃ status, decodeEnvelope bytes = .error status) ∧
    ∀ (size : SizeType) bytes, bytes.length < size.limit →
      (scanDecodeEnvelope size bytes).run = some (decodeEnvelope bytes) ∧
      (scanEnvelopeMetadata size bytes).run =
        some ((decodeEnvelope bytes).map StorageEnvelope.metadata) := by
  have hunframed : ∀ bytes, ¬ Framed bytes →
      ∃ status, decodeEnvelope bytes = .error status := by
    intro bytes hbytes
    exact error_of_forall_ne fun envelope h => hbytes (framed_of_decodeEnvelope h)
  refine ⟨fun _ _ _ h => decodeEnvelope_encodeEnvelope h,
    fun _ _ h _ hfits => encodeEnvelope_decodeEnvelope h hfits, ?_, ?_, hunframed, ?_⟩
  · intro bytes hbytes
    exact error_of_forall_ne fun envelope h =>
      hbytes envelope bytes.length (encodeEnvelope_decodeEnvelope h (Nat.le_refl _))
  · intro bytes tail htail
    by_cases hshort : Framed bytes
    · exact .inr (hunframed _ fun hlong => htail (tail_eq_nil_of_framed hshort hlong))
    · exact .inl (hunframed _ hshort)
  · intro size bytes hfits
    exact ⟨run_scanDecodeEnvelope hfits, run_scanEnvelopeMetadata hfits⟩

end Fermentationsschrank.Envelope

import Fermentationsschrank.Authentication.AuthenticationDomain
import Fermentationsschrank.Configuration.ConfigurationText
import Fermentationsschrank.Network.SoftApCredentials

/-!
# Device names

Three readers of UTF-8 stand in the code: one for configuration texts, one for passwords,
one for the name of the access point.  All three take the same texts, and the access point
gets a name from every device name.
-/

namespace Fermentationsschrank

open Utf8

/-- What a reader takes: the bytes of one character, and nothing else. -/
def ReadsOne {Item : Type} (next : Bytes → Option (Item × ℕ)) (read : Char → Item) : Prop :=
  ∀ {bytes item width}, next bytes = some (item, width) ↔
    ∃ char rest, bytes = String.utf8EncodeChar char ++ rest ∧ read char = item ∧
      char.utf8Size = width

theorem readsOne_leading : ReadsOne leading Char.toNat := by
  intro bytes value width
  constructor
  · exact exists_of_leading
  · rintro ⟨char, rest, rfl, rfl, rfl⟩
    exact leading_encodeChar char rest

/-! ## Continuation bytes -/

theorem appendContinuations_cons {value : UInt32} {next : Byte} {rest : Bytes} :
    appendContinuations value (next :: rest) =
      if Continues next then appendContinuations (value <<< 6 ||| (next &&& 0x3F).toUInt32) rest
      else none := by
  rw [appendContinuations, ite_not, if_congr continues_iff rfl rfl]

/-- A scalar of several bytes, when it is not written in too many and is one. -/
def reading (width minimum : ℕ) (lead : UInt32) (continuation : Bytes) : Option (ℕ × ℕ) :=
  match appendContinuations lead continuation with
  | none => none
  | some value =>
      if minimum ≤ value.toNat ∧ Scalar value.toNat then some (value.toNat, width) else none

section Readings

variable {first second third fourth : Byte} {rest : Bytes}

theorem toNat_lead {mask : Byte} {bits : ℕ} (hmask : mask.toNat = 2 ^ bits - 1) :
    (first &&& mask).toUInt32.toNat = first.toNat % 2 ^ bits := by
  rw [UInt8.toNat_toUInt32, UInt8.toNat_and, hmask, Nat.and_two_pow_sub_one_eq_mod]

theorem reading_two (hlow : 0xC2 ≤ first.toNat) (hhigh : first.toNat < 0xE0) :
    reading 2 0x80 (first &&& 0x1F).toUInt32 [second] = leading2 first (second :: rest) := by
  have hlead : (first &&& 0x1F).toUInt32.toNat = first.toNat % 32 := @toNat_lead first 0x1F 5 rfl
  rw [reading, appendContinuations_cons, leading2]
  by_cases hsecond : Continues second
  · have hvalue : ((first &&& 0x1F).toUInt32 <<< 6 ||| (second &&& 0x3F).toUInt32).toNat =
        value2 first second := by
      rw [toNat_appendBits (by omega), hlead, value2]
    have hchecked : 0x80 ≤ value2 first second ∧ value2 first second < 0xD800 := by
      rw [value2]
      omega
    rw [if_pos hsecond, if_pos hsecond, appendContinuations]
    simp only [hvalue]
    exact if_pos ⟨hchecked.1, .inl hchecked.2⟩
  · rw [if_neg hsecond, if_neg hsecond]

theorem reading_three :
    reading 3 0x800 (first &&& 0x0F).toUInt32 [second, third] =
      leading3 first (second :: third :: rest) := by
  have hlead : (first &&& 0x0F).toUInt32.toNat = first.toNat % 16 := @toNat_lead first 0x0F 4 rfl
  have hnext := @toNat_appendBits (first &&& 0x0F).toUInt32 second (by omega)
  rw [reading, appendContinuations_cons, appendContinuations_cons, leading3]
  by_cases hsecond : Continues second
  · by_cases hthird : Continues third
    · have hvalue : (first.toNat % 16 * 64 + second.toNat % 64) * 64 + third.toNat % 64 =
          value3 first second third := by
        rw [value3]
        omega
      rw [if_pos hsecond, if_pos hthird, appendContinuations]
      simp only [hsecond, hthird, true_and]
      rw [toNat_appendBits (by omega), hnext, hlead, hvalue]
    · simp [hthird]
  · simp [hsecond]

theorem reading_four :
    reading 4 0x10000 (first &&& 0x07).toUInt32 [second, third, fourth] =
      leading4 first (second :: third :: fourth :: rest) := by
  have hlead : (first &&& 0x07).toUInt32.toNat = first.toNat % 8 := @toNat_lead first 0x07 3 rfl
  have hnext := @toNat_appendBits (first &&& 0x07).toUInt32 second (by omega)
  have hlater := @toNat_appendBits
    ((first &&& 0x07).toUInt32 <<< 6 ||| (second &&& 0x3F).toUInt32) third (by omega)
  rw [reading, appendContinuations_cons, appendContinuations_cons, appendContinuations_cons,
    leading4]
  by_cases hsecond : Continues second
  · by_cases hthird : Continues third
    · by_cases hfourth : Continues fourth
      · have hvalue : ((first.toNat % 8 * 64 + second.toNat % 64) * 64 + third.toNat % 64) * 64 +
            fourth.toNat % 64 = value4 first second third fourth := by
          rw [value4]
          omega
        rw [if_pos hsecond, if_pos hthird, if_pos hfourth, appendContinuations]
        simp only [hsecond, hthird, hfourth, true_and]
        rw [toNat_appendBits (by omega), hlater, hnext, hlead, hvalue]
      · simp [hfourth]
    · simp [hthird]
  · simp [hsecond]

end Readings

/-! ## Configuration texts -/

/-- The check of a decoded value, in numbers. -/
theorem refused_iff {value least : UInt32} :
    (value < least ∨ 0x10FFFF < value ∨ (0xD800 ≤ value ∧ value ≤ 0xDFFF)) ↔
      ¬(least.toNat ≤ value.toNat ∧ Scalar value.toNat) := by
  simp only [Scalar, UInt32.lt_iff_toNat_lt, UInt32.le_iff_toNat_le, UInt32.reduceToNat]
  omega

theorem checked_eq {width : ℕ} {lead least : UInt32} {continuation : Bytes} :
    ((appendContinuations lead continuation).bind fun value =>
      if value < least ∨ 0x10FFFF < value ∨ (0xD800 ≤ value ∧ value ≤ 0xDFFF) then none
      else some (⟨value, width⟩ : Utf8Scalar)).map
        (fun scalar => (scalar.value.toNat, scalar.width)) =
      reading width least.toNat lead continuation := by
  rw [reading]
  cases appendContinuations lead continuation with
  | none => rfl
  | some value =>
      simp only [Option.bind_some, refused_iff, ite_not]
      split_ifs <;> rfl

theorem decodeScalar_wide {first : Byte} {rest : Bytes} {width : ℕ} {lead least : UInt32}
    (hfirst : 0x80 ≤ first.toNat) (hlead : scalarLead first = some (width, lead, least)) :
    (decodeScalar (first :: rest)).map (fun scalar => (scalar.value.toNat, scalar.width)) =
      if (first :: rest).length < width then none
      else reading width least.toNat lead (rest.take (width - 1)) := by
  have hnarrow : ¬first ≤ 0x7F := fun hle =>
    absurd (UInt8.le_iff_toNat_le.mp hle) (Nat.not_le.mpr hfirst)
  rw [decodeScalar, if_neg hnarrow, hlead]
  simp only [Option.bind_eq_bind, Option.bind_some]
  split
  · rfl
  · exact checked_eq

/-- The scalar of the configuration texts, as a number. -/
theorem decodeScalar_eq_leading (bytes : Bytes) :
    (decodeScalar bytes).map (fun scalar => (scalar.value.toNat, scalar.width)) =
      leading bytes := by
  cases bytes with
  | nil => rfl
  | cons first rest =>
  have hscalarLead : scalarLead first =
      if 0xC2 ≤ first.toNat ∧ first.toNat ≤ 0xDF then some (2, (first &&& 0x1F).toUInt32, 0x80)
      else if 0xE0 ≤ first.toNat ∧ first.toNat ≤ 0xEF then
        some (3, (first &&& 0x0F).toUInt32, 0x800)
      else if 0xF0 ≤ first.toNat ∧ first.toNat ≤ 0xF4 then
        some (4, (first &&& 0x07).toUInt32, 0x10000)
      else none := by
    simp only [scalarLead, UInt8.le_iff_toNat_le, UInt8.reduceToNat]
  rw [leading]
  by_cases hone : first.toNat < 0x80
  · have hnarrow : first ≤ 0x7F := UInt8.le_iff_toNat_le.mpr (Nat.le_of_lt_succ hone)
    rw [decodeScalar, if_pos hnarrow, if_pos hone, Option.map_some, UInt8.toNat_toUInt32]
  rw [if_neg hone]
  have hwide := Nat.le_of_not_lt hone
  by_cases htwo : 0xC2 ≤ first.toNat ∧ first.toNat < 0xE0
  · rw [if_pos (by omega)] at hscalarLead
    rw [if_pos htwo, decodeScalar_wide hwide hscalarLead]
    rcases rest with _ | ⟨second, rest⟩
    · rfl
    · exact (if_neg (by simp)).trans (reading_two htwo.1 htwo.2)
  rw [if_neg (by omega)] at hscalarLead
  rw [if_neg htwo]
  by_cases hthree : 0xE0 ≤ first.toNat ∧ first.toNat < 0xF0
  · rw [if_pos (by omega)] at hscalarLead
    rw [if_pos hthree, decodeScalar_wide hwide hscalarLead]
    rcases rest with _ | ⟨second, _ | ⟨third, rest⟩⟩
    · rfl
    · rfl
    · exact (if_neg (by simp)).trans reading_three
  rw [if_neg (by omega)] at hscalarLead
  rw [if_neg hthree]
  by_cases hfour : 0xF0 ≤ first.toNat ∧ first.toNat < 0xF5
  · rw [if_pos (by omega)] at hscalarLead
    rw [if_pos hfour, decodeScalar_wide hwide hscalarLead]
    rcases rest with _ | ⟨second, _ | ⟨third, _ | ⟨fourth, rest⟩⟩⟩
    · rfl
    · rfl
    · rfl
    · exact (if_neg (by simp)).trans reading_four
  · have hnarrow : ¬first ≤ 0x7F := fun hle => hone (Nat.lt_succ_of_le (UInt8.le_iff_toNat_le.mp hle))
    rw [if_neg (by omega)] at hscalarLead
    rw [if_neg hfour, decodeScalar, if_neg hnarrow, hscalarLead]
    rfl

/-! ## The name of the access point -/

theorem isContinuation_iff {byte : Byte} : isContinuation byte = true ↔ Continues byte := by
  rw [isContinuation, decide_eq_true_iff, continues_iff]

/-- The second bytes of the table are those with which the value is a scalar, and not too
small for three bytes. -/
theorem refused3_iff {first second third : Byte} (hlow : 0xE0 ≤ first.toNat)
    (hhigh : first.toNat < 0xF0) :
    (!isContinuation third ∨ (first = 0xE0 ∧ (second < 0xA0 ∨ 0xBF < second)) ∨
        (first = 0xED ∧ (second < 0x80 ∨ 0x9F < second)) ∨
        (first ≠ 0xE0 ∧ first ≠ 0xED ∧ !isContinuation second)) ↔
      ¬(Continues second ∧ Continues third ∧ 0x800 ≤ value3 first second third ∧
        Scalar (value3 first second third)) := by
  have hthird := third.toNat_lt
  simp only [Bool.not_eq_true', ← Bool.not_eq_true, isContinuation_iff, ← UInt8.toNat_inj, ne_eq,
    UInt8.lt_iff_toNat_lt, UInt8.reduceToNat, Continues, Scalar, value3]
  omega

theorem refused4_iff {first second third fourth : Byte} (hlow : 0xF0 ≤ first.toNat)
    (hhigh : first.toNat < 0xF5) :
    (!isContinuation third ∨ !isContinuation fourth ∨
        (first = 0xF0 ∧ (second < 0x90 ∨ 0xBF < second)) ∨
        (first = 0xF4 ∧ (second < 0x80 ∨ 0x8F < second)) ∨
        (first ≠ 0xF0 ∧ first ≠ 0xF4 ∧ !isContinuation second)) ↔
      ¬(Continues second ∧ Continues third ∧ Continues fourth ∧
        0x10000 ≤ value4 first second third fourth ∧
        Scalar (value4 first second third fourth)) := by
  simp only [Bool.not_eq_true', ← Bool.not_eq_true, isContinuation_iff, ← UInt8.toNat_inj, ne_eq,
    UInt8.lt_iff_toNat_lt, UInt8.reduceToNat, Continues, Scalar, value4]
  omega

theorem codePointLength_eq_leading (bytes : Bytes) :
    codePointLength bytes = (leading bytes).map Prod.snd := by
  cases bytes with
  | nil => rfl
  | cons first rest =>
  simp only [codePointLength, leading, UInt8.le_iff_toNat_le, UInt8.reduceToNat]
  by_cases hone : first.toNat < 0x80
  · rw [if_pos (Nat.le_of_lt_succ hone), if_pos hone, Option.map_some]
  rw [if_neg (by omega), if_neg hone]
  by_cases htwo : 0xC2 ≤ first.toNat ∧ first.toNat < 0xE0
  · rw [if_pos (by omega), if_pos htwo]
    rcases rest with _ | ⟨second, rest⟩
    · rfl
    · simp only [leading2, isContinuation_iff, apply_ite (Option.map Prod.snd), Option.map_some,
        Option.map_none]
  rw [if_neg (by omega), if_neg htwo]
  by_cases hthree : 0xE0 ≤ first.toNat ∧ first.toNat < 0xF0
  · rw [if_pos (by omega), if_pos hthree]
    rcases rest with _ | ⟨second, _ | ⟨third, rest⟩⟩
    · rfl
    · rfl
    · rw [leading3]
      simp only [refused3_iff hthree.1 hthree.2, ite_not, apply_ite (Option.map Prod.snd),
        Option.map_some, Option.map_none]
  rw [if_neg (by omega), if_neg hthree]
  by_cases hfour : 0xF0 ≤ first.toNat ∧ first.toNat < 0xF5
  · rw [if_pos (by omega), if_pos hfour]
    rcases rest with _ | ⟨second, _ | ⟨third, _ | ⟨fourth, rest⟩⟩⟩
    · rfl
    · rfl
    · rfl
    · rw [leading4]
      simp only [refused4_iff hfour.1 hfour.2, ite_not, apply_ite (Option.map Prod.snd),
        Option.map_some, Option.map_none]
  · rw [if_neg (by omega), if_neg hfour, Option.map_none]

/-- The bytes of a code point and their number. -/
def codePoint (bytes : Bytes) : Option (Bytes × ℕ) :=
  (codePointLength bytes).map fun length => (bytes.take length, length)

theorem codePoints_eq_scan (fuel : ℕ) (bytes : Bytes) :
    codePoints fuel bytes = scan codePoint fuel bytes := by
  induction fuel generalizing bytes with
  | zero => cases bytes <;> rfl
  | succ fuel ih =>
      cases bytes with
      | nil => rfl
      | cons first rest =>
          rw [codePoints, scan, codePoint]
          cases codePointLength (first :: rest) with
          | none => rfl
          | some length =>
              simp only [Option.bind_eq_bind, Option.bind_some, Option.map_some, ih]
          · rintro ⟨⟩

theorem readsOne_codePoint : ReadsOne codePoint String.utf8EncodeChar := by
  intro bytes item width
  rw [codePoint, codePointLength_eq_leading]
  constructor
  · intro h
    simp only [Option.map_eq_some_iff] at h
    obtain ⟨_, ⟨⟨value, length⟩, hleading, rfl⟩, htaken⟩ := h
    obtain ⟨char, rest, rfl, _, rfl⟩ := exists_of_leading hleading
    cases htaken
    refine ⟨char, rest, rfl, ?_, rfl⟩
    rw [← String.length_utf8EncodeChar, List.take_left]
  · rintro ⟨char, rest, rfl, rfl, rfl⟩
    rw [leading_encodeChar, Option.map_some, Option.map_some, ← String.length_utf8EncodeChar,
      List.take_left]

/-! ## Passwords -/

/-- The code point that the loop over a password takes, and its width. -/
def passwordScalar : Bytes → Option (ℕ × ℕ)
  | [] => none
  | byte :: rest =>
      if byte ≤ 0x7F then some (byte.toNat, 1)
      else if 0xC2 ≤ byte ∧ byte ≤ 0xDF then
        match rest with
        | second :: _ =>
            ((codePointOf (byte &&& 0x1F).toUInt32 [second]).filter (validCodePoint 2)).map
              fun codePoint => (codePoint.toNat, 2)
        | _ => none
      else if 0xE0 ≤ byte ∧ byte ≤ 0xEF then
        match rest with
        | second :: third :: _ =>
            ((codePointOf (byte &&& 0x0F).toUInt32 [second, third]).filter (validCodePoint 3)).map
              fun codePoint => (codePoint.toNat, 3)
        | _ => none
      else if 0xF0 ≤ byte ∧ byte ≤ 0xF4 then
        match rest with
        | second :: third :: fourth :: _ =>
            ((codePointOf (byte &&& 0x07).toUInt32 [second, third, fourth]).filter
                (validCodePoint 4)).map
              fun codePoint => (codePoint.toNat, 4)
        | _ => none
      else none

theorem codePointOf_eq (lead : UInt32) (continuation : Bytes) :
    codePointOf lead continuation = appendContinuations lead continuation := by
  rw [codePointOf]
  induction continuation generalizing lead with
  | nil => rfl
  | cons next rest ih =>
      rw [appendContinuations, List.foldl_cons, Option.bind_some]
      split
      · -- a refused byte refuses the rest
        clear ih
        induction rest with
        | nil => rfl
        | cons byte rest ih => rw [List.foldl_cons, Option.bind_none, ih]
      · exact ih _

theorem filter_eq_reading {width minimum : ℕ} {lead : UInt32} {continuation : Bytes}
    (hvalid : ∀ value, validCodePoint width value = true ↔
      minimum ≤ value.toNat ∧ Scalar value.toNat) :
    ((codePointOf lead continuation).filter (validCodePoint width)).map
      (fun codePoint => (codePoint.toNat, width)) = reading width minimum lead continuation := by
  rw [codePointOf_eq, reading]
  cases appendContinuations lead continuation with
  | none => rfl
  | some value =>
      rw [Option.filter_some]
      simp only [hvalid]
      split_ifs <;> rfl

theorem validCodePoint_iff {width minimum : ℕ} {value : UInt32}
    (hwidth : (width, minimum) ∈ [(2, 0x80), (3, 0x800), (4, 0x10000)]) :
    validCodePoint width value = true ↔ minimum ≤ value.toNat ∧ Scalar value.toNat := by
  rw [validCodePoint, decide_eq_true_iff]
  simp only [gt_iff_lt, UInt32.lt_iff_toNat_lt, UInt32.le_iff_toNat_le, UInt32.reduceToNat, Scalar]
  simp only [List.mem_cons, Prod.mk.injEq, List.not_mem_nil, or_false] at hwidth
  omega

theorem passwordScalar_eq_leading (bytes : Bytes) : passwordScalar bytes = leading bytes := by
  cases bytes with
  | nil => rfl
  | cons first rest =>
  simp only [passwordScalar, leading, UInt8.le_iff_toNat_le, UInt8.reduceToNat]
  by_cases hone : first.toNat < 0x80
  · rw [if_pos (Nat.le_of_lt_succ hone), if_pos hone]
  rw [if_neg (by omega), if_neg hone]
  by_cases htwo : 0xC2 ≤ first.toNat ∧ first.toNat < 0xE0
  · rw [if_pos (by omega), if_pos htwo]
    rcases rest with _ | ⟨second, rest⟩
    · rfl
    · exact (filter_eq_reading fun value => validCodePoint_iff (by simp)).trans
        (reading_two htwo.1 htwo.2)
  rw [if_neg (by omega), if_neg htwo]
  by_cases hthree : 0xE0 ≤ first.toNat ∧ first.toNat < 0xF0
  · rw [if_pos (by omega), if_pos hthree]
    rcases rest with _ | ⟨second, _ | ⟨third, rest⟩⟩
    · rfl
    · rfl
    · exact (filter_eq_reading fun value => validCodePoint_iff (by simp)).trans reading_three
  rw [if_neg (by omega), if_neg hthree]
  by_cases hfour : 0xF0 ≤ first.toNat ∧ first.toNat < 0xF5
  · rw [if_pos (by omega), if_pos hfour]
    rcases rest with _ | ⟨second, _ | ⟨third, _ | ⟨fourth, rest⟩⟩⟩
    · rfl
    · rfl
    · rfl
    · exact (filter_eq_reading fun value => validCodePoint_iff (by simp)).trans reading_four
  · rw [if_neg (by omega), if_neg hfour]

theorem ite_any_eq {found : Option UInt32} {test : UInt32 → Bool} {width : ℕ}
    (rest : ℕ → Option ℕ) :
    (if found.any test then rest width else none) =
      ((found.filter test).map fun codePoint => (codePoint.toNat, width)).bind
        fun taken => rest taken.2 := by
  cases found with
  | none => rfl
  | some codePoint =>
      rw [Option.filter_some, Option.any_some]
      split_ifs <;> rfl

/-- One round of the loop over a password. -/
theorem validUtf8_cons (first : Byte) (rest : Bytes) :
    validUtf8 (first :: rest) = (passwordScalar (first :: rest)).bind fun taken =>
      (validUtf8 ((first :: rest).drop taken.2)).map (· + 1) := by
  rw [validUtf8.eq_def, passwordScalar.eq_def]
  dsimp only
  split_ifs
  · rfl
  · rcases rest with _ | ⟨second, rest⟩
    · rfl
    · exact @ite_any_eq _ _ 2 fun width => (validUtf8 ((first :: second :: rest).drop width)).map (· + 1)
  · rcases rest with _ | ⟨second, _ | ⟨third, rest⟩⟩
    · rfl
    · rfl
    · exact @ite_any_eq _ _ 3 fun width => (validUtf8 ((first :: second :: third :: rest).drop width)).map (· + 1)
  · rcases rest with _ | ⟨second, _ | ⟨third, _ | ⟨fourth, rest⟩⟩⟩
    · rfl
    · rfl
    · rfl
    · exact @ite_any_eq _ _ 4 fun width => (validUtf8 ((first :: second :: third :: fourth :: rest).drop width)).map (· + 1)
  · rfl

theorem validUtf8_eq_scan {fuel : ℕ} {bytes : Bytes} (hfuel : bytes.length ≤ fuel) :
    validUtf8 bytes = (scan passwordScalar fuel bytes).map List.length := by
  induction fuel generalizing bytes with
  | zero =>
      obtain rfl := List.length_eq_zero_iff.mp (Nat.le_zero.mp hfuel)
      rfl
  | succ fuel ih =>
      cases bytes with
      | nil => rfl
      | cons first rest =>
          rw [validUtf8_cons, scan]
          cases htaken : passwordScalar (first :: rest) with
          | none => rfl
          | some taken =>
              obtain ⟨char, _, _, _, hwidth⟩ :=
                exists_of_leading ((passwordScalar_eq_leading _).symm.trans htaken)
              have hpos := char.utf8Size_pos
              have hshort : ((first :: rest).drop taken.2).length ≤ fuel := by
                rw [List.length_drop]
                omega
              rw [Option.bind_some, ih hshort]
              simp only [Option.bind_eq_bind, Option.bind_some, Option.map_bind, Option.map_map]
              cases scan passwordScalar fuel ((first :: rest).drop taken.2) <;> rfl

/-! ## The longest name -/

/-- A name that fits the access point, raw and escaped. -/
def FitsAccessPoint (ssid : Bytes) : Prop :=
  ssid.length ≤ kSoftApRawSsidMaximumBytes ∧
    escapedLength ssid ≤ kSoftApEscapedSsidMaximumBytes

theorem rawPoints_eq_nil {offset : ℕ} {points : List Bytes}
    (h : kSoftApRawSsidMaximumBytes < offset) : rawPoints offset points = [] := by
  induction points generalizing offset with
  | nil => rfl
  | cons point rest ih =>
      rw [rawPoints, if_neg (Nat.not_le.mpr (Nat.lt_add_right _ h))]
      exact ih (Nat.lt_add_right _ h)

/-- The code points within the raw limit are the longest beginning that is. -/
theorem rawPoints_longest {offset : ℕ} {points : List Bytes}
    (hoffset : offset ≤ kSoftApRawSsidMaximumBytes) :
    rawPoints offset points <+: points ∧
      offset + (rawPoints offset points).flatten.length ≤ kSoftApRawSsidMaximumBytes ∧
      ∀ longer, longer <+: points →
        offset + longer.flatten.length ≤ kSoftApRawSsidMaximumBytes →
        longer <+: rawPoints offset points := by
  induction points generalizing offset with
  | nil => exact ⟨List.nil_prefix, hoffset, fun longer hlonger _ => hlonger⟩
  | cons point rest ih =>
      rw [rawPoints]
      split
      · rename_i hpoint
        obtain ⟨hbegins, hfits, hlongest⟩ := ih hpoint
        rw [List.flatten_cons, List.length_append, ← Nat.add_assoc]
        refine ⟨List.prefix_cons_iff.mpr (.inr ⟨_, rfl, hbegins⟩), hfits, fun longer hlonger hlength => ?_⟩
        rcases List.prefix_cons_iff.mp hlonger with rfl | ⟨shorter, rfl, hshorter⟩
        · exact List.nil_prefix
        · rw [List.flatten_cons, List.length_append, ← Nat.add_assoc] at hlength
          exact List.prefix_cons_iff.mpr (.inr ⟨_, rfl, hlongest shorter hshorter hlength⟩)
      · rename_i hpoint
        rw [rawPoints_eq_nil (Nat.not_le.mp hpoint)]
        refine ⟨List.nil_prefix, hoffset, fun longer hlonger hlength => ?_⟩
        rcases List.prefix_cons_iff.mp hlonger with rfl | ⟨shorter, rfl, _⟩
        · exact List.nil_prefix
        · rw [List.flatten_cons, List.length_append, ← Nat.add_assoc] at hlength
          exact absurd (Nat.le_trans (Nat.le_add_right _ _) hlength) hpoint

/-- What remains after dropping code points is the longest beginning that fits escaped. -/
theorem fitEscaped_longest (points : List Bytes) :
    (fitEscaped points.reverse).reverse <+: points ∧
      escapedLength (fitEscaped points.reverse).reverse.flatten ≤
        kSoftApEscapedSsidMaximumBytes ∧
      ∀ longer, longer <+: points →
        escapedLength longer.flatten ≤ kSoftApEscapedSsidMaximumBytes →
        longer <+: (fitEscaped points.reverse).reverse := by
  induction points using List.reverseRecOn with
  | nil => exact ⟨List.nil_prefix, Nat.zero_le _, fun longer hlonger _ => hlonger⟩
  | append_singleton earlier last ih =>
      obtain ⟨hbegins, hfits, hlongest⟩ := ih
      have hreverse : (earlier ++ [last]).reverse = last :: earlier.reverse := by simp
      rw [hreverse, fitEscaped]
      split
      · rename_i hlong
        refine ⟨hbegins.trans (List.prefix_append _ _), hfits, fun longer hlonger hlength => ?_⟩
        rcases List.prefix_concat_iff.mp hlonger with rfl | hshorter
        · rw [← hreverse, List.reverse_reverse] at hlong
          exact absurd hlength (Nat.not_le.mpr hlong)
        · exact hlongest longer hshorter hlength
      · rename_i hshort
        rw [← hreverse, List.reverse_reverse] at hshort ⊢
        exact ⟨List.prefix_rfl, Nat.not_lt.mp hshort, fun longer hlonger _ => hlonger⟩

theorem codePoints_iff {bytes : Bytes} {points : List Bytes} :
    codePoints bytes.length bytes = some points ↔
      ∃ chars, bytes = encode chars ∧ points = chars.map String.utf8EncodeChar := by
  rw [codePoints_eq_scan]
  exact scan_eq_some_iff readsOne_codePoint (Nat.le_refl _)

theorem fits_single (char : Char) : FitsAccessPoint (encode [char]) := by
  have hsize := char.utf8Size_le_four
  have hlength : (encode [char]).length = char.utf8Size := by
    rw [encode_cons, List.length_append, String.length_utf8EncodeChar]
    rfl
  have hcount := @List.countP_le_length _ requiresWifiEscape (encode [char])
  rw [FitsAccessPoint, escapedLength, kSoftApRawSsidMaximumBytes, kSoftApEscapedSsidMaximumBytes]
  omega

/-- The name is made from the longest beginning of the characters that fits. -/
theorem deriveSoftApSsid_encode {chars : List Char} (hchars : chars ≠ []) :
    ∃ kept, kept <+: chars ∧ kept ≠ [] ∧ FitsAccessPoint (encode kept) ∧
      (∀ longer, longer <+: chars → FitsAccessPoint (encode longer) → longer <+: kept) ∧
      deriveSoftApSsid (encode chars) = some (encode kept) := by
  have hpoints : codePoints (encode chars).length (encode chars) =
      some (chars.map String.utf8EncodeChar) := codePoints_iff.mpr ⟨chars, rfl, rfl⟩
  generalize hmap : chars.map String.utf8EncodeChar = points at hpoints
  obtain ⟨hraw, hrawFits, hrawLongest⟩ := @rawPoints_longest 0 points (Nat.zero_le _)
  obtain ⟨hbegins, hescapedFits, hlongest⟩ := fitEscaped_longest (rawPoints 0 points)
  rw [deriveSoftApSsid, hpoints, Option.bind_eq_bind, Option.bind_some]
  generalize (fitEscaped (rawPoints 0 points).reverse).reverse = found at *
  have hfound : found = (chars.take found.length).map String.utf8EncodeChar := by
    rw [List.map_take, hmap]
    exact List.prefix_iff_eq_take.mp (hbegins.trans hraw)
  generalize hkept : chars.take found.length = kept at hfound
  have hkeptBegins : kept <+: chars := hkept ▸ List.take_prefix _ _
  have hencode : found.flatten = encode kept := by rw [hfound, encode, List.flatMap_def]
  have hkeptLongest : ∀ longer, longer <+: chars → FitsAccessPoint (encode longer) →
      longer <+: kept := by
    intro longer hlonger hfits
    have hpoint : longer.map String.utf8EncodeChar <+: points := hmap ▸ hlonger.map _
    have hflatten : (longer.map String.utf8EncodeChar).flatten = encode longer := by
      rw [encode, List.flatMap_def]
    have hrawLonger := hrawLongest _ hpoint (by
      rw [Nat.zero_add, hflatten]
      exact hfits.1)
    have hfoundLonger := hlongest _ hrawLonger (by
      rw [hflatten]
      exact hfits.2)
    have hlength := hfoundLonger.length_le
    rw [hfound, List.length_map, List.length_map] at hlength
    exact List.prefix_of_prefix_length_le hlonger hkeptBegins hlength
  have hnonempty : kept ≠ [] := by
    obtain ⟨first, rest, rfl⟩ := List.exists_cons_of_ne_nil hchars
    have hsingle := hkeptLongest [first] (List.prefix_append [first] rest) (fits_single first)
    rintro rfl
    exact absurd (List.prefix_nil.mp hsingle) (List.cons_ne_nil _ _)
  refine ⟨kept, hkeptBegins, hnonempty, ⟨?_, hencode ▸ hescapedFits⟩, hkeptLongest, ?_⟩
  · rw [← hencode]
    exact (hbegins.flatten.length_le).trans (by rwa [Nat.zero_add] at hrawFits)
  · rw [hencode, if_neg (mt encode_eq_nil_iff.mp hnonempty)]

/-! ## Texts that are accepted -/

/-- The scalar of the configuration texts and its width, as numbers. -/
def configurationScalar (bytes : Bytes) : Option (ℕ × ℕ) :=
  (decodeScalar bytes).map fun scalar => (scalar.value.toNat, scalar.width)

theorem scanUnicodeText_ok {maximumScalars fuel : ℕ} {notes : Bool} {before after : TextScan}
    {bytes : Bytes} (h : scanUnicodeText maximumScalars notes fuel before bytes = .ok after) :
    ∃ values, scan configurationScalar fuel bytes = some values := by
  induction fuel generalizing before bytes with
  | zero =>
      cases bytes with
      | nil => exact ⟨[], rfl⟩
      | cons first rest => cases h
  | succ fuel ih =>
      cases bytes with
      | nil => exact ⟨[], rfl⟩
      | cons first rest =>
          simp only [scanUnicodeText, bind_eq_ok, orFail_eq_ok] at h
          obtain ⟨scalar, hscalar, _, _, _, _, _, _, h⟩ := h
          obtain ⟨values, hvalues⟩ := ih h
          refine ⟨scalar.value.toNat :: values, ?_⟩
          rw [scan, configurationScalar, hscalar, Option.map_some, Option.bind_eq_bind,
            Option.bind_some]
          simp only [hvalues, Option.bind_eq_bind, Option.bind_some, Option.pure_def]

theorem scanUnicodeText_failsWith {maximumScalars fuel : ℕ} {notes : Bool} {before : TextScan}
    {bytes : Bytes} :
    FailsWith (fun status => status ≠ .success ∧
        (status = .invalidUtf8 → scan configurationScalar fuel bytes = none))
      (scanUnicodeText maximumScalars notes fuel before bytes) := by
  induction fuel generalizing before bytes with
  | zero =>
      cases bytes with
      | nil => exact failsWith_ok before
      | cons first rest => exact failsWith_error ⟨nofun, fun _ => rfl⟩
  | succ fuel ih =>
      cases bytes with
      | nil => exact failsWith_ok before
      | cons first rest =>
          rw [scanUnicodeText, scan, configurationScalar]
          cases decodeScalar (first :: rest) with
          | none => exact failsWith_error ⟨nofun, fun _ => rfl⟩
          | some scalar =>
              rw [orFail_some, ok_bind]
              refine failsWith_bind (failsWith_require ⟨by rintro ⟨⟩, by rintro ⟨⟩⟩) fun _ =>
                failsWith_bind (failsWith_require ⟨by rintro ⟨⟩, by rintro ⟨⟩⟩) fun _ =>
                failsWith_bind (failsWith_require ⟨by rintro ⟨⟩, by rintro ⟨⟩⟩) fun _ => ?_
              intro status hstatus
              obtain ⟨hfailed, hrest⟩ := ih status hstatus
              refine ⟨hfailed, fun hinvalid => ?_⟩
              simp only [Option.map_some, Option.bind_eq_bind, Option.bind_some, hrest hinvalid,
                Option.bind_none]

/-- A well-formed text, by its characters. -/
def WellFormed (bytes : Bytes) : Prop := ∃ chars, bytes = encode chars

theorem readsOne_configurationScalar : ReadsOne configurationScalar Char.toNat := by
  intro bytes value width
  rw [configurationScalar, decodeScalar_eq_leading]
  exact readsOne_leading

theorem readsOne_passwordScalar : ReadsOne passwordScalar Char.toNat := by
  intro bytes value width
  rw [passwordScalar_eq_leading]
  exact readsOne_leading

theorem wellFormed_iff {bytes : Bytes} :
    WellFormed bytes ↔ ∃ values, scan configurationScalar bytes.length bytes = some values := by
  constructor
  · rintro ⟨chars, hchars⟩
    exact ⟨chars.map Char.toNat,
      (scan_eq_some_iff readsOne_configurationScalar (Nat.le_refl _)).mpr ⟨chars, hchars, rfl⟩⟩
  · rintro ⟨values, hvalues⟩
    obtain ⟨chars, hchars, _⟩ :=
      (scan_eq_some_iff readsOne_configurationScalar (Nat.le_refl _)).mp hvalues
    exact ⟨chars, hchars⟩

/-- The text rules accept only well-formed texts, and call no other text ill formed. -/
theorem validateUnicodeText_wellFormed {value : Bytes}
    {minimumScalars maximumScalars maximumBytes : ℕ} {notes : Bool} :
    (validateUnicodeText value minimumScalars maximumScalars maximumBytes notes = .success →
      WellFormed value) ∧
    (validateUnicodeText value minimumScalars maximumScalars maximumBytes notes = .invalidUtf8 →
      ¬WellFormed value) := by
  rw [validateUnicodeText, wellFormed_iff]
  split
  · exact ⟨by rintro ⟨⟩, by rintro ⟨⟩⟩
  split
  · rename_i status hstatus
    obtain ⟨hfailed, hrest⟩ := scanUnicodeText_failsWith status hstatus
    refine ⟨fun hsuccess => absurd hsuccess hfailed, fun hinvalid => ?_⟩
    rw [hrest hinvalid]
    rintro ⟨_, ⟨⟩⟩
  · rename_i scanned hscanned
    refine ⟨fun _ => scanUnicodeText_ok hscanned, ?_⟩
    split_ifs <;> rintro ⟨⟩

theorem visibleName_nonempty {name : Bytes} (h : validateVisibleName name = .success) :
    name ≠ [] := by
  rintro rfl
  cases h

/-- The three readers of UTF-8 take exactly the well-formed texts, and take them apart at the
same characters; the name of the access point is the longest beginning of the device name
that ends between two characters and fits. -/
theorem device_names_readable :
    (∀ bytes : Bytes,
      (∀ values, scan configurationScalar bytes.length bytes = some values ↔
        ∃ chars, bytes = encode chars ∧ values = chars.map Char.toNat) ∧
      (∀ values, scan passwordScalar bytes.length bytes = some values ↔
        ∃ chars, bytes = encode chars ∧ values = chars.map Char.toNat) ∧
      (∀ count, validUtf8 bytes = some count ↔
        ∃ values, scan passwordScalar bytes.length bytes = some values ∧ values.length = count) ∧
      (∀ points, codePoints bytes.length bytes = some points ↔
        ∃ chars, bytes = encode chars ∧ points = chars.map String.utf8EncodeChar) ∧
      ∀ minimumScalars maximumScalars maximumBytes notes,
        (validateUnicodeText bytes minimumScalars maximumScalars maximumBytes notes = .success →
          WellFormed bytes) ∧
        (validateUnicodeText bytes minimumScalars maximumScalars maximumBytes notes =
          .invalidUtf8 → ¬WellFormed bytes)) ∧
    (∀ name : Bytes, (∃ ssid, deriveSoftApSsid name = some ssid) ↔ name ≠ [] ∧ WellFormed name) ∧
    (∀ name ssid, deriveSoftApSsid name = some ssid →
      ∃ chars kept, name = encode chars ∧ kept <+: chars ∧ kept ≠ [] ∧ ssid = encode kept ∧
        FitsAccessPoint ssid ∧
        ∀ longer, longer <+: chars → FitsAccessPoint (encode longer) → longer <+: kept) ∧
    ∀ name, validateVisibleName name = .success → ∃ ssid, deriveSoftApSsid name = some ssid := by
  have hpoints {bytes : Bytes} {ssid : Bytes} (h : deriveSoftApSsid bytes = some ssid) :
      WellFormed bytes := by
    rw [deriveSoftApSsid, Option.bind_eq_bind, Option.bind_eq_some_iff] at h
    obtain ⟨points, hpoints, _⟩ := h
    obtain ⟨chars, hchars, _⟩ := codePoints_iff.mp hpoints
    exact ⟨chars, hchars⟩
  have hnamed : ∀ name : Bytes, name ≠ [] → WellFormed name →
      ∃ ssid, deriveSoftApSsid name = some ssid := by
    rintro name hname ⟨chars, rfl⟩
    obtain ⟨kept, _, _, _, _, hderived⟩ := deriveSoftApSsid_encode (mt encode_eq_nil_iff.mpr hname)
    exact ⟨encode kept, hderived⟩
  refine ⟨fun bytes => ⟨fun values => ?_, fun values => ?_, fun count => ?_, fun points => ?_,
    fun _ _ _ _ => validateUnicodeText_wellFormed⟩, fun name => ?_, fun name ssid h => ?_,
    fun name h => ?_⟩
  · exact scan_eq_some_iff readsOne_configurationScalar (Nat.le_refl _)
  · exact scan_eq_some_iff readsOne_passwordScalar (Nat.le_refl _)
  · rw [validUtf8_eq_scan (Nat.le_refl _), Option.map_eq_some_iff]
  · exact codePoints_iff
  · constructor
    · rintro ⟨ssid, h⟩
      refine ⟨?_, hpoints h⟩
      rintro rfl
      cases h
    · rintro ⟨hname, hwell⟩
      exact hnamed name hname hwell
  · obtain ⟨chars, rfl⟩ := hpoints h
    have hchars : chars ≠ [] := by
      rintro rfl
      cases h
    obtain ⟨kept, hbegins, hkept, hfits, hlongest, hderived⟩ := deriveSoftApSsid_encode hchars
    cases h.symm.trans hderived
    exact ⟨chars, kept, rfl, hbegins, hkept, rfl, hfits, hlongest⟩
  · exact hnamed name (visibleName_nonempty h) (validateUnicodeText_wellFormed.1 h)

/-- A name of three characters, one of them of two bytes. -/
theorem short_name_readable : ∃ ssid, deriveSoftApSsid [71, 195, 164, 114] = some ssid :=
  device_names_readable.2.2.2 [71, 195, 164, 114] (by decide +kernel)

end Fermentationsschrank

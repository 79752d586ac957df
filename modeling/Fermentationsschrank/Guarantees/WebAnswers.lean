import Fermentationsschrank.Guarantees.DeviceNames
import Fermentationsschrank.Persistence.CheckpointEncodable
import Fermentationsschrank.Web.WebJsonCodec

/-!
# Answers that fit

A name of 96 bytes grows when it is escaped, but not beyond 128 bytes, as the longest
characters are never escaped.  So the programs and the status always fit into an answer; the
alerts fit when the widths of the messages add up to no more than an answer has.
-/

namespace Fermentationsschrank

open CompactJson Utf8

/-! ## Escaped texts -/

section Escaped

variable {char : Char} {text : Bytes}

theorem encodeChar_high (hchar : 0x80 ≤ char.toNat) :
    ∀ byte ∈ String.utf8EncodeChar char, 0x80 ≤ byte.toNat := by
  have hlength := String.length_utf8EncodeChar char
  generalize hbytes : String.utf8EncodeChar char = bytes at hlength ⊢
  rcases Char.utf8Size_eq char with hsize | hsize | hsize | hsize <;> rw [hsize] at hlength
  · have hless : char.toNat < 0x80 :=
      Nat.lt_succ_of_le (UInt32.le_iff_toNat_le.mp (Char.utf8Size_eq_one_iff.mp hsize))
    exact absurd hchar (Nat.not_le.mpr hless)
  · obtain ⟨-, hhigh⟩ := Char.utf8Size_eq_two_iff.mp hsize
    have hhigh : char.toNat < 0x800 := Nat.lt_succ_of_le (UInt32.le_iff_toNat_le.mp hhigh)
    obtain ⟨first, second, rfl⟩ := List.length_eq_two.mp hlength
    obtain ⟨hfirst, hsecond⟩ := (encodeChar_two_iff hchar hhigh).mp hbytes.symm
    simp only [List.forall_mem_cons, List.not_mem_nil, false_imp_iff, implies_true, and_true]
    omega
  · obtain ⟨hlow, hhigh⟩ := Char.utf8Size_eq_three_iff.mp hsize
    have hlow : 0x800 ≤ char.toNat := UInt32.lt_iff_toNat_lt.mp hlow
    have hhigh : char.toNat < 0x10000 := Nat.lt_succ_of_le (UInt32.le_iff_toNat_le.mp hhigh)
    obtain ⟨first, second, third, rfl⟩ := List.length_eq_three.mp hlength
    obtain ⟨hfirst, hsecond, hthird⟩ := (encodeChar_three_iff hlow hhigh).mp hbytes.symm
    simp only [List.forall_mem_cons, List.not_mem_nil, false_imp_iff, implies_true, and_true]
    omega
  · have hlow : 0x10000 ≤ char.toNat :=
      UInt32.lt_iff_toNat_lt.mp (Char.utf8Size_eq_four_iff.mp hsize)
    obtain ⟨first, second, third, fourth, rfl⟩ := List.length_eq_four.mp hlength
    obtain ⟨hfirst, hsecond, hthird, hfourth⟩ := (encodeChar_four_iff hlow).mp hbytes.symm
    simp only [List.forall_mem_cons, List.not_mem_nil, false_imp_iff, implies_true, and_true]
    omega

/-- A character weighs two thirds of its bytes and four thirds for itself: an escaped quote as
much as a character of four bytes. -/
theorem length_escaped_encodeChar (hcontrol : 0x20 ≤ char.toNat) :
    3 * (escaped (String.utf8EncodeChar char)).length ≤ 2 * char.utf8Size + 4 := by
  have hlength := String.length_utf8EncodeChar char
  have hsize := Char.utf8Size_le_four char
  by_cases hchar : char.toNat < 0x80
  · have hencode : [UInt8.ofNat char.toNat] = String.utf8EncodeChar char := by
      rw [encodeChar_one_iff hchar, UInt8.toNat_ofNat', Nat.mod_eq_of_lt (by omega)]
    have hprintable : ¬UInt8.ofNat char.toNat < 32 := by
      rw [UInt8.lt_iff_toNat_lt, UInt8.toNat_ofNat', Nat.mod_eq_of_lt (by omega)]
      exact Nat.not_lt.mpr hcontrol
    have hescaped := length_escapeByte_of_printable hprintable
    rw [← hencode, List.length_singleton] at hlength
    rw [← hencode, escaped, List.flatMap_singleton]
    omega
  · have hplain : ∀ byte ∈ String.utf8EncodeChar char, Plain byte := by
      intro byte hmem
      have hhigh := encodeChar_high (Nat.not_lt.mp hchar) byte hmem
      refine ⟨by omega, ?_, ?_⟩
      · rintro rfl
        exact absurd hhigh (by decide)
      · rintro rfl
        exact absurd hhigh (by decide)
    rw [escaped_of_plain hplain, hlength]
    omega

theorem length_escaped_scan {maximumScalars fuel : ℕ} {before after : TextScan}
    (h : scanUnicodeText maximumScalars false fuel before text = .ok after) :
    3 * (escaped text).length + 4 * before.scalarCount ≤ 2 * text.length + 4 * after.scalarCount ∧
      (before.scalarCount ≤ maximumScalars → after.scalarCount ≤ maximumScalars) := by
  induction fuel generalizing before text with
  | zero =>
      cases text with
      | nil =>
          cases h
          exact ⟨le_rfl, id⟩
      | cons first rest => cases h
  | succ fuel ih =>
      cases text with
      | nil =>
          cases h
          exact ⟨le_rfl, id⟩
      | cons first rest =>
          simp only [scanUnicodeText, bind_eq_ok, orFail_eq_ok, require_eq_ok] at h
          obtain ⟨scalar, hscalar, _, hprintable, _, -, _, hcount, h⟩ := h
          have hread : configurationScalar (first :: rest) =
              some (scalar.value.toNat, scalar.width) := by
            rw [configurationScalar, hscalar, Option.map_some]
          obtain ⟨char, later, hbytes, hvalue, hwidth⟩ := readsOne_configurationScalar.mp hread
          have hlength := String.length_utf8EncodeChar char
          have hdrop : (first :: rest).drop scalar.width = later := by
            rw [hbytes, ← hwidth, ← hlength, List.drop_left]
          have hcontrol : 0x20 ≤ char.toNat := by
            rw [hvalue]
            by_contra hless
            have hle : scalar.value ≤ 0x001F :=
              UInt32.le_iff_toNat_le.mpr (Nat.lt_succ_iff.mp (Nat.not_le.mp hless))
            simp [isControl, hle] at hprintable
          have hescaped := length_escaped_encodeChar hcontrol
          rw [hdrop] at h
          obtain ⟨hrest, hmaximum⟩ := ih h
          have htaken : (before.take scalar).scalarCount = before.scalarCount + 1 := rfl
          rw [htaken] at hrest hmaximum
          refine ⟨?_, fun _ => hmaximum (by simpa [htaken] using hcount)⟩
          rw [hbytes, escaped_append, List.length_append, List.length_append, hlength]
          omega

/-- The longest name that is escaped: sixteen characters of four bytes and thirty-two quotes. -/
theorem length_escaped_name (h : validateVisibleName text = .success) :
    (escaped text).length ≤ 128 := by
  rw [validateVisibleName, validateUnicodeText] at h
  split_ifs at h with hbytes
  split at h
  · next status hstatus =>
      rw [h] at hstatus
      exact absurd rfl (scanUnicodeText_failsWith _ hstatus).1
  · next after hscan =>
      obtain ⟨hweight, hcount⟩ := length_escaped_scan hscan
      have hcount := hcount (Nat.zero_le _)
      have hbefore : ({} : TextScan).scalarCount = 0 := rfl
      rw [kMaximumVisibleNameScalars] at hcount
      rw [kMaximumVisibleNameBytes] at hbytes
      omega

theorem length_escaped_cString (text : Bytes) :
    (escaped (cString text)).length ≤ (escaped text).length := by
  conv_rhs => rw [← List.takeWhile_append_dropWhile (p := (· ≠ 0)) (l := text), escaped_append,
    List.length_append]
  exact Nat.le_add_right _ _

theorem plain_of_scanIdentifier {previousHyphen : Bool}
    (h : scanIdentifier previousHyphen text = .success) : ∀ byte ∈ text, Plain byte := by
  induction text generalizing previousHyphen with
  | nil => exact fun byte hmem => by cases hmem
  | cons current rest ih =>
      rw [scanIdentifier] at h
      split_ifs at h with hcharacter hhyphen
      intro byte hmem
      rcases List.mem_cons.mp hmem with rfl | hmem
      · have hallowed : isLowercaseAlphaNumeric byte = true ∨ byte = 45 := by
          by_contra hrefused
          rw [not_or] at hrefused
          exact hcharacter (by simp [hrefused.1, hrefused.2])
        rcases hallowed with hletter | rfl
        · simp only [isLowercaseAlphaNumeric, decide_eq_true_eq, UInt8.le_iff_toNat_le,
            UInt8.toNat_ofNat] at hletter
          refine ⟨by omega, ?_, ?_⟩
          · rintro rfl
            revert hletter
            decide
          · rintro rfl
            revert hletter
            decide
        · exact ⟨by decide, by decide, by decide⟩
      · exact ih h byte hmem

theorem length_escaped_identifier {minimumBytes maximumBytes : ℕ}
    (h : validateLowercaseIdentifier text minimumBytes maximumBytes = .success) :
    (escaped text).length ≤ maximumBytes := by
  have hscan : scanIdentifier false text = .success := by
    rw [validateLowercaseIdentifier] at h
    split at h
    · cases h
    split at h
    · cases h
    split at h
    · assumption
    · exact h
  have hlong : text.length ≤ maximumBytes := by
    by_contra hlong
    rw [validateLowercaseIdentifier, if_pos (Nat.not_le.mp hlong)] at h
    split at h <;> cases h
  rw [escaped_of_plain (plain_of_scanIdentifier hscan)]
  exact hlong

end Escaped

/-! ## Bounded texts -/

section Programs

variable {cJson : CJson} {document : Bytes} {catalog : ProgramCatalog} {program : ProgramDefinition}

theorem serializeBounded_isSome :
    (serializeBounded cJson document).isSome ↔
      0 < document.length ∧ document.length ≤ kMaximumWebApiResponseBodyBytes := by
  rw [serializeBounded]
  constructor
  · intro h
    split at h
    · split at h
      · cases h
      · next hbounds =>
          rw [not_or] at hbounds
          exact ⟨Nat.pos_of_ne_zero hbounds.1, Nat.not_lt.mp hbounds.2⟩
    · cases h
  · rintro ⟨hpos, hle⟩
    have hprints := cJson.prints_of_room document.length
      (kMaximumWebApiResponseBodyBytes + kCJsonPrintSafetyMarginBytes + 1)
      (Nat.add_le_add_right (Nat.add_le_add_right hle _) _)
    rw [if_pos hprints, if_neg (not_or.mpr ⟨hpos.ne', Nat.not_lt.mpr hle⟩)]
    rfl

theorem length_object_pos (entries : List (Bytes × Bytes)) : 0 < (object entries).length := by
  rw [length_object]
  exact Nat.succ_pos _

theorem length_programItem :
    (programItem program).length =
      19 + (escaped (cString program.id)).length + (escaped (cString program.name)).length := by
  have hid : (escaped (literal "id")).length = 2 := by decide
  have hname : (escaped (literal "name")).length = 4 := by decide
  rw [programItem, length_object]
  simp only [addString, List.map_cons, List.map_nil, List.sum_cons, List.sum_nil, length_string,
    List.length_cons, List.length_nil, hid, hname]
  omega

theorem sum_filter_le {Item : Type} (weight : Item → ℕ) (keep : Item → Bool) (items : List Item) :
    ((items.filter keep).map weight).sum ≤ (items.map weight).sum :=
  ((List.filter_sublist).map weight).sum_le_sum fun _ _ => Nat.zero_le _

theorem id_of_position {index : ℕ} {factory : ProgramDocument}
    (hfactory : FactoryProgramCatalog.programs[index]? = some factory)
    (h : validateProgramPosition program index = .success) :
    program.id = factory.program.id := by
  rw [validateProgramPosition, hfactory] at h
  dsimp only at h
  split at h
  · cases h
  · next hid => exact not_not.mp hid

/-- A program with the separator behind it. -/
def programWidth (entry : ProgramDocument) : ℕ := (programItem entry.program).length + 1

theorem programWidth_le {entry : ProgramDocument} (h : ProgramContentsValid entry) :
    programWidth entry ≤ 148 + (escaped (cString entry.program.id)).length := by
  have hname := (length_escaped_cString _).trans (length_escaped_name h.name)
  rw [programWidth, length_programItem]
  omega

theorem programWidth_user {entry : ProgramDocument} (h : ProgramContentsValid entry) :
    programWidth entry ≤ 196 := by
  have hid := (length_escaped_cString _).trans (length_escaped_identifier h.id)
  rw [kMaximumProgramIdBytes] at hid
  exact (programWidth_le h).trans (by omega)

theorem four_first {Item : Type} {items : List Item} (h : 4 ≤ items.length) :
    ∃ first second third fourth rest, items = first :: second :: third :: fourth :: rest := by
  match items, h with
  | first :: second :: third :: fourth :: rest, _ =>
      exact ⟨first, second, third, fourth, rest, rfl⟩

/-- The four identifiers of the factory take 43 bytes together. -/
theorem sum_programWidth (h : validateProgramCatalog catalog = .success) :
    (catalog.programs.map programWidth).sum ≤ 2987 ∧
      catalog.programs.length ≤ kMaximumProgramCount := by
  rw [validateProgramCatalog] at h
  split_ifs at h with hcount
  rw [not_or] at hcount
  have hlength : catalog.programs.length ≤ kMaximumProgramCount := Nat.not_lt.mp hcount.2
  refine ⟨?_, hlength⟩
  have hvalid := valid_of_validateProgramEntries h
  obtain ⟨first, second, third, fourth, users, hprograms⟩ := four_first (Nat.not_lt.mp hcount.1)
  rw [hprograms] at hvalid hlength ⊢
  obtain ⟨hfirst, hfirstValid⟩ := hvalid 0 first rfl
  obtain ⟨hsecond, hsecondValid⟩ := hvalid 1 second rfl
  obtain ⟨hthird, hthirdValid⟩ := hvalid 2 third rfl
  obtain ⟨hfourth, hfourthValid⟩ := hvalid 3 fourth rfl
  have hfirstId : (escaped (cString first.program.id)).length = 11 := by
    rw [id_of_position rfl hfirst]
    decide
  have hsecondId : (escaped (cString second.program.id)).length = 11 := by
    rw [id_of_position rfl hsecond]
    decide
  have hthirdId : (escaped (cString third.program.id)).length = 10 := by
    rw [id_of_position rfl hthird]
    decide
  have hfourthId : (escaped (cString fourth.program.id)).length = 11 := by
    rw [id_of_position rfl hfourth]
    decide
  have husers : (users.map programWidth).sum ≤ users.length * 196 := by
    have hle := List.sum_le_card_nsmul (users.map programWidth) 196 fun width hmem => by
      obtain ⟨entry, hentry, rfl⟩ := List.mem_map.mp hmem
      obtain ⟨position, hposition⟩ := List.mem_iff_getElem?.mp hentry
      exact programWidth_user (hvalid (position + 4) entry hposition).2
    rwa [List.length_map, nsmul_eq_mul, Nat.cast_id] at hle
  have hfirstWidth := programWidth_le hfirstValid
  have hsecondWidth := programWidth_le hsecondValid
  have hthirdWidth := programWidth_le hthirdValid
  have hfourthWidth := programWidth_le hfourthValid
  simp only [List.length_cons, kMaximumProgramCount] at hlength
  simp only [List.map_cons, List.sum_cons]
  omega

theorem programs_fit (cJson : CJson) (catalogRevision : UInt64)
    (h : validateProgramCatalog catalog = .success) :
    (encodeWebApiPrograms cJson catalogRevision catalog).isSome := by
  obtain ⟨hsum, hcount⟩ := sum_programWidth h
  have hselected : ((selectablePrograms catalog).map fun program =>
      (programItem program).length + 1).sum ≤ 2987 := by
    refine (sum_filter_le _ _ _).trans ?_
    rw [List.map_map]
    exact hsum
  have hitems : (((selectablePrograms catalog).map programItem).map List.length).sum +
      (selectablePrograms catalog).length ≤ 2987 := by
    rw [List.map_map]
    rw [List.sum_map_add, List.map_const', List.sum_replicate, nsmul_one,
      Nat.cast_id] at hselected
    exact hselected
  have hversion : (cJson.whole 1).length = 1 := by
    rw [cJson.whole_eq 1 (by decide)]
    rfl
  have hrevision : (escaped (cString (decimal catalogRevision.toNat))).length ≤ 20 := by
    refine (length_escaped_cString _).trans ?_
    rw [escaped_of_plain decimal_plain]
    exact length_decimal_le (by decide)
      (catalogRevision.toNat_lt.trans (by decide))
  have hkeys : (escaped (literal "version")).length = 7 ∧
      (escaped (literal "catalogRevision")).length = 15 ∧
      (escaped (literal "programs")).length = 8 := by decide
  rw [encodeWebApiPrograms, if_neg (Nat.not_lt.mpr hcount), serializeBounded_isSome]
  refine ⟨length_object_pos _, ?_⟩
  rw [length_object]
  simp only [addString, addWhole, List.map_cons, List.map_nil, List.sum_cons, List.sum_nil,
    length_string, length_array, List.length_cons, List.length_nil, List.length_map, hversion,
    hkeys.1, hkeys.2.1, hkeys.2.2, kMaximumWebApiResponseBodyBytes]
  omega

end Programs

/-! ## Alerts -/

section Alerts

variable {cJson : CJson} {messages : List MessageView}

def flagWidth (flag : Bool) : ℕ := if flag then 4 else 5

/-- The bytes of a message in the answer: what all messages share, the digits of its numbers,
its names and its flags. -/
def alertWidth (view : MessageView) : ℕ :=
  110 + (decimal view.message.id.toNat).length + (decimal view.message.revision.toNat).length +
    (literal (messageCodeName view.message.code)).length +
    (literal (messageSeverityName view.message.messageClass)).length +
    flagWidth view.message.active + flagWidth view.message.acknowledged +
    flagWidth view.message.resolved + flagWidth view.decisionRequired +
    flagWidth view.message.acousticMuted

def alertsWidth (messages : List MessageView) : ℕ :=
  25 + (messages.map alertWidth).sum + (messages.length - 1)

theorem length_addBool (key : String) (value : Bool) :
    (addBool key value).2.length = flagWidth value := by
  have hfalse : (literal "false").length = 5 := by decide
  have htrue : (literal "true").length = 4 := by decide
  cases value with
  | false => exact hfalse
  | true => exact htrue

theorem length_messageCode (code : MessageCode) :
    (escaped (cString (literal (messageCodeName code)))).length =
      (literal (messageCodeName code)).length := by
  cases code <;> decide

theorem length_messageSeverity (severity : MessageClass) :
    (escaped (cString (literal (messageSeverityName severity)))).length =
      (literal (messageSeverityName severity)).length := by
  cases severity <;> decide

theorem length_alertItem (view : MessageView) :
    (alertItem cJson view).length = alertWidth view := by
  have hkeys : (escaped (literal "id")).length = 2 ∧ (escaped (literal "code")).length = 4 ∧
      (escaped (literal "severity")).length = 8 ∧ (escaped (literal "active")).length = 6 ∧
      (escaped (literal "acknowledged")).length = 12 ∧
      (escaped (literal "resolved")).length = 8 ∧
      (escaped (literal "decisionRequired")).length = 16 ∧
      (escaped (literal "muted")).length = 5 ∧ (escaped (literal "revision")).length = 8 := by
    decide
  obtain ⟨hid, hcode, hseverity, hactive, hacknowledged, hresolved, hdecision, hmuted,
    hrevision⟩ := hkeys
  have hbool : ∀ key value, (addBool key value).1 = literal key := fun _ _ => rfl
  rw [alertItem, length_object]
  simp only [List.map_cons, List.map_nil, List.sum_cons, List.sum_nil, List.length_cons,
    List.length_nil, length_addBool, hbool, addWhole, addName, addString, length_string,
    cJson.whole_eq _ view.message.id.toNat_lt, cJson.whole_eq _ view.message.revision.toNat_lt,
    length_messageCode, length_messageSeverity, hid, hcode, hseverity, hactive, hacknowledged,
    hresolved, hdecision, hmuted, hrevision, alertWidth]
  omega

/-- The alerts are answered exactly when they fit. -/
theorem alerts_fit_iff (hcount : messages.length ≤ kMaximumWebApiAlertCount) :
    (encodeWebApiAlerts cJson messages).isSome ↔
      alertsWidth messages ≤ kMaximumWebApiResponseBodyBytes := by
  have hversion : (cJson.whole 1).length = 1 := by
    rw [cJson.whole_eq 1 (by decide)]
    rfl
  have hkeys : (escaped (literal "version")).length = 7 ∧
      (escaped (literal "alerts")).length = 6 := by decide
  have hitems : (messages.map (alertItem cJson)).map List.length = messages.map alertWidth := by
    rw [List.map_map]
    exact List.map_congr_left fun view _ => length_alertItem view
  rw [encodeWebApiAlerts, if_neg (Nat.not_lt.mpr hcount), serializeBounded_isSome,
    and_iff_right (length_object_pos _), length_object]
  simp only [addWhole, List.map_cons, List.map_nil, List.sum_cons, List.sum_nil, length_array,
    List.length_cons, List.length_nil, List.length_map, hitems, hversion, hkeys.1, hkeys.2,
    alertsWidth]
  omega

end Alerts

/-! ## Status -/

section Status

variable {cJson : CJson} {key : String} {entry : Bytes × Bytes}

/-- An entry whose key has at most 20 bytes. -/
def ShortEntry (width : ℕ) (entry : Bytes × Bytes) : Prop :=
  (escaped entry.1).length ≤ 20 ∧ entry.2.length ≤ width

/-- Every entry costs its value and 24 bytes. -/
theorem length_object_le {entries : List (Bytes × Bytes)} {widths : List ℕ}
    (h : List.Forall₂ ShortEntry widths entries) :
    (object entries).length ≤ 2 + (widths.map (24 + ·)).sum := by
  have hsum : (entries.map fun entry => (escaped entry.1).length + 3 + entry.2.length).sum +
      entries.length ≤ (widths.map (24 + ·)).sum := by
    induction h with
    | nil => exact le_rfl
    | cons hentry _ ih =>
        simp only [List.map_cons, List.sum_cons, List.length_cons]
        have := hentry.1
        have := hentry.2
        omega
  rw [length_object]
  omega

theorem shortEntry_mono {width wider : ℕ} (h : ShortEntry width entry) (hle : width ≤ wider) :
    ShortEntry wider entry :=
  ⟨h.1, h.2.trans hle⟩

theorem shortEntry_whole (value : ℕ) (hkey : (escaped (literal key)).length ≤ 20) :
    ShortEntry 25 (addWhole cJson key value) :=
  ⟨hkey, cJson.length_whole value⟩

theorem shortEntry_string {text : Bytes} {width : ℕ} (h : (escaped text).length ≤ width)
    (hkey : (escaped (literal key)).length ≤ 20) : ShortEntry (width + 2) (addString key text) := by
  refine ⟨hkey, ?_⟩
  rw [addString, length_string]
  exact Nat.add_le_add_right ((length_escaped_cString text).trans h) 2

theorem shortEntry_null (hkey : (escaped (literal key)).length ≤ 20) :
    ShortEntry 4 (addNull key) :=
  have hnull : (literal "null").length ≤ 4 := by decide
  ⟨hkey, hnull⟩

theorem shortEntry_bool (value : Bool) (hkey : (escaped (literal key)).length ≤ 20) :
    ShortEntry 5 (addBool key value) := by
  refine ⟨hkey, ?_⟩
  rw [length_addBool]
  cases value <;> decide

theorem shortEntry_textOrNull {text : Bytes} {width : ℕ} (h : (escaped text).length ≤ width + 2)
    (hkey : (escaped (literal key)).length ≤ 20) :
    ShortEntry (width + 4) (addTextOrNull key text) := by
  rw [addTextOrNull]
  split
  · exact shortEntry_mono (shortEntry_null hkey) (Nat.le_add_left 4 width)
  · exact shortEntry_string h hkey

theorem addOptionalNumber_short {value : Option Binary64}
    (h : ∀ number ∈ value, number.isFinite = true)
    (hkey : (escaped (literal key)).length ≤ 20) :
    ∃ entry, addOptionalNumber cJson key value = some entry ∧ ShortEntry 25 entry := by
  cases value with
  | none => exact ⟨_, rfl, shortEntry_mono (shortEntry_null hkey) (by decide)⟩
  | some number =>
      refine ⟨(literal key, cJson.number number), ?_, hkey, cJson.length_number number⟩
      rw [addOptionalNumber, addNumber, if_pos (h number rfl)]

theorem addOptionalSeconds_short {value : Option UInt64}
    (h : ∀ seconds ∈ value, seconds ≤ kMaximumJsonSafeInteger)
    (hkey : (escaped (literal key)).length ≤ 20) :
    ∃ entry, addOptionalSeconds cJson key value = some entry ∧ ShortEntry 25 entry := by
  cases value with
  | none => exact ⟨_, rfl, shortEntry_mono (shortEntry_null hkey) (by decide)⟩
  | some seconds =>
      refine ⟨addWhole cJson key seconds.toNat, ?_, shortEntry_whole seconds.toNat hkey⟩
      rw [addOptionalSeconds, if_pos (h seconds rfl)]

/-- The names that the status shows are short. -/
theorem status_names_short :
    (∀ mode, (escaped (literal (homeModeName mode))).length ≤ 22) ∧
      (∀ state, (escaped (literal (processStateName state))).length ≤ 22) ∧
      (∀ mode selectionRequired,
        (escaped (literal (networkModeName mode selectionRequired))).length ≤ 22) ∧
      (∀ kind, (escaped (literal (sourceKindName kind))).length ≤ 22) ∧
      (∀ mode, (escaped (literal (completionModeName mode))).length ≤ 22) ∧
      (∀ kind, (escaped (literal (remainingKindName kind))).length ≤ 22) ∧
      ∀ status, (escaped (literal (networkStateName status))).length ≤ 22 := by
  refine ⟨?_, ?_, ?_, ?_, ?_, ?_, ?_⟩
  · intro mode
    cases mode <;> decide
  · intro state
    cases state <;> decide
  · intro mode selectionRequired
    cases mode <;> cases selectionRequired <;> decide
  · intro kind
    cases kind <;> decide
  · intro mode
    cases mode <;> decide
  · intro kind
    cases kind <;> decide
  · intro status
    cases status <;> decide

/-- What the status can show of a run. -/
structure HomeShown (home : FermentationHomeView) : Prop where
  runId : home.activeRunId.length ≤ kMaximumRunIdBytes
  programName : home.programName.length ≤ kMaximumVisibleNameBytes
  target : ∀ detail ∈ home.runDetail, ∀ celsius ∈ detail.targetCelsius, celsius.isFinite = true
  cooling : ∀ detail ∈ home.runDetail, ∀ completion ∈ detail.completion,
    ∀ celsius ∈ completion.coolingTargetCelsius, celsius.isFinite = true
  elapsed : ∀ detail ∈ home.runDetail, ∀ seconds ∈ detail.time.elapsedSeconds,
    seconds ≤ kMaximumJsonSafeInteger
  remaining : ∀ detail ∈ home.runDetail, ∀ seconds ∈ detail.time.remainingSeconds,
    seconds ≤ kMaximumJsonSafeInteger

variable {home : FermentationHomeView}

theorem completionObject_short {completion : Option RunDetailCompletion}
    (h : ∀ value ∈ completion, ∀ celsius ∈ value.coolingTargetCelsius, celsius.isFinite = true) :
    ∃ text, completionObject cJson completion = some text ∧ text.length ≤ 148 := by
  cases completion with
  | none => exact ⟨literal "null", rfl, by decide⟩
  | some completion =>
      obtain ⟨cooling, hcooling, hcoolingShort⟩ :=
        @addOptionalNumber_short cJson "coolingTargetCelsius" _ (h completion rfl)
          (by decide)
      obtain ⟨-, -, -, -, hmode, -⟩ := status_names_short
      refine ⟨_, by rw [completionObject, hcooling]; rfl, ?_⟩
      refine length_object_le (.cons (shortEntry_string (hmode completion.mode) (by decide))
        (.cons hcoolingShort (.cons (?_ : ShortEntry 25 _) .nil)))
      cases completion.holdDurationMinutes with
      | none => exact shortEntry_mono (shortEntry_null (by decide)) (by decide)
      | some minutes => exact shortEntry_whole minutes.toNat (by decide)

theorem timeObject_short {time : RunDetailTime}
    (helapsed : ∀ seconds ∈ time.elapsedSeconds, seconds ≤ kMaximumJsonSafeInteger)
    (hremaining : ∀ seconds ∈ time.remainingSeconds, seconds ≤ kMaximumJsonSafeInteger) :
    ∃ text, timeObject cJson time = some text ∧ text.length ≤ 196 := by
  obtain ⟨elapsed, helapsedText, helapsedShort⟩ :=
    @addOptionalSeconds_short cJson "elapsedSeconds" _ helapsed (by decide)
  obtain ⟨remaining, hremainingText, hremainingShort⟩ :=
    @addOptionalSeconds_short cJson "remainingSeconds" _ hremaining (by decide)
  obtain ⟨-, -, -, -, -, hkind, -⟩ := status_names_short
  have hscope : (escaped (literal "phase")).length ≤ 22 := by decide
  refine ⟨_, by rw [timeObject, helapsedText, hremainingText]; rfl, ?_⟩
  exact length_object_le (.cons (shortEntry_string hscope (by decide))
    (.cons helapsedShort (.cons hremainingShort
      (.cons (shortEntry_string (hkind time.remainingKind) (by decide)) .nil))))

theorem runObject_short (h : HomeShown home) :
    ∃ text, runObject cJson home = some text ∧ text.length ≤ 1411 := by
  rw [runObject]
  cases hdetail : home.runDetail with
  | none => exact ⟨literal "null", rfl, by decide⟩
  | some detail =>
      obtain ⟨target, htarget, htargetShort⟩ :=
        @addOptionalNumber_short cJson "targetCelsius" _ (h.target detail hdetail)
          (by decide)
      obtain ⟨completion, hcompletion, hcompletionShort⟩ :=
        @completionObject_short cJson _ (h.cooling detail hdetail)
      obtain ⟨time, htime, htimeShort⟩ :=
        @timeObject_short cJson _ (h.elapsed detail hdetail) (h.remaining detail hdetail)
      obtain ⟨-, -, -, hkind, -⟩ := status_names_short
      have hrunId : (escaped home.activeRunId).length ≤ 286 + 2 :=
        (length_escaped_le _).trans (Nat.mul_le_mul_left 6 h.runId)
      have hname : (escaped home.programName).length ≤ 574 + 2 :=
        (length_escaped_le _).trans (Nat.mul_le_mul_left 6 h.programName)
      have hid : ShortEntry 290 (addTextOrNull "id" home.activeRunId) :=
        shortEntry_textOrNull hrunId (by decide)
      have hprogram : ShortEntry 578 (addTextOrNull "programName" home.programName) :=
        shortEntry_textOrNull hname (by decide)
      have hkeys : (escaped (literal "completion")).length ≤ 20 ∧
          (escaped (literal "time")).length ≤ 20 := by decide
      have hend : ShortEntry 148 (literal "completion", completion) :=
        ⟨hkeys.1, hcompletionShort⟩
      have hclock : ShortEntry 196 (literal "time", time) := ⟨hkeys.2, htimeShort⟩
      refine ⟨_, by dsimp only; rw [htarget, hcompletion, htime]; rfl, ?_⟩
      refine (length_object_le (.cons hid (.cons (?_ : ShortEntry 24 _) (.cons hprogram
        (.cons htargetShort (.cons hend (.cons hclock .nil))))))).trans (by decide)
      cases detail.sourceKind with
      | none => exact shortEntry_mono (shortEntry_null (by decide)) (by decide)
      | some kind => exact shortEntry_string (hkind kind) (by decide)

theorem addRevision_short {revision : Option UInt32}
    (hkey : (escaped (literal key)).length ≤ 20) :
    ∃ widths : List ℕ, (widths.map (24 + ·)).sum ≤ 49 ∧
      List.Forall₂ ShortEntry widths (addRevision cJson key revision) := by
  cases revision with
  | none => exact ⟨[], by decide, .nil⟩
  | some value => exact ⟨[25], by decide, .cons (shortEntry_whole value.toNat hkey) .nil⟩

theorem addLongRevision_short {revision : Option UInt64}
    (hkey : (escaped (literal key)).length ≤ 20) :
    ∃ widths : List ℕ, (widths.map (24 + ·)).sum ≤ 49 ∧
      List.Forall₂ ShortEntry widths (addLongRevision key revision) := by
  cases revision with
  | none => exact ⟨[], by decide, .nil⟩
  | some value =>
      have hdigits : (escaped (decimal value.toNat)).length ≤ 20 := by
        rw [escaped_of_plain decimal_plain]
        exact length_decimal_le (by decide) (value.toNat_lt.trans (by decide))
      exact ⟨[22], by decide, .cons (shortEntry_string hdigits hkey) .nil⟩

theorem revisionsObject_short (revisions : FermentationUiExpectedRevisions) :
    (revisionsObject cJson revisions).length ≤ 345 := by
  have hsequence : ShortEntry 25
      (addWhole cJson "stateSequence" revisions.expectedStateSequence.toNat) :=
    shortEntry_whole _ (by decide)
  obtain ⟨run, hrun, hrunShort⟩ := @addRevision_short cJson "run"
    revisions.expectedRunRevision (by decide)
  obtain ⟨message, hmessage, hmessageShort⟩ := @addRevision_short cJson "messages"
    revisions.expectedMessageRevision (by decide)
  obtain ⟨fault, hfault, hfaultShort⟩ := @addRevision_short cJson "fault"
    revisions.expectedFaultRevision (by decide)
  obtain ⟨episode, hepisode, hepisodeShort⟩ := @addRevision_short cJson "recoveryEpisode"
    revisions.expectedRecoveryEpisodeRevision (by decide)
  obtain ⟨user, huser, huserShort⟩ := @addLongRevision_short "userConfiguration"
    revisions.expectedUserConfigurationRevision (by decide)
  obtain ⟨catalog, hcatalog, hcatalogShort⟩ := @addLongRevision_short "programCatalog"
    revisions.expectedProgramCatalogRevision (by decide)
  have hentries := List.rel_append (List.rel_append (List.rel_append (List.rel_append
    (List.rel_append hrunShort hmessageShort) hfaultShort) hepisodeShort) huserShort)
    hcatalogShort
  refine (length_object_le (.cons hsequence hentries)).trans ?_
  simp only [List.map_cons, List.map_append, List.sum_cons, List.sum_append]
  omega

variable {device : FermentationDeviceInfoView}

theorem padded_plain {width value : ℕ} : ∀ byte ∈ padded width value, Plain byte := by
  intro byte hmem
  rcases List.mem_append.mp hmem with hzero | hdigit
  · rw [List.eq_of_mem_replicate hzero]
    exact ⟨by decide, by decide, by decide⟩
  · exact decimal_plain byte hdigit

theorem clockText_short {time : LocalTime} {text : Bytes} (h : clockText time = some text) :
    (escaped text).length ≤ 16 := by
  simp only [clockText] at h
  split_ifs at h with hlength
  cases h
  rw [escaped_of_plain, hlength]
  simp only [List.forall_mem_append, List.forall_mem_singleton]
  have hhyphen : Plain 45 := ⟨by decide, by decide, by decide⟩
  have hspace : Plain 32 := ⟨by decide, by decide, by decide⟩
  have hcolon : Plain 58 := ⟨by decide, by decide, by decide⟩
  exact ⟨⟨⟨⟨⟨⟨⟨⟨padded_plain, hhyphen⟩, padded_plain⟩, hhyphen⟩, padded_plain⟩, hspace⟩,
    padded_plain⟩, hcolon⟩, padded_plain⟩

theorem clockObject_short (hzone : device.timeZoneId ∈ kSupportedTimeZones) :
    (clockObject device).length ≤ 88 := by
  have hnull : (literal "null").length ≤ 88 := by decide
  have hescapedZone : (escaped device.timeZoneId).length ≤ 16 := by
    rw [List.mem_singleton.mp hzone]
    decide
  rw [clockObject]
  split
  · exact hnull
  split
  · exact hnull
  split
  · exact hnull
  · next text htext =>
      have hlocal : ShortEntry 18 (addString "local" text) :=
        shortEntry_string (clockText_short htext) (by decide)
      have hzone : ShortEntry 18 (addString "zone" device.timeZoneId) :=
        shortEntry_string hescapedZone (by decide)
      exact (length_object_le (.cons hlocal (.cons hzone .nil))).trans (by decide)

/-- The status of a device whose texts are valid. -/
theorem status_fits {snapshot : StatusSnapshot} (hhome : HomeShown snapshot.home)
    (hname : ∀ name ∈ device.deviceName, validateVisibleName name = .success)
    (hzone : device.timeZoneId ∈ kSupportedTimeZones) :
    (encodeWebApiStatus cJson snapshot device).isSome := by
  obtain ⟨run, hrun, hrunLength⟩ := @runObject_short cJson _ hhome
  obtain ⟨hmode, hstate, hnetwork, -, -, -, hconnection⟩ := status_names_short
  have hkeys : (escaped (literal "revisions")).length ≤ 20 ∧
      (escaped (literal "run")).length ≤ 20 ∧ (escaped (literal "clock")).length ≤ 20 := by
    decide
  have hversion : ShortEntry 25 (addWhole cJson "version" 1) :=
    shortEntry_whole 1 (by decide)
  have hready : ShortEntry 5 (addBool "ready" snapshot.ready) :=
    shortEntry_bool _ (by decide)
  have hmode : ShortEntry 24 (addName "homeMode" (homeModeName snapshot.home.mode)) :=
    shortEntry_string (hmode _) (by decide)
  have hstate : ShortEntry 24
      (addName "processState" (processStateName snapshot.home.processState)) :=
    shortEntry_string (hstate _) (by decide)
  have hnetwork : ShortEntry 24
      (addName "networkMode" (networkModeName snapshot.networkMode snapshot.selectionRequired)) :=
    shortEntry_string (hnetwork _ _) (by decide)
  have hselection : ShortEntry 5 (addBool "selectionRequired" snapshot.selectionRequired) :=
    shortEntry_bool _ (by decide)
  have hrevisions : ShortEntry 345
      (literal "revisions", revisionsObject cJson snapshot.revisions) :=
    ⟨hkeys.1, revisionsObject_short snapshot.revisions⟩
  have hrun' : ShortEntry 1411 (literal "run", run) := ⟨hkeys.2.1, hrunLength⟩
  have hconnection : ShortEntry 24
      (addName "networkState" (networkStateName device.connection)) :=
    shortEntry_string (hconnection _) (by decide)
  have hclock : ShortEntry 88 (literal "clock", clockObject device) :=
    ⟨hkeys.2.2, clockObject_short hzone⟩
  rw [encodeWebApiStatus, hrun]
  refine serializeBounded_isSome.mpr ⟨length_object_pos _, ?_⟩
  refine (length_object_le (.cons hversion (.cons hready (.cons hmode (.cons hstate
    (.cons hnetwork (.cons hselection (.cons hrevisions (.cons hrun'
      (.cons (?_ : ShortEntry 130 _) (.cons hconnection
        (.cons hclock .nil)))))))))))).trans (by decide)
  cases hcase : device.deviceName with
  | none => exact shortEntry_mono (shortEntry_null (by decide)) (by decide)
  | some name => exact shortEntry_string (length_escaped_name (hname name hcase)) (by decide)

end Status

/-! ## What the program accepts -/

section Accepted

variable {cJson : CJson} {state : RunCommandState} {catalog : ProgramCatalog}
variable {source : ProgramRunSource}

/-- A run that cools has a cooling target within its limits. -/
theorem projectCompletion_finite (h : validSource source = true) :
    ∀ celsius ∈ (projectCompletion (sourceCompletion source)).coolingTargetCelsius,
      celsius.isFinite = true := by
  have hcooling : ∀ celsius ∈ (sourceCompletion source).coolingTargetCelsius,
      celsius.isFinite = true := by
    cases source with
    | stored document => exact (isFinite_of_validateProgram h).2.2
    | manualTimed manual => exact (isFinite_of_validateManualTimedRunSource h).2.2
  rw [projectCompletion]
  split
  · exact hcooling
  · nofun

theorem projectTarget_finite (state : RunCommandState) :
    ∀ celsius ∈ projectTarget state, celsius.isFinite = true := by
  intro celsius hmem
  simp only [projectTarget, Option.mem_def] at hmem
  split_ifs at hmem with htarget
  cases hmem
  rw [Bool.and_eq_true] at htarget
  exact htarget.2

theorem phaseElapsedSeconds_le {now : Option UInt64} :
    ∀ seconds ∈ phaseElapsedSeconds state now, seconds ≤ kMaximumJsonSafeInteger := by
  intro seconds hmem
  simp only [phaseElapsedSeconds, Option.mem_def, Option.bind_eq_bind,
    Option.bind_eq_some_iff] at hmem
  obtain ⟨now, -, hmem⟩ := hmem
  split_ifs at hmem
  simp only [Option.bind_eq_some_iff] at hmem
  obtain ⟨prior, -, hmem⟩ := hmem
  split_ifs at hmem with hlarge
  cases hmem
  exact UInt64.not_lt.mp hlarge

theorem minutes_le (minutes : UInt32) : minutes.toUInt64 * 60 ≤ kMaximumJsonSafeInteger := by
  have hminutes := minutes.toNat_lt
  have hseconds : (60 : UInt64).toNat = 60 := rfl
  have hlimit : kMaximumJsonSafeInteger.toNat = 9007199254740991 := rfl
  rw [UInt64.le_iff_toNat_le, UInt64.toNat_mul, UInt32.toNat_toUInt64, hseconds,
    Nat.mod_eq_of_lt (by omega)]
  omega

/-- What is left of a phase is at most its duration, which is a number of minutes. -/
theorem projectRunTime_le (state : RunCommandState) (now : Option UInt64) :
    (∀ seconds ∈ (projectRunTime state now).elapsedSeconds,
      seconds ≤ kMaximumJsonSafeInteger) ∧
    ∀ seconds ∈ (projectRunTime state now).remainingSeconds,
      seconds ≤ kMaximumJsonSafeInteger := by
  have helapsed := @phaseElapsedSeconds_le state now
  simp only [projectRunTime]
  split
  · exact ⟨nofun, nofun⟩
  split
  · exact ⟨helapsed, nofun⟩
  split
  · next durationMinutes elapsed _ hsome =>
      refine ⟨helapsed, ?_⟩
      rintro seconds ⟨⟩
      have htotal := UInt64.le_iff_toNat_le.mp (minutes_le durationMinutes)
      split
      · next hless =>
          rw [UInt64.le_iff_toNat_le, UInt64.toNat_sub_of_le _ _ (UInt64.le_of_lt hless)]
          exact (Nat.sub_le _ _).trans htotal
      · decide
  · exact ⟨helapsed, nofun⟩

/-- A run as the start, the restore and the checkpoint let it through. -/
structure FrozenRunValid (state : RunCommandState) : Prop where
  runId : state.activeRunId.length ≤ kMaximumRunIdBytes
  source : ∀ run ∈ state.activeProgramRun, validSource run.snapshot.source = true
  name : ∀ run ∈ state.activeProgramRun,
    (sourceName run.snapshot.source).length ≤ kMaximumVisibleNameBytes

theorem homeShown (h : FrozenRunValid state) (mode : FermentationHomeMode)
    (now : Option UInt64) : HomeShown (projectHome mode state now) := by
  obtain ⟨helapsed, hremaining⟩ := projectRunTime_le state now
  rw [projectHome, projectRunDetail]
  cases hprogram : state.activeProgramRun with
  | some run =>
      exact {
        runId := h.runId
        programName := h.name run hprogram
        target := by
          rintro detail ⟨⟩
          exact projectTarget_finite state
        cooling := by
          rintro detail ⟨⟩ completion ⟨⟩
          exact projectCompletion_finite (h.source run hprogram)
        elapsed := by
          rintro detail ⟨⟩
          exact helapsed
        remaining := by
          rintro detail ⟨⟩
          exact hremaining }
  | none =>
      cases state.activeManualRun with
      | none =>
          exact {
            runId := h.runId
            programName := Nat.zero_le _
            target := by
              rintro detail ⟨⟩
            cooling := by
              rintro detail ⟨⟩
            elapsed := by
              rintro detail ⟨⟩
            remaining := by
              rintro detail ⟨⟩ }
      | some plan =>
          exact {
            runId := h.runId
            programName := Nat.zero_le _
            target := by
              rintro detail ⟨⟩
              exact projectTarget_finite state
            cooling := by
              rintro detail ⟨⟩ completion hmem
              cases hmem
            elapsed := by
              rintro detail ⟨⟩
              exact helapsed
            remaining := by
              rintro detail ⟨⟩
              exact hremaining }

end Accepted

/-! ## Answers -/

/-- Sixteen alerts fit as long as their numbers have few digits.  The programs and the status
fit in every state. -/
theorem answers_succeed_iff (cJson : CJson) {catalog : ProgramCatalog}
    (hcatalog : validateProgramCatalog catalog = .success) (catalogRevision : UInt64)
    {state : RunCommandState} {messages : List MessageView}
    (hmessages : messages.map (·.message) = state.messages)
    (hcount : state.messages.length ≤ kMaximumRuntimeMessages) (hrun : FrozenRunValid state)
    {configuration : UserConfiguration} {prepare : Bytes → TimeZonePrepareResult}
    (hconfiguration : validateUserConfiguration configuration prepare = .success)
    {snapshot : StatusSnapshot} {mode : FermentationHomeMode} {now : Option UInt64}
    (hhome : snapshot.home = projectHome mode state now)
    {device : FermentationDeviceInfoView}
    (hname : ∀ name ∈ device.deviceName, name = configuration.deviceName)
    (hzone : device.timeZoneId = configuration.timeZoneId) :
    ((encodeWebApiPrograms cJson catalogRevision catalog).isSome ∧
        (encodeWebApiAlerts cJson messages).isSome ∧
        (encodeWebApiStatus cJson snapshot device).isSome) ↔
      alertsWidth messages ≤ kMaximumWebApiResponseBodyBytes := by
  have hlength : messages.length ≤ kMaximumWebApiAlertCount := by
    rw [← List.length_map (f := (·.message)), hmessages]
    exact hcount
  obtain ⟨hknown, hvisible⟩ := validateUserConfiguration_texts hconfiguration
  have hstatus : (encodeWebApiStatus cJson snapshot device).isSome := by
    apply status_fits
    · rw [hhome]
      exact homeShown hrun mode now
    · rintro name hmem
      rw [hname name hmem]
      exact hvisible
    · rw [hzone]
      exact hknown
  rw [alerts_fit_iff hlength]
  constructor
  · exact fun ⟨_, hfits, _⟩ => hfits
  · exact fun hfits => ⟨programs_fit cJson catalogRevision hcatalog, hfits, hstatus⟩

/-- A printer that writes whole numbers in decimal as far as a number has them exactly. -/
def CJson.decimals : CJson where
  whole value := if value < 10 ^ 15 then decimal value else literal "1e+15"
  number _ := literal "null"
  prints length buffer := length + kCJsonPrintSafetyMarginBytes + 1 ≤ buffer
  whole_eq value h := if_pos (h.trans (by decide))
  length_whole value := by
    split
    · next hsmall => exact (length_decimal_le (by decide) hsmall).trans (by decide)
    · decide
  length_number _ := by decide
  prints_of_room length buffer h := by simpa using h

/-- A message whose numbers have ten digits and whose flags are all false. -/
def longestMessage : MessageView where
  message := {
    id := 4294967295
    code := .productInsertionRequested
    messageClass := .decisionRequired
    priority := 0
    active := false
    acknowledged := false
    resolved := false
    acousticMuted := false
    revision := 4294967295 }
  decisionRequired := false

theorem longestMessages_refused :
    ((List.replicate 16 longestMessage).map (·.message)).length ≤ kMaximumRuntimeMessages ∧
      encodeWebApiAlerts CJson.decimals (List.replicate 16 longestMessage) = none := by
  refine ⟨by decide, ?_⟩
  rw [← Option.not_isSome_iff_eq_none, alerts_fit_iff (by decide)]
  decide

/-- A run of a user, with one message of it. -/
def manualRunState : RunCommandState where
  activeProgramRun := some {
    snapshot := ⟨.manualTimed {
      preheatEnabled := false
      stage := ⟨some (.ofBits 0x4044000000000000), some 60⟩
      targetQualification := ⟨some (.ofBits 0x3FE0000000000000), some 1⟩
      maximumTargetReachMinutes := some 60
      maximumProductWaitMinutes := none
      completion := {} }, .manualTimed, none⟩
    effectiveValues := ⟨.ofBits 0x4044000000000000, 60⟩
    revisions := []
    monotonicEpoch := 0 }
  activeRunId := literal "run-1"
  messages := [longestMessage.message]

theorem manualRunState_valid : FrozenRunValid manualRunState where
  runId := by decide
  source := by
    rintro run ⟨⟩
    decide
  name := by
    rintro run ⟨⟩
    exact Nat.zero_le _

def swissConfiguration : UserConfiguration where
  displayLanguageId := literal "de"
  timeZoneId := literal "Europe/Zurich"
  deviceName := literal "Fermenter"
  activeThemeId := literal "manuengineer-dark"

theorem answers_succeed_manualRun :
    (encodeWebApiPrograms CJson.decimals 1 makeFactoryProgramCatalog).isSome ∧
      (encodeWebApiAlerts CJson.decimals [longestMessage]).isSome ∧
      (encodeWebApiStatus CJson.decimals
        { home := projectHome .activeRun manualRunState (some 0) }
        { deviceName := some swissConfiguration.deviceName
          timeZoneId := swissConfiguration.timeZoneId }).isSome :=
  (@answers_succeed_iff CJson.decimals makeFactoryProgramCatalog (by decide) 1
    manualRunState [longestMessage] rfl (by decide) manualRunState_valid swissConfiguration
    (fun identifier => ⟨.success, some identifier⟩) (by decide)
    { home := projectHome .activeRun manualRunState (some 0) } .activeRun (some 0) rfl
    { deviceName := some swissConfiguration.deviceName
      timeZoneId := swissConfiguration.timeZoneId }
    (by rintro name ⟨⟩; rfl) rfl).mpr (by decide)

end Fermentationsschrank

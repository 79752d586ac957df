import Fermentationsschrank.Configuration.ServiceConfigurationCodec

/-!
# Commissioning over many lines

Whatever lines are typed, the stored record stays absent or valid, so the service configuration
can always be written.  The numbers of a line are read without overflow, and a command that is
not rejected has exactly the fields of its kind.
-/

namespace Fermentationsschrank.SensorCommissioning

/-! ## Numbers of a line -/

section Numbers

variable {digits text : Bytes} {c : Byte}

def hexValue (digits : Bytes) (value : ℕ) : Prop :=
  ∃ found : List UInt64, digits.mapM hexDigit = some found ∧
    value = found.foldl (fun total digit => 16 * total + digit.toNat) 0

/-- The number that decimal digits spell. -/
def decimalValue (digits : Bytes) : ℕ :=
  digits.foldl (fun total digit => 10 * total + (digit.toNat - 48)) 0

theorem hexDigit_lt {digit : UInt64} (h : hexDigit c = some digit) : digit.toNat < 16 := by
  simp only [hexDigit, UInt8.le_iff_toNat_le] at h
  split_ifs at h with hdecimal hlower hupper
  all_goals
    cases h
    simp only [UInt8.toNat_toUInt64, UInt8.toNat_add, UInt8.toNat_sub, UInt8.toNat_ofNat] at *
    omega

theorem toNat_shift_or {value digit : UInt64} (hvalue : value.toNat < 2 ^ 60)
    (hdigit : digit.toNat < 16) :
    (value <<< 4 ||| digit).toNat = 16 * value.toNat + digit.toNat := by
  have hshift : (value <<< 4).toNat = 16 * value.toNat := by
    rw [UInt64.toNat_shiftLeft]
    have hfour : (4 : UInt64).toNat % 64 = 4 := rfl
    rw [hfour, Nat.shiftLeft_eq, Nat.mod_eq_of_lt (by omega)]
    omega
  rw [UInt64.toNat_or, hshift]
  have hor := Nat.two_pow_add_eq_or_of_lt (show digit.toNat < 2 ^ 4 by omega) value.toNat
  rw [← hor]

/-- The loop over hexadecimal digits computes their number as long as it fits. -/
theorem readHex_eq_some {value found : UInt64} (h : readHex value text = some found)
    (hroom : (value.toNat + 1) * 16 ^ text.length ≤ 2 ^ 64) :
    ∃ digits : List UInt64, text.mapM hexDigit = some digits ∧
      found.toNat = digits.foldl (fun total digit => 16 * total + digit.toNat) value.toNat := by
  induction text generalizing value with
  | nil =>
      cases h
      exact ⟨[], rfl, rfl⟩
  | cons c text ih =>
      rw [readHex] at h
      cases hdigit : hexDigit c with
      | none =>
          rw [hdigit] at h
          cases h
      | some digit =>
          rw [hdigit] at h
          have hless := hexDigit_lt hdigit
          have hpower : (value.toNat + 1) * 16 ^ (text.length + 1) =
              16 * (value.toNat + 1) * 16 ^ text.length := by ring
          rw [List.length_cons, hpower] at hroom
          have hone : 1 ≤ 16 ^ text.length := Nat.one_le_pow _ _ (by decide)
          have hvalue : 16 * (value.toNat + 1) ≤ 2 ^ 64 :=
            (Nat.le_mul_of_pos_right _ hone).trans hroom
          have hnext := toNat_shift_or (show value.toNat < 2 ^ 60 by omega) hless
          obtain ⟨digits, hdigits, hfound⟩ := ih h (by
            rw [hnext]
            refine le_trans (Nat.mul_le_mul_right _ ?_) hroom
            omega)
          refine ⟨digit :: digits, ?_, ?_⟩
          · rw [List.mapM_cons, hdigit, hdigits]
            rfl
          · rw [hfound, hnext, List.foldl_cons]

theorem parseRomHex_eq_some {rom : OneWireRom} (h : parseRomHex text = some rom) :
    text.length = 16 ∧ rom ≠ 0 ∧ hexValue text rom.toNat := by
  rw [parseRomHex] at h
  split_ifs at h with hlength
  rw [Option.filter_eq_some_iff] at h
  obtain ⟨hread, hzero⟩ := h
  have hlength := not_not.mp hlength
  obtain ⟨digits, hdigits, hvalue⟩ := readHex_eq_some hread (by rw [hlength]; decide)
  exact ⟨hlength, of_decide_eq_true hzero, digits, hdigits, hvalue⟩

theorem decimal_step {value : Int32} {total : ℕ} (hvalue : value.toInt = total)
    (hroom : 10 * total + 10 ≤ 2 ^ 31) (hc : ¬(c < 48 ∨ 57 < c)) :
    (value * 10 + (c - 48).toUInt32.toInt32).toInt = ↑(10 * total + (c.toNat - 48)) := by
  rw [not_or, UInt8.not_lt, UInt8.not_lt, UInt8.le_iff_toNat_le, UInt8.le_iff_toNat_le] at hc
  have hlow : 48 ≤ c.toNat := hc.1
  have hhigh : c.toNat ≤ 57 := hc.2
  have hbyte : (c - 48).toNat = c.toNat - 48 :=
    UInt8.toNat_sub_of_le _ _ (UInt8.le_iff_toNat_le.mpr hlow)
  have hdigit : (c - 48).toUInt32.toInt32.toInt = ↑(c.toNat - 48) := by
    have hnat : (c - 48).toUInt32.toBitVec.toNat = c.toNat - 48 := by
      rw [UInt32.toNat_toBitVec, UInt8.toNat_toUInt32, hbyte]
    rw [Int32.toInt, UInt32.toBitVec_toInt32, BitVec.toInt_eq_toNat_of_lt, hnat]
    omega
  have hten : (10 : Int32).toInt = 10 := rfl
  rw [Int32.toInt_add, Int32.toInt_mul, hdigit, hvalue, hten,
    Int.bmod_eq_of_le (n := (total : ℤ) * 10), Int.bmod_eq_of_le] <;> omega

/-- The loop over decimal digits computes their number as long as it fits. -/
theorem readDecimal_eq_some {value found : Int32} {total : ℕ} (hvalue : value.toInt = total)
    (h : readDecimal value text = some found) (hroom : (total + 1) * 10 ^ text.length ≤ 2 ^ 31) :
    (∀ c ∈ text, ¬(c < 48 ∨ 57 < c)) ∧
      found.toInt = ↑(text.foldl (fun total digit => 10 * total + (digit.toNat - 48)) total) := by
  induction text generalizing value total with
  | nil =>
      cases h
      exact ⟨by simp, hvalue⟩
  | cons c text ih =>
      rw [readDecimal] at h
      split_ifs at h with hc
      have hpower : (total + 1) * 10 ^ (text.length + 1) =
          10 * (total + 1) * 10 ^ text.length := by ring
      rw [List.length_cons, hpower] at hroom
      have hone : 1 ≤ 10 ^ text.length := Nat.one_le_pow _ _ (by decide)
      have htotal : 10 * (total + 1) ≤ 2 ^ 31 :=
        (Nat.le_mul_of_pos_right _ hone).trans hroom
      have hstep := decimal_step hvalue (by omega) hc
      have hdigit : c.toNat - 48 ≤ 9 := by
        rw [not_or, UInt8.not_lt, UInt8.not_lt, UInt8.le_iff_toNat_le, UInt8.le_iff_toNat_le] at hc
        have hhigh : c.toNat ≤ 57 := hc.2
        omega
      obtain ⟨hrest, hfound⟩ := ih hstep h (by
        refine le_trans (Nat.mul_le_mul_right _ ?_) hroom
        omega)
      refine ⟨?_, ?_⟩
      · intro digit hmem
        rcases List.mem_cons.mp hmem with rfl | hmem
        · exact hc
        · exact hrest digit hmem
      · rw [hfound, List.foldl_cons]

/-- The number that a sign and decimal digits spell. -/
def integerValue : Bytes → ℤ
  | 45 :: digits => -decimalValue digits
  | 43 :: digits => decimalValue digits
  | digits => decimalValue digits

theorem readDecimal_short {value : Int32} (hlength : text.length ≤ 7)
    (h : readDecimal 0 text = some value) : value.toInt = decimalValue text := by
  have hpower : 10 ^ text.length ≤ 10 ^ 7 := Nat.pow_le_pow_right (by decide) hlength
  have hstart : (0 : Int32).toInt = (0 : ℕ) := rfl
  obtain ⟨-, hvalue⟩ := readDecimal_eq_some hstart h (by
    rw [Nat.zero_add, Nat.one_mul]
    exact hpower.trans (by decide))
  exact hvalue

theorem negate_toInt {value : Int32} (h : 0 ≤ value.toInt) : (-value).toInt = -value.toInt := by
  have hhigh := value.toInt_lt
  rw [Int32.toInt_neg, Int.bmod_eq_of_le] <;> omega

theorem parseInt32_eq_some {value : Int32} (h : parseInt32 text = some value) :
    text.length ≤ 7 ∧ value.toInt = integerValue text := by
  unfold parseInt32 at h
  rw [Option.ite_none_left_eq_some] at h
  obtain ⟨hlength, h⟩ := h
  rw [not_or, Nat.not_lt] at hlength
  refine ⟨hlength.2, ?_⟩
  have hrest : ∀ (c : Byte) digits, text = c :: digits → digits.length ≤ 7 := by
    rintro c digits rfl
    exact (Nat.le_succ _).trans hlength.2
  split at h
  case h_1 digits =>
    split_ifs at h
    obtain ⟨positive, hread, rfl⟩ := Option.map_eq_some_iff.mp h
    have hvalue := readDecimal_short (hrest _ _ rfl) hread
    rw [negate_toInt (by omega), hvalue, integerValue]
  case h_2 digits =>
    split_ifs at h
    exact readDecimal_short (hrest _ _ rfl) h
  case h_3 hminus hplus =>
    rw [readDecimal_short hlength.2 h]
    simp only [integerValue]

end Numbers

/-! ## Fields of a command -/

/-- A command has exactly the fields of its kind. -/
def SensorCommissioningCommand.Filled (command : SensorCommissioningCommand) : Prop :=
  match command.kind with
  | .bind => ∃ air heatsink,
      command = { kind := .bind, chamberAirRom := some air, heatsinkRom := some heatsink }
  | .offset => ∃ milli,
      command = { kind := .offset, target := .chamberAir, offsetMilliCelsius := some milli } ∨
      command = { kind := .offset, target := .heatsink, offsetMilliCelsius := some milli } ∨
      ∃ rom, command =
        { kind := .offset, target := .product, offsetRom := some rom,
          offsetMilliCelsius := some milli }
  | kind => command = { kind }

theorem rejected_filled : SensorCommissioningCommand.Filled {} := by
  rw [SensorCommissioningCommand.Filled]

theorem parseBind_filled (air heatsink : Bytes) : (parseBind air heatsink).Filled := by
  rw [parseBind]
  split_ifs
  · exact rejected_filled
  · split
    · exact ⟨_, _, rfl⟩
    · exact rejected_filled

theorem parseOffset_filled (target milli : Bytes) : (parseOffset target milli).Filled := by
  rw [parseOffset]
  cases parseInt32 milli with
  | none => exact rejected_filled
  | some milli =>
      dsimp only
      split_ifs
      · exact ⟨milli, Or.inl rfl⟩
      · exact ⟨milli, Or.inr (Or.inl rfl)⟩
      · split
        · exact rejected_filled
        · exact ⟨milli, Or.inr (Or.inr ⟨_, rfl⟩)⟩
      · exact rejected_filled

theorem parseSensorCommissioningCommand_filled (line : Bytes) :
    (parseSensorCommissioningCommand line).Filled := by
  rw [parseSensorCommissioningCommand]
  split
  · split_ifs
    · exact rejected_filled
    · rw [SensorCommissioningCommand.Filled]
    · rw [SensorCommissioningCommand.Filled]
    · exact rejected_filled
  · split_ifs
    · exact rejected_filled
    · exact parseBind_filled _ _
    · exact parseOffset_filled _ _
    · exact rejected_filled
  · exact rejected_filled

/-! ## The stored record -/

/-- The offset of a probe is that of its entry, in whatever role; an unknown probe has none. -/
def IsOffsetOf (current : Option SensorCommissioningRecord) (rom : OneWireRom)
    (offset : SensorOffset) : Prop :=
  (∃ record ∈ current, ⟨rom, offset⟩ ∈ record.entries) ∨
    (offset = .zero ∧ ∀ record ∈ current, rom ∉ record.entries.map (·.rom))

/-- Exactly one entry differs: one probe has another offset at its old place, or a probe that was
unknown is the last one. -/
def ChangesEntry (rom : OneWireRom) (offset : SensorOffset)
    (entries entries' : List SensorRomOffset) : Prop :=
  (∃ front old back, entries = front ++ ⟨rom, old⟩ :: back ∧
      entries' = front ++ ⟨rom, offset⟩ :: back) ∨
    (rom ∉ entries.map (·.rom) ∧ entries' = entries ++ [⟨rom, offset⟩])

/-- The probe that an offset is meant for. -/
def SensorCommissioningCommand.rom (command : SensorCommissioningCommand)
    (record : SensorCommissioningRecord) : Option OneWireRom :=
  match command.target with
  | .chamberAir => record.chamberAir.map (·.rom)
  | .heatsink => record.heatsink.map (·.rom)
  | .product => command.offsetRom

variable {current : Option SensorCommissioningRecord} {record record' : SensorCommissioningRecord}
variable {command : SensorCommissioningCommand} {rom : OneWireRom} {offset : SensorOffset}

theorem acceptRecord_accepted (h : (acceptRecord record).accepted = true) :
    record.Valid ∧ acceptRecord record = { accepted := true, hasRecord := true, record } := by
  rw [acceptRecord] at h ⊢
  split_ifs at h ⊢ with hvalid
  exact ⟨validateSensorCommissioning_eq_success.mp (not_not.mp hvalid), rfl⟩

theorem acceptRecord_refused (h : (acceptRecord record).accepted = false) :
    acceptRecord record = {} := by
  rw [acceptRecord] at h ⊢
  split_ifs at h ⊢
  rfl

theorem keptOffset_isOffsetOf (hcurrent : ∀ record ∈ current, record.Valid) (rom : OneWireRom) :
    IsOffsetOf current rom (keptOffset current rom) := by
  cases current with
  | none => exact Or.inr ⟨rfl, nofun⟩
  | some record =>
      have hvalid := hcurrent record rfl
      rw [keptOffset, SensorCommissioningRecord.calibrationFor]
      cases hfind : record.entries.find? fun entry => entry.rom = rom with
      | none =>
          refine Or.inr ⟨rfl, ?_⟩
          rintro found ⟨⟩ hmem
          obtain ⟨entry, hentry, hrom⟩ := List.mem_map.mp hmem
          exact List.find?_eq_none.mp hfind entry hentry (decide_eq_true hrom)
      | some entry =>
          have hmem := List.mem_of_find?_eq_some hfind
          have hrom : entry.rom = rom := by
            simpa using List.find?_some hfind
          have hnonzero : rom ≠ 0 := hrom ▸ hvalid.nonzero entry hmem
          have hidentity : DevicePlatform.SensorIdentity.create rom = some ⟨rom, hnonzero⟩ :=
            dif_neg hnonzero
          simp only [Option.bind_eq_bind, Option.bind_some, hidentity, Option.pure_def]
          exact Or.inl ⟨record, rfl, hrom ▸ hmem⟩

theorem setOffset_eq_some {entries entries' : List SensorRomOffset}
    (h : setOffset rom offset entries = some entries') :
    ∃ front old back, entries = front ++ ⟨rom, old⟩ :: back ∧
      entries' = front ++ ⟨rom, offset⟩ :: back := by
  induction entries generalizing entries' with
  | nil => cases h
  | cons entry entries ih =>
      rw [setOffset] at h
      split_ifs at h with hrom
      · cases h
        subst hrom
        exact ⟨[], entry.offset, entries, rfl, rfl⟩
      · obtain ⟨rest, hrest, rfl⟩ := Option.map_eq_some_iff.mp h
        obtain ⟨front, old, back, rfl, rfl⟩ := ih hrest
        exact ⟨entry :: front, old, back, rfl, rfl⟩

/-- A change behind some entries is a change of the whole list. -/
theorem ChangesEntry.behind {front entries entries' : List SensorRomOffset}
    (h : ∃ middle old back, entries = middle ++ ⟨rom, old⟩ :: back ∧
      entries' = middle ++ ⟨rom, offset⟩ :: back) :
    ChangesEntry rom offset (front ++ entries) (front ++ entries') := by
  obtain ⟨middle, old, back, rfl, rfl⟩ := h
  exact Or.inl ⟨front ++ middle, old, back, by simp, by simp⟩

/-- The offset of a role or of a probe of the product changes one entry, and the roles keep their
probes. -/
theorem applyOffset_changes (hvalid : record.Valid)
    (hvalid' : (applyOffset record command offset).Valid)
    (hrom : command.target = .product → command.offsetRom = some rom) :
    ∃ found, command.rom record = some found ∧
      ChangesEntry found offset record.entries (applyOffset record command offset).entries ∧
      (applyOffset record command offset).chamberAir.map (·.rom) =
        record.chamberAir.map (·.rom) ∧
      (applyOffset record command offset).heatsink.map (·.rom) = record.heatsink.map (·.rom) := by
  obtain ⟨chamberAir, hchamberAir⟩ := Option.isSome_iff_exists.mp hvalid.chamberAir
  obtain ⟨heatsink, hheatsink⟩ := Option.isSome_iff_exists.mp hvalid.heatsink
  rw [SensorCommissioningCommand.rom]
  have hdistinct := hvalid'.distinct
  rw [applyOffset] at hdistinct ⊢
  cases htarget : command.target with
  | chamberAir =>
      refine ⟨chamberAir.rom, by rw [hchamberAir]; rfl, ?_, by rw [hchamberAir]; rfl, rfl⟩
      simp only [SensorCommissioningRecord.entries, hchamberAir]
      exact Or.inl ⟨[], chamberAir.offset, _, rfl, rfl⟩
  | heatsink =>
      refine ⟨heatsink.rom, by rw [hheatsink]; rfl, ?_, rfl, by rw [hheatsink]; rfl⟩
      simp only [SensorCommissioningRecord.entries, hheatsink]
      exact ChangesEntry.behind ⟨[], heatsink.offset, _, rfl, rfl⟩
  | product =>
      have hnamed := hrom htarget
      rw [htarget, hnamed] at hdistinct
      refine ⟨rom, hnamed, ?_⟩
      rw [hnamed]
      dsimp only at hdistinct ⊢
      cases hset : setOffset rom offset record.productProbes with
      | some productProbes =>
          refine ⟨?_, rfl, rfl⟩
          simp only [SensorCommissioningRecord.entries, ← List.append_assoc]
          exact ChangesEntry.behind (setOffset_eq_some hset)
      | none =>
          rw [hset] at hdistinct
          simp only [SensorCommissioningRecord.entries, ← List.append_assoc, List.map_append,
            List.map_cons, List.map_nil] at hdistinct
          refine ⟨Or.inr ⟨?_, by simp [SensorCommissioningRecord.entries]⟩, rfl, rfl⟩
          have hnew := (List.nodup_append.mp hdistinct).2.2
          intro hmem
          simp only [SensorCommissioningRecord.entries, ← List.append_assoc,
            List.map_append] at hmem
          exact hnew rom hmem rom (List.mem_singleton_self rom) rfl

/-- The service configuration with this record and any usable parameters is written, and only its
payload is read as it. -/
def Storable (record : SensorCommissioningRecord) : Prop :=
  ∀ parameters : Option ActuatorPlannerParameters,
    (∀ found ∈ parameters, classifyActuatorPlannerParameters found = .valid) →
    ∃ payload, encodeServiceConfigurationPayload ⟨parameters, some record⟩ = .ok payload ∧
      decodeServiceConfigurationPayload 3 payload = .ok ⟨parameters, some record⟩

theorem storable_of_valid (h : record.Valid) : Storable record := by
  intro parameters hparameters
  have hvalid : ServiceConfiguration.Valid ⟨parameters, some record⟩ := ⟨hparameters, by
    rintro found ⟨⟩
    exact h⟩
  obtain ⟨payload, hpayload⟩ := encodeServiceConfigurationPayload_valid hvalid
  exact ⟨payload, hpayload, decode_iff_encode.mpr hpayload⟩

/-- What a command may do to a stored record. -/
structure Commissioned (current : Option SensorCommissioningRecord)
    (command : SensorCommissioningCommand) (result : SensorCommissioningApplyResult) : Prop where
  valid : result.hasRecord = true → result.accepted = true ∧
    validateSensorCommissioning result.record = .success ∧ Storable result.record
  refused : command.kind = .rejected ∨ result.accepted = false → result = {}
  bound : command.kind = .bind → result.accepted = true →
    ∃ air heatsink airOffset heatsinkOffset,
      command.chamberAirRom = some air ∧ command.heatsinkRom = some heatsink ∧
      IsOffsetOf current air airOffset ∧ IsOffsetOf current heatsink heatsinkOffset ∧
      result.hasRecord = true ∧
      result.record = ⟨some ⟨air, airOffset⟩, some ⟨heatsink, heatsinkOffset⟩,
        (current.getD {}).productProbes⟩
  adjusted : command.kind = .offset → result.accepted = true →
    result.hasRecord = true ∧ ∃ record milli rom offset, current = some record ∧
      command.offsetMilliCelsius = some milli ∧ offsetOf milli = some offset ∧
      command.rom record = some rom ∧
      ChangesEntry rom offset record.entries result.record.entries ∧
      result.record.chamberAir.map (·.rom) = record.chamberAir.map (·.rom) ∧
      result.record.heatsink.map (·.rom) = record.heatsink.map (·.rom)

theorem commissioned_empty : Commissioned current command {} where
  valid := nofun
  refused := fun _ => rfl
  bound := fun _ h => nomatch h
  adjusted := fun _ h => nomatch h

theorem commissioned_bind (hcurrent : ∀ record ∈ current, record.Valid) {air heatsink : OneWireRom}
    (hcommand :
      command = { kind := .bind, chamberAirRom := some air, heatsinkRom := some heatsink }) :
    Commissioned current command (applySensorCommissioningCommand current command) := by
  subst hcommand
  simp only [applySensorCommissioningCommand]
  generalize hbound : SensorCommissioningRecord.mk (some ⟨air, keptOffset current air⟩)
    (some ⟨heatsink, keptOffset current heatsink⟩) (current.getD {}).productProbes = bound
  cases haccepted : (acceptRecord bound).accepted with
  | false =>
      rw [acceptRecord_refused haccepted]
      exact commissioned_empty
  | true =>
      obtain ⟨hvalid, hresult⟩ := acceptRecord_accepted haccepted
      rw [hresult]
      exact {
        valid := fun _ =>
          ⟨rfl, validateSensorCommissioning_eq_success.mpr hvalid, storable_of_valid hvalid⟩
        refused := fun h => by simp at h
        bound := fun _ _ => ⟨air, heatsink, _, _, rfl, rfl, keptOffset_isOffsetOf hcurrent air,
          keptOffset_isOffsetOf hcurrent heatsink, rfl, hbound.symm⟩
        adjusted := nofun }

theorem commissioned_offset (hkind : command.kind = .offset)
    (hrom : command.target = .product → ∃ rom, command.offsetRom = some rom) :
    Commissioned current command (applySensorCommissioningCommand current command) := by
  simp only [applySensorCommissioningCommand, hkind]
  cases hcurrent : current with
  | none => exact commissioned_empty
  | some record =>
      cases hoffset : command.offsetMilliCelsius.bind offsetOf with
      | none => exact commissioned_empty
      | some offset =>
          dsimp only
          split_ifs with hrefused
          · exact commissioned_empty
          · have hvalid := validateSensorCommissioning_eq_success.mp (not_not.mp hrefused)
            obtain ⟨milli, hmilli, hof⟩ := Option.bind_eq_some_iff.mp hoffset
            cases haccepted : (acceptRecord (applyOffset record command offset)).accepted with
            | false =>
                rw [acceptRecord_refused haccepted]
                exact commissioned_empty
            | true =>
                obtain ⟨hvalid', hresult⟩ := acceptRecord_accepted haccepted
                rw [hresult]
                have hnamed : ∃ rom, command.target = .product → command.offsetRom = some rom := by
                  by_cases htarget : command.target = .product
                  · obtain ⟨rom, hrom⟩ := hrom htarget
                    exact ⟨rom, fun _ => hrom⟩
                  · exact ⟨0, fun h => absurd h htarget⟩
                obtain ⟨rom, hnamed⟩ := hnamed
                obtain ⟨found, hfound, hchanges, hroles⟩ :=
                  applyOffset_changes hvalid hvalid' hnamed
                exact {
                  valid := fun _ => ⟨rfl, validateSensorCommissioning_eq_success.mpr hvalid',
                    storable_of_valid hvalid'⟩
                  refused := fun h => by simp [hkind] at h
                  bound := fun h => by simp [hkind] at h
                  adjusted := fun _ _ =>
                    ⟨rfl, record, milli, found, offset, rfl, hmilli, hof, hfound, hchanges,
                      hroles⟩ }

/-- A command whose fields are those of its kind keeps the stored record valid. -/
theorem commissioned (hcurrent : ∀ record ∈ current, record.Valid) (hfilled : command.Filled) :
    Commissioned current command (applySensorCommissioningCommand current command) := by
  rw [SensorCommissioningCommand.Filled] at hfilled
  cases hkind : command.kind with
  | bind =>
      rw [hkind] at hfilled
      obtain ⟨air, heatsink, hcommand⟩ := hfilled
      exact commissioned_bind hcurrent hcommand
  | offset =>
      rw [hkind] at hfilled
      obtain ⟨milli, hcommand⟩ := hfilled
      apply commissioned_offset hkind
      rcases hcommand with rfl | rfl | ⟨rom, rfl⟩
      · nofun
      · nofun
      · exact fun _ => ⟨rom, rfl⟩
  | clear =>
      simp only [applySensorCommissioningCommand, hkind]
      exact {
        valid := nofun
        refused := fun h => by simp [hkind] at h
        bound := fun h => by simp [hkind] at h
        adjusted := fun h => by simp [hkind] at h }
  | rejected =>
      simp only [applySensorCommissioningCommand, hkind]
      exact commissioned_empty
  | report =>
      simp only [applySensorCommissioningCommand, hkind]
      exact commissioned_empty

theorem commission_valid (hcurrent : ∀ record ∈ current, record.Valid) (line : Bytes) :
    ∀ record ∈ commission current line, record.Valid := by
  have hkept := commissioned hcurrent (parseSensorCommissioningCommand_filled line)
  rw [commission]
  split_ifs with haccepted hrecord
  · rintro record ⟨⟩
    exact validateSensorCommissioning_eq_success.mp (hkept.valid hrecord).2.1
  · nofun
  · exact hcurrent

/-- The stored record stays absent or valid, whatever lines are typed. -/
theorem foldl_commission_valid (lines : List Bytes) (hcurrent : ∀ record ∈ current, record.Valid) :
    ∀ record ∈ lines.foldl commission current, record.Valid := by
  induction lines generalizing current with
  | nil => exact hcurrent
  | cons line lines ih => exact ih (commission_valid hcurrent line)

/-! ## Main result -/

/-- No number of a line is read with an overflow: after every digit the value is the one that the
digits so far spell. -/
structure NumbersExact (text : Bytes) : Prop where
  rom : text.length = 16 → ∀ digits value, digits <+: text → readHex 0 digits = some value →
    hexValue digits value.toNat
  decimal : text.length ≤ 7 → ∀ digits value, digits <:+: text →
    readDecimal 0 digits = some value → value.toInt = decimalValue digits
  integer : ∀ value, parseInt32 text = some value → value.toInt = integerValue text

theorem numbersExact (text : Bytes) : NumbersExact text where
  rom := by
    intro hlength digits value hfront hread
    have hshort : digits.length ≤ 16 := hlength ▸ hfront.length_le
    have hpower : 16 ^ digits.length ≤ 16 ^ 16 := Nat.pow_le_pow_right (by decide) hshort
    obtain ⟨found, hfound, hvalue⟩ := readHex_eq_some hread (by
      have hzero : (0 : UInt64).toNat = 0 := rfl
      rw [hzero, Nat.zero_add, Nat.one_mul]
      exact hpower)
    exact ⟨found, hfound, hvalue⟩
  decimal := fun hlength _ _ hwithin hread =>
    readDecimal_short (hwithin.length_le.trans hlength) hread
  integer := fun _ h => (parseInt32_eq_some h).2

/-- Over every sequence of lines the stored record stays valid and can be stored; a line is read
without overflow into a command with exactly the fields of its kind. -/
theorem commissioning_keeps_record (first : Option SensorCommissioningRecord)
    (hfirst : ∀ record ∈ first, validateSensorCommissioning record = .success)
    (lines : List Bytes) (line : Bytes) :
    Commissioned (lines.foldl commission first) (parseSensorCommissioningCommand line)
        (applySensorCommissioningCommand (lines.foldl commission first)
          (parseSensorCommissioningCommand line)) ∧
      (∀ record ∈ lines.foldl commission first,
        validateSensorCommissioning record = .success ∧ Storable record) ∧
      (parseSensorCommissioningCommand line).Filled ∧ ∀ text, NumbersExact text := by
  have hvalid := foldl_commission_valid lines fun record hmem =>
    validateSensorCommissioning_eq_success.mp (hfirst record hmem)
  have hfilled := parseSensorCommissioningCommand_filled line
  refine ⟨commissioned hvalid hfilled, fun record hmem => ?_, hfilled, numbersExact⟩
  exact ⟨validateSensorCommissioning_eq_success.mpr (hvalid record hmem),
    storable_of_valid (hvalid record hmem)⟩

theorem commissioning_keeps_boundRoles :
    let lines := [literal "ds18b20 bind air=160100000000FF28 heatsink=F40200000000FF28"]
    let command := parseSensorCommissioningCommand (literal "ds18b20 offset air -500")
    let result := applySensorCommissioningCommand (lines.foldl commission none) command
    result.hasRecord = true ∧ Commissioned (lines.foldl commission none) command result :=
  ⟨by decide +kernel, (commissioning_keeps_record none nofun _ _).1⟩

end Fermentationsschrank.SensorCommissioning

import Fermentationsschrank.Core.Utf8
import Fermentationsschrank.Sensors.SensorReading
import Fermentationsschrank.Storage.Binary64

/-!
# Commissioning of the sensors

The record that binds two probes to the chamber air and to the heatsink and keeps an offset for
each known probe, and the text commands that change it.  A command is a line; a line that is not
one is rejected as a whole.
-/

namespace Fermentationsschrank

/-! ## Quotients of whole numbers -/

namespace Binary64

/-- The magnitude closest to `numerator / denominator`, of two closest ones the even one.  The
quotient is counted in units of the smallest subnormal. -/
def quotientMagnitude (numerator denominator : ℕ) : ℕ :=
  let scaled := numerator * 2 ^ 1074
  let exponent := (scaled / denominator).log2 - 52
  let unit := denominator * 2 ^ exponent
  let whole := scaled / unit
  let rest := scaled % unit
  exponent * 2 ^ 52 +
    if unit < 2 * rest ∨ 2 * rest = unit ∧ whole % 2 = 1 then whole + 1 else whole

/-- `numerator / denominator` for a positive denominator. -/
def quotient (numerator : ℤ) (denominator : ℕ) : Binary64 :=
  let magnitude := quotientMagnitude numerator.natAbs denominator
  ofBits (UInt64.ofNat (if numerator < 0 then 2 ^ 63 + magnitude else magnitude))

example : quotient (-500) 1000 = ofBits 0xBFE0000000000000 := by decide +kernel

/-- `std::fabs` -/
def fabs : Binary64 → Binary64
  | nan => nan
  | ordered position =>
      ordered ⟨position.val.natAbs, by rw [Int.natAbs_natCast]; exact position.property⟩

end Binary64

namespace SensorCommissioning

open DevicePlatform (SensorIdentity SensorOffsetStatus)

/-! ## Probes -/

abbrev OneWireRom := UInt64

def crcBit (crc : UInt8) : UInt8 :=
  if crc &&& 1 ≠ 0 then (crc >>> 1) ^^^ 0x8C else crc >>> 1

def romByte (rom : OneWireRom) (index : ℕ) : UInt8 :=
  (rom >>> UInt64.ofNat (8 * index)).toUInt8

/-- The highest byte checks the seven below it. -/
def hasValidOneWireRomCrc (rom : OneWireRom) : Bool :=
  (List.range 7).foldl (fun crc index => Nat.iterate crcBit 8 (crc ^^^ romByte rom index)) 0 =
    romByte rom 7

/-- `10.0` -/
def kMaxAbsoluteOffsetCelsius : Binary64 := .ofBits 0x4024000000000000

def inFirmwareRange (celsius : Binary64) : Bool :=
  celsius.isFinite && !kMaxAbsoluteOffsetCelsius.lt celsius.fabs

/-- An offset is finite and within the range of the firmware. -/
structure SensorOffset where
  celsius : Binary64
  inRange : inFirmwareRange celsius = true
  deriving DecidableEq

def SensorOffset.create (celsius : Binary64) : Except SensorOffsetStatus SensorOffset :=
  if h : inFirmwareRange celsius = true then .ok ⟨celsius, h⟩
  else if celsius.isFinite then .error .outOfFirmwareRange
  else .error .nonFinite

/-- The offset of a number of milli-degrees. -/
def offsetOf (milli : Int32) : Option SensorOffset :=
  (SensorOffset.create (Binary64.quotient milli.toInt 1000)).toOption

def SensorOffset.zero : SensorOffset := ⟨.ofBits 0, by decide⟩

structure SensorRomOffset where
  rom : OneWireRom
  offset : SensorOffset
  deriving DecidableEq

structure SensorCalibration where
  identity : SensorIdentity
  offset : SensorOffset
  deriving DecidableEq

/-! ## The record -/

def kMaximumKnownProductProbes : ℕ := 4

structure SensorCommissioningRecord where
  chamberAir : Option SensorRomOffset := none
  heatsink : Option SensorRomOffset := none
  productProbes : List SensorRomOffset := []
  deriving DecidableEq

inductive SensorCommissioningStatus
  | success
  | missingFixedRole
  | zeroRom
  | invalidRomCrc
  | duplicateRom
  | tooManyProductProbes
  deriving DecidableEq, Repr

namespace SensorCommissioningRecord

/-- The entries in the order in which the record is searched. -/
def entries (record : SensorCommissioningRecord) : List SensorRomOffset :=
  record.chamberAir.toList ++ (record.heatsink.toList ++ record.productProbes)

def calibrationFor (record : SensorCommissioningRecord) (rom : OneWireRom) :
    Option SensorCalibration := do
  let entry ← record.entries.find? fun entry => entry.rom = rom
  let identity ← SensorIdentity.create rom
  return ⟨identity, entry.offset⟩

end SensorCommissioningRecord

def validateSensorCommissioning (record : SensorCommissioningRecord) :
    SensorCommissioningStatus :=
  if record.chamberAir.isNone ∨ record.heatsink.isNone then .missingFixedRole
  else if kMaximumKnownProductProbes < record.productProbes.length then .tooManyProductProbes
  else
    let roms := record.entries.map (·.rom)
    if roms.any (· = 0) then .zeroRom
    else if roms.any (!hasValidOneWireRomCrc ·) then .invalidRomCrc
    else if ¬roms.Nodup then .duplicateRom
    else .success

namespace SensorCommissioningRecord

/-- Both roles are bound, and all probes are known and different. -/
structure Valid (record : SensorCommissioningRecord) : Prop where
  chamberAir : record.chamberAir.isSome = true
  heatsink : record.heatsink.isSome = true
  probes : record.productProbes.length ≤ kMaximumKnownProductProbes
  nonzero : ∀ entry ∈ record.entries, entry.rom ≠ 0
  crc : ∀ entry ∈ record.entries, hasValidOneWireRomCrc entry.rom = true
  distinct : (record.entries.map (·.rom)).Nodup

end SensorCommissioningRecord

variable {record : SensorCommissioningRecord}

theorem validateSensorCommissioning_eq_success :
    validateSensorCommissioning record = .success ↔ record.Valid := by
  simp only [validateSensorCommissioning, List.any_map, List.any_eq_true, Function.comp_apply,
    decide_eq_true_eq, Bool.not_eq_true']
  constructor
  · intro h
    split_ifs at h with hroles hprobes hzero hcrc hdistinct
    rw [not_or, Bool.not_eq_true, Bool.not_eq_true, Option.isNone_eq_false_iff,
      Option.isNone_eq_false_iff] at hroles
    exact {
      chamberAir := hroles.1
      heatsink := hroles.2
      probes := Nat.not_lt.mp hprobes
      nonzero := fun entry hmem hrom => hzero ⟨entry, hmem, hrom⟩
      crc := fun entry hmem => Bool.of_not_eq_false fun hrefused => hcrc ⟨entry, hmem, hrefused⟩
      distinct := hdistinct }
  · intro h
    have hroles : ¬(record.chamberAir.isNone = true ∨ record.heatsink.isNone = true) := by
      rw [not_or, Bool.not_eq_true, Bool.not_eq_true, Option.isNone_eq_false_iff,
        Option.isNone_eq_false_iff]
      exact ⟨h.chamberAir, h.heatsink⟩
    rw [if_neg hroles, if_neg (Nat.not_lt.mpr h.probes),
      if_neg fun ⟨entry, hmem, hrom⟩ => h.nonzero entry hmem hrom,
      if_neg fun ⟨entry, hmem, hrefused⟩ => absurd (h.crc entry hmem) (by simp [hrefused]),
      if_neg (not_not.mpr h.distinct)]

/-! ## Commands -/

inductive SensorCommissioningCommandKind
  | rejected
  | report
  | bind
  | offset
  | clear
  deriving DecidableEq, Repr

inductive SensorCommissioningTarget
  | chamberAir
  | heatsink
  | product
  deriving DecidableEq, Repr

structure SensorCommissioningCommand where
  kind : SensorCommissioningCommandKind := .rejected
  chamberAirRom : Option OneWireRom := none
  heatsinkRom : Option OneWireRom := none
  target : SensorCommissioningTarget := .chamberAir
  offsetRom : Option OneWireRom := none
  offsetMilliCelsius : Option Int32 := none
  deriving DecidableEq

/-! ## Reading a line -/

def hexDigit (c : Byte) : Option UInt64 :=
  if 48 ≤ c ∧ c ≤ 57 then some (c - 48).toUInt64
  else if 97 ≤ c ∧ c ≤ 102 then some (c - 97 + 10).toUInt64
  else if 65 ≤ c ∧ c ≤ 70 then some (c - 65 + 10).toUInt64
  else none

/-- The loop over the digits of a number in base sixteen. -/
def readHex (value : OneWireRom) : Bytes → Option OneWireRom
  | [] => some value
  | c :: rest =>
    match hexDigit c with
    | some digit => readHex (value <<< 4 ||| digit) rest
    | none => none

def parseRomHex (text : Bytes) : Option OneWireRom :=
  if text.length ≠ 16 then none
  else (readHex 0 text).filter (· ≠ 0)

/-- The loop over the digits of a decimal number. -/
def readDecimal (value : Int32) : Bytes → Option Int32
  | [] => some value
  | c :: rest =>
    if c < 48 ∨ 57 < c then none
    else readDecimal (value * 10 + (c - 48).toUInt32.toInt32) rest

/-- A sign is the byte 43 or 45. -/
def parseInt32 (text : Bytes) : Option Int32 :=
  if text = [] ∨ 7 < text.length then none
  else
    match text with
    | 45 :: digits => if digits = [] then none else (readDecimal 0 digits).map fun value => -value
    | 43 :: digits => if digits = [] then none else readDecimal 0 digits
    | digits => readDecimal 0 digits

def separates (c : Byte) : Bool := c = 32 ∨ c = 9 ∨ c = 13 ∨ c = 10

/-- The loop over the line, with the word that the current byte belongs to. -/
def readWords (word : Bytes) : Bytes → List Bytes
  | [] => if word = [] then [] else [word]
  | c :: rest =>
    if separates c then
      if word = [] then readWords [] rest else word :: readWords [] rest
    else readWords (word ++ [c]) rest

def splitWords (line : Bytes) : List Bytes := readWords [] line

def startsWith (text head : Bytes) : Bool := text.take head.length = head

def parseBind (air heatsink : Bytes) : SensorCommissioningCommand :=
  if !startsWith air (literal "air=") || !startsWith heatsink (literal "heatsink=") then {}
  else
    match parseRomHex (air.drop 4), parseRomHex (heatsink.drop 9) with
    | some airRom, some heatsinkRom =>
      { kind := .bind, chamberAirRom := some airRom, heatsinkRom := some heatsinkRom }
    | _, _ => {}

def parseOffset (target milli : Bytes) : SensorCommissioningCommand :=
  match parseInt32 milli with
  | none => {}
  | some milli =>
    if target = literal "air" then
      { kind := .offset, target := .chamberAir, offsetMilliCelsius := some milli }
    else if target = literal "heatsink" then
      { kind := .offset, target := .heatsink, offsetMilliCelsius := some milli }
    else if startsWith target (literal "product=") then
      match parseRomHex (target.drop 8) with
      | none => {}
      | some rom =>
        { kind := .offset, target := .product, offsetRom := some rom,
          offsetMilliCelsius := some milli }
    else {}

def parseSensorCommissioningCommand (line : Bytes) : SensorCommissioningCommand :=
  match splitWords line with
  | [device, action] =>
    if device ≠ literal "ds18b20" then {}
    else if action = literal "report" then { kind := .report }
    else if action = literal "clear" then { kind := .clear }
    else {}
  | [device, action, first, second] =>
    if device ≠ literal "ds18b20" then {}
    else if action = literal "bind" then parseBind first second
    else if action = literal "offset" then parseOffset first second
    else {}
  | _ => {}

/-! ## Applying a command -/

structure SensorCommissioningApplyResult where
  accepted : Bool := false
  hasRecord : Bool := false
  record : SensorCommissioningRecord := {}
  deriving DecidableEq

/-- The offset that is kept when a probe is bound. -/
def keptOffset (current : Option SensorCommissioningRecord) (rom : OneWireRom) : SensorOffset :=
  match current with
  | none => .zero
  | some record =>
    match record.calibrationFor rom with
    | some calibration => calibration.offset
    | none => .zero

/-- A record is stored only when it is valid. -/
def acceptRecord (record : SensorCommissioningRecord) : SensorCommissioningApplyResult :=
  if validateSensorCommissioning record ≠ .success then {}
  else { accepted := true, hasRecord := true, record }

/-- The offset of the entry of a probe, wherever it stands; the order stays. -/
def setOffset (rom : OneWireRom) (offset : SensorOffset) :
    List SensorRomOffset → Option (List SensorRomOffset)
  | [] => none
  | entry :: rest =>
    if entry.rom = rom then some (⟨entry.rom, offset⟩ :: rest)
    else (setOffset rom offset rest).map (entry :: ·)

def applyOffset (record : SensorCommissioningRecord) (command : SensorCommissioningCommand)
    (offset : SensorOffset) : SensorCommissioningRecord :=
  match command.target with
  | .chamberAir =>
    { record with chamberAir := record.chamberAir.map fun entry => ⟨entry.rom, offset⟩ }
  | .heatsink =>
    { record with heatsink := record.heatsink.map fun entry => ⟨entry.rom, offset⟩ }
  | .product =>
    match command.offsetRom with
    -- The parser names the probe of every such command.
    | none => record
    | some rom =>
      match setOffset rom offset record.productProbes with
      | some productProbes => { record with productProbes }
      | none => { record with productProbes := record.productProbes ++ [⟨rom, offset⟩] }

def applySensorCommissioningCommand (current : Option SensorCommissioningRecord)
    (command : SensorCommissioningCommand) : SensorCommissioningApplyResult :=
  match command.kind with
  | .clear => { accepted := true }
  | .bind =>
    match command.chamberAirRom, command.heatsinkRom with
    | some airRom, some heatsinkRom =>
      acceptRecord { (current.getD {}) with
        chamberAir := some ⟨airRom, keptOffset current airRom⟩
        heatsink := some ⟨heatsinkRom, keptOffset current heatsinkRom⟩ }
    -- The parser names both probes of every such command.
    | _, _ => {}
  | .offset =>
    match current, command.offsetMilliCelsius.bind offsetOf with
    | some record, some offset =>
      if validateSensorCommissioning record ≠ .success then {}
      else acceptRecord (applyOffset record command offset)
    | _, _ => {}
  | _ => {}

/-- What is stored after a line: a record that was accepted takes the place of the old one, and
a cleared one is gone. -/
def commission (current : Option SensorCommissioningRecord) (line : Bytes) :
    Option SensorCommissioningRecord :=
  let result := applySensorCommissioningCommand current (parseSensorCommissioningCommand line)
  if result.accepted then if result.hasRecord then some result.record else none
  else current

end SensorCommissioning

end Fermentationsschrank

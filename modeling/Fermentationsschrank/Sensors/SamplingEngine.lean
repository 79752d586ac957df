import Fermentationsschrank.Core.Runs
import Fermentationsschrank.Sensors.SensorReading
import Mathlib.Data.Fin.VecNotation

/-!
# The sampling engine

The engine works two sensor buses in cycles.  On the first bus two channels are bound to
one expected address each; on the second bus a third channel takes whatever single device
it finds.  A cycle looks for the devices, starts a conversion, waits for it and reads the
probes it had planned.
-/

namespace Fermentationsschrank.DevicePlatform

variable {Value : Type}

/-- The address of a device on a bus; zero is no address. -/
abbrev OneWireRom := UInt64

def kMaxOneWireDevicesPerBus : ℕ := 4
abbrev kExpectedRomChannelCount : ℕ := 2
abbrev kChannelCount : ℕ := 3
def kCyclePeriodMs : ℕ := 2000
def kConversionWaitMs : ℕ := 800

/-! ## The driver of a bus -/

inductive Ds18b20DriverResult
  | ok
  | notFound
  | timeout
  | invalidCrc
  | powerOnValue
  | other
  deriving DecidableEq, Repr

structure Ds18b20Enumeration where
  result : Ds18b20DriverResult := .other
  roms : Vector OneWireRom kMaxOneWireDevicesPerBus := Vector.replicate _ 0
  count : Fin (kMaxOneWireDevicesPerBus + 1) := 0
  overflow : Bool := false
  deriving DecidableEq

structure Ds18b20ScratchpadRead (Value : Type) where
  result : Ds18b20DriverResult
  celsius : Option (ExactDouble Value)

/-- What a bus answers during one step.  A step asks for the resolution and for the
reading of an address once at most. -/
structure BusAnswers (Value : Type) where
  presence : Ds18b20DriverResult
  enumerate : Ds18b20Enumeration
  setResolution12 : OneWireRom → Ds18b20DriverResult
  startConversionAll : Ds18b20DriverResult
  read : OneWireRom → Ds18b20ScratchpadRead Value

/-- The instants a step reads from the clock: first of all, after the conversions were
started, after each channel was read, and last of all. -/
structure StepClock where
  now : ℕ
  started : ℕ
  read : Fin kChannelCount → ℕ
  finished : ℕ

namespace Ds18b20Enumeration

variable (enumeration : Ds18b20Enumeration)

/-- The devices that were found. -/
def found : List OneWireRom :=
  enumeration.roms.toList.take enumeration.count

def contains (rom : OneWireRom) : Bool :=
  rom ∈ enumeration.found

def hasZeroRom : Bool :=
  enumeration.contains 0

end Ds18b20Enumeration

/-- The clock of the firmware counts in 64 bits. -/
def afterMs (now periodMs : ℕ) : ℕ :=
  (now + periodMs) % 2 ^ 64

/-! ## Readings -/

def statusFor : Ds18b20DriverResult → TemperatureSampleStatus
  | .ok => .ok
  | .notFound => .missingSample
  | .timeout => .busFault
  | .invalidCrc => .crcFault
  | .powerOnValue => .knownInvalidMeasurement
  | .other => .busFault

/-- A value goes with a good status and with no other. -/
def TemperatureReading.create (identity : Option SensorIdentity) (monotonicTimestampMs : ℕ)
    (status : TemperatureSampleStatus) (celsius : Option (ExactDouble Value)) :
    Option (TemperatureReading Value) :=
  if consistent : status = .ok ↔ celsius.isSome = true then
    some { identity, monotonicTimestampMs, status, celsius, consistent }
  else none

def identityOf (rom : Option OneWireRom) : Option SensorIdentity :=
  rom.bind SensorIdentity.create

/-- No reading stands for the failure of the firmware on a reading that is not there. -/
def makeReading (rom : Option OneWireRom) (status : TemperatureSampleStatus)
    (celsius : Option (ExactDouble Value)) (timestampMs : ℕ) :
    Option (TemperatureReading Value) :=
  TemperatureReading.create (identityOf rom) timestampMs status celsius

/-! ## State -/

inductive SensorBus
  | expectedRom
  | singleDevice
  deriving DecidableEq, Repr

def busOf (channel : Fin kChannelCount) : SensorBus :=
  if channel.val < kExpectedRomChannelCount then .expectedRom else .singleDevice

structure Ds18b20ChannelBinding where
  channel : ℕ
  expectedRom : OneWireRom
  deriving DecidableEq

structure Ds18b20BusReport where
  presence : Ds18b20DriverResult := .other
  enumeration : Ds18b20Enumeration := {}
  bindingConflict : Bool := false

structure Ds18b20EnumerationReport where
  bindingValid : Bool := false
  expectedRomBus : Ds18b20BusReport := {}
  singleDeviceBus : Ds18b20BusReport := {}
  singleDeviceLastSeen : Option OneWireRom := none

inductive SamplingPhase
  | idle
  | waitingForConversion
  deriving DecidableEq, Repr

structure ChannelPlan where
  convert : Bool := false
  rom : OneWireRom := 0
  deriving DecidableEq

/-- The addresses the two bound channels expect. -/
abbrev ExpectedRoms := Fin kExpectedRomChannelCount → Option OneWireRom

structure Ds18b20SamplingEngine (Value : Type) where
  binding : ExpectedRoms := fun _ => none
  bindingValid : Bool := false
  phase : SamplingPhase := .idle
  cycleStartMs : ℕ := 0
  nextCycleStartMs : ℕ := 0
  conversionStartedMs : ℕ := 0
  completedCycles : ℕ := 0
  plan : Fin kChannelCount → ChannelPlan := fun _ => {}
  busTriggered : SensorBus → Bool := fun _ => false
  resolutionSet : SensorBus → List OneWireRom :=
    fun _ => List.replicate kMaxOneWireDevicesPerBus 0
  singleDeviceLastSeen : Option OneWireRom := none
  workingReport : Ds18b20EnumerationReport := {}
  readings : Fin kChannelCount → Option (TemperatureReading Value) :=
    fun _ => makeReading none .missingSample none 0
  report : Ds18b20EnumerationReport := {}

/-! ## Binding -/

/-- Each entry binds one channel, which no earlier entry has bound, to an address. -/
def addBinding (candidate : ExpectedRoms) : Option Ds18b20ChannelBinding → Option ExpectedRoms
  | none => none
  | some entry =>
    if h : entry.channel < kExpectedRomChannelCount then
      if entry.expectedRom = 0 ∨ (candidate ⟨entry.channel, h⟩).isSome then none
      else some (Function.update candidate ⟨entry.channel, h⟩ (some entry.expectedRom))
    else none

/-- The addresses of a valid binding. -/
def validBinding (bindings : Vector (Option Ds18b20ChannelBinding) kExpectedRomChannelCount) :
    Option ExpectedRoms :=
  (bindings.toList.foldlM addBinding (fun _ => none)).filter fun candidate =>
    (candidate 0).isSome && (candidate 1).isSome && candidate 0 != candidate 1

namespace Ds18b20SamplingEngine

variable (engine : Ds18b20SamplingEngine Value)

def setBinding
    (bindings : Vector (Option Ds18b20ChannelBinding) kExpectedRomChannelCount) :
    Ds18b20SamplingEngine Value :=
  let candidate := validBinding bindings
  { engine with
    bindingValid := candidate.isSome
    binding := candidate.getD fun _ => none
    resolutionSet := fun _ => List.replicate kMaxOneWireDevicesPerBus 0
    report := { engine.report with bindingValid := candidate.isSome } }

def expectedRomOf (channel : Fin kExpectedRomChannelCount) : Option OneWireRom :=
  if engine.bindingValid then engine.binding channel else none

/-! ## Resolution -/

def resolutionKnown (bus : SensorBus) (rom : OneWireRom) : Bool :=
  rom ∈ engine.resolutionSet bus

/-- The address takes the first free place, if there is one. -/
def markResolution (bus : SensorBus) (rom : OneWireRom) : Ds18b20SamplingEngine Value :=
  { engine with
    resolutionSet :=
      Function.update engine.resolutionSet bus ((engine.resolutionSet bus).replace 0 rom) }

def forgetResolution (bus : SensorBus) : Ds18b20SamplingEngine Value :=
  { engine with
    resolutionSet :=
      Function.update engine.resolutionSet bus (List.replicate kMaxOneWireDevicesPerBus 0) }

def pruneResolution (bus : SensorBus) (enumeration : Ds18b20Enumeration) :
    Ds18b20SamplingEngine Value :=
  { engine with
    resolutionSet := Function.update engine.resolutionSet bus
      ((engine.resolutionSet bus).map fun rom =>
        if rom ≠ 0 ∧ enumeration.contains rom = false then 0 else rom) }

/-! ## Publication -/

def publish (channel : Fin kChannelCount) (identity : Option OneWireRom)
    (status : TemperatureSampleStatus) (celsius : Option (ExactDouble Value))
    (timestampMs : ℕ) : Ds18b20SamplingEngine Value :=
  { engine with
    readings := Function.update engine.readings channel
      (makeReading identity status celsius timestampMs) }

def publishFault (channel : Fin kChannelCount) (identity : Option OneWireRom)
    (result : Ds18b20DriverResult) (timestampMs : ℕ) : Ds18b20SamplingEngine Value :=
  engine.publish channel identity (statusFor result) none timestampMs

/-- The two bound channels share a failure of their bus. -/
def publishBoth (identity : ExpectedRoms) (status : TemperatureSampleStatus)
    (timestampMs : ℕ) : Ds18b20SamplingEngine Value :=
  (engine.publish 0 (identity 0) status none timestampMs).publish 1 (identity 1) status none
    timestampMs

/-! ## The bus of the bound channels -/

/-- Who answers on a bus.  A device without an address spoils the search. -/
def lookAtExpectedRomBus (answers : BusAnswers Value) : Ds18b20BusReport where
  presence := answers.presence
  enumeration :=
    if answers.presence = .ok then
      if answers.enumerate.result = .ok ∧ answers.enumerate.hasZeroRom then
        { answers.enumerate with result := .other }
      else answers.enumerate
    else {}

/-- A device that no channel expects, or too many of them. -/
def bindingConflict (found : Ds18b20Enumeration) : Bool :=
  found.overflow || found.found.any fun rom =>
    some rom != engine.expectedRomOf 0 && some rom != engine.expectedRomOf 1

/-- A bound channel is planned once its probe is there and has its resolution. -/
def planChannel (answers : BusAnswers Value) (found : Ds18b20Enumeration) (now : ℕ)
    (channel : Fin kExpectedRomChannelCount) : Ds18b20SamplingEngine Value :=
  match engine.expectedRomOf channel with
  -- a valid binding expects an address on each channel
  | none => engine
  | some rom =>
    if found.contains rom then
      if engine.resolutionKnown .expectedRom rom then
        { engine with plan := Function.update engine.plan channel.castSucc ⟨true, rom⟩ }
      else if answers.setResolution12 rom = .ok then
        { engine.markResolution .expectedRom rom with
          plan := Function.update engine.plan channel.castSucc ⟨true, rom⟩ }
      else engine.publishFault channel.castSucc (some rom) (answers.setResolution12 rom) now
    else engine.publish channel.castSucc (some rom) .missingSample none now

/-- A planned channel whose conversion could not be started. -/
def abandonChannel (result : Ds18b20DriverResult) (now : ℕ) (channel : Fin kChannelCount) :
    Ds18b20SamplingEngine Value :=
  if (engine.plan channel).convert then
    { engine.publishFault channel (some (engine.plan channel).rom) result now with
      plan := Function.update engine.plan channel {} }
  else engine

def startExpectedRomBus (answers : BusAnswers Value) (now : ℕ) : Ds18b20SamplingEngine Value :=
  if (engine.plan 0).convert || (engine.plan 1).convert then
    if answers.startConversionAll = .ok then
      { engine with busTriggered := Function.update engine.busTriggered .expectedRom true }
    else
      ((engine.forgetResolution .expectedRom).abandonChannel answers.startConversionAll now
        0).abandonChannel answers.startConversionAll now 1
  else engine

def noteExpectedRomBus (report : Ds18b20BusReport) : Ds18b20SamplingEngine Value :=
  { engine with workingReport := { engine.workingReport with expectedRomBus := report } }

/-- The bus was read and no resolution is kept for a device that is gone. -/
def prepareExpectedRomBus (report : Ds18b20BusReport) : Ds18b20SamplingEngine Value :=
  (engine.pruneResolution .expectedRom report.enumeration).noteExpectedRomBus
    { report with bindingConflict := engine.bindingConflict report.enumeration }

def planBoundChannels (answers : BusAnswers Value) (found : Ds18b20Enumeration) (now : ℕ) :
    Ds18b20SamplingEngine Value :=
  ((engine.planChannel answers found now 0).planChannel answers found now
    1).startExpectedRomBus answers now

def planExpectedRomBus (answers : BusAnswers Value) (now : ℕ) : Ds18b20SamplingEngine Value :=
  let report := lookAtExpectedRomBus answers
  let looked := engine.noteExpectedRomBus report
  if engine.bindingValid = false then
    (looked.forgetResolution .expectedRom).publishBoth (fun _ => none) .missingSample now
  else if report.presence ≠ .ok then
    (looked.forgetResolution .expectedRom).publishBoth engine.expectedRomOf
      (statusFor report.presence) now
  else if report.enumeration.result ≠ .ok then
    (looked.forgetResolution .expectedRom).publishBoth engine.expectedRomOf
      (statusFor report.enumeration.result) now
  else if engine.bindingConflict report.enumeration then
    (engine.prepareExpectedRomBus report).publishBoth engine.expectedRomOf .missingSample now
  else (engine.prepareExpectedRomBus report).planBoundChannels answers report.enumeration now

/-! ## The bus of the single device -/

def failSingleDevice (result : Ds18b20DriverResult) (now : ℕ) : Ds18b20SamplingEngine Value :=
  (engine.forgetResolution .singleDevice).publishFault 2 engine.singleDeviceLastSeen result now

def startSingleDevice (answers : BusAnswers Value) (rom : OneWireRom) (now : ℕ) :
    Ds18b20SamplingEngine Value :=
  if answers.startConversionAll = .ok then
    { engine with
      plan := Function.update engine.plan 2 ⟨true, rom⟩
      busTriggered := Function.update engine.busTriggered .singleDevice true }
  else
    (engine.forgetResolution .singleDevice).publishFault 2 (some rom)
      answers.startConversionAll now

def seeSingleDevice (found : Ds18b20Enumeration) (rom : OneWireRom) :
    Ds18b20SamplingEngine Value :=
  { engine.pruneResolution .singleDevice found with singleDeviceLastSeen := some rom }

/-- The single device that was found is planned once it has its resolution. -/
def planSingleDevice (answers : BusAnswers Value) (rom : OneWireRom) (now : ℕ) :
    Ds18b20SamplingEngine Value :=
  let pruned := engine.seeSingleDevice answers.enumerate rom
  if pruned.resolutionKnown .singleDevice rom then pruned.startSingleDevice answers rom now
  else if answers.setResolution12 rom = .ok then
    (pruned.markResolution .singleDevice rom).startSingleDevice answers rom now
  else pruned.publishFault 2 (some rom) (answers.setResolution12 rom) now

def noteSingleDeviceBus (report : Ds18b20BusReport) : Ds18b20SamplingEngine Value :=
  { engine with workingReport := { engine.workingReport with singleDeviceBus := report } }

def planSingleDeviceBus (answers : BusAnswers Value) (now : ℕ) : Ds18b20SamplingEngine Value :=
  if answers.presence ≠ .ok then
    (engine.noteSingleDeviceBus { presence := answers.presence }).failSingleDevice
      answers.presence now
  else
    let looked := engine.noteSingleDeviceBus
      { presence := answers.presence, enumeration := answers.enumerate }
    if answers.enumerate.result ≠ .ok then
      looked.failSingleDevice answers.enumerate.result now
    else if answers.enumerate.overflow ∨ 2 ≤ answers.enumerate.count.val ∨
        answers.enumerate.hasZeroRom then
      -- two devices are a wrong connection, and none is chosen by its place
      looked.failSingleDevice .other now
    else
      match answers.enumerate.found with
      | [] => looked.failSingleDevice .notFound now
      | rom :: _ => looked.planSingleDevice answers rom now

/-! ## Cycles -/

def openCycle (now : ℕ) : Ds18b20SamplingEngine Value :=
  { engine with
    cycleStartMs := now
    nextCycleStartMs := afterMs now kCyclePeriodMs
    plan := fun _ => {}
    busTriggered := fun _ => false
    workingReport := {} }

def planCycle (clock : StepClock) (answers : SensorBus → BusAnswers Value) :
    Ds18b20SamplingEngine Value :=
  ((engine.openCycle clock.now).planExpectedRomBus (answers .expectedRom)
    clock.now).planSingleDeviceBus (answers .singleDevice) clock.now

def countCycle : Ds18b20SamplingEngine Value :=
  { engine with completedCycles := (engine.completedCycles + 1) % 2 ^ 64 }

def beginCycle (clock : StepClock) (answers : SensorBus → BusAnswers Value) :
    Ds18b20SamplingEngine Value :=
  let planned := engine.planCycle clock answers
  let report := { planned.workingReport with
    bindingValid := planned.bindingValid
    singleDeviceLastSeen := planned.singleDeviceLastSeen }
  let reported := { planned with workingReport := report, report := report }
  if planned.busTriggered .expectedRom || planned.busTriggered .singleDevice then
    { reported with
      conversionStartedMs := clock.started
      phase := .waitingForConversion }
  else reported.countCycle

/-- A planned channel shows what its probe answers. -/
def finishChannel (clock : StepClock) (answers : SensorBus → BusAnswers Value)
    (channel : Fin kChannelCount) : Ds18b20SamplingEngine Value :=
  if (engine.plan channel).convert then
    let rom := (engine.plan channel).rom
    let read := (answers (busOf channel)).read rom
    if read.result = .ok ∧ read.celsius.isSome then
      engine.publish channel (some rom) .ok read.celsius (clock.read channel)
    else
      (engine.forgetResolution (busOf channel)).publishFault channel (some rom)
        (if read.result = .ok then .other else read.result) (clock.read channel)
  else engine

def finishCycle (clock : StepClock) (answers : SensorBus → BusAnswers Value) :
    Ds18b20SamplingEngine Value :=
  let read := ((engine.finishChannel clock answers 0).finishChannel clock answers
    1).finishChannel clock answers 2
  { read.countCycle with
    nextCycleStartMs := max read.nextCycleStartMs clock.finished
    phase := .idle }

def step (clock : StepClock) (answers : SensorBus → BusAnswers Value) :
    Ds18b20SamplingEngine Value :=
  match engine.phase with
  | .idle =>
    if engine.nextCycleStartMs ≤ clock.now then engine.beginCycle clock answers else engine
  | .waitingForConversion =>
    if afterMs engine.conversionStartedMs kConversionWaitMs ≤ clock.now then
      engine.finishCycle clock answers
    else engine

def nextDueMillis : ℕ :=
  match engine.phase with
  | .idle => engine.nextCycleStartMs
  | .waitingForConversion => afterMs engine.conversionStartedMs kConversionWaitMs

/-- The reading that a channel shows; a channel that does not exist shows none. -/
def reading (channel : ℕ) : Option (TemperatureReading Value) :=
  if h : channel < kChannelCount then engine.readings ⟨channel, h⟩
  else makeReading none .missingSample none 0

end Ds18b20SamplingEngine

/-! ## Runs -/

/-- What the firmware asks of the engine. -/
inductive SamplingCall (Value : Type)
  | setBinding (bindings : Vector (Option Ds18b20ChannelBinding) kExpectedRomChannelCount)
  | step (clock : StepClock) (answers : SensorBus → BusAnswers Value)

def SamplingCall.apply (engine : Ds18b20SamplingEngine Value) :
    SamplingCall Value → Ds18b20SamplingEngine Value
  | .setBinding bindings => engine.setBinding bindings
  | .step clock answers => engine.step clock answers

/-- The engine after these calls, from its first moment on. -/
def sampled (calls : List (SamplingCall Value)) : Ds18b20SamplingEngine Value :=
  calls.foldl SamplingCall.apply {}

/-- The addresses the bound channels expect after the call. -/
def SamplingCall.expects (expected : ExpectedRoms) : SamplingCall Value → ExpectedRoms
  | .setBinding bindings => (validBinding bindings).getD fun _ => none
  | .step _ _ => expected

def boundBy (calls : List (SamplingCall Value)) : ExpectedRoms :=
  calls.foldl SamplingCall.expects fun _ => none

end Fermentationsschrank.DevicePlatform

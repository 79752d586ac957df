import Fermentationsschrank.Configuration.UserConfiguration
import Fermentationsschrank.Core.CompactJson
import Fermentationsschrank.Program.ProgramCatalog
import Fermentationsschrank.Web.UiProjection

/-!
# Answers of the web interface

The status, the alerts and the selectable programs as JSON.  The library prints into a buffer
of a fixed size, and a text that is longer than an answer may be is refused as a whole.
-/

namespace Fermentationsschrank

open CompactJson

def kMaximumWebApiResponseBodyBytes : ℕ := 3072
def kMaximumWebApiAlertCount : ℕ := 16
def kCJsonPrintSafetyMarginBytes : ℕ := 5

/-- The JSON library, as far as it decides about sizes: the text of a number, and whether a text
of some length is printed into a buffer.  A whole number of 32 bits is printed in decimal, every
number comes from a buffer of 26 bytes with a terminator, and the margin that the library asks
for is enough. -/
structure CJson where
  whole : ℕ → Bytes
  number : Binary64 → Bytes
  prints : ℕ → ℕ → Bool
  whole_eq : ∀ value < 2 ^ 32, whole value = decimal value
  length_whole : ∀ value, (whole value).length ≤ 25
  length_number : ∀ value, (number value).length ≤ 25
  prints_of_room : ∀ length buffer, length + kCJsonPrintSafetyMarginBytes + 1 ≤ buffer →
    prints length buffer = true

variable (cJson : CJson)

/-! ## Values -/

/-- The library takes a text up to its terminator. -/
def cString (text : Bytes) : Bytes := text.takeWhile (· ≠ 0)

def addString (key : String) (text : Bytes) : Bytes × Bytes :=
  (literal key, string (cString text))

/-- A name of the source. -/
def addName (key name : String) : Bytes × Bytes := addString key (literal name)

def addWhole (key : String) (value : ℕ) : Bytes × Bytes := (literal key, cJson.whole value)

def addBool (key : String) (value : Bool) : Bytes × Bytes :=
  (literal key, if value then literal "true" else literal "false")

def addNull (key : String) : Bytes × Bytes := (literal key, literal "null")

/-- A number that is not finite is refused. -/
def addNumber (key : String) (value : Binary64) : Option (Bytes × Bytes) :=
  if value.isFinite then some (literal key, cJson.number value) else none

def addOptionalNumber (key : String) : Option Binary64 → Option (Bytes × Bytes)
  | none => some (addNull key)
  | some value => addNumber cJson key value

def addOptionalSeconds (key : String) : Option UInt64 → Option (Bytes × Bytes)
  | none => some (addNull key)
  | some value =>
    if value ≤ kMaximumJsonSafeInteger then some (addWhole cJson key value.toNat) else none

def addTextOrNull (key : String) (text : Bytes) : Bytes × Bytes :=
  if text = [] then addNull key else addString key text

def serializeBounded (document : Bytes) : Option Bytes :=
  if cJson.prints document.length
      (kMaximumWebApiResponseBodyBytes + kCJsonPrintSafetyMarginBytes + 1) then
    if document.length = 0 ∨ kMaximumWebApiResponseBodyBytes < document.length then none
    else some document
  else none

/-! ## Names -/

def homeModeName : FermentationHomeMode → String
  | .standby => "standby"
  | .activeRun => "active-run"
  | .waiting => "waiting"
  | .completed => "completed"
  | .restricted => "restricted"
  | .recovery => "recovery"
  | .unavailable => "unavailable"

def processStateName : ProcessState → String
  | .boot => "boot"
  | .safeBoot => "safe-boot"
  | .standby => "standby"
  | .preheating => "preheating"
  | .waitingForProduct => "waiting-for-product"
  | .reachingTarget => "reaching-target"
  | .qualifyingTarget => "qualifying-target"
  | .fermenting => "fermenting"
  | .cooling => "cooling"
  | .coolHolding => "cool-holding"
  | .manualHolding => "manual-holding"
  | .completed => "completed"
  | .recoveryEvaluation => "recovery-evaluation"
  | .fault => "fault"
  | .serviceMode => "service-mode"

def networkModeName (value : NetworkMode) (selectionRequired : Bool) : String :=
  if selectionRequired then "selection-required"
  else
    match value with
    | .apOnly => "ap-only"
    | .homeWifi => "home-wifi"
    | .unselected => "selection-required"

def messageCodeName : MessageCode → String
  | .productInsertionRequested => "product-insertion-requested"
  | .targetReachTimeExceeded => "target-reach-time-exceeded"
  | .userDecisionRequired => "user-decision-required"
  | .runCompleted => "run-completed"
  | .runAborted => "run-aborted"
  | .recoveryPending => "recovery-pending"
  | .safetyFault => "safety-fault"

def messageSeverityName : MessageClass → String
  | .information => "information"
  | .processWarning => "warning"
  | .recovery => "recovery"
  | .decisionRequired => "decision-required"
  | .safetyFault => "safety-fault"

def sourceKindName : ProgramSourceKind → String
  | .factoryCatalog => "factory-catalog"
  | .userProgram => "user-program"
  | .manualTimed => "manual-timed"

def completionModeName : CompletionMode → String
  | .finishWithoutCooling => "finish"
  | .coolThenFinish => "cool-finish"
  | .coolAndHoldForDuration => "cool-hold-duration"
  | .coolAndHoldUntilManualStop => "cool-hold-manual"

def remainingKindName : RunDetailRemainingKind → String
  | .timed => "timed"
  | .unknown => "unknown"
  | .unbounded => "unbounded"
  | .notApplicable => "not-applicable"

inductive DeviceUiNetworkStatus
  | connected
  | disconnected
  | unavailable
  deriving DecidableEq, Repr

def networkStateName : DeviceUiNetworkStatus → String
  | .connected => "connected"
  | .disconnected => "disconnected"
  | .unavailable => "unavailable"

/-! ## Programs -/

/-- A program that can be selected, by its identifier and its name. -/
def programItem (program : ProgramDefinition) : Bytes :=
  object [addString "id" program.id, addString "name" program.name]

def selectablePrograms (catalog : ProgramCatalog) : List ProgramDefinition :=
  (catalog.programs.map (·.program)).filter fun program => program.installed && program.enabled

def encodeWebApiPrograms (catalogRevision : UInt64) (catalog : ProgramCatalog) : Option Bytes :=
  if kMaximumProgramCount < catalog.programs.length then none
  else
    serializeBounded cJson (object [
      addWhole cJson "version" 1,
      addString "catalogRevision" (decimal catalogRevision.toNat),
      (literal "programs", array ((selectablePrograms catalog).map programItem))])

/-! ## Alerts -/

/-- The messages that a run keeps. -/
def kMaximumRuntimeMessages : ℕ := 16

/-- A message as the interfaces see it.  Whether it asks for a decision is read by no command,
so that the live state does not keep it. -/
structure MessageView where
  message : RuntimeMessage
  decisionRequired : Bool
  deriving DecidableEq, Repr

def alertItem (view : MessageView) : Bytes :=
  object [
    addWhole cJson "id" view.message.id.toNat,
    addName "code" (messageCodeName view.message.code),
    addName "severity" (messageSeverityName view.message.messageClass),
    addBool "active" view.message.active,
    addBool "acknowledged" view.message.acknowledged,
    addBool "resolved" view.message.resolved,
    addBool "decisionRequired" view.decisionRequired,
    addBool "muted" view.message.acousticMuted,
    addWhole cJson "revision" view.message.revision.toNat]

def encodeWebApiAlerts (messages : List MessageView) : Option Bytes :=
  if kMaximumWebApiAlertCount < messages.length then none
  else
    serializeBounded cJson (object [
      addWhole cJson "version" 1,
      (literal "alerts", array (messages.map (alertItem cJson)))])

/-! ## Status -/

structure FermentationUiExpectedRevisions where
  expectedStateSequence : UInt32 := 0
  expectedRunRevision : Option UInt32 := none
  expectedMessageRevision : Option UInt32 := none
  expectedFaultRevision : Option UInt32 := none
  expectedRecoveryEpisodeRevision : Option UInt32 := none
  expectedUserConfigurationRevision : Option UInt64 := none
  expectedProgramCatalogRevision : Option UInt64 := none
  deriving DecidableEq, Repr

/-- The parts of the snapshot that the status shows. -/
structure StatusSnapshot where
  revisions : FermentationUiExpectedRevisions := {}
  home : FermentationHomeView := {}
  ready : Bool := false
  networkMode : NetworkMode := .unselected
  selectionRequired : Bool := true

structure FermentationDeviceInfoView where
  deviceName : Option Bytes := none
  timeZoneId : Bytes := []
  localTime : Option LocalTime := none
  connection : DeviceUiNetworkStatus := .unavailable

def addRevision (key : String) (revision : Option UInt32) : List (Bytes × Bytes) :=
  (revision.map fun value => addWhole cJson key value.toNat).toList

/-- A revision of 64 bits is a text. -/
def addLongRevision (key : String) (revision : Option UInt64) : List (Bytes × Bytes) :=
  (revision.map fun value => addString key (decimal value.toNat)).toList

def revisionsObject (revisions : FermentationUiExpectedRevisions) : Bytes :=
  object (addWhole cJson "stateSequence" revisions.expectedStateSequence.toNat ::
    (addRevision cJson "run" revisions.expectedRunRevision ++
      addRevision cJson "messages" revisions.expectedMessageRevision ++
      addRevision cJson "fault" revisions.expectedFaultRevision ++
      addRevision cJson "recoveryEpisode" revisions.expectedRecoveryEpisodeRevision ++
      addLongRevision "userConfiguration" revisions.expectedUserConfigurationRevision ++
      addLongRevision "programCatalog" revisions.expectedProgramCatalogRevision))

def completionObject : Option RunDetailCompletion → Option Bytes
  | none => some (literal "null")
  | some completion => do
    let cooling ← addOptionalNumber cJson "coolingTargetCelsius" completion.coolingTargetCelsius
    return object [
      addName "mode" (completionModeName completion.mode),
      cooling,
      match completion.holdDurationMinutes with
      | some minutes => addWhole cJson "holdDurationMinutes" minutes.toNat
      | none => addNull "holdDurationMinutes"]

def timeObject (time : RunDetailTime) : Option Bytes := do
  let elapsed ← addOptionalSeconds cJson "elapsedSeconds" time.elapsedSeconds
  let remaining ← addOptionalSeconds cJson "remainingSeconds" time.remainingSeconds
  return object [addName "scope" "phase", elapsed, remaining,
    addName "remainingKind" (remainingKindName time.remainingKind)]

def runObject (home : FermentationHomeView) : Option Bytes :=
  match home.runDetail with
  | none => some (literal "null")
  | some detail => do
    let target ← addOptionalNumber cJson "targetCelsius" detail.targetCelsius
    let completion ← completionObject cJson detail.completion
    let time ← timeObject cJson detail.time
    return object [
      addTextOrNull "id" home.activeRunId,
      match detail.sourceKind with
      | some kind => addName "sourceKind" (sourceKindName kind)
      | none => addNull "sourceKind",
      addTextOrNull "programName" home.programName,
      target,
      (literal "completion", completion),
      (literal "time", time)]

/-- Two digits, and more where the number has more. -/
def padded (width value : ℕ) : Bytes :=
  List.replicate (width - (decimal value).length) 48 ++ decimal value

/-- The clock is shown when the text has the length it should have. -/
def clockText (time : LocalTime) : Option Bytes :=
  let text := padded 4 time.year.toNat ++ [45] ++ padded 2 time.month ++ [45] ++
    padded 2 time.day ++ [32] ++ padded 2 time.hour ++ [58] ++ padded 2 time.minute
  if text.length = 16 then some text else none

def clockObject (device : FermentationDeviceInfoView) : Bytes :=
  match device.localTime with
  | none => literal "null"
  | some time =>
    if device.timeZoneId = [] ∨ time.year < 0 ∨ 9999 < time.year then literal "null"
    else
      match clockText time with
      | none => literal "null"
      | some text => object [addString "local" text, addString "zone" device.timeZoneId]

def encodeWebApiStatus (snapshot : StatusSnapshot) (device : FermentationDeviceInfoView) :
    Option Bytes := do
  let run ← runObject cJson snapshot.home
  serializeBounded cJson (object [
    addWhole cJson "version" 1,
    addBool "ready" snapshot.ready,
    addName "homeMode" (homeModeName snapshot.home.mode),
    addName "processState" (processStateName snapshot.home.processState),
    addName "networkMode" (networkModeName snapshot.networkMode snapshot.selectionRequired),
    addBool "selectionRequired" snapshot.selectionRequired,
    (literal "revisions", revisionsObject cJson snapshot.revisions),
    (literal "run", run),
    match device.deviceName with
    | some name => addString "deviceName" name
    | none => addNull "deviceName",
    addName "networkState" (networkStateName device.connection),
    (literal "clock", clockObject device)])

end Fermentationsschrank

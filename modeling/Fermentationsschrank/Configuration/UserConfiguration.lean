import Fermentationsschrank.Configuration.ConfigurationText
import Fermentationsschrank.Network.NetworkConfigurationService

/-!
# User configuration

What the user sets for the device: the language, the theme, the time zone, the name and the
network mode.  Each identifier has to be one that the firmware knows.
-/

namespace Fermentationsschrank

/-! ## Limits and catalogs of the firmware -/

def kMinimumLanguageIdBytes : ℕ := 2
def kMaximumLanguageIdBytes : ℕ := 16
def kMinimumThemeIdBytes : ℕ := 1
def kMaximumThemeIdBytes : ℕ := 48
def kMinimumTimeZoneIdBytes : ℕ := 1
def kMaximumTimeZoneIdBytes : ℕ := 64

def kLanguages : List Bytes := [literal "de", literal "es", literal "en"]

def kKnownThemes : List Bytes := [literal "manuengineer-dark", literal "manuengineer-light"]

def kSupportedTimeZones : List Bytes := [literal "Europe/Zurich"]

/-! ## Time zones -/

def allowedTimeZoneCharacter (value : Byte) : Bool :=
  (65 ≤ value ∧ value ≤ 90) ∨ (97 ≤ value ∧ value ≤ 122) ∨ (48 ≤ value ∧ value ≤ 57) ∨
    value = 46 ∨ value = 95 ∨ value = 45 ∨ value = 43

/-- A part of an identifier between two slashes. -/
def validTimeZoneComponent (component : Bytes) : Bool :=
  component ≠ [] ∧ component ≠ [46] ∧ component ≠ [46, 46]

/-- The loop over the bytes; the slash is 47, and the component is the one that the current
byte belongs to. -/
def scanTimeZone (component : Bytes) : Bytes → ConfigurationTextStatus
  | [] => if validTimeZoneComponent component then .success else .invalidTimeZoneStructure
  | byte :: rest =>
    if byte = 47 then
      if validTimeZoneComponent component then scanTimeZone [] rest
      else .invalidTimeZoneStructure
    else if !allowedTimeZoneCharacter byte then .invalidAsciiCharacter
    else scanTimeZone (component ++ [byte]) rest

def validateTimeZoneIdentifierStructure (value : Bytes) : ConfigurationTextStatus :=
  if value.length < kMinimumTimeZoneIdBytes then .tooShort
  else if kMaximumTimeZoneIdBytes < value.length then .tooLong
  else if value = literal "Etc/Unknown" ∨ value.head? = some 47 ∨ value.getLast? = some 47 then
    .invalidTimeZoneStructure
  else scanTimeZone [] value

inductive TimeZonePrepareStatus
  | success
  | unsupportedIdentifier
  | preparationFailed
  deriving DecidableEq, Repr

/-- What a resolver of time zones answers: the zone by its canonical identifier. -/
structure TimeZonePrepareResult where
  status : TimeZonePrepareStatus := .preparationFailed
  canonicalIdentifier : Option Bytes := none
  deriving DecidableEq, Repr

/-! ## The configuration -/

structure UserConfiguration where
  displayLanguageId : Bytes
  timeZoneId : Bytes
  deviceName : Bytes
  activeThemeId : Bytes
  networkMode : NetworkMode := .unselected
  deriving DecidableEq, Repr

inductive UserConfigurationStatus
  | success
  | invalidLanguageId
  | unknownLanguageId
  | invalidThemeId
  | unknownThemeId
  | invalidTimeZoneId
  | unknownTimeZoneId
  | timeZoneRejected
  | timeZonePreparationFailed
  | invalidDeviceName
  | invalidNetworkMode
  deriving DecidableEq, Repr

local instance lawfulKnownIdentifiers : LawfulBEq Bytes := inferInstance

/-- Every mode of the model is a valid one. -/
def validateUserConfiguration (configuration : UserConfiguration)
    (prepare : Bytes → TimeZonePrepareResult) : UserConfigurationStatus :=
  if validateLowercaseIdentifier configuration.displayLanguageId kMinimumLanguageIdBytes
      kMaximumLanguageIdBytes ≠ .success then .invalidLanguageId
  else if configuration.displayLanguageId ∉ kLanguages then .unknownLanguageId
  else if validateLowercaseIdentifier configuration.activeThemeId kMinimumThemeIdBytes
      kMaximumThemeIdBytes ≠ .success then .invalidThemeId
  else if configuration.activeThemeId ∉ kKnownThemes then .unknownThemeId
  else if validateTimeZoneIdentifierStructure configuration.timeZoneId ≠ .success then
    .invalidTimeZoneId
  else if configuration.timeZoneId ∉ kSupportedTimeZones then .unknownTimeZoneId
  else if validateVisibleName configuration.deviceName ≠ .success then .invalidDeviceName
  else
    let prepared := prepare configuration.timeZoneId
    if prepared.status = .unsupportedIdentifier then .timeZoneRejected
    else if prepared.status ≠ .success ∨
        prepared.canonicalIdentifier ≠ some configuration.timeZoneId then
      .timeZonePreparationFailed
    else .success

theorem validateUserConfiguration_texts {configuration : UserConfiguration}
    {prepare : Bytes → TimeZonePrepareResult}
    (h : validateUserConfiguration configuration prepare = .success) :
    configuration.timeZoneId ∈ kSupportedTimeZones ∧
      validateVisibleName configuration.deviceName = .success := by
  simp only [validateUserConfiguration] at h
  split_ifs at h with hlanguage hknown htheme hlisted hstructure hzone hname
  exact ⟨hzone, not_not.mp hname⟩

end Fermentationsschrank

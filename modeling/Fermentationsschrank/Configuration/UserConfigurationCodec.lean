import Fermentationsschrank.Configuration.ConfigurationGraph
import Fermentationsschrank.Configuration.UserConfiguration
import Fermentationsschrank.Core.FormatSizes
import Fermentationsschrank.Program.ProgramDocumentCodec

/-!
# User configuration codec

Three texts, since the second schema the theme, since the third one the network mode.  A field
that a schema does not carry has its default.
-/

namespace Fermentationsschrank

/-- The theme of a configuration that names none. -/
def kDefaultThemeId : Bytes := literal "manuengineer-dark"

/-! ## Fields -/

/-- The texts of a schema with or without the theme. -/
def userTexts (withTheme : Bool) : Format (Bytes × Bytes × Bytes × Bytes) :=
  (Format.text kMaximumLanguageIdBytes).pair <| (Format.text kMaximumTimeZoneIdBytes).pair <|
    (Format.text kMaximumVisibleNameBytes).pair <|
    Format.since withTheme kDefaultThemeId (Format.text kMaximumThemeIdBytes)

def NetworkMode.wireValue : NetworkMode → UInt8
  | .unselected => 0
  | .apOnly => 1
  | .homeWifi => 2

/-- A raw value is a mode when it is valid. -/
def NetworkMode.ofWireValue (raw : UInt8) : Option NetworkMode :=
  [NetworkMode.unselected, .apOnly, .homeWifi].find? fun mode => mode.wireValue = raw

/-- The raw mode of a schema with or without it. -/
def rawMode (withMode : Bool) : Format UInt8 :=
  Format.since withMode NetworkMode.unselected.wireValue Format.uint8

def supportedUserSchema (schemaVersion : UInt32) : Bool :=
  1 ≤ schemaVersion ∧ schemaVersion ≤ 3

/-! ## Encoding and decoding -/

def encodeUserConfigurationPayload (configuration : UserConfiguration) (schemaVersion : UInt32)
    (prepare : Bytes → TimeZonePrepareResult) : Except ConfigurationCodecStatus Bytes := do
  require (supportedUserSchema schemaVersion) .unsupportedSchema
  require (validateUserConfiguration configuration prepare = .success) .invalidDocument
  let texts ← orFail ((userTexts (2 ≤ schemaVersion)).write (configuration.displayLanguageId,
    configuration.timeZoneId, configuration.deviceName, configuration.activeThemeId))
    .capacityExceeded
  let mode ← orFail ((rawMode (3 ≤ schemaVersion)).write configuration.networkMode.wireValue)
    .capacityExceeded
  require ((texts ++ mode).length ≤ kMaximumUserConfigurationPayloadBytes) .capacityExceeded
  return texts ++ mode

def decodeUserConfigurationPayload (schemaVersion : UInt32) (payload : Bytes)
    (prepare : Bytes → TimeZonePrepareResult) :
    Except ConfigurationCodecStatus UserConfiguration := do
  require (supportedUserSchema schemaVersion) .unsupportedSchema
  require (payload.length ≤ kMaximumUserConfigurationPayloadBytes) .capacityExceeded
  let ((displayLanguageId, timeZoneId, deviceName, activeThemeId), rest) ←
    orFail ((userTexts (2 ≤ schemaVersion)).read payload) .truncated
  let (raw, rest) ← orFail ((rawMode (3 ≤ schemaVersion)).read rest) .invalidWireValue
  require rest.isEmpty .trailingBytes
  -- The validation refuses a raw value that is no mode.
  let networkMode ← orFail (NetworkMode.ofWireValue raw) .invalidDocument
  let candidate : UserConfiguration :=
    { displayLanguageId, timeZoneId, deviceName, activeThemeId, networkMode }
  require (validateUserConfiguration candidate prepare = .success) .invalidDocument
  return candidate

/-! ## Round trip -/

variable {configuration : UserConfiguration} {prepare : Bytes → TimeZonePrepareResult}
variable {schemaVersion : UInt32} {payload out : Bytes}

theorem NetworkMode.ofWireValue_eq_some {raw : UInt8} {mode : NetworkMode} :
    NetworkMode.ofWireValue raw = some mode ↔ raw = mode.wireValue := by
  constructor
  · intro h
    have hraw := List.find?_some h
    exact (of_decide_eq_true hraw).symm
  · rintro rfl
    cases mode <;> rfl

/-- The texts of a valid configuration respect the bounds of the reader. -/
theorem userTexts_length (h : validateUserConfiguration configuration prepare = .success) :
    configuration.displayLanguageId.length ≤ kMaximumLanguageIdBytes ∧
      configuration.timeZoneId.length ≤ kMaximumTimeZoneIdBytes ∧
      configuration.deviceName.length ≤ kMaximumVisibleNameBytes ∧
      configuration.activeThemeId.length ≤ kMaximumThemeIdBytes := by
  simp only [validateUserConfiguration] at h
  split_ifs at h with hlanguage hknown htheme hlisted hstructure hzone hname
  refine ⟨length_le_of_validateLowercaseIdentifier (not_not.mp hlanguage), ?_,
    length_le_of_validateUnicodeText (not_not.mp hname),
    length_le_of_validateLowercaseIdentifier (not_not.mp htheme)⟩
  have hstructure := not_not.mp hstructure
  rw [validateTimeZoneIdentifierStructure] at hstructure
  by_contra hlong
  rw [if_pos (Nat.lt_of_not_le hlong)] at hstructure
  split_ifs at hstructure

/-- What a schema does not carry has its default. -/
def UserConfiguration.CarriedBy (configuration : UserConfiguration) (schemaVersion : UInt32) :
    Prop :=
  (¬2 ≤ schemaVersion → configuration.activeThemeId = kDefaultThemeId) ∧
    (¬3 ≤ schemaVersion → configuration.networkMode = .unselected)

/-- The fields of a valid configuration are written, and they fit. -/
theorem exists_userFields (schemaVersion : UInt32)
    (h : validateUserConfiguration configuration prepare = .success) :
    ∃ texts mode, (userTexts (2 ≤ schemaVersion)).write (configuration.displayLanguageId,
        configuration.timeZoneId, configuration.deviceName, configuration.activeThemeId) =
          some texts ∧
      (rawMode (3 ≤ schemaVersion)).write configuration.networkMode.wireValue = some mode ∧
      (texts ++ mode).length ≤ kMaximumUserConfigurationPayloadBytes := by
  obtain ⟨hlanguage, hzone, hname, htheme⟩ := userTexts_length h
  have hlanguageFits : Format.Fits ((Format.text kMaximumLanguageIdBytes).write
      configuration.displayLanguageId) (2 + kMaximumLanguageIdBytes) :=
    Format.fits_text hlanguage (by decide)
  have hzoneFits : Format.Fits ((Format.text kMaximumTimeZoneIdBytes).write
      configuration.timeZoneId) (2 + kMaximumTimeZoneIdBytes) := Format.fits_text hzone (by decide)
  have hnameFits : Format.Fits ((Format.text kMaximumVisibleNameBytes).write
      configuration.deviceName) (2 + kMaximumVisibleNameBytes) := Format.fits_text hname (by decide)
  have hthemeFits : Format.Fits ((Format.text kMaximumThemeIdBytes).write
      configuration.activeThemeId) (2 + kMaximumThemeIdBytes) := Format.fits_text htheme (by decide)
  have hmodeFits : Format.Fits (Format.uint8.write configuration.networkMode.wireValue) 1 :=
    (Format.writes_uint8 _).fits
  obtain ⟨texts, htexts, htextsLength⟩ :=
    Format.fits_pair hlanguageFits <| Format.fits_pair hzoneFits <| Format.fits_pair hnameFits <|
      Format.fits_since (2 ≤ schemaVersion) kDefaultThemeId hthemeFits
  obtain ⟨mode, hmode, hmodeLength⟩ :=
    Format.fits_since (3 ≤ schemaVersion) NetworkMode.unselected.wireValue hmodeFits
  refine ⟨texts, mode, htexts, hmode, ?_⟩
  rw [List.length_append, kMaximumUserConfigurationPayloadBytes]
  rw [kMaximumLanguageIdBytes, kMaximumTimeZoneIdBytes, kMaximumVisibleNameBytes,
    kMaximumThemeIdBytes] at htextsLength
  omega

theorem encodeUserConfigurationPayload_eq_ok :
    encodeUserConfigurationPayload configuration schemaVersion prepare = .ok payload ↔
      supportedUserSchema schemaVersion = true ∧
        validateUserConfiguration configuration prepare = .success ∧
        ∃ texts mode, (userTexts (2 ≤ schemaVersion)).write (configuration.displayLanguageId,
            configuration.timeZoneId, configuration.deviceName, configuration.activeThemeId) =
              some texts ∧
          (rawMode (3 ≤ schemaVersion)).write configuration.networkMode.wireValue = some mode ∧
          payload = texts ++ mode := by
  simp only [encodeUserConfigurationPayload, bind_eq_ok, require_eq_ok, orFail_eq_ok,
    decide_eq_true_eq, exists_const]
  constructor
  · rintro ⟨hversion, hvalid, texts, htexts, mode, hmode, -, hpayload⟩
    cases hpayload
    exact ⟨hversion, hvalid, texts, mode, htexts, hmode, rfl⟩
  · rintro ⟨hversion, hvalid, texts, mode, htexts, hmode, rfl⟩
    obtain ⟨written, raw, hwritten, hraw, hlength⟩ := exists_userFields schemaVersion hvalid
    rw [htexts, Option.some.injEq] at hwritten
    rw [hmode, Option.some.injEq] at hraw
    subst hwritten hraw
    exact ⟨hversion, hvalid, texts, htexts, mode, hmode, hlength, rfl⟩

theorem readable_userTexts (h : validateUserConfiguration configuration prepare = .success)
    (hcarried : configuration.CarriedBy schemaVersion) :
    (userTexts (2 ≤ schemaVersion)).Readable (configuration.displayLanguageId,
      configuration.timeZoneId, configuration.deviceName, configuration.activeThemeId) := by
  obtain ⟨hlanguage, hzone, hname, htheme⟩ := userTexts_length h
  refine ⟨hlanguage, hzone, hname, ?_⟩
  by_cases hversion : 2 ≤ schemaVersion
  · rw [decide_eq_true hversion]
    exact htheme
  · rw [decide_eq_false hversion]
    exact hcarried.1 hversion

theorem readable_rawMode (hcarried : configuration.CarriedBy schemaVersion) :
    (rawMode (3 ≤ schemaVersion)).Readable configuration.networkMode.wireValue := by
  by_cases hversion : 3 ≤ schemaVersion
  · rw [decide_eq_true hversion]
    exact Format.readable_uint8 _
  · rw [decide_eq_false hversion, hcarried.2 hversion]
    exact (Format.readable_since_false _ _ _).mpr rfl

theorem carried_of_read {texts : Bytes × Bytes × Bytes × Bytes} {raw : UInt8} {bytes rest : Bytes}
    {middle : Bytes} {networkMode : NetworkMode}
    (htexts : (userTexts (2 ≤ schemaVersion)).read bytes = some (texts, middle))
    (hraw : (rawMode (3 ≤ schemaVersion)).read middle = some (raw, rest))
    (hmode : NetworkMode.ofWireValue raw = some networkMode) :
    UserConfiguration.CarriedBy ⟨texts.1, texts.2.1, texts.2.2.1, texts.2.2.2, networkMode⟩
      schemaVersion := by
  constructor
  · intro hversion
    have htheme := (Format.readable_of_read _ htexts).2.2.2
    rw [decide_eq_false hversion] at htheme
    exact htheme
  · intro hversion
    have habsent := Format.readable_of_read _ hraw
    rw [decide_eq_false hversion] at habsent
    have hunselected : raw = NetworkMode.unselected.wireValue := habsent
    rw [hunselected, NetworkMode.ofWireValue_eq_some.mpr rfl, Option.some.injEq] at hmode
    exact hmode.symm

/-- In each schema the payload of a configuration is the only one that is read as it. -/
theorem decodeUserConfigurationPayload_eq_ok :
    decodeUserConfigurationPayload schemaVersion payload prepare = .ok configuration ↔
      encodeUserConfigurationPayload configuration schemaVersion prepare = .ok payload ∧
        configuration.CarriedBy schemaVersion := by
  rw [encodeUserConfigurationPayload_eq_ok]
  simp only [decodeUserConfigurationPayload, bind_eq_ok, require_eq_ok, orFail_eq_ok,
    decide_eq_true_eq, exists_const, Prod.exists, List.isEmpty_iff]
  constructor
  · rintro ⟨hversion, -, language, zone, name, theme, middle, htexts, raw, rest, hraw, rfl, mode,
      hmode, hvalid, hsame⟩
    cases hsame
    obtain ⟨front, hfront, rfl⟩ := Format.write_read _ htexts
    refine ⟨⟨hversion, hvalid, front, middle, hfront, ?_, rfl⟩,
      carried_of_read htexts hraw hmode⟩
    rw [← NetworkMode.ofWireValue_eq_some.mp hmode]
    exact Format.write_of_read_all _ hraw
  · rintro ⟨⟨hversion, hvalid, texts, mode, htexts, hmode, rfl⟩, hcarried⟩
    obtain ⟨written, raw, hwritten, hraw, hlength⟩ := exists_userFields schemaVersion hvalid
    rw [htexts, Option.some.injEq] at hwritten
    rw [hmode, Option.some.injEq] at hraw
    subst hwritten hraw
    have hreadTexts := Format.read_write _ (readable_userTexts hvalid hcarried) htexts mode
    have hreadMode := Format.read_of_write_all _ (readable_rawMode hcarried) hmode
    exact ⟨hversion, hlength, _, _, _, _, mode, hreadTexts, _, [], hreadMode, rfl, _,
      NetworkMode.ofWireValue_eq_some.mpr rfl, hvalid, rfl⟩

/-- Every valid configuration is written in every schema. -/
theorem exists_encodeUserConfigurationPayload :
    (∃ payload, encodeUserConfigurationPayload configuration schemaVersion prepare = .ok payload) ↔
      supportedUserSchema schemaVersion = true ∧
        validateUserConfiguration configuration prepare = .success := by
  simp only [encodeUserConfigurationPayload_eq_ok]
  constructor
  · rintro ⟨payload, hversion, hvalid, -⟩
    exact ⟨hversion, hvalid⟩
  · rintro ⟨hversion, hvalid⟩
    obtain ⟨texts, mode, htexts, hmode, -⟩ := exists_userFields schemaVersion hvalid
    exact ⟨texts ++ mode, hversion, hvalid, texts, mode, htexts, hmode, rfl⟩

end Fermentationsschrank

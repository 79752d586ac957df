import Fermentationsschrank.Core.Utf8
import Fermentationsschrank.Core.Fallible

/-!
# Configuration texts

The rules for identifiers, for visible names and for notes.  Names and notes are read
scalar by scalar; the first scalar that breaks a rule decides the status.
-/

namespace Fermentationsschrank

inductive ConfigurationTextStatus
  | success
  | tooShort
  | tooLong
  | invalidAsciiCharacter
  | invalidHyphenPlacement
  | invalidUtf8
  | tooManyScalars
  | forbiddenCodePoint
  | onlyWhitespace
  | leadingOrTrailingWhitespace
  | invalidTimeZoneStructure
  deriving DecidableEq, Repr

/-! ## Scalars -/

structure Utf8Scalar where
  value : UInt32
  width : ℕ
  deriving DecidableEq, Repr

/-- The width of the scalar that a lead byte of several bytes begins, its first bits, and the
least value that may be written in so many bytes. -/
def scalarLead (first : Byte) : Option (ℕ × UInt32 × UInt32) :=
  if 0xC2 ≤ first ∧ first ≤ 0xDF then some (2, (first &&& 0x1F).toUInt32, 0x80)
  else if 0xE0 ≤ first ∧ first ≤ 0xEF then some (3, (first &&& 0x0F).toUInt32, 0x800)
  else if 0xF0 ≤ first ∧ first ≤ 0xF4 then some (4, (first &&& 0x07).toUInt32, 0x10000)
  else none

def appendContinuations (value : UInt32) : Bytes → Option UInt32
  | [] => some value
  | next :: rest =>
      if next &&& 0xC0 ≠ 0x80 then none
      else appendContinuations (value <<< 6 ||| (next &&& 0x3F).toUInt32) rest

/-- The scalar at the beginning of the text that is left. -/
def decodeScalar : Bytes → Option Utf8Scalar
  | [] => none
  | first :: rest =>
      if first ≤ 0x7F then some ⟨first.toUInt32, 1⟩
      else do
        let (width, lead, minimum) ← scalarLead first
        if (first :: rest).length < width then none
        else
          let value ← appendContinuations lead (rest.take (width - 1))
          if value < minimum ∨ 0x10FFFF < value ∨ (0xD800 ≤ value ∧ value ≤ 0xDFFF) then none
          else some ⟨value, width⟩

def isUnicodeWhitespace (value : UInt32) : Bool :=
  (0x0009 ≤ value ∧ value ≤ 0x000D) ∨ value = 0x0020 ∨ value = 0x0085 ∨ value = 0x00A0 ∨
    value = 0x1680 ∨ (0x2000 ≤ value ∧ value ≤ 0x200A) ∨
    value ∈ [0x2028, 0x2029, 0x202F, 0x205F] ∨ value = 0x3000

def isControl (value : UInt32) : Bool := value ≤ 0x001F ∨ (0x007F ≤ value ∧ value ≤ 0x009F)

/-! ## Texts -/

/-- What the scan of a text remembers. -/
structure TextScan where
  scalarCount : ℕ := 0
  hasNonWhitespace : Bool := false
  firstWhitespace : Bool := false
  lastWhitespace : Bool := false
  deriving DecidableEq, Repr

def TextScan.take (scan : TextScan) (scalar : Utf8Scalar) : TextScan :=
  let whitespace := isUnicodeWhitespace scalar.value
  { scalarCount := scan.scalarCount + 1
    hasNonWhitespace := scan.hasNonWhitespace || !whitespace
    firstWhitespace := if scan.scalarCount = 0 then whitespace else scan.firstWhitespace
    lastWhitespace := whitespace }

/-- The loop over the scalars.  Each takes at least one byte, so the number of the bytes is
fuel enough. -/
def scanUnicodeText (maximumScalars : ℕ) (notes : Bool) :
    ℕ → TextScan → Bytes → Except ConfigurationTextStatus TextScan
  | _, scan, [] => .ok scan
  | 0, _, _ :: _ => .error .invalidUtf8
  | fuel + 1, scan, first :: rest => do
      let scalar ← orFail (decodeScalar (first :: rest)) .invalidUtf8
      require (!(isControl scalar.value && (!notes || scalar.value != 0x000A))) .forbiddenCodePoint
      require (!(scalar.value == 0x2028 || scalar.value == 0x2029)) .forbiddenCodePoint
      let scan := scan.take scalar
      require (scan.scalarCount ≤ maximumScalars) .tooManyScalars
      scanUnicodeText maximumScalars notes fuel scan ((first :: rest).drop scalar.width)

def validateUnicodeText (value : Bytes) (minimumScalars maximumScalars maximumBytes : ℕ)
    (notes : Bool) : ConfigurationTextStatus :=
  if maximumBytes < value.length then .tooLong
  else
    match scanUnicodeText maximumScalars notes value.length {} value with
    | .error status => status
    | .ok scan =>
        if scan.scalarCount < minimumScalars then .tooShort
        else if !notes && !scan.hasNonWhitespace then .onlyWhitespace
        else if !notes && (scan.firstWhitespace || scan.lastWhitespace) then
          .leadingOrTrailingWhitespace
        else .success

def kMinimumProgramIdBytes : ℕ := 1
def kMaximumProgramIdBytes : ℕ := 48
def kMinimumVisibleNameScalars : ℕ := 1
def kMaximumVisibleNameScalars : ℕ := 48
def kMaximumVisibleNameBytes : ℕ := 96
def kMaximumNotesScalars : ℕ := 512
def kMaximumNotesBytes : ℕ := 1024

def validateVisibleName (value : Bytes) : ConfigurationTextStatus :=
  validateUnicodeText value kMinimumVisibleNameScalars kMaximumVisibleNameScalars
    kMaximumVisibleNameBytes false

def validateProgramNotes (value : Bytes) : ConfigurationTextStatus :=
  validateUnicodeText value 0 kMaximumNotesScalars kMaximumNotesBytes true

/-! ## Identifiers -/

def isLowercaseAlphaNumeric (byte : Byte) : Bool :=
  (97 ≤ byte ∧ byte ≤ 122) ∨ (48 ≤ byte ∧ byte ≤ 57)

/-- The loop over the bytes of an identifier; a hyphen is 45. -/
def scanIdentifier (previousHyphen : Bool) : Bytes → ConfigurationTextStatus
  | [] => .success
  | current :: rest =>
      if !isLowercaseAlphaNumeric current && current != 45 then .invalidAsciiCharacter
      else if current == 45 && previousHyphen then .invalidHyphenPlacement
      else scanIdentifier (current == 45) rest

def validateLowercaseIdentifier (value : Bytes) (minimumBytes maximumBytes : ℕ) :
    ConfigurationTextStatus :=
  if value.length < minimumBytes then .tooShort
  else if maximumBytes < value.length then .tooLong
  else
    match scanIdentifier false value with
    | .success =>
        if !isLowercaseAlphaNumeric (value.headD 0) || !isLowercaseAlphaNumeric (value.getLastD 0)
        then .invalidHyphenPlacement
        else .success
    | status => status

/-! ## Lengths -/

theorem length_le_of_validateUnicodeText {value : Bytes} {least most limit : ℕ} {notes : Bool}
    (h : validateUnicodeText value least most limit notes = .success) : value.length ≤ limit := by
  rw [validateUnicodeText] at h
  by_contra hlong
  rw [if_pos (Nat.lt_of_not_le hlong)] at h
  cases h

theorem length_le_of_validateLowercaseIdentifier {value : Bytes} {least limit : ℕ}
    (h : validateLowercaseIdentifier value least limit = .success) : value.length ≤ limit := by
  rw [validateLowercaseIdentifier] at h
  by_cases hlong : limit < value.length
  · rw [if_pos hlong] at h
    split_ifs at h
  · exact Nat.le_of_not_lt hlong

end Fermentationsschrank

import Fermentationsschrank.Core.FormatBlock
import Fermentationsschrank.Network.ConnectivityCredentials

/-!
# Access point credentials

The name of the access point is the longest prefix of the device name that ends between
two UTF-8 code points and fits the name field, raw and escaped.  The password is drawn
letter by letter, and bytes that would favour some letters are thrown away.
-/

namespace Fermentationsschrank

structure SoftApCredentials where
  ssid : Bytes
  password : Bytes
  deriving DecidableEq, Repr

def kSoftApRawSsidMaximumBytes : ℕ := 24
def kSoftApEscapedSsidMaximumBytes : ℕ := 28

/-! ## Name -/

def isContinuation (value : Byte) : Bool := value &&& 0xC0 = 0x80

/-- The length of the code point that the bytes begin with. -/
def codePointLength : Bytes → Option ℕ
  | [] => none
  | first :: rest =>
      if first ≤ 0x7F then some 1
      else if 0xC2 ≤ first ∧ first ≤ 0xDF then
        match rest with
        | second :: _ => if isContinuation second then some 2 else none
        | [] => none
      else if 0xE0 ≤ first ∧ first ≤ 0xEF then
        match rest with
        | second :: third :: _ =>
            if !isContinuation third ∨
                (first = 0xE0 ∧ (second < 0xA0 ∨ 0xBF < second)) ∨
                (first = 0xED ∧ (second < 0x80 ∨ 0x9F < second)) ∨
                (first ≠ 0xE0 ∧ first ≠ 0xED ∧ !isContinuation second) then none
            else some 3
        | _ => none
      else if 0xF0 ≤ first ∧ first ≤ 0xF4 then
        match rest with
        | second :: third :: fourth :: _ =>
            if !isContinuation third ∨ !isContinuation fourth ∨
                (first = 0xF0 ∧ (second < 0x90 ∨ 0xBF < second)) ∨
                (first = 0xF4 ∧ (second < 0x80 ∨ 0x8F < second)) ∨
                (first ≠ 0xF0 ∧ first ≠ 0xF4 ∧ !isContinuation second) then none
            else some 4
        | _ => none
      else none

/-- The code points of the bytes.  Each takes at least one byte, so the number of the
bytes is fuel enough. -/
def codePoints : ℕ → Bytes → Option (List Bytes)
  | _, [] => some []
  | 0, _ :: _ => none
  | fuel + 1, bytes => do
      let length ← codePointLength bytes
      let rest ← codePoints fuel (bytes.drop length)
      return bytes.take length :: rest

/-- The code points that end within the raw limit. -/
def rawPoints (offset : ℕ) : List Bytes → List Bytes
  | [] => []
  | point :: rest =>
      if offset + point.length ≤ kSoftApRawSsidMaximumBytes then
        point :: rawPoints (offset + point.length) rest
      else rawPoints (offset + point.length) rest

/-- Backslash, semicolon, comma, colon and quotation mark. -/
def requiresWifiEscape (value : Byte) : Bool :=
  value = 92 ∨ value = 59 ∨ value = 44 ∨ value = 58 ∨ value = 34

def escapedLength (value : Bytes) : ℕ := value.length + value.countP requiresWifiEscape

/-- Drop code points from the end until the escaped name fits; the last one comes first. -/
def fitEscaped : List Bytes → List Bytes
  | [] => []
  | last :: earlier =>
      if kSoftApEscapedSsidMaximumBytes < escapedLength (last :: earlier).reverse.flatten then
        fitEscaped earlier
      else last :: earlier

def deriveSoftApSsid (deviceName : Bytes) : Option Bytes := do
  let points ← codePoints deviceName.length deviceName
  let candidate := (fitEscaped (rawPoints 0 points).reverse).reverse.flatten
  if candidate = [] then none else some candidate

/-! ## Password -/

/-- `256 - 256 % 42`. -/
def kRejectionLimit : Byte := 252

def letterOf (randomByte : Byte) : Byte :=
  kSoftApPasswordAlphabet.getD (randomByte.toNat % kSoftApPasswordAlphabet.length) 0

/-- The letters that one draw appends, at most up to the full length. -/
def appendLetters (password : Bytes) : Bytes → Bytes
  | [] => password
  | randomByte :: rest =>
      if kRejectionLimit ≤ randomByte then appendLetters password rest
      else
        let password := password ++ [letterOf randomByte]
        if password.length = kSoftApPasswordLength then password
        else appendLetters password rest

/-- Draw until the password is complete.  The random source is the list of the draws it
will serve; when they run out it refuses the next one. -/
def drawPassword (password : Bytes) : List (Block kSoftApPasswordLength) → Option Bytes
  | [] => if password.length < kSoftApPasswordLength then none else some password
  | randomBytes :: later =>
      if password.length < kSoftApPasswordLength then
        drawPassword (appendLetters password randomBytes.bytes) later
      else some password

def makeSoftApCredentials (randomSource : List (Block kSoftApPasswordLength))
    (deviceName : Bytes) : Option SoftApCredentials := do
  let ssid ← deriveSoftApSsid deviceName
  let password ← drawPassword [] randomSource
  return ⟨ssid, password⟩

/-- A password on the way: letters of the alphabet, and never too many. -/
def PartialPassword (password : Bytes) : Prop :=
  password.length ≤ kSoftApPasswordLength ∧
    ∀ byte ∈ password, byte ∈ kSoftApPasswordAlphabet

theorem letterOf_mem (randomByte : Byte) : letterOf randomByte ∈ kSoftApPasswordAlphabet := by
  have hindex : randomByte.toNat % kSoftApPasswordAlphabet.length <
      kSoftApPasswordAlphabet.length := Nat.mod_lt _ (by decide)
  rw [letterOf, List.getD_eq_getElem?_getD, List.getElem?_eq_getElem hindex, Option.getD_some]
  exact List.getElem_mem hindex

theorem partialPassword_appendLetters {password : Bytes} (draw : Bytes)
    (h : PartialPassword password) (hshort : password.length < kSoftApPasswordLength) :
    PartialPassword (appendLetters password draw) := by
  induction draw generalizing password with
  | nil => exact h
  | cons randomByte rest ih =>
      have hlonger : PartialPassword (password ++ [letterOf randomByte]) := by
        refine ⟨by rw [List.length_append, List.length_singleton]; exact hshort, ?_⟩
        intro byte hbyte
        rcases List.mem_append.mp hbyte with hold | hnew
        · exact h.2 byte hold
        · rw [List.mem_singleton.mp hnew]
          exact letterOf_mem randomByte
      rw [appendLetters]
      by_cases hrejected : kRejectionLimit ≤ randomByte
      · rw [if_pos hrejected]
        exact ih h hshort
      · rw [if_neg hrejected]
        by_cases hfull : (password ++ [letterOf randomByte]).length = kSoftApPasswordLength
        · simpa only [hfull, if_true] using hlonger
        · simpa only [hfull, if_false] using
            ih hlonger (Nat.lt_of_le_of_ne hlonger.1 hfull)

/-- Every password that is handed out is a valid one. -/
theorem isValidSoftApPassword_of_draw {password drawn : Bytes}
    {draws : List (Block kSoftApPasswordLength)} (hbegun : PartialPassword password)
    (h : drawPassword password draws = some drawn) : isValidSoftApPassword drawn = true := by
  have hdone : ∀ {complete : Bytes}, PartialPassword complete →
      ¬complete.length < kSoftApPasswordLength → isValidSoftApPassword complete = true := by
    intro complete hcomplete hlong
    rw [isValidSoftApPassword, decide_eq_true_iff]
    refine ⟨Nat.le_antisymm hcomplete.1 (Nat.not_lt.mp hlong), ?_⟩
    rw [List.all_eq_true]
    intro byte hbyte
    exact List.contains_iff_mem.mpr (hcomplete.2 byte hbyte)
  induction draws generalizing password with
  | nil =>
      rw [drawPassword] at h
      split_ifs at h with hshort
      cases h
      exact hdone hbegun hshort
  | cons randomBytes later ih =>
      rw [drawPassword] at h
      split_ifs at h with hshort
      · exact ih (partialPassword_appendLetters randomBytes.bytes hbegun hshort) h
      · cases h
        exact hdone hbegun hshort

theorem makeSoftApCredentials_valid {randomSource : List (Block kSoftApPasswordLength)}
    {deviceName : Bytes} {generated : SoftApCredentials}
    (h : makeSoftApCredentials randomSource deviceName = some generated) :
    isValidSoftApPassword generated.password = true := by
  simp only [makeSoftApCredentials, Option.pure_def, Option.bind_eq_bind,
    Option.bind_eq_some_iff] at h
  obtain ⟨ssid, _, password, hpassword, hgenerated⟩ := h
  cases hgenerated
  exact isValidSoftApPassword_of_draw ⟨Nat.zero_le _, by simp⟩ hpassword

end Fermentationsschrank

import Fermentationsschrank.Core.Format
import Mathlib.Data.Nat.Digits.Lemmas

/-!
# Compact JSON

The text of a JSON value without blanks, and how long it is.  A value stands for the text
that is printed of it: objects and arrays are put together from the texts of their parts.
-/

namespace Fermentationsschrank.CompactJson

/-! ## Numbers -/

/-- A number in decimal. -/
def decimal (value : ℕ) : Bytes :=
  if value = 0 then [48]
  else (Nat.digits 10 value).reverse.map fun digit => UInt8.ofNat (48 + digit)

theorem length_decimal_le {value count : ℕ} (hcount : 0 < count) (h : value < 10 ^ count) :
    (decimal value).length ≤ count := by
  rw [decimal]
  by_cases hzero : value = 0
  · rw [if_pos hzero]
    exact hcount
  · rw [if_neg hzero, List.length_map, List.length_reverse]
    exact (Nat.digits_length_le_iff (by decide) value).mpr h

/-! ## Strings -/

def hexDigit (digit : Byte) : Byte := if digit < 10 then 48 + digit else 87 + digit

/-- Quotes, backslashes and control bytes are escaped; the rest is copied. -/
def escapeByte (byte : Byte) : Bytes :=
  if byte = 34 ∨ byte = 92 then [92, byte]
  else if byte = 8 then [92, 98]
  else if byte = 12 then [92, 102]
  else if byte = 10 then [92, 110]
  else if byte = 13 then [92, 114]
  else if byte = 9 then [92, 116]
  else if byte < 32 then [92, 117, 48, 48, hexDigit (byte / 16), hexDigit (byte % 16)]
  else [byte]

def escaped (text : Bytes) : Bytes := text.flatMap escapeByte

theorem escaped_append (text rest : Bytes) : escaped (text ++ rest) = escaped text ++ escaped rest :=
  List.flatMap_append

theorem length_escapeByte_le (byte : Byte) : (escapeByte byte).length ≤ 6 := by
  rw [escapeByte]
  split_ifs <;> simp

theorem length_escapeByte_of_printable {byte : Byte} (h : ¬byte < 32) :
    (escapeByte byte).length ≤ 2 := by
  have hcontrol : ∀ control : Byte, control < 32 → byte ≠ control :=
    fun control hlt hbyte => h (hbyte ▸ hlt)
  rw [escapeByte]
  by_cases hquoted : byte = 34 ∨ byte = 92
  · rw [if_pos hquoted]
    exact le_rfl
  · rw [if_neg hquoted, if_neg (hcontrol 8 (by decide)), if_neg (hcontrol 12 (by decide)),
      if_neg (hcontrol 10 (by decide)), if_neg (hcontrol 13 (by decide)),
      if_neg (hcontrol 9 (by decide)), if_neg h]
    exact Nat.le_succ 1

/-- A byte that needs no escape. -/
def Plain (byte : Byte) : Prop := 32 ≤ byte.toNat ∧ byte ≠ 34 ∧ byte ≠ 92

theorem escapeByte_of_plain {byte : Byte} (h : Plain byte) : escapeByte byte = [byte] := by
  have hlt : ¬byte < 32 := fun hlt => absurd (UInt8.lt_iff_toNat_lt.mp hlt) (Nat.not_lt.mpr h.1)
  have hcontrol : ∀ control : Byte, control < 32 → byte ≠ control :=
    fun control hcontrol hbyte => hlt (hbyte ▸ hcontrol)
  rw [escapeByte, if_neg (not_or.mpr h.2), if_neg (hcontrol 8 (by decide)),
    if_neg (hcontrol 12 (by decide)), if_neg (hcontrol 10 (by decide)),
    if_neg (hcontrol 13 (by decide)), if_neg (hcontrol 9 (by decide)), if_neg hlt]

theorem length_escaped_le (text : Bytes) : (escaped text).length ≤ 6 * text.length := by
  induction text with
  | nil => exact le_rfl
  | cons byte text ih =>
      rw [escaped, List.flatMap_cons, List.length_append, List.length_cons, Nat.mul_succ,
        Nat.add_comm]
      exact Nat.add_le_add ih (length_escapeByte_le byte)

theorem escaped_of_plain {text : Bytes} (h : ∀ byte ∈ text, Plain byte) :
    escaped text = text := by
  induction text with
  | nil => rfl
  | cons byte text ih =>
      rw [escaped, List.flatMap_cons, escapeByte_of_plain (h byte List.mem_cons_self)]
      exact congrArg (byte :: ·) (ih fun later hmem => h later (List.mem_cons_of_mem _ hmem))

def string (text : Bytes) : Bytes := 34 :: (escaped text ++ [34])

@[simp] theorem length_string (text : Bytes) :
    (string text).length = (escaped text).length + 2 := by
  rw [string, List.length_cons, List.length_append, List.length_singleton]

theorem decimal_plain {value : ℕ} : ∀ byte ∈ decimal value, Plain byte := by
  intro byte hmem
  obtain ⟨digit, hdigit, rfl⟩ : ∃ digit < 10, UInt8.ofNat (48 + digit) = byte := by
    rw [decimal] at hmem
    by_cases hzero : value = 0
    · rw [if_pos hzero, List.mem_singleton] at hmem
      exact ⟨0, by decide, hmem.symm⟩
    · rw [if_neg hzero, List.mem_map] at hmem
      obtain ⟨digit, hdigit, hbyte⟩ := hmem
      exact ⟨digit, Nat.digits_lt_base (by decide) (List.mem_reverse.mp hdigit), hbyte⟩
  interval_cases digit <;> exact ⟨by decide, by decide, by decide⟩

/-! ## Arrays and objects -/

def separated (items : List Bytes) : Bytes := [44].intercalate items

theorem length_separated (items : List Bytes) :
    (separated items).length = (items.map List.length).sum + (items.length - 1) := by
  induction items with
  | nil => rfl
  | cons item items ih =>
      cases items with
      | nil =>
          rw [separated, List.intercalate_singleton]
          rfl
      | cons next items =>
          rw [separated, List.intercalate_cons_cons, List.length_append, List.length_append]
          rw [separated] at ih
          have hsum : ((item :: next :: items).map List.length).sum =
              item.length + ((next :: items).map List.length).sum := List.sum_cons
          have hlength : (item :: next :: items).length = (next :: items).length + 1 :=
            List.length_cons
          have hpos : 0 < (next :: items).length := Nat.succ_pos _
          rw [ih, hsum, hlength, List.length_singleton]
          omega

def array (items : List Bytes) : Bytes := 91 :: (separated items ++ [93])

theorem length_array (items : List Bytes) :
    (array items).length = (items.map List.length).sum + (items.length - 1) + 2 := by
  rw [array, List.length_cons, List.length_append, length_separated, List.length_singleton]

/-- A member is its key and the text of its value. -/
def member (entry : Bytes × Bytes) : Bytes := string entry.1 ++ 58 :: entry.2

theorem length_member (entry : Bytes × Bytes) :
    (member entry).length = (escaped entry.1).length + 3 + entry.2.length := by
  rw [member, List.length_append, length_string, List.length_cons]
  omega

def object (entries : List (Bytes × Bytes)) : Bytes :=
  123 :: (separated (entries.map member) ++ [125])

theorem length_object (entries : List (Bytes × Bytes)) :
    (object entries).length =
      (entries.map fun entry => (escaped entry.1).length + 3 + entry.2.length).sum +
        (entries.length - 1) + 2 := by
  rw [object, List.length_cons, List.length_append, length_separated, List.length_singleton,
    List.map_map, List.length_map]
  simp only [Function.comp_def, length_member]

end Fermentationsschrank.CompactJson

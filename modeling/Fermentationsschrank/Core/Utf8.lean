import Fermentationsschrank.Core.Format
import Mathlib.Tactic.IntervalCases

/-!
# UTF-8

A text is well formed when it is the encoding of a list of Unicode scalar values.  The
scalar that bytes begin with can be read from them by arithmetic alone; every decoder is
compared with that reading.
-/

namespace Fermentationsschrank

/-- The bytes of a text that the source writes as a literal. -/
def literal (text : String) : Bytes := text.toUTF8.data.toList

namespace Utf8

/-- The bytes of some characters. -/
def encode (chars : List Char) : Bytes := chars.flatMap String.utf8EncodeChar

theorem encode_cons (char : Char) (chars : List Char) :
    encode (char :: chars) = String.utf8EncodeChar char ++ encode chars := rfl

theorem encode_eq_nil_iff {chars : List Char} : encode chars = [] ↔ chars = [] := by
  constructor
  · intro h
    cases chars with
    | nil => rfl
    | cons char chars =>
        have hlength := congrArg List.length h
        rw [encode_cons, List.length_append, String.length_utf8EncodeChar] at hlength
        exact absurd hlength (Nat.ne_of_gt (Nat.add_pos_left char.utf8Size_pos _))
  · rintro rfl
    rfl

/-! ## The leading scalar -/

/-- A continuation byte. -/
def Continues (byte : Byte) : Prop := 0x80 ≤ byte.toNat ∧ byte.toNat < 0xC0

instance (byte : Byte) : Decidable (Continues byte) := inferInstanceAs (Decidable (_ ∧ _))

/-- A value that is a Unicode scalar. -/
def Scalar (value : ℕ) : Prop := value < 0xD800 ∨ (0xDFFF < value ∧ value < 0x110000)

instance (value : ℕ) : Decidable (Scalar value) := inferInstanceAs (Decidable (_ ∨ _))

def value2 (first second : Byte) : ℕ := first.toNat % 32 * 64 + second.toNat % 64

def value3 (first second third : Byte) : ℕ :=
  first.toNat % 16 * 4096 + second.toNat % 64 * 64 + third.toNat % 64

def value4 (first second third fourth : Byte) : ℕ :=
  first.toNat % 8 * 262144 + second.toNat % 64 * 4096 + third.toNat % 64 * 64 +
    fourth.toNat % 64

def leading2 (first : Byte) : Bytes → Option (ℕ × ℕ)
  | second :: _ => if Continues second then some (value2 first second, 2) else none
  | _ => none

def leading3 (first : Byte) : Bytes → Option (ℕ × ℕ)
  | second :: third :: _ =>
      if Continues second ∧ Continues third ∧ 0x800 ≤ value3 first second third ∧
          Scalar (value3 first second third) then
        some (value3 first second third, 3)
      else none
  | _ => none

def leading4 (first : Byte) : Bytes → Option (ℕ × ℕ)
  | second :: third :: fourth :: _ =>
      if Continues second ∧ Continues third ∧ Continues fourth ∧
          0x10000 ≤ value4 first second third fourth ∧
          Scalar (value4 first second third fourth) then
        some (value4 first second third fourth, 4)
      else none
  | _ => none

/-- The scalar that bytes begin with, and the number of bytes that it takes. -/
def leading : Bytes → Option (ℕ × ℕ)
  | [] => none
  | first :: rest =>
      if first.toNat < 0x80 then some (first.toNat, 1)
      else if 0xC2 ≤ first.toNat ∧ first.toNat < 0xE0 then leading2 first rest
      else if 0xE0 ≤ first.toNat ∧ first.toNat < 0xF0 then leading3 first rest
      else if 0xF0 ≤ first.toNat ∧ first.toNat < 0xF5 then leading4 first rest
      else none

theorem scalar_toNat (char : Char) : Scalar char.toNat := char.valid

theorem char_of_scalar {value : ℕ} (h : Scalar value) : ∃ char : Char, char.toNat = value := by
  have hword : value < 2 ^ 32 := by
    rw [Scalar] at h
    omega
  exact ⟨⟨UInt32.ofNatLT value hword, h⟩, UInt32.toNat_ofNatLT⟩

theorem byte_eq_iff {byte : Byte} {value : ℕ} (hvalue : value < 256) :
    byte = UInt8.ofNat value ↔ byte.toNat = value := by
  rw [← UInt8.toNat_inj, UInt8.toNat_ofNat', Nat.mod_eq_of_lt hvalue]

section Widths

variable {char : Char} {first second third fourth : Byte}

theorem encodeChar_one_iff (hchar : char.toNat < 0x80) :
    [first] = String.utf8EncodeChar char ↔ first.toNat = char.toNat := by
  have hencode : String.utf8EncodeChar char = [UInt8.ofNat char.toNat] :=
    if_pos (Nat.le_of_lt_succ hchar)
  rw [hencode, List.singleton_inj, byte_eq_iff (by omega)]

theorem encodeChar_two_iff (hlow : 0x80 ≤ char.toNat) (hhigh : char.toNat < 0x800) :
    [first, second] = String.utf8EncodeChar char ↔
      first.toNat = char.toNat / 64 + 0xC0 ∧ second.toNat = char.toNat % 64 + 0x80 := by
  have hencode : String.utf8EncodeChar char = [UInt8.ofNat (char.toNat / 64 % 32 + 0xC0),
      UInt8.ofNat (char.toNat % 64 + 0x80)] :=
    (if_neg (Nat.not_le.mpr hlow)).trans (if_pos (Nat.le_of_lt_succ hhigh))
  rw [hencode, List.cons.injEq, List.singleton_inj, byte_eq_iff (by omega), byte_eq_iff (by omega),
    Nat.mod_eq_of_lt (by omega : char.toNat / 64 < 32)]

theorem encodeChar_three_iff (hlow : 0x800 ≤ char.toNat) (hhigh : char.toNat < 0x10000) :
    [first, second, third] = String.utf8EncodeChar char ↔
      first.toNat = char.toNat / 4096 + 0xE0 ∧ second.toNat = char.toNat / 64 % 64 + 0x80 ∧
        third.toNat = char.toNat % 64 + 0x80 := by
  have hone : 0x7F < char.toNat := by omega
  have hencode : String.utf8EncodeChar char = [UInt8.ofNat (char.toNat / 4096 % 16 + 0xE0),
      UInt8.ofNat (char.toNat / 64 % 64 + 0x80), UInt8.ofNat (char.toNat % 64 + 0x80)] :=
    (if_neg (Nat.not_le.mpr hone)).trans
      ((if_neg (Nat.not_le.mpr hlow)).trans (if_pos (Nat.le_of_lt_succ hhigh)))
  rw [hencode, List.cons.injEq, List.cons.injEq, List.singleton_inj, byte_eq_iff (by omega),
    byte_eq_iff (by omega), byte_eq_iff (by omega),
    Nat.mod_eq_of_lt (by omega : char.toNat / 4096 < 16)]

theorem encodeChar_four_iff (hlow : 0x10000 ≤ char.toNat) :
    [first, second, third, fourth] = String.utf8EncodeChar char ↔
      first.toNat = char.toNat / 262144 + 0xF0 ∧ second.toNat = char.toNat / 4096 % 64 + 0x80 ∧
        third.toNat = char.toNat / 64 % 64 + 0x80 ∧ fourth.toNat = char.toNat % 64 + 0x80 := by
  have hscalar := scalar_toNat char
  rw [Scalar] at hscalar
  have hone : 0x7F < char.toNat := by omega
  have htwo : 0x7FF < char.toNat := by omega
  have hencode : String.utf8EncodeChar char = [UInt8.ofNat (char.toNat / 262144 % 8 + 0xF0),
      UInt8.ofNat (char.toNat / 4096 % 64 + 0x80), UInt8.ofNat (char.toNat / 64 % 64 + 0x80),
      UInt8.ofNat (char.toNat % 64 + 0x80)] :=
    (if_neg (Nat.not_le.mpr hone)).trans
      ((if_neg (Nat.not_le.mpr htwo)).trans (if_neg (Nat.not_le.mpr hlow)))
  rw [hencode, List.cons.injEq, List.cons.injEq, List.cons.injEq, List.singleton_inj,
    byte_eq_iff (by omega), byte_eq_iff (by omega), byte_eq_iff (by omega),
    byte_eq_iff (by omega), Nat.mod_eq_of_lt (by omega : char.toNat / 262144 < 8)]

end Widths

/-- The bytes of a character begin with its scalar. -/
theorem leading_encodeChar (char : Char) (rest : Bytes) :
    leading (String.utf8EncodeChar char ++ rest) = some (char.toNat, char.utf8Size) := by
  have hscalar := scalar_toNat char
  have hlength := String.length_utf8EncodeChar char
  generalize hbytes : String.utf8EncodeChar char = bytes at hlength ⊢
  rcases Char.utf8Size_eq char with hsize | hsize | hsize | hsize <;> rw [hsize] at hlength ⊢
  · have hchar : char.toNat < 0x80 :=
      Nat.lt_succ_of_le (UInt32.le_iff_toNat_le.mp (Char.utf8Size_eq_one_iff.mp hsize))
    obtain ⟨first, rfl⟩ := List.length_eq_one_iff.mp hlength
    have hfirst := (encodeChar_one_iff hchar).mp hbytes.symm
    rw [List.singleton_append, leading, if_pos (hfirst ▸ hchar), hfirst]
  · obtain ⟨hlow, hhigh⟩ := Char.utf8Size_eq_two_iff.mp hsize
    have hlow : 0x80 ≤ char.toNat := UInt32.lt_iff_toNat_lt.mp hlow
    have hhigh : char.toNat < 0x800 := Nat.lt_succ_of_le (UInt32.le_iff_toNat_le.mp hhigh)
    obtain ⟨first, second, rfl⟩ := List.length_eq_two.mp hlength
    obtain ⟨hfirst, hsecond⟩ := (encodeChar_two_iff hlow hhigh).mp hbytes.symm
    have hvalue : value2 first second = char.toNat := by
      rw [value2]
      omega
    have hcontinues : Continues second := ⟨by omega, by omega⟩
    rw [List.cons_append, leading, if_neg (by omega), if_pos (by omega), List.cons_append,
      leading2, if_pos hcontinues, hvalue]
  · obtain ⟨hlow, hhigh⟩ := Char.utf8Size_eq_three_iff.mp hsize
    have hlow : 0x800 ≤ char.toNat := UInt32.lt_iff_toNat_lt.mp hlow
    have hhigh : char.toNat < 0x10000 := Nat.lt_succ_of_le (UInt32.le_iff_toNat_le.mp hhigh)
    obtain ⟨first, second, third, rfl⟩ := List.length_eq_three.mp hlength
    obtain ⟨hfirst, hsecond, hthird⟩ := (encodeChar_three_iff hlow hhigh).mp hbytes.symm
    have hvalue : value3 first second third = char.toNat := by
      rw [value3]
      omega
    have hcontinues : Continues second ∧ Continues third := by
      rw [Continues, Continues]
      omega
    rw [List.cons_append, leading, if_neg (by omega), if_neg (by omega), if_pos (by omega),
      List.cons_append, List.cons_append, leading3, hvalue,
      if_pos ⟨hcontinues.1, hcontinues.2, hlow, hscalar⟩]
  · have hlow : 0x10000 ≤ char.toNat :=
      UInt32.lt_iff_toNat_lt.mp (Char.utf8Size_eq_four_iff.mp hsize)
    obtain ⟨first, second, third, fourth, rfl⟩ := List.length_eq_four.mp hlength
    obtain ⟨hfirst, hsecond, hthird, hfourth⟩ := (encodeChar_four_iff hlow).mp hbytes.symm
    have hrange : char.toNat < 0x110000 := by
      rw [Scalar] at hscalar
      omega
    have hvalue : value4 first second third fourth = char.toNat := by
      rw [value4]
      omega
    have hcontinues : Continues second ∧ Continues third ∧ Continues fourth := by
      rw [Continues, Continues, Continues]
      omega
    rw [List.cons_append, leading, if_neg (by omega), if_neg (by omega), if_neg (by omega),
      if_pos (by omega), List.cons_append, List.cons_append, List.cons_append, leading4, hvalue,
      if_pos ⟨hcontinues.1, hcontinues.2.1, hcontinues.2.2, hlow, hscalar⟩]

/-- Bytes that begin with a scalar begin with the bytes of its character. -/
theorem exists_of_leading {bytes : Bytes} {value width : ℕ}
    (h : leading bytes = some (value, width)) :
    ∃ char rest, bytes = String.utf8EncodeChar char ++ rest ∧ char.toNat = value ∧
      char.utf8Size = width := by
  have hsize {char : Char} {bytes : Bytes} (hbytes : bytes = String.utf8EncodeChar char) :
      char.utf8Size = bytes.length := by
    rw [hbytes, String.length_utf8EncodeChar]
  cases bytes with
  | nil => cases h
  | cons first rest =>
  rw [leading] at h
  split_ifs at h with hone htwo hthree hfour
  · cases h
    obtain ⟨char, hchar⟩ := char_of_scalar (.inl (by omega) : Scalar first.toNat)
    have hbytes := (encodeChar_one_iff (hchar ▸ hone)).mpr hchar.symm
    exact ⟨char, rest, congrArg (· ++ rest) hbytes, hchar, hsize hbytes⟩
  · rcases rest with _ | ⟨second, rest⟩
    · cases h
    rw [leading2] at h
    split_ifs at h with hcontinues
    rw [Continues] at hcontinues
    cases h
    have hvalue : 0x80 ≤ value2 first second ∧ value2 first second < 0x800 ∧
        first.toNat = value2 first second / 64 + 0xC0 ∧
        second.toNat = value2 first second % 64 + 0x80 := by
      rw [value2]
      omega
    obtain ⟨hlow, hhigh, hsame⟩ := hvalue
    obtain ⟨char, hchar⟩ := char_of_scalar (.inl (by omega) : Scalar (value2 first second))
    rw [← hchar] at hlow hhigh hsame ⊢
    have hbytes := (encodeChar_two_iff hlow hhigh).mpr hsame
    exact ⟨char, rest, congrArg (· ++ rest) hbytes, rfl, hsize hbytes⟩
  · rcases rest with _ | ⟨second, _ | ⟨third, rest⟩⟩
    · cases h
    · cases h
    rw [leading3] at h
    split_ifs at h with hcontinues
    obtain ⟨hsecond, hthird, hlow, hscalar⟩ := hcontinues
    rw [Continues] at hsecond hthird
    cases h
    have hvalue : value3 first second third < 0x10000 ∧
        first.toNat = value3 first second third / 4096 + 0xE0 ∧
        second.toNat = value3 first second third / 64 % 64 + 0x80 ∧
        third.toNat = value3 first second third % 64 + 0x80 := by
      rw [value3]
      omega
    obtain ⟨hhigh, hsame⟩ := hvalue
    obtain ⟨char, hchar⟩ := char_of_scalar hscalar
    rw [← hchar] at hlow hhigh hsame ⊢
    have hbytes := (encodeChar_three_iff hlow hhigh).mpr hsame
    exact ⟨char, rest, congrArg (· ++ rest) hbytes, rfl, hsize hbytes⟩
  · rcases rest with _ | ⟨second, _ | ⟨third, _ | ⟨fourth, rest⟩⟩⟩
    · cases h
    · cases h
    · cases h
    rw [leading4] at h
    split_ifs at h with hcontinues
    obtain ⟨hsecond, hthird, hfourth, hlow, hscalar⟩ := hcontinues
    rw [Continues] at hsecond hthird hfourth
    cases h
    have hsame : first.toNat = value4 first second third fourth / 262144 + 0xF0 ∧
        second.toNat = value4 first second third fourth / 4096 % 64 + 0x80 ∧
        third.toNat = value4 first second third fourth / 64 % 64 + 0x80 ∧
        fourth.toNat = value4 first second third fourth % 64 + 0x80 := by
      rw [value4]
      omega
    obtain ⟨char, hchar⟩ := char_of_scalar hscalar
    rw [← hchar] at hlow hsame ⊢
    have hbytes := (encodeChar_four_iff hlow).mpr hsame
    exact ⟨char, rest, congrArg (· ++ rest) hbytes, rfl, hsize hbytes⟩

/-! ## Whole texts -/

variable {Item : Type}

/-- Read the leading item again and again, each from as many bytes as it took.  It takes at
least one, so the number of the bytes is fuel enough. -/
def scan (next : Bytes → Option (Item × ℕ)) : ℕ → Bytes → Option (List Item)
  | _, [] => some []
  | 0, _ :: _ => none
  | fuel + 1, first :: rest => do
      let (item, width) ← next (first :: rest)
      let items ← scan next fuel ((first :: rest).drop width)
      return item :: items

/-- A reader that takes the bytes of one character, and nothing else, takes a whole text
exactly when it is the encoding of characters. -/
theorem scan_eq_some_iff {next : Bytes → Option (Item × ℕ)} {read : Char → Item}
    (hnext : ∀ {bytes item width}, next bytes = some (item, width) ↔
      ∃ char rest, bytes = String.utf8EncodeChar char ++ rest ∧ read char = item ∧
        char.utf8Size = width)
    {fuel : ℕ} {bytes : Bytes} {items : List Item} (hfuel : bytes.length ≤ fuel) :
    scan next fuel bytes = some items ↔ ∃ chars, bytes = encode chars ∧ items = chars.map read := by
  have hempty : ∀ chars, [] = encode chars → chars = [] := fun _ h => encode_eq_nil_iff.mp h.symm
  induction fuel generalizing bytes items with
  | zero =>
      obtain rfl := List.length_eq_zero_iff.mp (Nat.le_zero.mp hfuel)
      rw [scan, Option.some.injEq]
      constructor
      · rintro rfl
        exact ⟨[], rfl, rfl⟩
      · rintro ⟨chars, hchars, rfl⟩
        rw [hempty chars hchars, List.map_nil]
  | succ fuel ih =>
      rcases bytes with _ | ⟨first, rest⟩
      · rw [scan, Option.some.injEq]
        constructor
        · rintro rfl
          exact ⟨[], rfl, rfl⟩
        · rintro ⟨chars, hchars, rfl⟩
          rw [hempty chars hchars, List.map_nil]
      have hshort {char : Char} {after : Bytes}
          (hbytes : first :: rest = String.utf8EncodeChar char ++ after) :
          after.length ≤ fuel ∧ (first :: rest).drop char.utf8Size = after := by
        have hlength := congrArg List.length hbytes
        have hpos := char.utf8Size_pos
        rw [List.length_append, String.length_utf8EncodeChar] at hlength
        refine ⟨by omega, ?_⟩
        rw [hbytes, ← String.length_utf8EncodeChar, List.drop_left]
      rw [scan]
      simp only [Option.bind_eq_bind, Option.bind_eq_some_iff, Option.pure_def, Option.some.injEq]
      constructor
      · rintro ⟨⟨item, width⟩, htaken, later, hlater, rfl⟩
        obtain ⟨char, after, hbytes, rfl, rfl⟩ := hnext.mp htaken
        obtain ⟨hafter, hdrop⟩ := hshort hbytes
        rw [hdrop] at hlater
        obtain ⟨chars, rfl, rfl⟩ := (ih hafter).mp hlater
        exact ⟨char :: chars, hbytes, rfl⟩
      · rintro ⟨chars, hchars, rfl⟩
        cases chars with
        | nil => cases hchars
        | cons char chars =>
            obtain ⟨hafter, hdrop⟩ := hshort hchars
            refine ⟨(read char, char.utf8Size), hnext.mpr ⟨char, _, hchars, rfl, rfl⟩,
              chars.map read, ?_, rfl⟩
            rw [hdrop]
            exact (ih hafter).mpr ⟨chars, rfl, rfl⟩

/-! ## Bits -/

theorem continues_iff {byte : Byte} : byte &&& 0xC0 = 0x80 ↔ Continues byte := by
  have hall : ∀ value : Fin 256, UInt8.ofFin value &&& 0xC0 = 0x80 ↔
      Continues (UInt8.ofFin value) := by decide +kernel
  exact hall byte.toFin

/-- Six more bits of a scalar. -/
theorem toNat_appendBits {value : UInt32} {byte : Byte} (hvalue : value.toNat < 2 ^ 26) :
    (value <<< 6 ||| (byte &&& 0x3F).toUInt32).toNat = value.toNat * 64 + byte.toNat % 64 := by
  have hbyte : (byte &&& 0x3F).toUInt32.toNat = byte.toNat % 64 := by
    rw [UInt8.toNat_toUInt32, UInt8.toNat_and]
    exact Nat.and_two_pow_sub_one_eq_mod byte.toNat 6
  have hshift : (value <<< 6).toNat = value.toNat <<< 6 := by
    have hsix : UInt32.toNat 6 % 32 = 6 := rfl
    rw [UInt32.toNat_shiftLeft, hsix, Nat.shiftLeft_eq]
    exact Nat.mod_eq_of_lt (by omega)
  have hbits : byte.toNat % 64 < 2 ^ 6 := Nat.mod_lt _ (by decide)
  rw [UInt32.toNat_or, hbyte, hshift, ← Nat.shiftLeft_add_eq_or_of_lt hbits, Nat.shiftLeft_eq]

end Utf8

end Fermentationsschrank

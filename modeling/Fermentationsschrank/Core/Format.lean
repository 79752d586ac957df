import Mathlib.Logic.Equiv.Basic
import Mathlib.Data.List.Basic
import Mathlib.Data.List.Nodup
import Mathlib.Tactic.Ring
import Mathlib.Tactic.Positivity

/-!
# Byte formats

A `Format` packs the writer and the reader of one wire field together with the
two facts every caller needs: reading back what was written returns the value
and leaves the following bytes alone, and whatever the reader accepts is
exactly what the writer produces.  Composite formats are assembled from the
combinators below and inherit both laws, so a record with thirty fields needs
no proof of its own.

A reader may be stricter than the writer (for example by a length limit).  The
predicate `Readable` names the values for which the round trip is promised.
-/

namespace Fermentationsschrank

abbrev Byte := UInt8
abbrev Bytes := List Byte

/-- A writer and a prefix reader of `α` that invert one another. -/
structure Format (α : Type) where
  write : α → Option Bytes
  read : Bytes → Option (α × Bytes)
  Readable : α → Prop
  read_write : ∀ {value : α} {out : Bytes}, Readable value →
    write value = some out → ∀ rest, read (out ++ rest) = some (value, rest)
  write_read : ∀ {bytes : Bytes} {value : α} {rest : Bytes},
    read bytes = some (value, rest) →
      ∃ out, write value = some out ∧ bytes = out ++ rest
  readable_of_read : ∀ {bytes : Bytes} {value : α} {rest : Bytes},
    read bytes = some (value, rest) → Readable value

namespace Format

variable {α β : Type}

/-! ## Fixed-width big-endian numbers -/

/-- The `width` low-order bytes of `value`, most significant first. -/
def bigEndian : (width value : ℕ) → Bytes
  | 0, _ => []
  | width + 1, value =>
      UInt8.ofNat (value / 256 ^ width) :: bigEndian width value

/-- The number whose big-endian digits are `bytes`. -/
def ofBigEndian (bytes : Bytes) : ℕ :=
  bytes.foldl (fun acc byte => acc * 256 + byte.toNat) 0

@[simp]
theorem length_bigEndian (width value : ℕ) :
    (bigEndian width value).length = width := by
  induction width with
  | zero => rfl
  | succ width ih => simp [bigEndian, ih]

private theorem foldl_bigEndian (width value acc : ℕ) :
    (bigEndian width value).foldl (fun acc byte => acc * 256 + byte.toNat) acc =
      acc * 256 ^ width + value % 256 ^ width := by
  induction width generalizing acc with
  | zero => simp [bigEndian, Nat.mod_one]
  | succ width ih =>
      have hdigit : (UInt8.ofNat (value / 256 ^ width)).toNat =
          value / 256 ^ width % 256 := by simp
      have hsplit : value % 256 ^ (width + 1) =
          value / 256 ^ width % 256 * 256 ^ width + value % 256 ^ width := by
        rw [Nat.pow_succ, Nat.mod_mul, Nat.add_comm, Nat.mul_comm (256 ^ width)]
      rw [bigEndian, List.foldl_cons, ih, hdigit, hsplit, Nat.pow_succ]
      ring

/-- Decoding the big-endian digits of a number recovers it modulo the width. -/
theorem ofBigEndian_bigEndian (width value : ℕ) :
    ofBigEndian (bigEndian width value) = value % 256 ^ width := by
  simpa [ofBigEndian] using foldl_bigEndian width value 0

private theorem foldl_lt (bytes : Bytes) (acc : ℕ) :
    bytes.foldl (fun acc byte => acc * 256 + byte.toNat) acc <
      (acc + 1) * 256 ^ bytes.length := by
  induction bytes generalizing acc with
  | nil => simp
  | cons byte bytes ih =>
      have hbyte : acc * 256 + byte.toNat + 1 ≤ (acc + 1) * 256 := by
        have := byte.toNat_lt
        omega
      calc
        (byte :: bytes).foldl (fun acc byte => acc * 256 + byte.toNat) acc
            < (acc * 256 + byte.toNat + 1) * 256 ^ bytes.length := ih _
        _ ≤ (acc + 1) * 256 * 256 ^ bytes.length :=
            Nat.mul_le_mul_right _ hbyte
        _ = (acc + 1) * 256 ^ (byte :: bytes).length := by
            rw [List.length_cons, Nat.pow_succ]
            ring

theorem ofBigEndian_lt (bytes : Bytes) :
    ofBigEndian bytes < 256 ^ bytes.length := by
  simpa [ofBigEndian] using foldl_lt bytes 0

private theorem foldl_eq (bytes : Bytes) (acc : ℕ) :
    bytes.foldl (fun acc byte => acc * 256 + byte.toNat) acc =
      acc * 256 ^ bytes.length + ofBigEndian bytes := by
  induction bytes generalizing acc with
  | nil => simp [ofBigEndian]
  | cons byte bytes ih =>
      rw [ofBigEndian, List.foldl_cons, List.foldl_cons, ih, ih (0 * 256 + _),
        List.length_cons, Nat.pow_succ]
      ring

/-- Re-encoding the decoded digits returns the digits: fixed-width big-endian
notation has no second spelling of a number. -/
theorem bigEndian_ofBigEndian (bytes : Bytes) :
    bigEndian bytes.length (ofBigEndian bytes) = bytes := by
  have key : ∀ (tail : Bytes) (acc : ℕ),
      bigEndian tail.length (acc * 256 ^ tail.length + ofBigEndian tail) =
        tail := by
    intro tail
    induction tail with
    | nil => simp [bigEndian]
    | cons byte tail ih =>
        intro acc
        have hlt := ofBigEndian_lt tail
        have hcons : ofBigEndian (byte :: tail) =
            byte.toNat * 256 ^ tail.length + ofBigEndian tail := by
          rw [ofBigEndian, List.foldl_cons, foldl_eq]
          simp
        have hsum : acc * 256 ^ (tail.length + 1) + ofBigEndian (byte :: tail) =
            (acc * 256 + byte.toNat) * 256 ^ tail.length + ofBigEndian tail := by
          rw [hcons, Nat.pow_succ]
          ring
        have hdiv : ((acc * 256 + byte.toNat) * 256 ^ tail.length +
            ofBigEndian tail) / 256 ^ tail.length = acc * 256 + byte.toNat := by
          rw [Nat.add_comm, Nat.add_mul_div_right _ _ (by positivity),
            Nat.div_eq_of_lt hlt, Nat.zero_add]
        rw [List.length_cons, hsum, bigEndian, hdiv, ih]
        congr 1
        apply UInt8.toNat_inj.mp
        have := byte.toNat_lt
        rw [UInt8.toNat_ofNat']
        omega
  simpa using key bytes 0

/-- A number of `width` big-endian bytes.  Only numbers below `256 ^ width` are
promised to come back. -/
def number (width : ℕ) : Format ℕ where
  write value := some (bigEndian width value)
  read bytes :=
    if width ≤ bytes.length then
      some (ofBigEndian (bytes.take width), bytes.drop width)
    else none
  Readable value := value < 256 ^ width
  read_write := by
    intro value out hvalue hwrite rest
    cases hwrite
    rw [if_pos (by simp)]
    rw [List.take_left' (length_bigEndian width value),
      List.drop_left' (length_bigEndian width value), ofBigEndian_bigEndian,
      Nat.mod_eq_of_lt hvalue]
  write_read := by
    intro bytes value rest hread
    split at hread
    · rename_i hlength
      cases hread
      refine ⟨bytes.take width, ?_, (List.take_append_drop width bytes).symm⟩
      have htake : (bytes.take width).length = width := by simp [hlength]
      have := bigEndian_ofBigEndian (bytes.take width)
      rw [htake] at this
      rw [this]
    · cases hread
  readable_of_read := by
    intro bytes value rest hread
    split at hread
    · rename_i hlength
      cases hread
      have htake : (bytes.take width).length = width := by simp [hlength]
      have := ofBigEndian_lt (bytes.take width)
      rwa [htake] at this
    · cases hread

/-! ## Combinators -/

/-- Transport a format along a bijection of its values. -/
def equiv (format : Format α) (e : α ≃ β) : Format β where
  write value := format.write (e.symm value)
  read bytes := (format.read bytes).map fun found => (e found.1, found.2)
  Readable value := format.Readable (e.symm value)
  read_write := by
    intro value out hvalue hwrite rest
    simp [format.read_write hvalue hwrite rest]
  write_read := by
    intro bytes value rest hread
    simp only [Option.map_eq_some_iff, Prod.exists, Prod.mk.injEq] at hread
    obtain ⟨found, tail, hfound, rfl, rfl⟩ := hread
    simpa using format.write_read hfound
  readable_of_read := by
    intro bytes value rest hread
    simp only [Option.map_eq_some_iff, Prod.exists, Prod.mk.injEq] at hread
    obtain ⟨found, tail, hfound, rfl, rfl⟩ := hread
    simpa using format.readable_of_read hfound

/-- One field after another. -/
def pair (first : Format α) (second : Format β) : Format (α × β) where
  write value := do
    let front ← first.write value.1
    let back ← second.write value.2
    return front ++ back
  read bytes := do
    let (head, rest) ← first.read bytes
    let (tail, rest) ← second.read rest
    return ((head, tail), rest)
  Readable value := first.Readable value.1 ∧ second.Readable value.2
  read_write := by
    intro value out hvalue hwrite rest
    simp only [Option.pure_def, Option.bind_eq_bind, Option.bind_eq_some_iff,
      Option.some.injEq] at hwrite
    obtain ⟨front, hfront, back, hback, rfl⟩ := hwrite
    rw [List.append_assoc]
    simp [first.read_write hvalue.1 hfront, second.read_write hvalue.2 hback]
  write_read := by
    intro bytes value rest hread
    simp only [Option.pure_def, Option.bind_eq_bind, Option.bind_eq_some_iff,
      Option.some.injEq, Prod.exists, Prod.mk.injEq] at hread
    obtain ⟨head, middle, hhead, tail, last, htail, rfl, rfl⟩ := hread
    obtain ⟨front, hfront, rfl⟩ := first.write_read hhead
    obtain ⟨back, hback, rfl⟩ := second.write_read htail
    exact ⟨front ++ back, by simp [hfront, hback], by simp⟩
  readable_of_read := by
    intro bytes value rest hread
    simp only [Option.pure_def, Option.bind_eq_bind, Option.bind_eq_some_iff,
      Option.some.injEq, Prod.exists, Prod.mk.injEq] at hread
    obtain ⟨head, middle, hhead, tail, last, htail, rfl, rfl⟩ := hread
    exact ⟨first.readable_of_read hhead, second.readable_of_read htail⟩

/-- Reject values outside `accepts` on both sides. -/
def guard (format : Format α) (accepts : α → Bool) : Format α where
  write value := if accepts value then format.write value else none
  read bytes := (format.read bytes).filter fun found => accepts found.1
  Readable value := format.Readable value
  read_write := by
    intro value out hvalue hwrite rest
    split at hwrite
    · rename_i haccepts
      simp [format.read_write hvalue hwrite rest, haccepts]
    · cases hwrite
  write_read := by
    intro bytes value rest hread
    simp only [Option.filter_eq_some_iff] at hread
    rw [if_pos hread.2]
    exact format.write_read hread.1
  readable_of_read := by
    intro bytes value rest hread
    simp only [Option.filter_eq_some_iff] at hread
    exact format.readable_of_read hread.1

/-- Reject values outside `accepts` while reading only. -/
def readGuard (format : Format α) (accepts : α → Bool) : Format α where
  write := format.write
  read bytes := (format.read bytes).filter fun found => accepts found.1
  Readable value := format.Readable value ∧ accepts value = true
  read_write := by
    intro value out hvalue hwrite rest
    simp [format.read_write hvalue.1 hwrite rest, hvalue.2]
  write_read := by
    intro bytes value rest hread
    simp only [Option.filter_eq_some_iff] at hread
    exact format.write_read hread.1
  readable_of_read := by
    intro bytes value rest hread
    simp only [Option.filter_eq_some_iff] at hread
    exact ⟨format.readable_of_read hread.1, hread.2⟩

/-- An embedding of `β` into the values of a format: `unfold` may refuse a value
of `β`, and `fold` undoes every successful `unfold`.  Conversely every value the
reader can produce unfolds to itself. -/
def embed (format : Format α) (fold : α → β) (unfold : β → Option α)
    (hfold : ∀ inner bytes rest, format.read bytes = some (inner, rest) →
      unfold (fold inner) = some inner)
    (hunfold : ∀ outer inner, unfold outer = some inner → fold inner = outer) :
    Format β where
  write value := (unfold value).bind format.write
  read bytes := (format.read bytes).map fun found => (fold found.1, found.2)
  Readable value := ∀ inner, unfold value = some inner → format.Readable inner
  read_write := by
    intro value out hvalue hwrite rest
    simp only [Option.bind_eq_some_iff] at hwrite
    obtain ⟨inner, hinner, hwrite⟩ := hwrite
    simp [format.read_write (hvalue inner hinner) hwrite rest,
      hunfold value inner hinner]
  write_read := by
    intro bytes value rest hread
    simp only [Option.map_eq_some_iff, Prod.exists, Prod.mk.injEq] at hread
    obtain ⟨found, tail, hfound, rfl, rfl⟩ := hread
    simpa [hfold found bytes tail hfound] using format.write_read hfound
  readable_of_read := by
    intro bytes value rest hread
    simp only [Option.map_eq_some_iff, Prod.exists, Prod.mk.injEq] at hread
    obtain ⟨found, tail, hfound, rfl, rfl⟩ := hread
    intro inner hinner
    rw [hfold found bytes tail hfound] at hinner
    cases hinner
    exact format.readable_of_read hfound

/-- The empty field. -/
def unit : Format Unit where
  write _ := some []
  read bytes := some ((), bytes)
  Readable _ := True
  read_write := by
    intro value out _ hwrite rest
    cases hwrite
    rfl
  write_read := by
    intro bytes value rest hread
    cases hread
    exact ⟨[], rfl, rfl⟩
  readable_of_read _ := trivial

/-- The second format may depend on the value the first one carries. -/
def dependent {γ : α → Type} (first : Format α)
    (second : (head : α) → Format (γ head)) : Format (Σ head, γ head) where
  write value := do
    let front ← first.write value.1
    let back ← (second value.1).write value.2
    return front ++ back
  read bytes := do
    let (head, rest) ← first.read bytes
    let (tail, rest) ← (second head).read rest
    return (⟨head, tail⟩, rest)
  Readable value := first.Readable value.1 ∧ (second value.1).Readable value.2
  read_write := by
    intro value out hvalue hwrite rest
    simp only [Option.pure_def, Option.bind_eq_bind, Option.bind_eq_some_iff,
      Option.some.injEq] at hwrite
    obtain ⟨front, hfront, back, hback, rfl⟩ := hwrite
    rw [List.append_assoc]
    simp [first.read_write hvalue.1 hfront,
      (second value.1).read_write hvalue.2 hback]
  write_read := by
    intro bytes value rest hread
    simp only [Option.pure_def, Option.bind_eq_bind, Option.bind_eq_some_iff,
      Option.some.injEq, Prod.exists, Prod.mk.injEq] at hread
    obtain ⟨head, middle, hhead, tail, last, htail, rfl, rfl⟩ := hread
    obtain ⟨front, hfront, rfl⟩ := first.write_read hhead
    obtain ⟨back, hback, rfl⟩ := (second head).write_read htail
    exact ⟨front ++ back, by simp [hfront, hback], by simp⟩
  readable_of_read := by
    intro bytes value rest hread
    simp only [Option.pure_def, Option.bind_eq_bind, Option.bind_eq_some_iff,
      Option.some.injEq, Prod.exists, Prod.mk.injEq] at hread
    obtain ⟨head, middle, hhead, tail, last, htail, rfl, rfl⟩ := hread
    exact ⟨first.readable_of_read hhead, (second head).readable_of_read htail⟩

/-! ## Machine words, tags and enumerations -/

def uint8 : Format UInt8 :=
  (number 1).embed UInt8.ofNat (fun value => some value.toNat)
    (fun inner bytes rest hread => congrArg some
      (UInt8.toNat_ofNat_of_lt' ((number 1).readable_of_read hread)))
    (fun outer inner houter => by
      cases houter
      exact UInt8.ofNat_toNat)

def uint16 : Format UInt16 :=
  (number 2).embed UInt16.ofNat (fun value => some value.toNat)
    (fun inner bytes rest hread => congrArg some
      (UInt16.toNat_ofNat_of_lt' ((number 2).readable_of_read hread)))
    (fun outer inner houter => by
      cases houter
      exact UInt16.ofNat_toNat)

def uint32 : Format UInt32 :=
  (number 4).embed UInt32.ofNat (fun value => some value.toNat)
    (fun inner bytes rest hread => congrArg some
      (UInt32.toNat_ofNat_of_lt' ((number 4).readable_of_read hread)))
    (fun outer inner houter => by
      cases houter
      exact UInt32.ofNat_toNat)

def uint64 : Format UInt64 :=
  (number 8).embed UInt64.ofNat (fun value => some value.toNat)
    (fun inner bytes rest hread => congrArg some
      (UInt64.toNat_ofNat_of_lt' ((number 8).readable_of_read hread)))
    (fun outer inner houter => by
      cases houter
      exact UInt64.ofNat_toNat)

/-- Two's complement over the unsigned word of the same width. -/
def int64 : Format Int64 :=
  uint64.equiv ⟨UInt64.toInt64, Int64.toUInt64, fun _ => rfl, fun _ => rfl⟩

@[simp]
theorem readable_uint8 (value : UInt8) : uint8.Readable value := by
  intro inner hinner
  cases hinner
  exact value.toNat_lt

@[simp]
theorem readable_uint16 (value : UInt16) : uint16.Readable value := by
  intro inner hinner
  cases hinner
  exact value.toNat_lt

@[simp]
theorem readable_uint32 (value : UInt32) : uint32.Readable value := by
  intro inner hinner
  cases hinner
  exact value.toNat_lt

@[simp]
theorem readable_uint64 (value : UInt64) : uint64.Readable value := by
  intro inner hinner
  cases hinner
  exact value.toNat_lt

@[simp]
theorem readable_int64 (value : Int64) : int64.Readable value :=
  readable_uint64 value.toUInt64

@[simp]
theorem uint16_read_bigEndian (value : UInt16) (rest : Bytes) :
    uint16.read (bigEndian 2 value.toNat ++ rest) = some (value, rest) :=
  uint16.read_write (readable_uint16 value) rfl rest

@[simp]
theorem uint32_read_bigEndian (value : UInt32) (rest : Bytes) :
    uint32.read (bigEndian 4 value.toNat ++ rest) = some (value, rest) :=
  uint32.read_write (readable_uint32 value) rfl rest

@[simp]
theorem uint64_read_bigEndian (value : UInt64) (rest : Bytes) :
    uint64.read (bigEndian 8 value.toNat ++ rest) = some (value, rest) :=
  uint64.read_write (readable_uint64 value) rfl rest

@[simp]
theorem int64_read_bigEndian (value : Int64) (rest : Bytes) :
    int64.read (bigEndian 8 value.toUInt64.toNat ++ rest) = some (value, rest) :=
  int64.read_write (readable_int64 value) rfl rest

/-- One byte standing for a value; bytes outside the range of `code` are
rejected. -/
def enum (code : α → UInt8) (ofCode : UInt8 → Option α)
    (hcode : ∀ value, ofCode (code value) = some value)
    (hofCode : ∀ byte value, ofCode byte = some value → code value = byte) :
    Format α where
  write value := some [code value]
  read
    | [] => none
    | byte :: rest => (ofCode byte).map fun value => (value, rest)
  Readable _ := True
  read_write := by
    intro value out _ hwrite rest
    cases hwrite
    simp [hcode]
  write_read := by
    intro bytes value rest hread
    cases bytes with
    | nil => cases hread
    | cons byte bytes =>
        simp only [Option.map_eq_some_iff, Prod.mk.injEq] at hread
        obtain ⟨found, hfound, rfl, rfl⟩ := hread
        exact ⟨[code found], rfl, by simp [hofCode byte found hfound]⟩
  readable_of_read _ := trivial

/-- Consecutive tags: the first listed value is written as `first`, the next one
as `first + 1`, and so on. -/
def tagged [DecidableEq α] (first : ℕ) (values : List α)
    (hcomplete : ∀ value, value ∈ values) (hnodup : values.Nodup)
    (hsize : first + values.length ≤ 256) : Format α :=
  enum (fun value => UInt8.ofNat (first + values.idxOf value))
    (fun byte => if first ≤ byte.toNat then values[byte.toNat - first]? else none)
    (by
      intro value
      have hindex : values.idxOf value < values.length :=
        List.idxOf_lt_length_of_mem (hcomplete value)
      have hcode : (UInt8.ofNat (first + values.idxOf value)).toNat =
          first + values.idxOf value :=
        UInt8.toNat_ofNat_of_lt' (show _ < 256 by omega)
      rw [hcode, if_pos (Nat.le_add_right _ _), Nat.add_sub_cancel_left,
        List.getElem?_eq_getElem hindex, List.getElem_idxOf])
    (by
      intro byte value hbyte
      split at hbyte
      · rename_i hfirst
        obtain ⟨hindex, rfl⟩ := List.getElem?_eq_some_iff.mp hbyte
        rw [hnodup.idxOf_getElem, Nat.add_sub_cancel' hfirst, UInt8.ofNat_toNat]
      · cases hbyte)

@[simp]
theorem readable_tagged [DecidableEq α] (first : ℕ) (values : List α)
    (hcomplete : ∀ value, value ∈ values) (hnodup : values.Nodup)
    (hsize : first + values.length ≤ 256) (value : α) :
    (tagged first values hcomplete hnodup hsize).Readable value := trivial

/-- `0x00` and `0x01` are the only booleans on the wire. -/
def bool : Format Bool :=
  enum (fun value => if value then 1 else 0)
    (fun byte => if byte = 0 then some false else if byte = 1 then some true else none)
    (by decide)
    (by
      intro byte value hbyte
      split at hbyte
      · cases hbyte
        simpa using (‹byte = 0›).symm
      · split at hbyte
        · cases hbyte
          simpa using (‹byte = 1›).symm
        · cases hbyte)

@[simp]
theorem readable_bool (value : Bool) : bool.Readable value := trivial

/-- A presence tag followed by the value when it is present. -/
def optional (format : Format α) : Format (Option α) :=
  (bool.dependent (γ := fun present => if present then α else Unit)
    (fun present => match present with
      | true => format
      | false => unit)).embed
    (fun found => match found with
      | ⟨true, value⟩ => some value
      | ⟨false, _⟩ => none)
    (fun value => match value with
      | some value => some ⟨true, value⟩
      | none => some ⟨false, ()⟩)
    (by rintro ⟨_ | _, inner⟩ _ _ _ <;> rfl)
    (by
      intro outer inner houter
      cases outer <;> cases houter <;> rfl)

@[simp]
theorem readable_optional_none (format : Format α) :
    format.optional.Readable none := by
  intro inner hinner
  cases hinner
  exact ⟨trivial, trivial⟩

@[simp]
theorem readable_optional_some (format : Format α) (value : α) :
    format.optional.Readable (some value) ↔ format.Readable value := by
  constructor
  · intro h
    exact (h ⟨true, value⟩ rfl).2
  · intro h inner hinner
    cases hinner
    exact ⟨trivial, h⟩

/-- A field that only some layouts of a record carry.  Where it is missing the
reader supplies `absent`. -/
def since (present : Bool) (absent : α) (format : Format α) : Format α where
  write value := if present then format.write value else some []
  read bytes := if present then format.read bytes else some (absent, bytes)
  Readable value := if present then format.Readable value else value = absent
  read_write := by
    intro value out hvalue hwrite rest
    cases present with
    | true => exact format.read_write hvalue hwrite rest
    | false =>
        cases hwrite
        cases hvalue
        rfl
  write_read := by
    intro bytes value rest hread
    cases present with
    | true => exact format.write_read hread
    | false =>
        cases hread
        exact ⟨[], rfl, rfl⟩
  readable_of_read := by
    intro bytes value rest hread
    cases present with
    | true => exact format.readable_of_read hread
    | false =>
        cases hread
        rfl

@[simp]
theorem readable_since_true (absent : α) (format : Format α) (value : α) :
    (format.since true absent).Readable value ↔ format.Readable value := Iff.rfl

@[simp]
theorem readable_since_false (absent : α) (format : Format α) (value : α) :
    (format.since false absent).Readable value ↔ value = absent := Iff.rfl

@[simp]
theorem readable_pair (first : Format α) (second : Format β) (value : α × β) :
    (first.pair second).Readable value ↔
      first.Readable value.1 ∧ second.Readable value.2 := Iff.rfl

/-! ## Sequences -/

/-- All elements in order, without a count. -/
def writeAll (format : Format α) : List α → Option Bytes
  | [] => some []
  | value :: values => do
      let front ← format.write value
      let back ← writeAll format values
      return front ++ back

/-- Exactly `count` elements. -/
def readMany (format : Format α) : ℕ → Bytes → Option (List α × Bytes)
  | 0, bytes => some ([], bytes)
  | count + 1, bytes => do
      let (value, rest) ← format.read bytes
      let (values, rest) ← readMany format count rest
      return (value :: values, rest)

theorem readMany_writeAll (format : Format α) {values : List α} {out : Bytes}
    (hreadable : ∀ value ∈ values, format.Readable value)
    (hwrite : format.writeAll values = some out) (rest : Bytes) :
    format.readMany values.length (out ++ rest) = some (values, rest) := by
  induction values generalizing out with
  | nil =>
      cases hwrite
      rfl
  | cons value values ih =>
      simp only [writeAll, Option.pure_def, Option.bind_eq_bind,
        Option.bind_eq_some_iff, Option.some.injEq] at hwrite
      obtain ⟨front, hfront, back, hback, rfl⟩ := hwrite
      have hhead := format.read_write (hreadable value (by simp)) hfront
      have htail := ih (fun value hvalue => hreadable value (by simp [hvalue])) hback
      rw [List.append_assoc]
      simp [readMany, hhead, htail]

theorem writeAll_readMany (format : Format α) {count : ℕ} {bytes rest : Bytes}
    {values : List α} (hread : format.readMany count bytes = some (values, rest)) :
    values.length = count ∧ (∀ value ∈ values, format.Readable value) ∧
      ∃ out, format.writeAll values = some out ∧ bytes = out ++ rest := by
  induction count generalizing bytes values with
  | zero =>
      cases hread
      exact ⟨rfl, by simp, [], rfl, rfl⟩
  | succ count ih =>
      simp only [readMany, Option.pure_def, Option.bind_eq_bind,
        Option.bind_eq_some_iff, Option.some.injEq, Prod.exists,
        Prod.mk.injEq] at hread
      obtain ⟨head, middle, hhead, tail, last, htail, rfl, rfl⟩ := hread
      obtain ⟨front, hfront, rfl⟩ := format.write_read hhead
      obtain ⟨hlength, hreadable, back, hback, rfl⟩ := ih htail
      refine ⟨by simp [hlength], ?_, front ++ back, ?_, by simp⟩
      · intro value hvalue
        rcases List.mem_cons.mp hvalue with rfl | hvalue
        · exact format.readable_of_read hhead
        · exact hreadable value hvalue
      · simp [writeAll, hfront, hback]

/-- A one-byte count of at most `limit` followed by that many elements.  The
writer truncates the count to a byte, the reader enforces the limit. -/
def counted (format : Format α) (limit : ℕ) (hlimit : limit < 256) :
    Format (List α) where
  write values := do
    let back ← format.writeAll values
    return UInt8.ofNat values.length :: back
  read
    | [] => none
    | count :: rest =>
        if count.toNat ≤ limit then format.readMany count.toNat rest else none
  Readable values := values.length ≤ limit ∧ ∀ value ∈ values, format.Readable value
  read_write := by
    intro values out hvalues hwrite rest
    simp only [Option.pure_def, Option.bind_eq_bind, Option.bind_eq_some_iff,
      Option.some.injEq] at hwrite
    obtain ⟨back, hback, rfl⟩ := hwrite
    have hcount : (UInt8.ofNat values.length).toNat = values.length :=
      UInt8.toNat_ofNat_of_lt' (lt_of_le_of_lt hvalues.1 hlimit)
    simp only [List.cons_append, hcount, if_pos hvalues.1]
    exact format.readMany_writeAll hvalues.2 hback rest
  write_read := by
    intro bytes values rest hread
    cases bytes with
    | nil => cases hread
    | cons count bytes =>
        simp only at hread
        split at hread
        · obtain ⟨hlength, _, back, hback, rfl⟩ := format.writeAll_readMany hread
          exact ⟨count :: back, by simp [hback, hlength], rfl⟩
        · cases hread
  readable_of_read := by
    intro bytes values rest hread
    cases bytes with
    | nil => cases hread
    | cons count bytes =>
        simp only at hread
        split at hread
        · rename_i hcount
          obtain ⟨hlength, hreadable, _⟩ := format.writeAll_readMany hread
          exact ⟨by omega, hreadable⟩
        · cases hread

/-- A byte string behind a two-byte length.  The writer refuses what the length
field cannot hold, the reader what exceeds `limit`. -/
def text (limit : ℕ) : Format Bytes where
  write value :=
    if value.length ≤ 65535 then some (bigEndian 2 value.length ++ value) else none
  read bytes := do
    let (length, rest) ← uint16.read bytes
    if length.toNat ≤ limit ∧ length.toNat ≤ rest.length then
      return (rest.take length.toNat, rest.drop length.toNat)
    else none
  Readable value := value.length ≤ limit
  read_write := by
    intro value out hvalue hwrite rest
    split at hwrite
    · rename_i hlength
      cases hwrite
      have hsize : (UInt16.ofNat value.length).toNat = value.length :=
        UInt16.toNat_ofNat_of_lt' (show value.length < 65536 by omega)
      have hcount : uint16.write (UInt16.ofNat value.length) =
          some (bigEndian 2 value.length) := by
        simp [uint16, embed, number, hsize]
      have hread := uint16.read_write (readable_uint16 (UInt16.ofNat value.length)) hcount
        (value ++ rest)
      rw [List.append_assoc]
      simp [hread, hsize, hvalue]
    · cases hwrite
  write_read := by
    intro bytes value rest hread
    simp only [Option.pure_def, Option.bind_eq_bind, Option.bind_eq_some_iff,
      Prod.exists] at hread
    obtain ⟨length, tail, hlength, hread⟩ := hread
    split at hread
    · rename_i hbounds
      cases hread
      obtain ⟨front, hfront, rfl⟩ := uint16.write_read hlength
      have hsize : (tail.take length.toNat).length = length.toNat := by
        simp [hbounds.2]
      have hword := length.toNat_lt
      refine ⟨front ++ tail.take length.toNat, ?_, by simp⟩
      simp only [uint16, embed, number, Option.bind_some, Option.some.injEq] at hfront
      rw [hsize, if_pos (by omega), hfront]
    · cases hread
  readable_of_read := by
    intro bytes value rest hread
    simp only [Option.pure_def, Option.bind_eq_bind, Option.bind_eq_some_iff,
      Prod.exists] at hread
    obtain ⟨length, tail, hlength, hread⟩ := hread
    split at hread
    · rename_i hbounds
      cases hread
      simp [hbounds.1]
    · cases hread

/-! ## Formats without a reading limit -/

/-- Every value that can be written can be read back. -/
class Total (format : Format α) : Prop where
  readable : ∀ value, format.Readable value

theorem readable_total (format : Format α) [format.Total] (value : α) :
    format.Readable value := Total.readable value

instance : uint8.Total := ⟨readable_uint8⟩
instance : uint16.Total := ⟨readable_uint16⟩
instance : uint32.Total := ⟨readable_uint32⟩
instance : uint64.Total := ⟨readable_uint64⟩
instance : int64.Total := ⟨readable_int64⟩
instance : bool.Total := ⟨readable_bool⟩

instance [DecidableEq α] (first : ℕ) (values : List α)
    (hcomplete : ∀ value, value ∈ values) (hnodup : values.Nodup)
    (hsize : first + values.length ≤ 256) :
    (tagged first values hcomplete hnodup hsize).Total := ⟨fun _ => trivial⟩

instance (first : Format α) (second : Format β) [first.Total] [second.Total] :
    (first.pair second).Total :=
  ⟨fun value => ⟨Total.readable value.1, Total.readable value.2⟩⟩

instance (format : Format α) (e : α ≃ β) [format.Total] : (format.equiv e).Total :=
  ⟨fun value => Total.readable (e.symm value)⟩

instance (format : Format α) (accepts : α → Bool) [format.Total] :
    (format.guard accepts).Total := ⟨fun value => readable_total format value⟩

instance (format : Format α) [format.Total] : format.optional.Total := by
  constructor
  rintro (_ | value)
  · exact readable_optional_none format
  · exact (readable_optional_some format value).mpr (Total.readable value)

/-- Round trip of a format without a reading limit. -/
theorem Total.read_write {format : Format α} [format.Total] {value : α} {out : Bytes}
    (hwrite : format.write value = some out) (rest : Bytes) :
    format.read (out ++ rest) = some (value, rest) :=
  format.read_write (Total.readable value) hwrite rest

end Format

end Fermentationsschrank

import Fermentationsschrank.Storage.Binary64

/-!
# What a format writes

Which values a format can write at all, how many bytes it needs for them, and
how far its reader looks.  All three are computed along the combinators, so a
record with thirty fields is again free.
-/

namespace Fermentationsschrank

namespace Format

variable {α β : Type}

/-! ## Locality -/

/-- A reader looks at nothing behind what it consumes. -/
theorem read_append (format : Format α) {bytes rest : Bytes} {value : α}
    (h : format.read bytes = some (value, rest)) (tail : Bytes) :
    format.read (bytes ++ tail) = some (value, rest ++ tail) := by
  obtain ⟨out, hout, rfl⟩ := format.write_read h
  rw [List.append_assoc]
  exact format.read_write (format.readable_of_read h) hout _

theorem readMany_append (format : Format α) {count : ℕ} {bytes rest : Bytes}
    {values : List α} (h : format.readMany count bytes = some (values, rest))
    (tail : Bytes) :
    format.readMany count (bytes ++ tail) = some (values, rest ++ tail) := by
  obtain ⟨rfl, hreadable, out, hout, rfl⟩ := format.writeAll_readMany h
  rw [List.append_assoc]
  exact format.readMany_writeAll hreadable hout _

theorem uint8_read_eq_some {bytes rest : Bytes} {value : UInt8}
    (h : uint8.read bytes = some (value, rest)) : bytes = value :: rest := by
  obtain ⟨out, hout, rfl⟩ := uint8.write_read h
  cases hout
  simp [bigEndian]

theorem uint16_read_eq_some {bytes rest : Bytes} {value : UInt16}
    (h : uint16.read bytes = some (value, rest)) :
    bytes = bigEndian 2 value.toNat ++ rest := by
  obtain ⟨out, hout, rfl⟩ := uint16.write_read h
  cases hout
  rfl

theorem uint32_read_eq_some {bytes rest : Bytes} {value : UInt32}
    (h : uint32.read bytes = some (value, rest)) :
    bytes = bigEndian 4 value.toNat ++ rest := by
  obtain ⟨out, hout, rfl⟩ := uint32.write_read h
  cases hout
  rfl

theorem uint64_read_eq_some {bytes rest : Bytes} {value : UInt64}
    (h : uint64.read bytes = some (value, rest)) :
    bytes = bigEndian 8 value.toNat ++ rest := by
  obtain ⟨out, hout, rfl⟩ := uint64.write_read h
  cases hout
  rfl

theorem int64_read_eq_some {bytes rest : Bytes} {value : Int64}
    (h : int64.read bytes = some (value, rest)) :
    bytes = bigEndian 8 value.toUInt64.toNat ++ rest := by
  obtain ⟨out, hout, rfl⟩ := int64.write_read h
  cases hout
  rfl

theorem bool_read_eq_some {bytes rest : Bytes} {value : Bool}
    (h : bool.read bytes = some (value, rest)) :
    bytes = (if value then 1 else 0) :: rest := by
  obtain ⟨out, hout, rfl⟩ := bool.write_read h
  cases value <;> cases hout <;> rfl

/-! ## Values that can be written -/

/-- The writer accepts the value. -/
def Writes (format : Format α) (value : α) : Prop := ∃ out, format.write value = some out

@[simp]
theorem writes_uint8 (value : UInt8) : uint8.Writes value := ⟨_, rfl⟩

@[simp]
theorem writes_uint16 (value : UInt16) : uint16.Writes value := ⟨_, rfl⟩

@[simp]
theorem writes_uint32 (value : UInt32) : uint32.Writes value := ⟨_, rfl⟩

@[simp]
theorem writes_uint64 (value : UInt64) : uint64.Writes value := ⟨_, rfl⟩

@[simp]
theorem writes_int64 (value : Int64) : int64.Writes value := ⟨_, rfl⟩

@[simp]
theorem writes_bool (value : Bool) : bool.Writes value := ⟨_, rfl⟩

@[simp]
theorem writes_tagged [DecidableEq α] (first : ℕ) (values : List α)
    (hcomplete : ∀ value, value ∈ values) (hnodup : values.Nodup)
    (hsize : first + values.length ≤ 256) (value : α) :
    (tagged first values hcomplete hnodup hsize).Writes value := ⟨_, rfl⟩

@[simp]
theorem writes_binary64 (value : Binary64) :
    binary64.Writes value ↔ value.isFinite = true := by
  rw [← Binary64.toBits_isSome, Option.isSome_iff_exists]
  constructor
  · rintro ⟨out, hout⟩
    obtain ⟨bits, hbits, -⟩ := Option.bind_eq_some_iff.mp hout
    exact ⟨bits, hbits⟩
  · rintro ⟨bits, hbits⟩
    have hcanonical := (Binary64.ofBits_toBits hbits).2
    refine ⟨bigEndian 8 bits.toNat, Option.bind_eq_some_iff.mpr ⟨bits, hbits, ?_⟩⟩
    exact if_pos hcanonical

@[simp]
theorem writes_pair (first : Format α) (second : Format β) (value : α × β) :
    (first.pair second).Writes value ↔ first.Writes value.1 ∧ second.Writes value.2 := by
  constructor
  · rintro ⟨out, hout⟩
    simp only [pair, Option.pure_def, Option.bind_eq_bind, Option.bind_eq_some_iff] at hout
    obtain ⟨front, hfront, back, hback, -⟩ := hout
    exact ⟨⟨front, hfront⟩, back, hback⟩
  · rintro ⟨⟨front, hfront⟩, back, hback⟩
    exact ⟨front ++ back, by simp [pair, hfront, hback]⟩

@[simp]
theorem writes_equiv (format : Format α) (e : α ≃ β) (value : β) :
    (format.equiv e).Writes value ↔ format.Writes (e.symm value) := Iff.rfl

@[simp]
theorem writes_readGuard (format : Format α) (accepts : α → Bool) (value : α) :
    (format.readGuard accepts).Writes value ↔ format.Writes value := Iff.rfl

@[simp]
theorem writes_guard (format : Format α) (accepts : α → Bool) (value : α) :
    (format.guard accepts).Writes value ↔ accepts value = true ∧ format.Writes value := by
  simp only [Writes, guard, Option.ite_none_right_eq_some, exists_and_left]

@[simp]
theorem writes_optional_none (format : Format α) : format.optional.Writes none :=
  ⟨[0], rfl⟩

/-- A present value follows its tag. -/
theorem optional_write_some (format : Format α) (value : α) :
    format.optional.write (some value) = (format.write value).map (1 :: ·) := by
  have htagged : format.optional.write (some value) =
      (format.write value).bind fun back => some (1 :: back) := rfl
  rw [htagged, Option.map_eq_bind]
  rfl

@[simp]
theorem writes_optional_some (format : Format α) (value : α) :
    format.optional.Writes (some value) ↔ format.Writes value := by
  simp only [Writes, optional_write_some, Option.map_eq_some_iff]
  constructor
  · rintro ⟨_, back, hback, -⟩
    exact ⟨back, hback⟩
  · rintro ⟨back, hback⟩
    exact ⟨_, back, hback, rfl⟩

theorem writes_optional_iff (format : Format α) {value : Option α} :
    format.optional.Writes value ↔ ∀ found ∈ value, format.Writes found := by
  cases value with
  | none => simp
  | some found => simp

theorem writes_optional (format : Format α) {value : Option α}
    (h : ∀ found ∈ value, format.Writes found) : format.optional.Writes value :=
  (writes_optional_iff format).mpr h

@[simp]
theorem writes_since_true (absent : α) (format : Format α) (value : α) :
    (format.since true absent).Writes value ↔ format.Writes value := Iff.rfl

theorem exists_writeAll (format : Format α) {values : List α}
    (h : ∀ value ∈ values, format.Writes value) :
    ∃ out, format.writeAll values = some out := by
  induction values with
  | nil => exact ⟨[], rfl⟩
  | cons value values ih =>
      obtain ⟨front, hfront⟩ := h value (List.mem_cons_self ..)
      obtain ⟨back, hback⟩ := ih fun value hvalue => h value (List.mem_cons_of_mem _ hvalue)
      exact ⟨front ++ back, by simp [writeAll, hfront, hback]⟩

theorem writes_counted (format : Format α) (limit : ℕ) (hlimit : limit < 256)
    {values : List α} (h : ∀ value ∈ values, format.Writes value) :
    (format.counted limit hlimit).Writes values := by
  obtain ⟨out, hout⟩ := format.exists_writeAll h
  exact ⟨UInt8.ofNat values.length :: out, by simp [counted, hout]⟩

theorem writes_text {limit : ℕ} {value : Bytes} (h : value.length ≤ 65535) :
    (text limit).Writes value := ⟨_, if_pos h⟩

/-! ## Bounded sizes -/

/-- No value needs more than `limit` bytes. -/
class Bounded (format : Format α) (limit : outParam ℕ) : Prop where
  length_le : ∀ {value : α} {out : Bytes}, format.write value = some out →
    out.length ≤ limit

theorem length_le {format : Format α} {limit : ℕ} [format.Bounded limit] {value : α}
    {out : Bytes} (h : format.write value = some out) : out.length ≤ limit :=
  Bounded.length_le h

/-- A bound carries over to a format that writes what the bounded one writes. -/
theorem Bounded.of_write {format : Format α} {other : Format β} {n : ℕ}
    [format.Bounded n] (convert : β → α)
    (h : ∀ value, other.write value = format.write (convert value)) : other.Bounded n := by
  constructor
  intro value out hwrite
  rw [h] at hwrite
  exact length_le hwrite

instance : uint8.Bounded 1 := ⟨fun h => by cases h; simp⟩
instance : uint16.Bounded 2 := ⟨fun h => by cases h; simp⟩
instance : uint32.Bounded 4 := ⟨fun h => by cases h; simp⟩
instance : uint64.Bounded 8 := ⟨fun h => by cases h; simp⟩
instance : int64.Bounded 8 := ⟨fun h => by cases h; simp⟩
instance : bool.Bounded 1 := ⟨fun h => by cases h; simp⟩

instance [DecidableEq α] (first : ℕ) (values : List α)
    (hcomplete : ∀ value, value ∈ values) (hnodup : values.Nodup)
    (hsize : first + values.length ≤ 256) :
    (tagged first values hcomplete hnodup hsize).Bounded 1 :=
  ⟨fun h => by cases h; simp⟩

instance (first : Format α) (second : Format β) (m n : ℕ) [first.Bounded m]
    [second.Bounded n] : (first.pair second).Bounded (m + n) := by
  constructor
  intro value out h
  simp only [pair, Option.pure_def, Option.bind_eq_bind, Option.bind_eq_some_iff,
    Option.some.injEq] at h
  obtain ⟨front, hfront, back, hback, rfl⟩ := h
  have hfirst := length_le hfront
  have hsecond := length_le hback
  rw [List.length_append]
  omega

instance (format : Format α) (e : α ≃ β) (n : ℕ) [format.Bounded n] :
    (format.equiv e).Bounded n := .of_write e.symm fun _ => rfl

instance (format : Format α) (accepts : α → Bool) (n : ℕ) [format.Bounded n] :
    (format.readGuard accepts).Bounded n :=
  @Bounded.of_write _ _ format _ n _ id fun _ => rfl

instance (format : Format α) (accepts : α → Bool) (n : ℕ) [format.Bounded n] :
    (format.guard accepts).Bounded n := by
  constructor
  intro value out h
  simp only [guard, Option.ite_none_right_eq_some] at h
  exact length_le h.2

instance : binary64.Bounded 8 := by
  constructor
  intro value out h
  obtain ⟨bits, -, hbits⟩ := Option.bind_eq_some_iff.mp h
  exact length_le hbits

instance (format : Format α) (n : ℕ) [format.Bounded n] :
    format.optional.Bounded (1 + n) := by
  constructor
  intro value out h
  cases value with
  | none =>
      cases h
      simp
  | some value =>
      rw [optional_write_some] at h
      obtain ⟨back, hback, rfl⟩ := Option.map_eq_some_iff.mp h
      have hvalue : back.length ≤ n := length_le hback
      rw [List.length_cons]
      omega

instance (present : Bool) (absent : α) (format : Format α) (n : ℕ) [format.Bounded n] :
    (format.since present absent).Bounded n := by
  constructor
  intro value out h
  cases present with
  | true =>
      have hwrite : format.write value = some out := h
      exact length_le hwrite
  | false =>
      cases h
      simp

/-! ## Exact sizes -/

/-- Every value needs exactly `size` bytes. -/
class Exact (format : Format α) (size : outParam ℕ) : Prop where
  length_eq : ∀ {value : α} {out : Bytes}, format.write value = some out → out.length = size

theorem length_eq {format : Format α} {size : ℕ} [format.Exact size] {value : α} {out : Bytes}
    (h : format.write value = some out) : out.length = size := Exact.length_eq h

instance : uint8.Exact 1 := ⟨fun h => by cases h; simp⟩
instance : uint16.Exact 2 := ⟨fun h => by cases h; simp⟩
instance : uint32.Exact 4 := ⟨fun h => by cases h; simp⟩
instance : uint64.Exact 8 := ⟨fun h => by cases h; simp⟩

instance (first : Format α) (second : Format β) (m n : ℕ) [first.Exact m] [second.Exact n] :
    (first.pair second).Exact (m + n) := by
  constructor
  intro value out h
  simp only [pair, Option.pure_def, Option.bind_eq_bind, Option.bind_eq_some_iff,
    Option.some.injEq] at h
  obtain ⟨front, hfront, back, hback, rfl⟩ := h
  rw [List.length_append, length_eq hfront, length_eq hback]

instance (format : Format α) (e : α ≃ β) (n : ℕ) [format.Exact n] :
    (format.equiv e).Exact n := ⟨fun h => @length_eq _ format n _ _ _ h⟩

/-- Reading a value of exact size from as many bytes leaves none. -/
theorem rest_of_read {format : Format α} {size : ℕ} [format.Exact size] {bytes rest : Bytes}
    {value : α} (h : format.read bytes = some (value, rest)) (hsize : bytes.length = size) :
    rest = [] ∧ format.write value = some bytes := by
  obtain ⟨out, hout, rfl⟩ := format.write_read h
  rw [List.length_append, length_eq hout] at hsize
  have hrest : rest = [] := List.eq_nil_of_length_eq_zero (by omega)
  rw [hrest, List.append_nil]
  exact ⟨rfl, hout⟩

theorem writeAll_length (format : Format α) {n : ℕ} [format.Bounded n]
    {values : List α} {out : Bytes} (h : format.writeAll values = some out) :
    out.length ≤ values.length * n := by
  induction values generalizing out with
  | nil =>
      cases h
      simp
  | cons value values ih =>
      simp only [writeAll, Option.pure_def, Option.bind_eq_bind, Option.bind_eq_some_iff,
        Option.some.injEq] at h
      obtain ⟨front, hfront, back, hback, rfl⟩ := h
      have hhead : front.length ≤ n := length_le hfront
      have htail := ih hback
      rw [List.length_append, List.length_cons, Nat.succ_mul]
      omega

theorem counted_length (format : Format α) {n limit : ℕ} {hlimit : limit < 256}
    [format.Bounded n] {values : List α} {out : Bytes}
    (h : (format.counted limit hlimit).write values = some out) :
    out.length ≤ 1 + values.length * n := by
  simp only [counted, Option.pure_def, Option.bind_eq_bind, Option.bind_eq_some_iff,
    Option.some.injEq] at h
  obtain ⟨back, hback, rfl⟩ := h
  have hvalues := format.writeAll_length hback
  rw [List.length_cons]
  omega

theorem text_length {limit : ℕ} {value out : Bytes}
    (h : (text limit).write value = some out) : out.length = 2 + value.length := by
  simp only [text, Option.ite_none_right_eq_some, Option.some.injEq] at h
  rw [← h.2, List.length_append, length_bigEndian]

/-! ## Output of a bounded size -/

/-- Something was written, and it has at most `limit` bytes. -/
def Fits (written : Option Bytes) (limit : ℕ) : Prop :=
  ∃ out, written = some out ∧ out.length ≤ limit

theorem Writes.fits {format : Format α} {n : ℕ} [format.Bounded n] {value : α}
    (h : format.Writes value) : Fits (format.write value) n := by
  obtain ⟨out, hout⟩ := h
  exact ⟨out, hout, length_le hout⟩

theorem Fits.mono {written : Option Bytes} {m n : ℕ} (h : Fits written m) (hle : m ≤ n) :
    Fits written n := by
  obtain ⟨out, hout, hlength⟩ := h
  exact ⟨out, hout, hlength.trans hle⟩

theorem fits_pair {first : Format α} {second : Format β} {head : α} {tail : β} {m n : ℕ}
    (hfirst : Fits (first.write head) m) (hsecond : Fits (second.write tail) n) :
    Fits ((first.pair second).write (head, tail)) (m + n) := by
  obtain ⟨front, hfront, hm⟩ := hfirst
  obtain ⟨back, hback, hn⟩ := hsecond
  refine ⟨front ++ back, by simp [pair, hfront, hback], ?_⟩
  rw [List.length_append]
  omega

theorem fits_text {limit bound : ℕ} {value : Bytes} (h : value.length ≤ bound)
    (hbound : bound ≤ 65535) : Fits ((text limit).write value) (2 + bound) := by
  obtain ⟨out, hout⟩ : (text limit).Writes value := writes_text (h.trans hbound)
  refine ⟨out, hout, ?_⟩
  rw [text_length hout]
  omega

theorem fits_counted {format : Format α} {n limit : ℕ} {hlimit : limit < 256}
    [format.Bounded n] {values : List α} (h : ∀ value ∈ values, format.Writes value)
    (hcount : values.length ≤ limit) :
    Fits ((format.counted limit hlimit).write values) (1 + limit * n) := by
  obtain ⟨out, hout⟩ := writes_counted format limit hlimit h
  refine ⟨out, hout, (counted_length format hout).trans ?_⟩
  have hproduct := Nat.mul_le_mul_right n hcount
  omega

end Format

end Fermentationsschrank

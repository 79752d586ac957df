import Fermentationsschrank.Core.FormatWriting

/-!
# Sizes of formats

How long the output of a combinator is, when its parts have a fixed size, and what it means to
write or to read a whole payload.
-/

namespace Fermentationsschrank

namespace Format

variable {α β : Type} {size : ℕ}

instance (format : Format α) (accepts : α → Bool) [format.Exact size] :
    (format.guard accepts).Exact size := by
  constructor
  intro value out h
  rw [guard, Option.ite_none_right_eq_some] at h
  exact length_eq h.2

instance (format : Format α) (accepts : α → Bool) [format.Exact size] :
    (format.readGuard accepts).Exact size := ⟨fun h => @length_eq _ format size _ _ _ h⟩

instance (format : Format α) (fold : α → β) (unfold : β → Option α)
    (hfold : ∀ inner bytes rest, format.read bytes = some (inner, rest) →
      unfold (fold inner) = some inner)
    (hunfold : ∀ outer inner, unfold outer = some inner → fold inner = outer)
    [format.Exact size] : (format.embed fold unfold hfold hunfold).Exact size := by
  constructor
  intro value out h
  obtain ⟨inner, -, hinner⟩ := Option.bind_eq_some_iff.mp h
  exact length_eq hinner

instance : binary64.Exact 8 := by
  unfold binary64
  infer_instance

instance : bool.Exact 1 := ⟨fun h => by cases h; simp⟩

instance [DecidableEq α] (first : ℕ) (values : List α) (hcomplete : ∀ value, value ∈ values)
    (hnodup : values.Nodup) (hsize : first + values.length ≤ 256) :
    (tagged first values hcomplete hnodup hsize).Exact 1 := ⟨fun h => by cases h; simp⟩

/-- An optional value takes its tag, and its own size when it is there. -/
theorem optional_length (format : Format α) [format.Exact size] {value : Option α} {out : Bytes}
    (h : format.optional.write value = some out) :
    out.length = 1 + if value.isSome then size else 0 := by
  cases value with
  | none =>
      cases h
      rfl
  | some found =>
      rw [optional_write_some] at h
      obtain ⟨back, hback, rfl⟩ := Option.map_eq_some_iff.mp h
      rw [List.length_cons, length_eq hback]
      exact Nat.add_comm size 1

theorem writeAll_length_eq (format : Format α) [format.Exact size] {values : List α}
    {out : Bytes} (h : format.writeAll values = some out) : out.length = values.length * size := by
  induction values generalizing out with
  | nil =>
      cases h
      rw [List.length_nil, List.length_nil, Nat.zero_mul]
  | cons value values ih =>
      simp only [writeAll, Option.pure_def, Option.bind_eq_bind, Option.bind_eq_some_iff,
        Option.some.injEq] at h
      obtain ⟨front, hfront, back, hback, rfl⟩ := h
      rw [List.length_append, length_eq hfront, ih hback, List.length_cons, Nat.succ_mul,
        Nat.add_comm]

theorem counted_length_eq (format : Format α) {limit : ℕ} {hlimit : limit < 256}
    [format.Exact size] {values : List α} {out : Bytes}
    (h : (format.counted limit hlimit).write values = some out) :
    out.length = 1 + values.length * size := by
  simp only [counted, Option.pure_def, Option.bind_eq_bind, Option.bind_eq_some_iff,
    Option.some.injEq] at h
  obtain ⟨back, hback, rfl⟩ := h
  rw [List.length_cons, format.writeAll_length_eq hback, Nat.add_comm]

theorem writes_embed (format : Format α) {fold : α → β} {unfold : β → Option α}
    {hfold : ∀ inner bytes rest, format.read bytes = some (inner, rest) →
      unfold (fold inner) = some inner}
    {hunfold : ∀ outer inner, unfold outer = some inner → fold inner = outer} {value : β}
    {inner : α} (hinner : unfold value = some inner) (h : format.Writes inner) :
    (format.embed fold unfold hfold hunfold).Writes value := by
  obtain ⟨out, hout⟩ := h
  exact ⟨out, Option.bind_eq_some_iff.mpr ⟨inner, hinner, hout⟩⟩

/-- A written pair is the one part before the other. -/
theorem pair_write_eq_some {first : Format α} {second : Format β} {value : α × β} {out : Bytes} :
    (first.pair second).write value = some out ↔
      ∃ front back, first.write value.1 = some front ∧ second.write value.2 = some back ∧
        out = front ++ back := by
  simp only [pair, Option.pure_def, Option.bind_eq_bind, Option.bind_eq_some_iff,
    Option.some.injEq]
  constructor
  · rintro ⟨front, hfront, back, hback, rfl⟩
    exact ⟨front, back, hfront, hback, rfl⟩
  · rintro ⟨front, back, hfront, hback, rfl⟩
    exact ⟨front, hfront, back, hback, rfl⟩

theorem fits_since (present : Bool) (absent : α) {format : Format α} {value : α} {limit : ℕ}
    (h : Fits (format.write value) limit) :
    Fits ((since present absent format).write value) limit := by
  cases present with
  | true => exact h
  | false => exact ⟨[], rfl, Nat.zero_le _⟩

/-- What was read to the end is what is written. -/
theorem write_of_read_all (format : Format α) {bytes : Bytes} {value : α}
    (h : format.read bytes = some (value, [])) : format.write value = some bytes := by
  obtain ⟨out, hout, hbytes⟩ := format.write_read h
  rw [hbytes, List.append_nil]
  exact hout

theorem read_of_write_all (format : Format α) {bytes : Bytes} {value : α}
    (hreadable : format.Readable value) (h : format.write value = some bytes) :
    format.read bytes = some (value, []) := by
  have hread := format.read_write hreadable h []
  rwa [List.append_nil] at hread

end Format

end Fermentationsschrank

import Mathlib.Data.List.DropRight
import Mathlib.Data.List.Rotate

/-!
# Ring buffers

A ring buffer keeps the last values it was given.  Its first `size` slots are in use, and
the oldest of them stands at the place that is written next.
-/

namespace Fermentationsschrank

variable {Value : Type} {slots : ℕ}

structure RingBuffer (Value : Type) (slots : ℕ) where
  values : List Value
  capacity : ℕ
  size : ℕ
  nextIndex : ℕ
  length_values : values.length = slots
  capacity_le : capacity ≤ slots
  size_le : size ≤ capacity
  nextIndex_lt : 0 < capacity → nextIndex < capacity
  filling : size < capacity → nextIndex = size
  deriving DecidableEq

namespace RingBuffer

/-- An empty buffer of the given capacity. -/
def empty (blank : Value) (capacity : ℕ) (h : capacity ≤ slots) : RingBuffer Value slots where
  values := List.replicate slots blank
  capacity
  size := 0
  nextIndex := 0
  length_values := List.length_replicate
  capacity_le := h
  size_le := Nat.zero_le _
  nextIndex_lt := id
  filling _ := rfl

/-- The slots keep their values; none of them is in use any more. -/
def reset (buffer : RingBuffer Value slots) : RingBuffer Value slots where
  values := buffer.values
  capacity := buffer.capacity
  size := 0
  nextIndex := 0
  length_values := buffer.length_values
  capacity_le := buffer.capacity_le
  size_le := Nat.zero_le _
  nextIndex_lt := id
  filling _ := rfl

/-- A value is written at the next place; a buffer without capacity takes none. -/
def push (buffer : RingBuffer Value slots) (value : Value) : RingBuffer Value slots :=
  if hcapacity : buffer.capacity = 0 then buffer
  else
    { values := buffer.values.set buffer.nextIndex value
      capacity := buffer.capacity
      size := if buffer.size < buffer.capacity then buffer.size + 1 else buffer.size
      nextIndex := (buffer.nextIndex + 1) % buffer.capacity
      length_values := by rw [List.length_set, buffer.length_values]
      capacity_le := buffer.capacity_le
      size_le := by
        have := buffer.size_le
        split <;> omega
      nextIndex_lt := Nat.mod_lt _
      filling := by
        split
        · next hroom =>
            intro hless
            rw [buffer.filling hroom, Nat.mod_eq_of_lt hless]
        · exact fun hless => absurd hless ‹_› }

/-- The values in use, in the order of their slots. -/
def contents (buffer : RingBuffer Value slots) : List Value :=
  buffer.values.take buffer.size

/-- The values in use, the oldest one first. -/
def inOrder (buffer : RingBuffer Value slots) : List Value :=
  buffer.contents.drop buffer.nextIndex ++ buffer.contents.take buffer.nextIndex

variable {buffer : RingBuffer Value slots} {history : List Value} {value : Value}

@[simp]
theorem contents_empty {blank : Value} {capacity : ℕ} (h : capacity ≤ slots) :
    (empty blank capacity h).contents = [] := rfl

@[simp]
theorem contents_reset : buffer.reset.contents = [] := rfl

@[simp]
theorem capacity_reset : buffer.reset.capacity = buffer.capacity := rfl

@[simp]
theorem capacity_push : (buffer.push value).capacity = buffer.capacity := by
  rw [push]
  split <;> rfl

theorem length_contents : buffer.contents.length = buffer.size := by
  have := buffer.length_values
  have := buffer.capacity_le
  have := buffer.size_le
  rw [contents, List.length_take]
  omega

theorem perm_inOrder : buffer.inOrder.Perm buffer.contents := by
  rw [inOrder]
  exact List.perm_append_comm.trans (List.take_append_drop _ _ ▸ List.Perm.refl _)

theorem contents_push (hcapacity : 0 < buffer.capacity) :
    (buffer.push value).contents =
      if buffer.size < buffer.capacity then buffer.contents ++ [value]
      else buffer.contents.set buffer.nextIndex value := by
  have hslots := buffer.length_values
  have hle := buffer.capacity_le
  rw [push, dif_neg (by omega), contents]
  dsimp only
  split
  · next hroom =>
      rw [buffer.filling hroom, List.take_add_one, List.take_set, List.getElem?_set_self (by omega),
        List.set_eq_of_length_le (List.length_take_le _ _)]
      rfl
  · rw [List.take_set]
    rfl

theorem nextIndex_push (hcapacity : 0 < buffer.capacity) :
    (buffer.push value).nextIndex = (buffer.nextIndex + 1) % buffer.capacity := by
  rw [push, dif_neg hcapacity.ne']

theorem inOrder_eq_contents (h : buffer.nextIndex = 0 ∨ buffer.nextIndex = buffer.size) :
    buffer.inOrder = buffer.contents := by
  rw [inOrder]
  rcases h with h | h
  · rw [h, List.drop_zero, List.take_zero, List.append_nil]
  · rw [h, ← length_contents, List.drop_length, List.take_length, List.nil_append]

/-- The buffer holds the last values of a history, as many as its capacity allows. -/
def Holds (history : List Value) (buffer : RingBuffer Value slots) : Prop :=
  buffer.inOrder = history.rtake buffer.capacity

theorem holds_empty {blank : Value} {capacity : ℕ} (h : capacity ≤ slots) :
    (empty blank capacity h).Holds [] := by
  simp [Holds, inOrder]

theorem holds_reset : buffer.reset.Holds [] := by
  simp [Holds, inOrder]

theorem Holds.size_eq (h : buffer.Holds history) :
    buffer.size = min buffer.capacity history.length := by
  have hlength := congrArg List.length h
  rw [perm_inOrder.length_eq, length_contents, List.rtake, List.length_drop] at hlength
  omega

theorem inOrder_push_of_room (hroom : buffer.size < buffer.capacity) :
    (buffer.push value).inOrder = buffer.inOrder ++ [value] := by
  have hnext := buffer.filling hroom
  have hcontents : (buffer.push value).contents = _ := contents_push (Nat.zero_lt_of_lt hroom)
  rw [if_pos hroom] at hcontents
  rw [inOrder_eq_contents (Or.inr hnext), ← hcontents]
  apply inOrder_eq_contents
  rw [← length_contents, hcontents, nextIndex_push (Nat.zero_lt_of_lt hroom), List.length_append,
    length_contents, hnext, List.length_singleton]
  rcases Nat.lt_or_ge (buffer.size + 1) buffer.capacity with hless | hge
  · exact Or.inr (Nat.mod_eq_of_lt hless)
  · left
    rw [show buffer.size + 1 = buffer.capacity from Nat.le_antisymm hroom hge, Nat.mod_self]

/-- In a full buffer the new value takes the place of the oldest one. -/
theorem inOrder_push_of_full (hcapacity : 0 < buffer.capacity)
    (hfull : ¬buffer.size < buffer.capacity) :
    (buffer.push value).inOrder = buffer.inOrder.tail ++ [value] := by
  have hlt := buffer.nextIndex_lt hcapacity
  have hlength : buffer.nextIndex < buffer.contents.length := by
    rw [length_contents]
    omega
  have hcontents : (buffer.push value).contents = _ := contents_push hcapacity
  rw [if_neg hfull] at hcontents
  have hset : (buffer.push value).contents =
      (buffer.contents.take buffer.nextIndex ++ [value]) ++
        buffer.contents.drop (buffer.nextIndex + 1) := by
    rw [hcontents, List.set_eq_take_append_cons_drop, if_pos hlength, List.append_assoc,
      List.singleton_append]
  have htail : buffer.inOrder.tail ++ [value] =
      buffer.contents.drop (buffer.nextIndex + 1) ++
        (buffer.contents.take buffer.nextIndex ++ [value]) := by
    rw [inOrder, List.drop_eq_getElem_cons hlength, List.cons_append, List.tail_cons,
      List.append_assoc]
  have htake : (buffer.contents.take buffer.nextIndex ++ [value]).length = buffer.nextIndex + 1 := by
    rw [List.length_append, List.length_take_of_le hlength.le, List.length_singleton]
  rw [htail, inOrder, hset, nextIndex_push hcapacity]
  rcases Nat.lt_or_ge (buffer.nextIndex + 1) buffer.capacity with hless | hge
  · rw [Nat.mod_eq_of_lt hless, List.drop_left' htake, List.take_left' htake]
  · -- The last slot was written: the next one is the first again.
    have hlast : buffer.nextIndex + 1 = buffer.capacity := Nat.le_antisymm hlt hge
    have hrest : buffer.contents.drop (buffer.nextIndex + 1) = [] := by
      have := buffer.size_le
      rw [List.drop_eq_nil_iff, length_contents]
      omega
    rw [hrest, hlast, Nat.mod_self, List.drop_zero, List.take_zero, List.append_nil,
      List.append_nil, List.nil_append]

theorem Holds.push (h : buffer.Holds history) (hcapacity : 0 < buffer.capacity) :
    (buffer.push value).Holds (history ++ [value]) := by
  have hsize := h.size_eq
  obtain ⟨room, hroom⟩ : ∃ room, buffer.capacity = room + 1 :=
    Nat.exists_eq_succ_of_ne_zero hcapacity.ne'
  rw [Holds, capacity_push, hroom, List.rtake_concat_succ]
  rw [Holds] at h
  rcases Nat.lt_or_ge buffer.size buffer.capacity with hless | hge
  · rw [inOrder_push_of_room hless, h]
    congr 1
    rw [List.rtake, List.rtake]
    congr 1
    omega
  · rw [inOrder_push_of_full hcapacity hge.not_gt, h]
    congr 1
    rw [List.rtake, List.rtake, List.tail_drop]
    congr 1
    have := buffer.size_le
    omega

end RingBuffer

end Fermentationsschrank

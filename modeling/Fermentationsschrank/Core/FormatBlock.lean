import Fermentationsschrank.Core.FormatWriting

/-!
# Blocks of a fixed length

A byte string whose length is part of its type, and its format behind a length byte
that must name this length.
-/

namespace Fermentationsschrank

structure Block (size : ℕ) where
  bytes : Bytes
  length_eq : bytes.length = size
  deriving DecidableEq, Repr

namespace Block

variable {size : ℕ}

theorem ext_bytes {left right : Block size} (h : left.bytes = right.bytes) : left = right := by
  cases left
  cases right
  cases h
  rfl

/-- The block of zero bytes. -/
def zero (size : ℕ) : Block size := ⟨List.replicate size 0, List.length_replicate⟩

end Block

namespace Format

variable {size : ℕ}

/-- The block at the front of a byte string. -/
def takeBlock (size : ℕ) (bytes : Bytes) : Option (Block size × Bytes) :=
  if h : (bytes.take size).length = size then some (⟨bytes.take size, h⟩, bytes.drop size)
  else none

theorem takeBlock_append (block : Block size) (rest : Bytes) :
    takeBlock size (block.bytes ++ rest) = some (block, rest) := by
  have htake : (block.bytes ++ rest).take size = block.bytes :=
    List.take_left' block.length_eq
  have hdrop : (block.bytes ++ rest).drop size = rest := List.drop_left' block.length_eq
  rw [takeBlock, dif_pos (by rw [htake]; exact block.length_eq)]
  rw [Option.some.injEq, Prod.mk.injEq]
  exact ⟨Block.ext_bytes htake, hdrop⟩

theorem of_takeBlock {bytes rest : Bytes} {block : Block size}
    (h : takeBlock size bytes = some (block, rest)) : bytes = block.bytes ++ rest := by
  rw [takeBlock] at h
  split at h
  · cases h
    exact (List.take_append_drop size bytes).symm
  · cases h

/-- A block behind its length. -/
def sizedBlock (size : ℕ) : Format (Block size) where
  write block := some (UInt8.ofNat size :: block.bytes)
  read
    | [] => none
    | length :: rest => if length = UInt8.ofNat size then takeBlock size rest else none
  Readable _ := True
  read_write := by
    intro block out _ hwrite rest
    cases hwrite
    show (if UInt8.ofNat size = UInt8.ofNat size then takeBlock size (block.bytes ++ rest)
      else none) = _
    rw [if_pos rfl, takeBlock_append]
  write_read := by
    intro bytes block rest hread
    cases bytes with
    | nil => cases hread
    | cons length tail =>
        simp only at hread
        split at hread
        · rename_i hlength
          refine ⟨_, rfl, ?_⟩
          rw [hlength, of_takeBlock hread, List.cons_append]
        · cases hread
  readable_of_read := fun _ => trivial

instance : (sizedBlock size).Total := ⟨fun _ => trivial⟩

instance : (sizedBlock size).Exact (1 + size) := by
  constructor
  intro block out hwrite
  cases hwrite
  rw [List.length_cons, block.length_eq, Nat.add_comm]

@[simp]
theorem writes_sizedBlock (block : Block size) : (sizedBlock size).Writes block := ⟨_, rfl⟩

end Format

end Fermentationsschrank

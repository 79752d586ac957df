import Fermentationsschrank.Core.Fallible
import Fermentationsschrank.Core.Format

/-!
# Reading at positions of a buffer

A program that reads a buffer works with positions, and its sizes are machine words.
A read outside the buffer and a size that wraps are faults.  A scan is a program with
these faults; it is compared with a reader that consumes a list, which has none.
-/

namespace Fermentationsschrank

/-- The sizes of a machine: at least 32 bits. -/
structure SizeType where
  limit : ℕ
  wide : 2 ^ 32 ≤ limit

/-- A program that may fault, and fails with a status otherwise. -/
abbrev Scan (ε α : Type) := ExceptT ε Option α

namespace Scan

open Format

variable {ε α β γ δ : Type}

/-! ## Sizes, reads and checks -/

/-- A value without which the program would have faulted. -/
def unfaulted (value : Option α) : Scan ε α := ExceptT.mk (value.map .ok)

def check (condition : Bool) (failure : ε) : Scan ε Unit :=
  ExceptT.mk (some (require condition failure))

def addSize (size : SizeType) (left right : ℕ) : Option ℕ :=
  if left + right < size.limit then some (left + right) else none

def subtractSize (left right : ℕ) : Option ℕ :=
  if right ≤ left then some (left - right) else none

/-- `length` bytes of the buffer from `position` on. -/
def load (bytes : Bytes) (position length : ℕ) : Option Bytes :=
  if position + length ≤ bytes.length then some ((bytes.drop position).take length)
  else none

/-- `ByteReader::readBytes`: nothing is read when fewer bytes remain. -/
def readBytes (size : SizeType) (bytes : Bytes) (failure : ε) (length position : ℕ) :
    Scan ε (Bytes × ℕ) := do
  let remaining ← unfaulted (subtractSize bytes.length position)
  check (length ≤ remaining) failure
  let out ← unfaulted (load bytes position length)
  let next ← unfaulted (addSize size position length)
  return (out, next)

/-- A big-endian number of `width` bytes. -/
def readNumber (size : SizeType) (bytes : Bytes) (failure : ε) (width position : ℕ) :
    Scan ε (ℕ × ℕ) := do
  let (out, next) ← readBytes size bytes failure width position
  return (ofBigEndian out, next)

/-! ## Agreement with a reader of lists -/

/-- The scan does not fault, and ends as the reader does. -/
def Mirrors (related : α → β → Prop) (scan : Scan ε α) (reader : Except ε β) : Prop :=
  (∃ value found, scan.run = some (.ok value) ∧ reader = .ok found ∧
    related value found) ∨
  ∃ failure, scan.run = some (.error failure) ∧ reader = .error failure

variable {related : α → β → Prop} {after : γ → δ → Prop}
variable {scan : Scan ε α} {reader : Except ε β}

theorem Mirrors.pure {value : α} {found : β} (h : related value found) :
    Mirrors related (Pure.pure value : Scan ε α) (.ok found) :=
  .inl ⟨value, found, rfl, rfl, h⟩

theorem Mirrors.bind {next : α → Scan ε γ} {nextReader : β → Except ε δ}
    (h : Mirrors related scan reader)
    (hnext : ∀ value found, related value found →
      Mirrors after (next value) (nextReader found)) :
    Mirrors after (scan >>= next) (reader >>= nextReader) := by
  have hrun : (scan >>= next).run = scan.run.bind fun
      | .ok value => (next value).run
      | .error failure => some (.error failure) := by
    rw [ExceptT.run_bind]
    cases scan.run with
    | none => rfl
    | some result => cases result <;> rfl
  rcases h with ⟨value, found, hscan, rfl, hrelated⟩ | ⟨failure, hscan, rfl⟩
  · have hrest := hnext value found hrelated
    rw [Mirrors, hrun, hscan]
    exact hrest
  · refine .inr ⟨failure, ?_, rfl⟩
    rw [hrun, hscan]
    rfl

/-- A step that only the scan takes. -/
theorem Mirrors.step {value : α} {next : α → Scan ε γ} {reader : Except ε δ}
    (hscan : scan.run = some (.ok value)) (h : Mirrors after (next value) reader) :
    Mirrors after (scan >>= next) reader := by
  have hagrees : Mirrors (fun found (_ : Unit) => found = value) scan
      (.ok () : Except ε Unit) := .inl ⟨value, (), hscan, rfl, rfl⟩
  have hbound : Mirrors after (scan >>= next)
      ((.ok () : Except ε Unit) >>= fun _ => reader) := by
    refine hagrees.bind fun found _ hfound => ?_
    rwa [hfound]
  exact hbound

theorem Mirrors.unfaulted {value : Option α} {held : α} {next : α → Scan ε γ}
    {reader : Except ε δ} (hvalue : value = some held)
    (h : Mirrors after (next held) reader) :
    Mirrors after (Scan.unfaulted value >>= next) reader := by
  apply Mirrors.step _ h
  rw [hvalue]
  rfl

/-- Both check the same. -/
theorem Mirrors.check {condition : Bool} {failure : ε} {next : Unit → Scan ε γ}
    {nextReader : Unit → Except ε δ}
    (h : condition = true → Mirrors after (next ()) (nextReader ())) :
    Mirrors after (Scan.check condition failure >>= next)
      (require condition failure >>= nextReader) := by
  cases hcondition : condition with
  | true =>
      exact .step rfl (h hcondition)
  | false => exact .inr ⟨failure, rfl, rfl⟩

/-- The scan ends as the reader does, without a fault. -/
theorem Mirrors.run_eq {scan : Scan ε α} {reader : Except ε α}
    (h : Mirrors Eq scan reader) : scan.run = some reader := by
  rcases h with ⟨value, found, hscan, rfl, rfl⟩ | ⟨failure, hscan, rfl⟩
  · exact hscan
  · exact hscan

/-! ## Cursors -/

/-- The position in the buffer of what a reader of lists has left. -/
def AtRest (bytes : Bytes) (cursor : α × ℕ) (found : α × Bytes) : Prop :=
  cursor.1 = found.1 ∧ bytes.drop cursor.2 = found.2 ∧ cursor.2 ≤ bytes.length

variable {size : SizeType} {bytes : Bytes}

/-- The next step of both, from where they stand. -/
theorem Mirrors.bindAt {bytes : Bytes} {scan : Scan ε (α × ℕ)} {reader : Except ε (α × Bytes)}
    {next : α × ℕ → Scan ε γ} {nextReader : α × Bytes → Except ε δ}
    (h : Mirrors (AtRest bytes) scan reader)
    (hnext : ∀ value position, position ≤ bytes.length →
      Mirrors after (next (value, position)) (nextReader (value, bytes.drop position))) :
    Mirrors after (scan >>= next) (reader >>= nextReader) := by
  refine h.bind fun ⟨value, position⟩ ⟨found, rest⟩ hfound => ?_
  obtain ⟨hvalue, hrest, hposition⟩ := hfound
  cases hvalue
  cases hrest
  exact hnext value position hposition

/-- A number is read where the list reader stands. -/
theorem mirrors_readNumber {failure : ε} {width position : ℕ}
    (hfits : bytes.length < size.limit) (hposition : position ≤ bytes.length) :
    Mirrors (AtRest bytes) (readNumber size bytes failure width position)
      (orFail ((number width).read (bytes.drop position)) failure) := by
  have hremaining : subtractSize bytes.length position =
      some (bytes.length - position) := if_pos hposition
  have hread : (number width).read (bytes.drop position) =
      if width ≤ bytes.length - position then
        some (ofBigEndian ((bytes.drop position).take width), bytes.drop (position + width))
      else none := by
    rw [← List.length_drop, ← List.drop_drop]
    rfl
  have hreader : orFail ((number width).read (bytes.drop position)) failure =
      require (width ≤ bytes.length - position) failure >>= fun _ =>
        .ok (ofBigEndian ((bytes.drop position).take width),
          bytes.drop (position + width)) := by
    rw [hread]
    by_cases hroom : width ≤ bytes.length - position
    · rw [if_pos hroom, decide_eq_true hroom]
      rfl
    · rw [if_neg hroom, decide_eq_false hroom]
      rfl
  rw [hreader, readNumber, readBytes, bind_assoc]
  refine .unfaulted hremaining ?_
  rw [bind_assoc]
  refine .check fun hroom => ?_
  rw [decide_eq_true_eq] at hroom
  have hload : load bytes position width = some ((bytes.drop position).take width) :=
    if_pos (by omega)
  have hnext : addSize size position width = some (position + width) := if_pos (by omega)
  rw [bind_assoc]
  refine .unfaulted hload ?_
  rw [bind_assoc]
  refine .unfaulted hnext ?_
  rw [pure_bind]
  exact .pure ⟨rfl, rfl, by omega⟩

/-- What is inside the buffer is read. -/
theorem run_readBytes {failure : ε} {length position : ℕ}
    (hfits : bytes.length < size.limit) (hinside : position + length ≤ bytes.length) :
    (readBytes size bytes failure length position).run =
      some (.ok ((bytes.drop position).take length, position + length)) := by
  have hremaining : subtractSize bytes.length position = some (bytes.length - position) :=
    if_pos (by omega)
  have hroom : decide (length ≤ bytes.length - position) = true :=
    decide_eq_true (by omega)
  have hload : load bytes position length = some ((bytes.drop position).take length) :=
    if_pos hinside
  have hnext : addSize size position length = some (position + length) := if_pos (by omega)
  apply Mirrors.run_eq
  rw [readBytes]
  have hchecked : (check (decide (length ≤ bytes.length - position)) failure).run =
      some (.ok ()) := by
    rw [hroom]
    rfl
  refine .unfaulted hremaining (.step hchecked ?_)
  exact .unfaulted hload (.unfaulted hnext (.pure rfl))

/-- So is a value that stands for a number. -/
theorem mirrors_readWord {format : Format α} {convert : ℕ → α} {failure : ε}
    {width position : ℕ}
    (hread : ∀ found, format.read found = ((number width).read found).map fun read =>
      (convert read.1, read.2))
    (hfits : bytes.length < size.limit) (hposition : position ≤ bytes.length) :
    Mirrors (AtRest bytes)
      (readNumber size bytes failure width position >>= fun found =>
        Pure.pure (convert found.1, found.2))
      (orFail (format.read (bytes.drop position)) failure) := by
  have hreader : orFail (format.read (bytes.drop position)) failure =
      orFail ((number width).read (bytes.drop position)) failure >>= fun found =>
        .ok (convert found.1, found.2) := by
    rw [hread]
    cases (number width).read (bytes.drop position) <;> rfl
  rw [hreader]
  refine (mirrors_readNumber hfits hposition).bind fun value found hfound => ?_
  obtain ⟨hvalue, hrest, hnext⟩ := hfound
  exact .pure ⟨congrArg convert hvalue, hrest, hnext⟩

end Scan

end Fermentationsschrank

import Fermentationsschrank.Core.Effects
import Fermentationsschrank.Core.Format
import Mathlib.Logic.Function.Basic

/-!
# State store

A persistent key-value store as its users see it.  A write either succeeds, is
known to have had no effect, or ends with an unknown outcome; what an unknown
outcome may leave behind is the parameter `UnknownOutcome` of the device.
-/

namespace Fermentationsschrank

variable {Key : Type}

inductive StoreCall (Key : Type)
  | read (key : Key) (maxBytes : ℕ)
  | write (key : Key) (value : Bytes)

inductive StateStoreReadResult
  | success (value : Bytes)
  | notFound
  | readError
  | capacityError
  deriving DecidableEq, Repr

inductive StateStoreWriteStatus
  | success
  | writeError
  | capacityError
  | commitOutcomeUnknown
  deriving DecidableEq, Repr

def StoreReply : StoreCall Key → Type
  | .read _ _ => StateStoreReadResult
  | .write _ _ => StateStoreWriteStatus

abbrev StoreProgram (Key : Type) := Program (@StoreReply Key)

/-- What the keys hold. -/
abbrev StoreContents (Key : Type) := Key → Option Bytes

abbrev StoreEnvironment (Key : Type) := Environment (@StoreReply Key) (StoreContents Key)

variable [DecidableEq Key]

namespace StoreContents

def put (contents : StoreContents Key) (key : Key) (value : Option Bytes) :
    StoreContents Key := Function.update contents key value

@[simp]
theorem put_same (contents : StoreContents Key) (key : Key) (value : Option Bytes) :
    contents.put key value key = value := Function.update_self ..

@[simp]
theorem put_other {contents : StoreContents Key} {key other : Key} {value : Option Bytes}
    (h : other ≠ key) : contents.put key value other = contents other :=
  Function.update_of_ne h ..

@[simp]
theorem put_current (contents : StoreContents Key) (key : Key) :
    contents.put key (contents key) = contents := Function.update_eq_self ..

@[simp]
theorem put_put (contents : StoreContents Key) (key : Key) (first second : Option Bytes) :
    (contents.put key first).put key second = contents.put key second :=
  Function.update_idem ..

end StoreContents

/-! ## Devices -/

/-- Which values may remain when a value was to be replaced by another one. -/
abbrev UnknownOutcome :=
  (old : Option Bytes) → (new : Bytes) → (left : Option Bytes) → Prop

/-- A write takes effect as a whole or not at all. -/
def allOrNothing : UnknownOutcome := fun old new left => left = old ∨ left = some new

/-- Nothing is known about an unresolved write. -/
def anyOutcome : UnknownOutcome := fun _ _ _ => True

/-- A read that answers at all answers with what the key holds. -/
def ReadsAs (contents : StoreContents Key) (key : Key) (maxBytes : ℕ) :
    StateStoreReadResult → Prop
  | .success value => contents key = some value ∧ value.length ≤ maxBytes
  | .notFound => contents key = none
  | .readError | .capacityError => True

def WritesAs (unknown : UnknownOutcome) (contents : StoreContents Key) (key : Key)
    (value : Bytes) (after : StoreContents Key) : StateStoreWriteStatus → Prop
  | .success => after = contents.put key (some value)
  | .writeError | .capacityError => after = contents
  | .commitOutcomeUnknown =>
      ∃ left, unknown (contents key) value left ∧ after = contents.put key left

/-- A store that may fail at any call. -/
def stateStore (unknown : UnknownOutcome) : StoreEnvironment Key :=
  fun contents request => match request with
    | .read key maxBytes => fun reply after =>
        ReadsAs contents key maxBytes reply ∧ after = contents
    | .write key value => fun status after =>
        WritesAs unknown contents key value after status

/-- What a store without errors answers to a read. -/
def readReply (contents : StoreContents Key) (key : Key) (maxBytes : ℕ) :
    StateStoreReadResult :=
  match contents key with
  | none => .notFound
  | some value => if value.length ≤ maxBytes then .success value else .capacityError

/-- A store without errors. -/
def faultlessStore (contents : StoreContents Key) :
    (request : StoreCall Key) → StoreReply request × StoreContents Key
  | .read key maxBytes => (readReply contents key maxBytes, contents)
  | .write key value => (.success, contents.put key (some value))

omit [DecidableEq Key] in
@[simp]
theorem readReply_of_none {contents : StoreContents Key} {key : Key} {maxBytes : ℕ}
    (h : contents key = none) : readReply contents key maxBytes = .notFound := by
  simp [readReply, h]

omit [DecidableEq Key] in
@[simp]
theorem readReply_of_some {contents : StoreContents Key} {key : Key} {maxBytes : ℕ}
    {value : Bytes} (h : contents key = some value) (hfits : value.length ≤ maxBytes) :
    readReply contents key maxBytes = .success value := by
  simp [readReply, h, hfits]

/-- The store without errors is one of the stores that may fail. -/
theorem faultlessStore_stateStore (unknown : UnknownOutcome)
    (contents : StoreContents Key) (request : StoreCall Key) :
    stateStore unknown contents request (faultlessStore contents request).1
      (faultlessStore contents request).2 := by
  cases request with
  | write key value => rfl
  | read key maxBytes =>
      refine ⟨?_, rfl⟩
      show ReadsAs contents key maxBytes (readReply contents key maxBytes)
      unfold readReply
      cases hvalue : contents key with
      | none => exact hvalue
      | some value =>
          by_cases hfits : value.length ≤ maxBytes
          · simpa only [hfits, if_true] using ⟨hvalue, hfits⟩
          · simp only [hfits, if_false, ReadsAs]

/-! ## Calls -/

def readStore (key : Key) (maxBytes : ℕ) : StoreProgram Key StateStoreReadResult :=
  .call (.read key maxBytes) .done

def writeStore (key : Key) (value : Bytes) : StoreProgram Key StateStoreWriteStatus :=
  .call (.write key value) .done

variable {unknown : UnknownOutcome} {crash : StoreContents Key → Prop}
variable {contents : StoreContents Key} {key : Key} {maxBytes : ℕ} {value : Bytes}

theorem ensures_readStore {post : StateStoreReadResult → StoreContents Key → Prop}
    (hcrash : crash contents)
    (hpost : ∀ reply, ReadsAs contents key maxBytes reply → post reply contents) :
    Program.Ensures (stateStore unknown) crash post (readStore key maxBytes) contents := by
  refine ⟨hcrash, ?_⟩
  rintro reply middle ⟨hreply, rfl⟩
  exact ⟨hcrash, hpost reply hreply⟩

theorem ensures_writeStore {post : StateStoreWriteStatus → StoreContents Key → Prop}
    (hcrash : crash contents)
    (hpost : ∀ status after, WritesAs unknown contents key value after status →
      crash after ∧ post status after) :
    Program.Ensures (stateStore unknown) crash post (writeStore key value) contents := by
  refine ⟨hcrash, ?_⟩
  intro status after hstatus
  exact hpost status after hstatus

end Fermentationsschrank

import Fermentationsschrank.Persistence.Load

/-!
# Authorized epoch handoff

A factory reset starts the next storage epoch.  The first step replaces both
slots by empty records of the new epoch, the second one replaces the head.
Either step may be repeated after a power cut.
-/

namespace Fermentationsschrank

open Envelope

inductive AuthorizedRunEpochHandoffPhase
  | pending
  | committed
  deriving DecidableEq, Repr

structure AuthorizedRunEpochHandoffProof where
  previousEpoch : UInt64
  currentEpoch : UInt64
  phase : AuthorizedRunEpochHandoffPhase
  deriving DecidableEq, Repr

/-- The token a completed step hands out. -/
structure AuthorizedRunEpochHandoff where
  previousEpoch : UInt64
  currentEpoch : UInt64
  deriving DecidableEq, Repr

structure RunEpochHandoffOutcome where
  result : RunPersistenceResult
  completed : Option AuthorizedRunEpochHandoff
  coordinator : RunPersistenceCoordinator

/-! ## The target records -/

structure AuthorizedEpochHandoffTarget where
  slot0 : Bytes
  slot1 : Bytes
  headBytes : Bytes
  deriving DecidableEq, Repr

def AuthorizedEpochHandoffTarget.slotBytes (target : AuthorizedEpochHandoffTarget)
    (slot : ℕ) : Bytes := if slot = 0 then target.slot0 else target.slot1

/-- The empty checkpoint both slots receive. -/
def handoffSnapshot (intervalMinutes : UInt16) : Option RunPersistenceSnapshot := do
  let processState ← establishBootCompletedStandby {} 0
  makeRunPersistenceSnapshot { processState } [] .command ⟨0, none⟩ intervalMinutes

def handoffSlotBytes (epoch : UInt64) (payload : Bytes) (slot : ℕ) : Option Bytes :=
  (encodeEnvelope {
    recordTypeId := kCheckpointRecordType
    schemaVersion := kCurrentRunPersistenceSchema
    storageEpoch := epoch
    versionValue := UInt64.ofNat (slot + 1)
    utcUnixSeconds := none
    payload } kMaximumCheckpointRecordBytes).toOption

def handoffHead (epoch : UInt64) (snapshot : RunPersistenceSnapshot) (slot0 : Bytes) :
    RunPersistenceHead where
  state := .committed
  revision := 1
  current := makeRunCheckpointReference 0 ⟨slot0, snapshot, 1, none⟩ epoch
  commandIdHighWater := some 0

def makeAuthorizedEpochHandoffTarget (epoch : UInt64) (schedule : RunCheckpointSchedule) :
    Option AuthorizedEpochHandoffTarget := do
  let snapshot ← handoffSnapshot schedule.intervalMinutes
  let payload ← (encodeRunPersistenceSnapshot snapshot).toOption
  let slot0 ← handoffSlotBytes epoch payload 0
  let slot1 ← handoffSlotBytes epoch payload 1
  let headBytes ← encodeRunPersistenceHead (handoffHead epoch snapshot slot0) epoch
  return ⟨slot0, slot1, headBytes⟩

/-! ## What the store may hold -/

/-- Where a step is refused, and why. -/
abbrev HandoffRefusal := RunPersistenceStep × RunPersistenceTechnicalReason

inductive PhysicalKind
  | absent
  | previous
  | target
  deriving DecidableEq, Repr

/-- The proof names this coordinator's epoch as the successor of another one. -/
def handoffAuthorized (coordinator : RunPersistenceCoordinator)
    (proof : AuthorizedRunEpochHandoffProof) (phase : AuthorizedRunEpochHandoffPhase) :
    Bool :=
  coordinator.state = .uninitialized ∧ coordinator.epoch ≠ 0 ∧ proof.previousEpoch ≠ 0 ∧
    proof.phase = phase ∧ proof.currentEpoch = coordinator.epoch ∧
    proof.previousEpoch ≠ maxUInt64 ∧ proof.previousEpoch + 1 = proof.currentEpoch

/-- The value of a key; an unreadable key refuses the step. -/
def presentValue (step : RunPersistenceStep) :
    StateStoreReadResult → Except HandoffRefusal (Option Bytes)
  | .success value => .ok (some value)
  | .notFound => .ok none
  | .readError | .capacityError => .error (step, .storeReadError)

def readPresent (step : RunPersistenceStep) (read : RunStoreProgram StateStoreReadResult) :
    RunStoreProgram (Except HandoffRefusal (Option Bytes)) := do
  let reply ← read
  pure (presentValue step reply)

/-- Before the new epoch is committed there is no head of it. -/
def checkHeadEpoch (previousEpoch currentEpoch : UInt64) (head : Option Bytes) :
    Except HandoffRefusal Unit :=
  match head with
  | none => .ok ()
  | some bytes =>
      match decodeEnvelope bytes with
      | .error _ => .error (.loadHead, .codecError)
      | .ok envelope =>
          require (envelope.storageEpoch ≠ currentEpoch ∧
            envelope.storageEpoch = previousEpoch) (.loadHead, .invalidProjection)

def classifySlot (previousEpoch : UInt64) (targetBytes : Bytes) (slot : Option Bytes) :
    Except HandoffRefusal PhysicalKind :=
  match slot with
  | none => .ok .absent
  | some bytes =>
      if bytes = targetBytes then .ok .target
      else
        match decodeEnvelope bytes with
        | .error _ => .error (.loadCurrent, .invalidProjection)
        | .ok envelope => do
            require (envelope.storageEpoch = previousEpoch)
              (.loadCurrent, .invalidProjection)
            require (decodeRunPersistenceRecord bytes previousEpoch).isSome
              (.loadCurrent, .codecError)
            return .previous

/-- The two slots as they were found. -/
structure HandoffSlots where
  slot0 : Option Bytes
  slot1 : Option Bytes
  kind0 : PhysicalKind
  kind1 : PhysicalKind
  deriving DecidableEq, Repr

def HandoffSlots.bytes (slots : HandoffSlots) (slot : ℕ) : Option Bytes :=
  if slot = 0 then slots.slot0 else slots.slot1

def HandoffSlots.kind (slots : HandoffSlots) (slot : ℕ) : PhysicalKind :=
  if slot = 0 then slots.kind0 else slots.kind1

/-- A reference of the old head: its slot was already replaced or still holds the
referenced record. -/
def referenceAccepted (previousEpoch : UInt64) (slots : HandoffSlots)
    (reference : RunCheckpointReference) : Bool :=
  let slot := reference.slot.toNat
  decide (slot ≤ 1) &&
    match slots.kind slot with
    | .target => true
    | .absent => false
    | .previous =>
        ((slots.bytes slot).bind (decodeRunPersistenceRecord · previousEpoch)).any
          fun record => runCheckpointReferenceMatches reference record slot

/-- A slot of the old epoch needs its old head; a headless one is an orphan. -/
def checkOldHead (previousEpoch : UInt64) (head : Option Bytes) (slots : HandoffSlots) :
    Except HandoffRefusal Unit :=
  match head with
  | none =>
      require (slots.kind0 ≠ .previous ∧ slots.kind1 ≠ .previous)
        (.loadHead, .invalidProjection)
  | some bytes => do
      let old ← orFail ((decodeRunPersistenceHead bytes previousEpoch).filter
        (·.state = .committed)) (.loadHead, .codecError)
      require (referenceAccepted previousEpoch slots old.current &&
        old.fallback.all (referenceAccepted previousEpoch slots))
        (.loadCurrent, .codecError)

/-- Everything that is decided between the reads and the writes. -/
def planHandoff (coordinator : RunPersistenceCoordinator) (previousEpoch : UInt64)
    (head slot0 slot1 : Option Bytes) :
    Except HandoffRefusal (AuthorizedEpochHandoffTarget × HandoffSlots) := do
  checkHeadEpoch previousEpoch coordinator.epoch head
  let target ← orFail
    (makeAuthorizedEpochHandoffTarget coordinator.epoch coordinator.schedule)
    (.candidateApply, .invalidProjection)
  let kind0 ← classifySlot previousEpoch target.slot0 slot0
  let kind1 ← classifySlot previousEpoch target.slot1 slot1
  let slots : HandoffSlots := ⟨slot0, slot1, kind0, kind1⟩
  checkOldHead previousEpoch head slots
  return (target, slots)

/-! ## The first step -/

namespace RunPersistenceCoordinator

def refuseHandoff (coordinator : RunPersistenceCoordinator) (refusal : HandoffRefusal)
    (durability : RunPersistenceDurability := .unchanged) : RunEpochHandoffOutcome :=
  ⟨coordinator.result .blocked refusal.1 refusal.2 durability, none, coordinator⟩

def handoffWriteReason :
    RunPersistenceStoreWriteResult → RunPersistenceTechnicalReason
  | .indeterminate => .storeOutcomeUnknown
  | .capacityError => .storeCapacityError
  | .notWritten => .storeNotWritten
  | .written | .writeError => .storeWriteError

/-- A failed write ends the use of this coordinator. -/
def failHandoffWrite (coordinator : RunPersistenceCoordinator) (step : RunPersistenceStep)
    (outcome : RunPersistenceStoreWriteResult) (durability : RunPersistenceDurability) :
    RunEpochHandoffOutcome :=
  coordinator.enterBlockedIndeterminate.refuseHandoff (step, handoffWriteReason outcome)
    (if outcome = .indeterminate ∧ durability = .unchanged then .mayHaveChanged
    else durability)

def completeHandoff (coordinator : RunPersistenceCoordinator) (step : RunPersistenceStep)
    (durability : RunPersistenceDurability) (proof : AuthorizedRunEpochHandoffProof) :
    RunEpochHandoffOutcome :=
  ⟨coordinator.result .applied step .none durability,
    some ⟨proof.previousEpoch, proof.currentEpoch⟩, coordinator⟩

/-- One slot; the durability so far is passed on when it already holds its
target. -/
def handoffSlot (slot : ℕ) (target : AuthorizedEpochHandoffTarget) (slots : HandoffSlots)
    (durability : RunPersistenceDurability) :
    RunStoreProgram (RunPersistenceStoreWriteResult × RunPersistenceDurability) :=
  if slots.kind slot = .target then pure (.written, durability)
  else do
    let outcome ← writeSlotExact slot (target.slotBytes slot) (slots.bytes slot)
    pure (outcome, if outcome = .written then .changed else durability)

def writeHandoffSlots (coordinator : RunPersistenceCoordinator)
    (proof : AuthorizedRunEpochHandoffProof) (target : AuthorizedEpochHandoffTarget)
    (slots : HandoffSlots) : RunStoreProgram RunEpochHandoffOutcome := do
  let first ← handoffSlot 0 target slots .unchanged
  if first.1 ≠ .written then
    pure (coordinator.failHandoffWrite .checkpointSlot first.1 first.2)
  else do
    let second ← handoffSlot 1 target slots first.2
    if second.1 ≠ .written then
      pure (coordinator.failHandoffWrite .checkpointSlot second.1 second.2)
    else pure (coordinator.completeHandoff .checkpointSlot second.2 proof)

/-- The three keys as they are found. -/
def readHandoffKeys :
    RunStoreProgram (Except HandoffRefusal (Option Bytes × Option Bytes × Option Bytes)) := do
  match ← readPresent .loadHead readHead with
  | .error refusal => pure (.error refusal)
  | .ok head =>
      match ← readPresent .loadCurrent (readSlot 0) with
      | .error refusal => pure (.error refusal)
      | .ok slot0 =>
          match ← readPresent .loadCurrent (readSlot 1) with
          | .error refusal => pure (.error refusal)
          | .ok slot1 => pure (.ok (head, slot0, slot1))

def prepareAuthorizedEpochHandoff (coordinator : RunPersistenceCoordinator)
    (proof : AuthorizedRunEpochHandoffProof) : RunStoreProgram RunEpochHandoffOutcome :=
  if coordinator.commandBorrowed then
    pure ⟨coordinator.borrowedBusyResult, none, coordinator⟩
  else if !handoffAuthorized coordinator proof .pending then
    pure (coordinator.refuseHandoff (.loadHead, .invalidProjection))
  else do
    match ← readHandoffKeys with
    | .error refusal => pure (coordinator.refuseHandoff refusal)
    | .ok (head, slot0, slot1) =>
        match planHandoff coordinator proof.previousEpoch head slot0 slot1 with
        | .error refusal => pure (coordinator.refuseHandoff refusal)
        | .ok (target, slots) => coordinator.writeHandoffSlots proof target slots

/-! ## The second step -/

def checkTargetSlot (targetBytes : Bytes) (slot : Option Bytes) :
    Except HandoffRefusal Unit :=
  require (slot = some targetBytes) (.loadCurrent, .invalidProjection)

/-- Only a committed head of the previous epoch may be replaced. -/
def checkReplaceableHead (previousEpoch : UInt64) (head : Option Bytes) :
    Except HandoffRefusal Unit :=
  require (head.all fun bytes => (decodeRunPersistenceHead bytes previousEpoch).any
    (·.state = .committed)) (.loadHead, .invalidProjection)

/-- The new head is read back after it has been written. -/
def verifyHandoffHead (coordinator : RunPersistenceCoordinator)
    (proof : AuthorizedRunEpochHandoffProof) (headBytes : Bytes) :
    RunStoreProgram RunEpochHandoffOutcome := do
  match ← readHead with
  | .success value =>
      if value = headBytes then
        pure (coordinator.completeHandoff .committedHead .changed proof)
      else
        pure (coordinator.enterBlockedIndeterminate.refuseHandoff
          (.committedHead, .invalidProjection) .changed)
  | _ =>
      pure (coordinator.enterBlockedIndeterminate.refuseHandoff
        (.committedHead, .storeOutcomeUnknown) .changed)

def writeHandoffHead (coordinator : RunPersistenceCoordinator)
    (proof : AuthorizedRunEpochHandoffProof) (headBytes : Bytes) (old : Option Bytes) :
    RunStoreProgram RunEpochHandoffOutcome := do
  match ← writeHeadExact headBytes old with
  | .written => coordinator.verifyHandoffHead proof headBytes
  | failed => pure (coordinator.failHandoffWrite .committedHead failed .changed)

/-- The head once both slots are known to hold their targets. -/
def finalizeHandoffHead (coordinator : RunPersistenceCoordinator)
    (proof : AuthorizedRunEpochHandoffProof) (target : AuthorizedEpochHandoffTarget)
    (head : Option Bytes) : RunStoreProgram RunEpochHandoffOutcome :=
  if head = some target.headBytes then
    pure (coordinator.completeHandoff .committedHead .unchanged proof)
  else
    match checkReplaceableHead proof.previousEpoch head with
    | .error refusal => pure (coordinator.refuseHandoff refusal .changed)
    | .ok () => coordinator.writeHandoffHead proof target.headBytes head

/-- Both slots in turn; each is read only when the one before holds its target. -/
def readTargetSlots (target : AuthorizedEpochHandoffTarget) :
    RunStoreProgram (Except HandoffRefusal Unit) := do
  match (← readPresent .loadCurrent (readSlot 0)).bind (checkTargetSlot target.slot0) with
  | .error refusal => pure (.error refusal)
  | .ok () =>
      let slot1 ← readPresent .loadCurrent (readSlot 1)
      pure (slot1.bind (checkTargetSlot target.slot1))

def finalizeAuthorizedEpochHandoff (coordinator : RunPersistenceCoordinator)
    (proof : AuthorizedRunEpochHandoffProof) : RunStoreProgram RunEpochHandoffOutcome :=
  if coordinator.commandBorrowed then
    pure ⟨coordinator.borrowedBusyResult, none, coordinator⟩
  else if !handoffAuthorized coordinator proof .committed then
    pure (coordinator.refuseHandoff (.loadHead, .invalidProjection))
  else
    match makeAuthorizedEpochHandoffTarget coordinator.epoch coordinator.schedule with
    | none => pure (coordinator.refuseHandoff (.candidateApply, .invalidProjection))
    | some target => do
        match ← readPresent .loadHead readHead with
        | .error refusal => pure (coordinator.refuseHandoff refusal)
        | .ok head =>
            match ← readTargetSlots target with
            | .error refusal => pure (coordinator.refuseHandoff refusal)
            | .ok () => coordinator.finalizeHandoffHead proof target head

end RunPersistenceCoordinator

end Fermentationsschrank

import Fermentationsschrank.Guarantees.BootstrapHistory

/-!
# Writes of the bootstrap store

The operations of the bootstrap store, run on a store that may fail at every
call and lose its power between any two.  As long as a single write takes effect
as a whole or not at all, the slots hold the last two records of a history at
every moment, and an operation that reports success has continued it.
-/

namespace Fermentationsschrank

open ConfigurationBootstrapRecord
open ConfigurationBootstrapStore

variable {unknown : UnknownOutcome} {store : ConfigurationStore} {slot : Fin 2}
variable {newest : ConfigurationBootstrapRecord} {rest : List ConfigurationBootstrapRecord}
variable {crash : ConfigurationStore → Prop}

/-! ## Scans -/

/-- A read of a slot yields what it holds, or ends the scan. -/
theorem candidate_of_reads {reply : StateStoreReadResult}
    (hreply : ReadsAs store (.configurationBootstrap slot)
      kMaximumConfigurationBootstrapSchema3EnvelopeBytes reply)
    {found : Option BootstrapCandidate}
    (hheld : candidateOf slot (readReply store (.configurationBootstrap slot)
      kMaximumConfigurationBootstrapSchema3EnvelopeBytes) = .ok found) :
    candidateOf slot reply = .ok found ∨
      ∃ status, status ≠ .available ∧ candidateOf slot reply = .error status := by
  cases reply with
  | success value =>
      obtain ⟨hvalue, hfits⟩ := hreply
      rw [readReply_of_some hvalue hfits] at hheld
      exact .inl hheld
  | notFound =>
      rw [readReply_of_none hreply] at hheld
      exact .inl hheld
  | readError => exact .inr ⟨.readError, nofun, rfl⟩
  | capacityError => exact .inr ⟨.capacityError, nofun, rfl⟩

/-- A scan finds the newest record or reports that a read failed. -/
theorem ensures_scan {post : ConfigurationBootstrapScanResult → ConfigurationStore → Prop}
    (hcrash : crash store) (hchain : (newest :: rest).IsChain Follows)
    (hholds : HoldsLast store slot (newest :: rest))
    (hfound : ∀ bytes, post ⟨.available, some ⟨slot, newest, bytes, newest.sequence, false⟩⟩
      store)
    (hfailed : ∀ status, status ≠ .available → post ⟨status, none⟩ store) :
    Program.Ensures (stateStore unknown) crash post scan store := by
  obtain ⟨left, right, hleft, hright, bytes, hselect⟩ := heldCandidates_of_holdsLast hchain hholds
  rw [scan, Program.ensures_bind]
  refine ensures_readStore hcrash fun reply hreply => ?_
  rcases candidate_of_reads hreply hleft with hcandidate | ⟨status, hstatus, hcandidate⟩
  · simp only [hcandidate]
    rw [Program.ensures_bind]
    refine ensures_readStore hcrash fun reply hreply => ?_
    rcases candidate_of_reads hreply hright with hcandidate | ⟨status, hstatus, hcandidate⟩
    · simp only [hcandidate, hselect]
      exact ⟨hcrash, hfound bytes⟩
    · simp only [hcandidate]
      exact ⟨hcrash, hfailed status hstatus⟩
  · simp only [hcandidate]
    exact ⟨hcrash, hfailed status hstatus⟩

/-! ## One write -/

theorem other_ne (slot : Fin 2) : otherBootstrapSlot slot ≠ slot := by
  revert slot
  decide

theorem other_other (slot : Fin 2) : otherBootstrapSlot (otherBootstrapSlot slot) = slot := by
  revert slot
  decide

theorem slotHolds_of_holdsLast (h : HoldsLast store slot (newest :: rest)) :
    SlotHolds store slot newest := by
  cases rest with
  | nil => exact h.1
  | cons older rest => exact h.1

variable {target : ConfigurationBootstrapRecord} {encoded : Bytes}

/-- The encoded target in the other slot leaves the newest record where it is. -/
theorem holdsLast_put (h : HoldsLast store slot (newest :: rest))
    (hencode : encodeConfigurationBootstrapRecord target = .ok encoded) :
    HoldsLast (store.put (.configurationBootstrap (otherBootstrapSlot slot)) (some encoded))
      (otherBootstrapSlot slot) (target :: newest :: rest) := by
  refine ⟨⟨encoded, StoreContents.put_same .., decode_encode hencode⟩, ?_⟩
  obtain ⟨bytes, hbytes, hdecode⟩ := slotHolds_of_holdsLast h
  rw [other_other]
  refine ⟨bytes, ?_, hdecode⟩
  rw [StoreContents.put_other (fun heq => other_ne slot
    (ConfigurationStoreKey.configurationBootstrap.inj heq).symm)]
  exact hbytes

/-- The slots hold the history before the write, or the one after it. -/
def WriteKeeps (store : ConfigurationStore) (slot : Fin 2)
    (newest : ConfigurationBootstrapRecord) (rest : List ConfigurationBootstrapRecord)
    (target : ConfigurationBootstrapRecord) (world : ConfigurationStore) : Prop :=
  world = store ∨ HoldsLast world (otherBootstrapSlot slot) (target :: newest :: rest)

/-- A reported success is a history that goes on with the target. -/
def WriteReports (slot : Fin 2) (newest : ConfigurationBootstrapRecord)
    (rest : List ConfigurationBootstrapRecord) (target : ConfigurationBootstrapRecord)
    (result : ConfigurationBootstrapWriteResult) (world : ConfigurationStore) : Prop :=
  result.status = .success →
    (∃ loaded, result.loaded = some loaded ∧ loaded.record = target) ∧
      HoldsLast world (otherBootstrapSlot slot) (target :: newest :: rest)

theorem ensures_finishWrite {world : ConfigurationStore} {previous : Option Bytes}
    {unresolved : Bool} {readback : StateStoreReadResult}
    (hchain : (newest :: rest).IsChain Follows) (hholds : HoldsLast store slot (newest :: rest))
    (hfollows : Follows target newest) (hkept : WriteKeeps store slot newest rest target world) :
    Program.Ensures (stateStore unknown) (WriteKeeps store slot newest rest target)
      (WriteReports slot newest rest target)
      (finishWrite target encoded previous unresolved readback) world := by
  have hne : newest ≠ target := by
    rintro rfl
    have hsequence := hfollows.sequence
    omega
  unfold finishWrite
  split_ifs with hfailed hlost hprior hother
  · exact ⟨hkept, nofun⟩
  · exact ⟨hkept, nofun⟩
  · exact ⟨hkept, nofun⟩
  · exact ⟨hkept, nofun⟩
  · exact ⟨hkept, nofun⟩
  · rw [Program.ensures_bind]
    rcases hkept with rfl | hadvanced
    · refine ensures_scan (.inl rfl) hchain hholds (fun bytes => ?_) fun status hstatus => ?_
      · simp only [if_neg hne]
        exact ⟨.inl rfl, nofun⟩
      · cases status with
        | available => exact absurd rfl hstatus
        | _ => exact ⟨.inl rfl, nofun⟩
    · have hkept : WriteKeeps store slot newest rest target world := .inr hadvanced
      refine ensures_scan hkept (List.isChain_cons_cons.mpr ⟨hfollows, hchain⟩) hadvanced
        (fun bytes => ?_) fun status hstatus => ?_
      · simp only [if_true]
        exact ⟨hkept, fun _ => ⟨⟨_, rfl, rfl⟩, hadvanced⟩⟩
      · cases status with
        | available => exact absurd rfl hstatus
        | _ => exact ⟨hkept, nofun⟩

theorem ensures_writeEncoded {previous : Option Bytes}
    (hchain : (newest :: rest).IsChain Follows) (hholds : HoldsLast store slot (newest :: rest))
    (hfollows : Follows target newest) :
    Program.Ensures (stateStore allOrNothing) (WriteKeeps store slot newest rest target)
      (WriteReports slot newest rest target)
      (writeEncoded target (otherBootstrapSlot slot) previous) store := by
  have hstart : WriteKeeps store slot newest rest target store := .inl rfl
  unfold writeEncoded
  cases hencode : encodeConfigurationBootstrapRecord target with
  | error _ => exact ⟨hstart, nofun⟩
  | ok encoded =>
      have hput : WriteKeeps store slot newest rest target
          (store.put (.configurationBootstrap (otherBootstrapSlot slot)) (some encoded)) :=
        .inr (holdsLast_put hholds hencode)
      have hread : ∀ world, WriteKeeps store slot newest rest target world → ∀ unresolved,
          Program.Ensures (stateStore allOrNothing) (WriteKeeps store slot newest rest target)
            (WriteReports slot newest rest target)
            (readSlot (otherBootstrapSlot slot) >>= fun readback =>
              finishWrite target encoded previous unresolved readback) world := by
        intro world hkept unresolved
        rw [Program.ensures_bind]
        exact ensures_readStore hkept fun _ _ => ensures_finishWrite hchain hholds hfollows hkept
      simp only
      rw [Program.ensures_bind]
      refine ensures_writeStore hstart fun status after hafter => ?_
      cases status with
      | success =>
          cases hafter
          exact ⟨hput, hread _ hput false⟩
      | writeError =>
          cases hafter
          exact ⟨hstart, hstart, nofun⟩
      | capacityError =>
          cases hafter
          exact ⟨hstart, hstart, nofun⟩
      | commitOutcomeUnknown =>
          obtain ⟨left, hleft, rfl⟩ := hafter
          have hkept : WriteKeeps store slot newest rest target
              (store.put (.configurationBootstrap (otherBootstrapSlot slot)) left) := by
            rcases hleft with rfl | rfl
            · rw [StoreContents.put_current]
              exact hstart
            · exact hput
          exact ⟨hkept, hread _ hkept true⟩

/-! ## The operations -/

/-- The slots hold the end of a history, or of the one the operation continues
it to. -/
def OperationKeeps (operation : BootstrapOperation) (store : ConfigurationStore) (slot : Fin 2)
    (newest : ConfigurationBootstrapRecord) (rest : List ConfigurationBootstrapRecord)
    (world : ConfigurationStore) : Prop :=
  world = store ∨ ∃ target, operation.target newest = .ok target ∧
    HoldsLast world (otherBootstrapSlot slot) (target :: newest :: rest)

/-- A reported success is a history that goes on with what the operation builds. -/
def OperationReports (operation : BootstrapOperation) (slot : Fin 2)
    (newest : ConfigurationBootstrapRecord) (rest : List ConfigurationBootstrapRecord)
    (result : ConfigurationBootstrapWriteResult) (world : ConfigurationStore) : Prop :=
  result.status = .success → ∃ target, operation.target newest = .ok target ∧
    (∃ loaded, result.loaded = some loaded ∧ loaded.record = target) ∧
    HoldsLast world (otherBootstrapSlot slot) (target :: newest :: rest)

/-- No constructor refuses with a success. -/
theorem failsWith_target (operation : BootstrapOperation)
    (record : ConfigurationBootstrapRecord) :
    FailsWith (· ≠ .success) (operation.target record) := by
  have hepoch : ∀ state, FailsWith (· ≠ .success) (record.targetEpoch state) := by
    intro state
    unfold targetEpoch
    split_ifs
    · exact failsWith_orFail nofun
    · exact failsWith_ok _
  have hepochs : ∀ epoch handoff, FailsWith (· ≠ .success) (record.handoffEpochs epoch handoff) := by
    intro epoch handoff
    unfold handoffEpochs
    split
    · exact failsWith_ok _
    · split
      · exact failsWith_ok _
      · split_ifs
        · exact failsWith_ok _
        · exact failsWith_error nofun
  have hsuccessor : ∀ state handoff,
      FailsWith (· ≠ .success) (record.successorWithHandoff state handoff) := by
    intro state handoff
    refine failsWith_bind (failsWith_orFail nofun) fun _ => ?_
    refine failsWith_bind (failsWith_require nofun) fun _ => ?_
    refine failsWith_bind (hepoch state) fun _ => ?_
    refine failsWith_bind (hepochs _ handoff) fun _ => ?_
    exact failsWith_bind (failsWith_require nofun) fun _ => failsWith_ok _
  cases operation with
  | successor state => exact hsuccessor state _
  | handoffSuccessor handoff => exact hsuccessor .initialized handoff
  | authDomainHandoff handoff =>
      refine failsWith_bind (failsWith_require nofun) fun _ => ?_
      refine failsWith_bind (failsWith_orFail nofun) fun _ => ?_
      exact failsWith_bind (failsWith_require nofun) fun _ => failsWith_ok _

/-- An operation of the bootstrap store continues the history by its target or
leaves it alone, whatever the store answers and wherever the power fails. -/
theorem bootstrap_write (operation : BootstrapOperation)
    (expected : LoadedConfigurationBootstrap) (h : StoreHistory (newest :: rest))
    (hholds : HoldsLast store slot (newest :: rest)) :
    Program.Ensures (stateStore allOrNothing) (OperationKeeps operation store slot newest rest)
      (OperationReports operation slot newest rest) (write operation expected) store := by
  have hchain := h.kept.2
  have hstart : OperationKeeps operation store slot newest rest store := .inl rfl
  have houtdated : ∀ scanned, operation.outdated scanned ≠ .success := by
    intro scanned
    unfold BootstrapOperation.outdated
    split
    · nofun
    · nofun
    · cases scanned.status <;> nofun
  rw [write, Program.ensures_bind]
  refine ensures_scan hstart hchain hholds (fun bytes => ?_) fun status hstatus => ?_
  · simp only
    split_ifs with hexpected
    · rw [← hexpected.1]
      cases htarget : operation.target newest with
      | error status =>
          refine ⟨hstart, fun hsuccess => ?_⟩
          exact absurd hsuccess (failsWith_target operation newest status htarget)
      | ok target =>
          have hfollows := follows_of_target htarget
          have hwrite : ∀ previous, Program.Ensures (stateStore allOrNothing)
              (OperationKeeps operation store slot newest rest)
              (OperationReports operation slot newest rest)
              (writeEncoded target (otherBootstrapSlot slot) previous) store := fun previous =>
            (ensures_writeEncoded hchain hholds hfollows).mono
              (fun world hkept => hkept.imp id fun hadvanced => ⟨target, htarget, hadvanced⟩)
              (fun result world _ hreports hsuccess =>
                ⟨target, htarget, (hreports hsuccess).1, (hreports hsuccess).2⟩)
          show Program.Ensures _ _ _ (readSlot (targetSlot _) >>= _) store
          rw [Program.ensures_bind]
          refine ensures_readStore hstart fun reply _ => ?_
          cases reply with
          | success value => exact hwrite (some value)
          | notFound => exact hwrite none
          | readError => exact ⟨hstart, nofun⟩
          | capacityError => exact ⟨hstart, nofun⟩
    · exact ⟨hstart, fun hsuccess => absurd hsuccess (houtdated _)⟩
  · cases status with
    | available => exact absurd rfl hstatus
    | _ => exact ⟨hstart, fun hsuccess => absurd hsuccess (houtdated _)⟩

end Fermentationsschrank

import Fermentationsschrank.Configuration.BootstrapRoundTrip
import Fermentationsschrank.Configuration.BootstrapSteps

/-!
# Bootstrap histories

A device starts with an initializing record and continues it with the operations
of the bootstrap store.  Every record of such a history is readable, every pair
follows the successor rule, and the two slots always tell the newest record.

The history can go on with every step of the recovery service except one: in the
second schema a reset behind a finished run handoff is refused, although the
rule names it.
-/

namespace Fermentationsschrank

open ConfigurationBootstrapRecord

/-- A history of bootstrap records, the newest first. -/
inductive BootstrapHistory
    (taken : ConfigurationBootstrapRecord → BootstrapOperation → Prop) :
    List ConfigurationBootstrapRecord → Prop
  | first {record} (hlegal : record.isPlausible = true)
      (hstate : record.state = .initializing) : BootstrapHistory taken [record]
  | next {record rest operation next} (h : BootstrapHistory taken (record :: rest))
      (htaken : taken record operation) (htarget : operation.target record = .ok next) :
      BootstrapHistory taken (next :: record :: rest)

/-- Whatever the store lets through. -/
abbrev StoreHistory := BootstrapHistory fun _ _ => True

/-- Only what the recovery service issues. -/
abbrev RecoveryHistory := BootstrapHistory RecoveryTakes

/-- How the records of a history follow each other. -/
structure Follows (newer older : ConfigurationBootstrapRecord) : Prop where
  allowed : older.isAllowedBootstrapSuccessor newer = true
  sequence : newer.sequence.toNat = older.sequence.toNat + 1
  /-- The epoch grows by one when a reset begins and stays otherwise. -/
  epoch : EpochStep older newer

/-! ## The records of a history -/

namespace ConfigurationBootstrapRecord

variable {record next : ConfigurationBootstrapRecord}

theorem named_of_succession (hnext : next.isPlausible = true) (h : Succession record next)
    (hnamed : ∀ code hcode, record.handoff ≠ .unnamed code hcode) :
    ∀ code hcode, next.handoff ≠ .unnamed code hcode := by
  have hunbound : next.noHandoffBinding = true → ∀ code hcode,
      next.handoff ≠ .unnamed code hcode := fun h code hcode => by
    rw [(noHandoffBinding_iff.mp h).1]
    rintro ⟨⟩
  have hbound : record.boundSuccessor next = true → ∀ code hcode,
      next.handoff ≠ .unnamed code hcode := fun h code hcode => by
    rw [boundSuccessor, decide_eq_true_eq] at h
    rw [h.2.1]
    rintro ⟨⟩
  have hknown : ∀ {known : RunEpochHandoffState}, next.handoff = known →
      (∀ code hcode, known ≠ .unnamed code hcode) →
      ∀ code hcode, next.handoff ≠ .unnamed code hcode := fun h hne code hcode => by
    rw [h]
    exact hne code hcode
  cases h with
  | schema1 _ h1 _ =>
      rw [isPlausible_schema1 h1, schema1Plausible] at hnext
      simp only [Bool.and_eq_true] at hnext
      exact hunbound hnext.1.1.2
  | schema1To2 _ _ h =>
      unfold schema1ToSchema2Successor at h
      cases hstate : record.state <;>
        simp only [hstate, Bool.and_eq_true, decide_eq_true_eq] at h
      · exact hknown h.2.1 (by rintro _ _ ⟨⟩)
      · exact hknown h.1.2 (by rintro _ _ ⟨⟩)
      · exact hbound h.2
  | schema2 _ _ h =>
      unfold schema2ToSchema2Successor at h
      cases hstate : record.state <;> cases hhandoff : record.handoff <;>
        simp only [hstate, hhandoff, Bool.and_eq_true, decide_eq_true_eq] at h
      all_goals first
        | exact hknown h.2.1 (by rintro _ _ ⟨⟩)
        | exact hknown h.1.2 (by rintro _ _ ⟨⟩)
        | exact hknown h.2 (by rintro _ _ ⟨⟩)
        | exact hknown h.1.2.2.1 (by rintro _ _ ⟨⟩)
        | exact hbound h
        | cases h
  | schema2To3 _ _ h =>
      rw [schema2ToSchema3Successor, Bool.and_eq_true, decide_eq_true_eq] at h
      exact hknown h.2.2.2.2.1 hnamed
  | schema3Auth _ _ h =>
      rw [schema3AuthHandoffSuccessor, Bool.and_eq_true, Bool.and_eq_true, decide_eq_true_eq] at h
      exact hknown h.1.2.2.2.2.1 hnamed
  | schema3 _ _ h =>
      rw [schema3ConfigurationSuccessor, Bool.and_eq_true] at h
      obtain ⟨-, h⟩ := h
      cases hstate : record.state with
      | initializing =>
          simp only [hstate, Bool.and_eq_true] at h
          exact hunbound h.2
      | resetting =>
          simp only [hstate, Bool.and_eq_true] at h
          exact hbound h.1
      | initialized =>
          cases htarget : next.state with
          | initializing =>
              simp only [hstate, htarget] at h
              cases h
          | resetting =>
              simp only [hstate, htarget, Bool.and_eq_true] at h
              exact hunbound h.1.2
          | initialized =>
              simp only [hstate, htarget, Bool.and_eq_true] at h
              obtain ⟨-, h⟩ := h
              cases hhandoff : record.handoff <;>
                simp only [hhandoff, Bool.and_eq_true, decide_eq_true_eq] at h
              · cases h
              · exact hknown h.1 (by rintro _ _ ⟨⟩)
              · exact hknown h.1 (by rintro _ _ ⟨⟩)
              · cases h
              · cases h

theorem written_of_target {operation : BootstrapOperation}
    (h : operation.target record = .ok next) : next.Written := by
  have hsuccessor : ∀ {state handoff}, record.successorWithHandoff state handoff = .ok next →
      next.Written := by
    intro state handoff h
    obtain ⟨_, _, _, -, -, -, -, rfl, -⟩ := successorWithHandoff_eq_ok.mp h
    show (if _ then _ else _) = _ ∨ (if _ then _ else _) = _
    split_ifs
    · exact .inr rfl
    · exact .inl rfl
  cases operation with
  | successor _ => exact hsuccessor h
  | handoffSuccessor _ => exact hsuccessor h
  | authDomainHandoff _ =>
      obtain ⟨-, hwritten, _, -, rfl, -⟩ := authDomainSuccessor_eq_ok.mp h
      show (if _ then _ else _) = _ ∨ (if _ then _ else _) = _
      split_ifs with hschema
      · exact .inr rfl
      · exact hwritten

theorem follows_of_target {operation : BootstrapOperation}
    (h : operation.target record = .ok next) : Follows next record := by
  have hallowed := allowed_of_target h
  obtain ⟨-, hnext, hsequence, hrule⟩ := isAllowedBootstrapSuccessor_iff.mp hallowed
  exact ⟨hallowed, hsequence, epochStep_of_succession hnext hrule⟩

theorem Regular.target {operation : BootstrapOperation} (h : record.Regular)
    (htarget : operation.target record = .ok next) : next.Regular := by
  obtain ⟨-, hnext, -, hrule⟩ := isAllowedBootstrapSuccessor_iff.mp (allowed_of_target htarget)
  refine ⟨hnext, fun hschema => ?_, named_of_succession hnext hrule h.named⟩
  rcases written_of_target htarget with hwritten | hwritten <;>
    cases hschema.symm.trans hwritten

/-- The recovery service keeps the two handoffs apart. -/
theorem apart_next {operation : BootstrapOperation} (h : record.isPlausible = true)
    (hapart : ¬record.HandoffsOverlap) (htakes : record.RecoveryTakes operation)
    (htarget : operation.target record = .ok next) : ¬next.HandoffsOverlap := by
  rintro ⟨hhandoff, hauth⟩
  have hsettled : ∀ {targetHandoff}, record.Settled →
      record.authDomainSuccessor targetHandoff = .ok next → False := by
    intro targetHandoff hsettled htarget
    obtain ⟨-, -, _, -, rfl, -⟩ := authDomainSuccessor_eq_ok.mp htarget
    rcases hsettled.2 with hnone | hconsumed
    · rw [show (record.authDomainTarget _ _).handoff = .none from hnone] at hhandoff
      rcases hhandoff with hhandoff | hhandoff <;> cases hhandoff
    · rw [show (record.authDomainTarget _ _).handoff = .consumed from hconsumed] at hhandoff
      rcases hhandoff with hhandoff | hhandoff <;> cases hhandoff
  cases htakes with
  | finish hstate =>
      have hnone : record.authDomainHandoff = .none := by
        by_contra hopen
        have hschema := schema3_of_auth h hopen
        rw [isPlausible_schema3 hschema, schema3Plausible] at h
        rcases hstate with hstate | hstate <;> rw [hstate] at h <;>
          simp only [Bool.and_eq_true, decide_eq_true_eq] at h
        · cases h.2
        · exact hopen h.2.2
      obtain ⟨_, _, _, -, -, -, -, rfl, -⟩ := successorWithHandoff_eq_ok.mp htarget
      have hopen : record.authDomainHandoff = .unconsumed ∨
          record.authDomainHandoff = .inProgress := hauth
      rw [hnone] at hopen
      rcases hopen with hopen | hopen <;> cases hopen
  | beginReset hstate _ _ =>
      obtain ⟨_, _, _, -, -, -, -, rfl, -⟩ := successorWithHandoff_eq_ok.mp htarget
      rcases hauth with hauth | hauth <;> cases hauth
  | commitRun _ _ hpending =>
      obtain ⟨_, _, _, -, -, -, -, rfl, -⟩ := successorWithHandoff_eq_ok.mp htarget
      exact hapart ⟨.inl hpending, hauth⟩
  | consumeRun _ _ hcommitted =>
      obtain ⟨_, _, _, -, -, -, -, rfl, -⟩ := successorWithHandoff_eq_ok.mp htarget
      exact hapart ⟨.inr hcommitted, hauth⟩
  | openAuth hrecord => exact hsettled hrecord htarget
  | beginAuth hrecord => exact hsettled hrecord htarget
  | consumeAuth hrecord => exact hsettled hrecord htarget
  | loseAuth hrecord => exact hsettled hrecord htarget

end ConfigurationBootstrapRecord

/-! ## The two slots -/

/-- The slot holds bytes the decoder reads as the record. -/
def SlotHolds (store : ConfigurationStore) (slot : Fin 2)
    (record : ConfigurationBootstrapRecord) : Prop :=
  ∃ bytes, store (.configurationBootstrap slot) = some bytes ∧
    decodeConfigurationBootstrapRecord bytes = .ok record

local instance neZeroOtherSlots : NeZero 2 := inferInstance

def otherBootstrapSlot (slot : Fin 2) : Fin 2 := if slot = 0 then 1 else 0

/-- The slots hold the last two records of a history, the newest in `slot`. -/
def HoldsLast (store : ConfigurationStore) (slot : Fin 2) :
    List ConfigurationBootstrapRecord → Prop
  | [] => False
  | [only] => SlotHolds store slot only ∧
      store (.configurationBootstrap (otherBootstrapSlot slot)) = none
  | newest :: older :: _ =>
      SlotHolds store slot newest ∧ SlotHolds store (otherBootstrapSlot slot) older

/-- The scan finds the record in the slot. -/
def ScanFinds (store : ConfigurationStore) (slot : Fin 2)
    (newest : ConfigurationBootstrapRecord) : Prop :=
  ∃ bytes, Program.run faultlessStore ConfigurationBootstrapStore.scan store =
    (⟨.available, some ⟨slot, newest, bytes, newest.sequence, false⟩⟩, store)

namespace ConfigurationBootstrapStore

variable {store : ConfigurationStore}

/-- What a slot contributes when its bytes can be read. -/
theorem candidate_of_holds {slot : Fin 2} {record : ConfigurationBootstrapRecord} {bytes : Bytes}
    (hbytes : store (.configurationBootstrap slot) = some bytes)
    (hdecode : decodeConfigurationBootstrapRecord bytes = .ok record) :
    candidateOf slot (readReply store (.configurationBootstrap slot)
      kMaximumConfigurationBootstrapSchema3EnvelopeBytes) = .ok (some ⟨slot, record, bytes⟩) := by
  rw [readReply_of_some hbytes (length_of_decode hdecode), candidateOf]
  simp only [hdecode]

theorem candidate_of_empty {slot : Fin 2}
    (hempty : store (.configurationBootstrap slot) = none) :
    candidateOf slot (readReply store (.configurationBootstrap slot)
      kMaximumConfigurationBootstrapSchema3EnvelopeBytes) = .ok none := by
  rw [readReply_of_none hempty]
  rfl

/-- The scan reads both slots and selects. -/
theorem run_scan {left right : Option BootstrapCandidate}
    (hleft : candidateOf 0 (readReply store (.configurationBootstrap 0)
      kMaximumConfigurationBootstrapSchema3EnvelopeBytes) = .ok left)
    (hright : candidateOf 1 (readReply store (.configurationBootstrap 1)
      kMaximumConfigurationBootstrapSchema3EnvelopeBytes) = .ok right) :
    Program.run faultlessStore scan store = (selectBootstrap left right, store) := by
  have hreadSlot : ∀ slot, Program.run faultlessStore (readSlot slot) store =
      (readReply store (.configurationBootstrap slot)
        kMaximumConfigurationBootstrapSchema3EnvelopeBytes, store) := fun _ => rfl
  rw [scan, Program.run_bind, hreadSlot]
  simp only [hleft]
  rw [Program.run_bind, hreadSlot]
  simp only [hright]
  rfl

/-- Of two records of which one follows the other the scan selects the later. -/
theorem select_pair {older newer : BootstrapCandidate} (h : Follows newer.record older.record) :
    selectBootstrap (some older) (some newer) = ⟨.available, some newer.loaded⟩ ∧
      selectBootstrap (some newer) (some older) = ⟨.available, some newer.loaded⟩ := by
  have hsequence := h.sequence
  have hbefore : older.record.sequence < newer.record.sequence := by
    rw [UInt64.lt_iff_toNat_lt]
    omega
  have hafter : ¬newer.record.sequence < older.record.sequence := by
    rw [UInt64.lt_iff_toNat_lt]
    omega
  have hne : older.record.sequence ≠ newer.record.sequence := fun heq => by
    rw [heq] at hsequence
    omega
  constructor
  · simp only [selectBootstrap, if_neg hne, if_pos hbefore, h.allowed, if_true]
  · simp only [selectBootstrap, if_neg hne.symm, if_neg hafter, h.allowed, if_true]

end ConfigurationBootstrapStore

theorem slot_cases (slot : Fin 2) :
    slot = 0 ∧ otherBootstrapSlot slot = 1 ∨ slot = 1 ∧ otherBootstrapSlot slot = 0 := by
  revert slot
  decide

open ConfigurationBootstrapStore in
/-- What a scan reads from the slots, and what it selects. -/
theorem heldCandidates_of_holdsLast {store : ConfigurationStore} {slot : Fin 2}
    {newest : ConfigurationBootstrapRecord} {rest : List ConfigurationBootstrapRecord}
    (hchain : (newest :: rest).IsChain Follows) (h : HoldsLast store slot (newest :: rest)) :
    ∃ left right,
      candidateOf 0 (readReply store (.configurationBootstrap 0)
        kMaximumConfigurationBootstrapSchema3EnvelopeBytes) = .ok left ∧
      candidateOf 1 (readReply store (.configurationBootstrap 1)
        kMaximumConfigurationBootstrapSchema3EnvelopeBytes) = .ok right ∧
      ∃ bytes, selectBootstrap left right =
        ⟨.available, some ⟨slot, newest, bytes, newest.sequence, false⟩⟩ := by
  have hslots := slot_cases slot
  cases rest with
  | nil =>
      obtain ⟨⟨bytes, hbytes, hdecode⟩, hempty⟩ := h
      rcases hslots with ⟨rfl, hother⟩ | ⟨rfl, hother⟩ <;> rw [hother] at hempty
      · exact ⟨_, _, candidate_of_holds hbytes hdecode, candidate_of_empty hempty, bytes, rfl⟩
      · exact ⟨_, _, candidate_of_empty hempty, candidate_of_holds hbytes hdecode, bytes, rfl⟩
  | cons older rest =>
      obtain ⟨⟨bytes, hbytes, hdecode⟩, olderBytes, holder, hdecodeOlder⟩ := h
      have hfollows : Follows newest older := (List.isChain_cons_cons.mp hchain).1
      rcases hslots with ⟨rfl, hother⟩ | ⟨rfl, hother⟩ <;> rw [hother] at holder
      · exact ⟨_, _, candidate_of_holds hbytes hdecode, candidate_of_holds holder hdecodeOlder,
          bytes, (@select_pair ⟨1, older, olderBytes⟩ ⟨0, newest, bytes⟩ hfollows).2⟩
      · exact ⟨_, _, candidate_of_holds holder hdecodeOlder, candidate_of_holds hbytes hdecode,
          bytes, (@select_pair ⟨0, older, olderBytes⟩ ⟨1, newest, bytes⟩ hfollows).1⟩

theorem scanFinds_of_holdsLast {store : ConfigurationStore} {slot : Fin 2}
    {newest : ConfigurationBootstrapRecord} {rest : List ConfigurationBootstrapRecord}
    (hchain : (newest :: rest).IsChain Follows) (h : HoldsLast store slot (newest :: rest)) :
    ScanFinds store slot newest := by
  obtain ⟨left, right, hleft, hright, bytes, hselect⟩ := heldCandidates_of_holdsLast hchain h
  exact ⟨bytes, by rw [ConfigurationBootstrapStore.run_scan hleft hright, hselect]⟩

/-! ## The guarantee -/

/-- From a record with counters below their maximum every step of the recovery
service has an accepted successor, but for the refused ones. -/
def ContinuesExcept (record : ConfigurationBootstrapRecord)
    (refused : BootstrapOperation → Prop) : Prop :=
  record.sequence ≠ maxUInt64 → record.storageEpoch ≠ maxUInt64 →
    ∀ operation, record.RecoveryTakes operation →
      ((∃ next, operation.target record = .ok next ∧ next.isPlausible = true ∧
        record.isAllowedBootstrapSuccessor next = true) ↔ ¬refused operation)

theorem ConfigurationBootstrapRecord.Regular.continuesExcept
    {record : ConfigurationBootstrapRecord} (h : record.Regular) :
    ContinuesExcept record fun operation =>
      record.ResetAfterHandoff operation ∨ record.HandoffsOverlap := by
  intro hroom hepochRoom operation htakes
  rw [← h.step_iff hroom hepochRoom htakes]
  constructor
  · rintro ⟨next, htarget, -⟩
    exact ⟨next, htarget⟩
  · rintro ⟨next, htarget⟩
    have hallowed := allowed_of_target htarget
    exact ⟨next, htarget, (isAllowedBootstrapSuccessor_iff.mp hallowed).2.1, hallowed⟩

variable {taken : ConfigurationBootstrapRecord → BootstrapOperation → Prop}

/-- What a history keeps from its first record on. -/
theorem BootstrapHistory.kept {history : List ConfigurationBootstrapRecord}
    (h : BootstrapHistory taken history) :
    (∀ record ∈ history, record.Regular) ∧ history.IsChain Follows := by
  induction h with
  | first hlegal hstate =>
      rename_i record
      refine ⟨fun found hfound => ?_, List.isChain_singleton record⟩
      rw [List.mem_singleton.mp hfound]
      refine ⟨hlegal, fun _ => hstate, fun code hcode hhandoff => ?_⟩
      have hbound := bound_of_ne_none hlegal (by rw [hhandoff]; nofun)
      cases hstate.symm.trans hbound.1
  | next _ _ htarget ih =>
      refine ⟨fun found hfound => ?_, List.isChain_cons_cons.mpr ⟨follows_of_target htarget, ih.2⟩⟩
      rcases List.mem_cons.mp hfound with rfl | hfound
      · exact (ih.1 _ List.mem_cons_self).target htarget
      · exact ih.1 found hfound

theorem RecoveryHistory.apart {newest : ConfigurationBootstrapRecord}
    {rest : List ConfigurationBootstrapRecord} (h : RecoveryHistory (newest :: rest)) :
    ¬newest.HandoffsOverlap := by
  generalize hhistory : newest :: rest = history at h
  induction h generalizing newest rest with
  | first hlegal hstate =>
      cases hhistory
      rintro ⟨hhandoff, -⟩
      have hbound := bound_of_ne_none hlegal
        (by rcases hhandoff with hhandoff | hhandoff <;> rw [hhandoff] <;> nofun)
      cases hstate.symm.trans hbound.1
  | next h htaken htarget ih =>
      cases hhistory
      exact apart_next ((h.kept.1 _ List.mem_cons_self).legal) (ih rfl) htaken htarget

/-- A history never becomes unreadable: its records are plausible, they follow
each other with one sequence each, the epoch grows only where a reset begins, and
the slots tell the newest.  It goes on with every step of the recovery service,
except for a reset of a record of the second schema whose run handoff went
through, and except for a run handoff that overlaps the authentication handoff,
which the recovery service does not let happen. -/
theorem bootstrap_history (history : List ConfigurationBootstrapRecord) :
    (StoreHistory history →
      (∀ record ∈ history, record.isPlausible = true) ∧ history.IsChain Follows ∧
      (∀ store slot, HoldsLast store slot history →
        ∀ newest ∈ history.head?, ScanFinds store slot newest) ∧
      ∀ newest ∈ history.head?, ContinuesExcept newest fun operation =>
        newest.ResetAfterHandoff operation ∨ newest.HandoffsOverlap) ∧
    (RecoveryHistory history → ∀ newest ∈ history.head?,
      ContinuesExcept newest newest.ResetAfterHandoff) := by
  constructor
  · intro h
    obtain ⟨hregular, hchain⟩ := h.kept
    refine ⟨fun record hrecord => (hregular record hrecord).legal, hchain,
      fun store slot hholds newest hnewest => ?_, fun newest hnewest => ?_⟩
    · obtain ⟨rest, rfl⟩ := List.head?_eq_some_iff.mp hnewest
      exact scanFinds_of_holdsLast hchain hholds
    · exact (hregular newest (List.mem_of_mem_head? hnewest)).continuesExcept
  · intro h newest hnewest hroom hepochRoom operation htakes
    obtain ⟨rest, rfl⟩ := List.head?_eq_some_iff.mp hnewest
    rw [(h.kept.1 newest List.mem_cons_self).continuesExcept hroom hepochRoom operation htakes,
      not_or]
    exact and_iff_left h.apart

/-! ## The refused reset -/

/-- A device of the second schema after its first reset. -/
def handedOver : ConfigurationBootstrapRecord where
  sequence := 6
  storageFormatVersion := kConfigurationStorageFormatVersion1
  storageEpoch := 2
  state := .initialized
  handoff := .consumed
  previousEpoch := some 1
  currentEpoch := some 2

def handedOverHistory : List ConfigurationBootstrapRecord :=
  [handedOver, { handedOver with sequence := 5, handoff := .committed },
    { handedOver with sequence := 4, handoff := .pending },
    { initial with sequence := 3, storageEpoch := 2, state := .resetting },
    { initial with sequence := 2, state := .initialized }, initial]

theorem handedOver_history : RecoveryHistory handedOverHistory := by
  refine .next (.next (.next (.next (.next (.first rfl rfl) (.finish (.inl rfl)) rfl)
    (.beginReset rfl nofun nofun) rfl) (.finish (.inr rfl)) rfl)
    (.commitRun (.inl rfl) rfl rfl) rfl) (.consumeRun (.inl rfl) rfl rfl) rfl

/-- The second reset of such a device is refused, with the counters far from
their ends. -/
theorem second_reset_refused :
    ∃ history newest operation, RecoveryHistory history ∧ newest ∈ history.head? ∧
      newest.sequence ≠ maxUInt64 ∧ newest.storageEpoch ≠ maxUInt64 ∧
      newest.RecoveryTakes operation ∧ operation.target newest = .error .invalidTransition :=
  ⟨handedOverHistory, handedOver, .successor .resetting, handedOver_history, rfl, by decide,
    by decide, .beginReset rfl nofun nofun, rfl⟩

/-- Its first step of the authentication handoff goes through. -/
theorem handedOver_continues :
    ∃ next, (BootstrapOperation.authDomainHandoff .unconsumed).target handedOver = .ok next ∧
      next.isPlausible = true ∧ handedOver.isAllowedBootstrapSuccessor next = true :=
  ((bootstrap_history handedOverHistory).2 handedOver_history handedOver rfl (by decide)
    (by decide) _ (.openAuth ⟨rfl, .inr rfl⟩ rfl (.inl rfl))).mpr fun h => nomatch h.2.2

end Fermentationsschrank

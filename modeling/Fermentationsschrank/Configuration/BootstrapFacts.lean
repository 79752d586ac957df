import Fermentationsschrank.Configuration.ConfigurationBootstrapStore

/-!
# Facts about bootstrap records

What an allowed successor looks like, and which successors the constructors of
the store can build.
-/

namespace Fermentationsschrank

namespace ConfigurationBootstrapRecord

variable {record previous next target : ConfigurationBootstrapRecord}

/-! ## Plausible records -/

theorem isPlausible_schema1 (h : record.schemaVersion = kConfigurationBootstrapSchemaVersion1) :
    record.isPlausible = record.schema1Plausible := by
  rw [isPlausible, if_pos h]

theorem isPlausible_schema2 (h : record.schemaVersion = kConfigurationBootstrapSchemaVersion2) :
    record.isPlausible = record.schema2Plausible := by
  rw [isPlausible, h]
  rfl

theorem isPlausible_schema3 (h : record.schemaVersion = kConfigurationBootstrapSchemaVersion3) :
    record.isPlausible = record.schema3Plausible := by
  rw [isPlausible, h]
  rfl

theorem schema_of_isPlausible (h : record.isPlausible = true) :
    record.schemaVersion = kConfigurationBootstrapSchemaVersion1 ∨ record.Written := by
  unfold isPlausible at h
  split_ifs at h with h1 h2 h3
  · exact .inl h1
  · exact .inr (.inl h2)
  · exact .inr (.inr h3)

/-- A plausible record is bound to its epoch or carries no binding at all. -/
theorem binding_of_isPlausible (h : record.isPlausible = true) :
    record.noHandoffBinding = true ∨ record.state = .initialized ∧ record.boundToEpoch = true := by
  rcases schema_of_isPlausible h with h1 | h2 | h3
  · rw [isPlausible_schema1 h1, schema1Plausible] at h
    simp only [Bool.and_eq_true] at h
    exact .inl h.1.1.2
  · rw [isPlausible_schema2 h2, schema2Plausible, Bool.and_eq_true] at h
    obtain ⟨-, h⟩ := h
    cases hstate : record.state <;> cases hhandoff : record.handoff <;>
      simp only [hstate, hhandoff, schema2PhasePlausible, Bool.and_eq_true] at h
    all_goals first
      | exact .inl h.2
      | exact .inl h.1
      | exact .inr ⟨rfl, h.1⟩
      | cases h
  · rw [isPlausible_schema3 h3, schema3Plausible, Bool.and_eq_true] at h
    obtain ⟨-, h⟩ := h
    cases hstate : record.state with
    | initializing =>
        rw [hstate] at h
        cases h
    | resetting =>
        simp only [hstate, Bool.and_eq_true] at h
        exact .inl h.1.2
    | initialized =>
        simp only [hstate] at h
        split at h
        · exact .inl h
        · exact .inr ⟨rfl, h⟩

theorem unbound_of_none (h : record.isPlausible = true) (hhandoff : record.handoff = .none) :
    record.previousEpoch = none ∧ record.currentEpoch = none := by
  rcases binding_of_isPlausible h with hunbound | ⟨-, hbound⟩
  · exact (noHandoffBinding_iff.mp hunbound).2
  · exact absurd hhandoff (boundToEpoch_iff.mp hbound).1

theorem bound_of_ne_none (h : record.isPlausible = true) (hhandoff : record.handoff ≠ .none) :
    record.state = .initialized ∧ record.boundToEpoch = true := by
  rcases binding_of_isPlausible h with hunbound | hbound
  · exact absurd (noHandoffBinding_iff.mp hunbound).1 hhandoff
  · exact hbound

theorem noAuthHandoff_of_isPlausible (h : record.isPlausible = true)
    (hschema : record.schemaVersion ≠ kConfigurationBootstrapSchemaVersion3) :
    record.authDomainHandoff = .none ∧ record.authHandoffSequence = 0 := by
  rcases schema_of_isPlausible h with h1 | h2 | h3
  · rw [isPlausible_schema1 h1, schema1Plausible] at h
    simp only [Bool.and_eq_true] at h
    exact noAuthHandoffBinding_iff.mp h.1.2
  · rw [isPlausible_schema2 h2, schema2Plausible] at h
    simp only [Bool.and_eq_true] at h
    exact noAuthHandoffBinding_iff.mp h.1.2
  · exact absurd h3 hschema

theorem format_of_isPlausible (h : record.isPlausible = true) :
    1 ≤ record.sequence.toNat ∧ record.storageEpoch ≠ 0 ∧
      record.storageFormatVersion = kConfigurationStorageFormatVersion1 := by
  rcases schema_of_isPlausible h with h1 | h2 | h3
  · rw [isPlausible_schema1 h1, schema1Plausible] at h
    simp only [Bool.and_eq_true] at h
    exact headed_iff.mp h.1.1.1
  · rw [isPlausible_schema2 h2, schema2Plausible] at h
    simp only [Bool.and_eq_true] at h
    exact headed_iff.mp h.1.1
  · rw [isPlausible_schema3 h3, schema3Plausible] at h
    simp only [Bool.and_eq_true] at h
    obtain ⟨hsequence, hrest⟩ := headed_iff.mp h.1.1
    exact ⟨le_trans (by decide) hsequence, hrest⟩

/-! ## Allowed successors -/

/-- The pairs of schemas, each with its own rule. -/
inductive Succession (previous next : ConfigurationBootstrapRecord) : Prop
  | schema1 (hprevious : previous.schemaVersion = kConfigurationBootstrapSchemaVersion1)
      (hnext : next.schemaVersion = kConfigurationBootstrapSchemaVersion1)
      (h : previous.schema1ToSchema1Successor next = true)
  | schema1To2 (hprevious : previous.schemaVersion = kConfigurationBootstrapSchemaVersion1)
      (hnext : next.schemaVersion = kConfigurationBootstrapSchemaVersion2)
      (h : previous.schema1ToSchema2Successor next = true)
  | schema2 (hprevious : previous.schemaVersion = kConfigurationBootstrapSchemaVersion2)
      (hnext : next.schemaVersion = kConfigurationBootstrapSchemaVersion2)
      (h : previous.schema2ToSchema2Successor next = true)
  | schema2To3 (hprevious : previous.schemaVersion = kConfigurationBootstrapSchemaVersion2)
      (hnext : next.schemaVersion = kConfigurationBootstrapSchemaVersion3)
      (h : previous.schema2ToSchema3Successor next = true)
  | schema3Auth (hprevious : previous.schemaVersion = kConfigurationBootstrapSchemaVersion3)
      (hnext : next.schemaVersion = kConfigurationBootstrapSchemaVersion3)
      (h : previous.schema3AuthHandoffSuccessor next = true)
  | schema3 (hprevious : previous.schemaVersion = kConfigurationBootstrapSchemaVersion3)
      (hnext : next.schemaVersion = kConfigurationBootstrapSchemaVersion3)
      (h : previous.schema3ConfigurationSuccessor next = true)

theorem inNextSequence_iff :
    previous.inNextSequence next = true ↔
      next.sequence.toNat = previous.sequence.toNat + 1 := by
  rw [inNextSequence, decide_eq_true_eq, checkedIncrement_eq_some]

theorem inNextEpoch_iff :
    previous.inNextEpoch next = true ↔
      next.storageEpoch.toNat = previous.storageEpoch.toNat + 1 := by
  rw [inNextEpoch, decide_eq_true_eq, checkedIncrement_eq_some]

theorem isAllowedBootstrapSuccessor_iff :
    previous.isAllowedBootstrapSuccessor next = true ↔
      previous.isPlausible = true ∧ next.isPlausible = true ∧
        next.sequence.toNat = previous.sequence.toNat + 1 ∧ Succession previous next := by
  rw [isAllowedBootstrapSuccessor, Bool.and_eq_true, Bool.and_eq_true, Bool.and_eq_true,
    inNextSequence_iff, and_assoc, and_assoc]
  refine and_congr_right fun _ => and_congr_right fun _ => and_congr_right fun _ => ?_
  constructor
  · intro h
    split_ifs at h with h1 h11 h23 h33
    · exact .schema1 h1 h11 h
    · rw [Bool.and_eq_true, decide_eq_true_eq] at h
      exact .schema1To2 h1 h.1 h.2
    · exact .schema2To3 h23.1 h23.2 h
    · rcases Bool.or_eq_true_iff.mp h with hauth | hconfiguration
      · exact .schema3Auth h33.1 h33.2 hauth
      · exact .schema3 h33.1 h33.2 hconfiguration
    · rw [Bool.and_eq_true, decide_eq_true_eq] at h
      exact .schema2 h.1.1 h.1.2 h.2
  · rintro (⟨hprevious, hnext, h⟩ | ⟨hprevious, hnext, h⟩ | ⟨hprevious, hnext, h⟩ |
      ⟨hprevious, hnext, h⟩ | ⟨hprevious, hnext, h⟩ | ⟨hprevious, hnext, h⟩) <;>
      rw [hprevious, hnext]
    · exact h
    · exact h
    · exact h
    · exact h
    · exact Bool.or_eq_true_iff.mpr (.inl h)
    · exact Bool.or_eq_true_iff.mpr (.inr h)

/-- The epoch moves exactly when a reset begins, and then by one. -/
inductive EpochStep (previous next : ConfigurationBootstrapRecord) : Prop
  | stays (hstate : next.state ≠ .resetting) (hepoch : next.storageEpoch = previous.storageEpoch)
  | grows (hstate : next.state = .resetting) (hprevious : previous.state = .initialized)
      (hepoch : next.storageEpoch.toNat = previous.storageEpoch.toNat + 1)

theorem state_of_handoff (h : record.isPlausible = true) (hhandoff : record.handoff ≠ .none) :
    record.state ≠ .resetting := by
  rw [(bound_of_ne_none h hhandoff).1]
  nofun

theorem epochStep_of_boundSuccessor (h : previous.boundSuccessor next = true) :
    EpochStep previous next := by
  rw [boundSuccessor, decide_eq_true_eq] at h
  exact .stays (by rw [h.1]; nofun) h.2.2.1

theorem sameBinding_iff :
    previous.sameBinding next = true ↔ previous.previousEpoch = next.previousEpoch ∧
      previous.currentEpoch = next.currentEpoch ∧ previous.storageEpoch = next.storageEpoch :=
  decide_eq_true_iff

theorem epochStep_of_succession (hnext : next.isPlausible = true)
    (h : Succession previous next) : EpochStep previous next := by
  cases h with
  | schema1 _ _ h =>
      unfold schema1ToSchema1Successor at h
      cases hstate : previous.state <;>
        simp only [hstate, Bool.and_eq_true, decide_eq_true_eq, inNextEpoch_iff] at h
      · exact .stays (by rw [h.1]; rintro ⟨⟩) h.2
      · exact .grows h.1 hstate h.2
      · exact .stays (by rw [h.1]; rintro ⟨⟩) h.2
  | schema1To2 _ _ h =>
      unfold schema1ToSchema2Successor at h
      cases hstate : previous.state <;>
        simp only [hstate, Bool.and_eq_true, decide_eq_true_eq, inNextEpoch_iff] at h
      · exact .stays (by rw [h.1]; rintro ⟨⟩) h.2.2.1
      · exact .grows h.1.1 hstate h.2
      · exact epochStep_of_boundSuccessor h.2
  | schema2 _ _ h =>
      unfold schema2ToSchema2Successor at h
      cases hstate : previous.state <;> cases hhandoff : previous.handoff <;>
        simp only [hstate, hhandoff, Bool.and_eq_true, decide_eq_true_eq, inNextEpoch_iff,
          sameBinding_iff] at h
      all_goals first
        | exact .stays (by rw [h.1]; rintro ⟨⟩) h.2.2
        | exact .grows h.1.1 hstate h.2
        | exact .stays (state_of_handoff hnext (by rw [h.2]; rintro ⟨⟩)) h.1.2.2.2.symm
        | exact .grows h.1.2.1 hstate h.2
        | exact epochStep_of_boundSuccessor h
        | cases h
  | schema2To3 _ _ h =>
      rw [schema2ToSchema3Successor, Bool.and_eq_true, decide_eq_true_eq] at h
      exact .stays (by rw [h.2.2.1, h.2.1]; rintro ⟨⟩) h.2.2.2.1
  | schema3Auth _ _ h =>
      rw [schema3AuthHandoffSuccessor, Bool.and_eq_true, Bool.and_eq_true, decide_eq_true_eq] at h
      exact .stays (by rw [h.1.2.2.1, h.1.2.1]; rintro ⟨⟩) h.1.2.2.2.1
  | schema3 _ _ h =>
      rw [schema3ConfigurationSuccessor, Bool.and_eq_true] at h
      obtain ⟨-, h⟩ := h
      cases hstate : previous.state with
      | initializing =>
          simp only [hstate, Bool.and_eq_true, decide_eq_true_eq] at h
          exact .stays (by rw [h.1.1]; rintro ⟨⟩) h.1.2.1
      | resetting =>
          simp only [hstate, Bool.and_eq_true] at h
          exact epochStep_of_boundSuccessor h.1
      | initialized =>
          cases htarget : next.state with
          | initializing =>
              simp only [hstate, htarget] at h
              cases h
          | resetting =>
              simp only [hstate, htarget, Bool.and_eq_true, inNextEpoch_iff] at h
              exact .grows htarget hstate h.1.1.2
          | initialized =>
              simp only [hstate, htarget, Bool.and_eq_true, decide_eq_true_eq] at h
              exact .stays (by rw [htarget]; rintro ⟨⟩) h.1.1

/-! ## What the constructors build -/

theorem successorWithHandoff_eq_ok {targetState : ConfigurationBootstrapState}
    {targetHandoff : RunEpochHandoffState} :
    record.successorWithHandoff targetState targetHandoff = .ok next ↔
      ∃ sequence storageEpoch epochs,
        sequence.toNat = record.sequence.toNat + 1 ∧
        (targetHandoff = .none ∨ targetState = .initialized) ∧
        record.targetEpoch targetState = .ok storageEpoch ∧
        record.handoffEpochs storageEpoch targetHandoff = .ok epochs ∧
        next = record.targetRecord sequence storageEpoch epochs targetState targetHandoff ∧
        record.isAllowedBootstrapSuccessor next = true := by
  simp only [successorWithHandoff, bind_eq_ok, orFail_eq_ok, require_eq_ok, decide_eq_true_eq,
    checkedIncrement_eq_some]
  constructor
  · rintro ⟨sequence, hsequence, _, htarget, storageEpoch, hepoch, epochs, hepochs, _, hallowed, h⟩
    cases h
    exact ⟨sequence, storageEpoch, epochs, hsequence, htarget, hepoch, hepochs, rfl, hallowed⟩
  · rintro ⟨sequence, storageEpoch, epochs, hsequence, htarget, hepoch, hepochs, rfl, hallowed⟩
    exact ⟨sequence, hsequence, (), htarget, storageEpoch, hepoch, epochs, hepochs, (), hallowed,
      rfl⟩

theorem authDomainSuccessor_eq_ok {targetHandoff : AuthDomainHandoffState} :
    record.authDomainSuccessor targetHandoff = .ok next ↔
      record.state = .initialized ∧ record.Written ∧
        ∃ sequence, sequence.toNat = record.sequence.toNat + 1 ∧
          next = record.authDomainTarget sequence targetHandoff ∧
          record.isAllowedBootstrapSuccessor next = true := by
  simp only [authDomainSuccessor, bind_eq_ok, orFail_eq_ok, require_eq_ok, decide_eq_true_eq,
    checkedIncrement_eq_some]
  constructor
  · rintro ⟨_, hrecord, sequence, hsequence, _, hallowed, h⟩
    cases h
    exact ⟨hrecord.1, hrecord.2, sequence, hsequence, rfl, hallowed⟩
  · rintro ⟨hstate, hwritten, sequence, hsequence, rfl, hallowed⟩
    exact ⟨(), ⟨hstate, hwritten⟩, sequence, hsequence, (), hallowed, rfl⟩

/-- Every constructor asks the successor rule before it hands out a record. -/
theorem allowed_of_target {operation : BootstrapOperation}
    (h : operation.target record = .ok next) :
    record.isAllowedBootstrapSuccessor next = true := by
  cases operation with
  | successor targetState =>
      obtain ⟨_, _, _, _, _, _, _, _, hallowed⟩ := successorWithHandoff_eq_ok.mp h
      exact hallowed
  | handoffSuccessor targetHandoff =>
      obtain ⟨_, _, _, _, _, _, _, _, hallowed⟩ := successorWithHandoff_eq_ok.mp h
      exact hallowed
  | authDomainHandoff targetHandoff =>
      obtain ⟨_, _, _, _, _, hallowed⟩ := authDomainSuccessor_eq_ok.mp h
      exact hallowed

/-- The sequence has room for one more record. -/
theorem exists_nextSequence (h : record.sequence ≠ maxUInt64) :
    ∃ sequence : UInt64, sequence.toNat = record.sequence.toNat + 1 := by
  have hmax : record.sequence.toNat ≠ 18446744073709551615 := fun heq =>
    h (UInt64.toNat_inj.mp heq)
  have hword := record.sequence.toNat_lt
  exact ⟨UInt64.ofNat (record.sequence.toNat + 1), UInt64.toNat_ofNat_of_lt' (by
    show _ < 2 ^ 64
    omega)⟩

end ConfigurationBootstrapRecord

end Fermentationsschrank

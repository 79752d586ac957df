import Fermentationsschrank.Configuration.BootstrapFacts

/-!
# Steps of the recovery service

Which operation the recovery service continues a bootstrap record with, and
when the constructor of the store builds the successor it asks for.
-/

namespace Fermentationsschrank

namespace ConfigurationBootstrapRecord

/-- The run handoff leaves room for the authentication domain. -/
abbrev Settled (record : ConfigurationBootstrapRecord) : Prop :=
  record.state = .initialized ∧ (record.handoff = .none ∨ record.handoff = .consumed)

/-- The operations the recovery service issues for a record it has scanned.
What it asks of the other stores is left out. -/
inductive RecoveryTakes (record : ConfigurationBootstrapRecord) : BootstrapOperation → Prop
  | finish (hstate : record.state = .initializing ∨ record.state = .resetting) :
      RecoveryTakes record (.successor .initialized)
  | beginReset (hstate : record.state = .initialized) (hpending : record.handoff ≠ .pending)
      (hcommitted : record.handoff ≠ .committed) :
      RecoveryTakes record (.successor .resetting)
  | commitRun (hwritten : record.Written) (hstate : record.state = .initialized)
      (hhandoff : record.handoff = .pending) :
      RecoveryTakes record (.handoffSuccessor .committed)
  | consumeRun (hwritten : record.Written) (hstate : record.state = .initialized)
      (hhandoff : record.handoff = .committed) :
      RecoveryTakes record (.handoffSuccessor .consumed)
  | openAuth (hsettled : record.Settled) (hauth : record.authDomainHandoff = .none)
      (hschema : record.schemaVersion = kConfigurationBootstrapSchemaVersion2 ∨
        1 < record.storageEpoch ∧
          record.schemaVersion = kConfigurationBootstrapSchemaVersion3) :
      RecoveryTakes record (.authDomainHandoff .unconsumed)
  | beginAuth (hsettled : record.Settled) (hauth : record.authDomainHandoff = .unconsumed) :
      RecoveryTakes record (.authDomainHandoff .inProgress)
  | consumeAuth (hsettled : record.Settled) (hauth : record.authDomainHandoff = .inProgress) :
      RecoveryTakes record (.authDomainHandoff .consumed)
  | loseAuth (hsettled : record.Settled) (hauth : record.authDomainHandoff = .inProgress) :
      RecoveryTakes record (.authDomainHandoff .indeterminate)

/-- The reset of a record of schema 2 whose run handoff went through. -/
def ResetAfterHandoff (record : ConfigurationBootstrapRecord) (operation : BootstrapOperation) :
    Prop :=
  record.schemaVersion = kConfigurationBootstrapSchemaVersion2 ∧ record.handoff = .consumed ∧
    operation = .successor .resetting

/-- Both handoffs are under way at once. -/
def HandoffsOverlap (record : ConfigurationBootstrapRecord) : Prop :=
  (record.handoff = .pending ∨ record.handoff = .committed) ∧
    (record.authDomainHandoff = .unconsumed ∨ record.authDomainHandoff = .inProgress)

/-- What every record behind an initial one has in common. -/
structure Regular (record : ConfigurationBootstrapRecord) : Prop where
  legal : record.isPlausible = true
  /-- A record of the first schema is never built. -/
  first : record.schemaVersion = kConfigurationBootstrapSchemaVersion1 →
    record.state = .initializing
  named : ∀ code hcode, record.handoff ≠ .unnamed code hcode

variable {record next : ConfigurationBootstrapRecord} {sequence : UInt64}

/-! ## Start and reset -/

theorem finish_initializing (h : record.isPlausible = true) (hstate : record.state = .initializing) :
    ∃ next, record.successor .initialized = .ok next := by
  obtain ⟨hauth, hauthSequence⟩ := noAuthHandoff_of_isPlausible h (by
    intro h3
    rw [isPlausible_schema3 h3, schema3Plausible, hstate, Bool.and_eq_true] at h
    cases h.2)
  obtain ⟨-, -, hformat⟩ := format_of_isPlausible h
  have hfirst : record.storageEpoch = 1 ∧ record.sequence = 1 ∧ record.noHandoffBinding = true ∧
      (record.schemaVersion = kConfigurationBootstrapSchemaVersion1 ∨
        record.schemaVersion = kConfigurationBootstrapSchemaVersion2) := by
    rcases schema_of_isPlausible h with h1 | h2 | h3
    · rw [isPlausible_schema1 h1, schema1Plausible, hstate] at h
      simp only [Bool.and_eq_true, Option.any_eq_true, decide_eq_true_eq] at h
      obtain ⟨⟨⟨-, hbinding⟩, -⟩, _, -, hepoch, hsequence⟩ := h
      exact ⟨hepoch, hsequence, hbinding, .inl h1⟩
    · rw [isPlausible_schema2 h2, schema2Plausible, hstate] at h
      simp only [Bool.and_eq_true, decide_eq_true_eq] at h
      obtain ⟨-, ⟨hepoch, hsequence⟩, hbinding⟩ := h
      exact ⟨hepoch, hsequence, hbinding, .inr h2⟩
    · rw [isPlausible_schema3 h3, schema3Plausible, hstate, Bool.and_eq_true] at h
      cases h.2
  obtain ⟨hepoch, hsequence, hbinding, hschema⟩ := hfirst
  obtain ⟨hhandoff, hprevious, hcurrent⟩ := noHandoffBinding_iff.mp hbinding
  obtain ⟨_, _, _, _, _, _, _, _, _, _⟩ := record
  subst hauth hauthSequence hformat hepoch hsequence hhandoff hprevious hcurrent hstate
  rcases hschema with rfl | rfl
  · exact ⟨_, rfl⟩
  · exact ⟨_, rfl⟩

/-! ## Plausible targets -/

theorem resetting_of_isPlausible (h : record.isPlausible = true)
    (hstate : record.state = .resetting) : record.noHandoffBinding = true := by
  rcases binding_of_isPlausible h with hunbound | ⟨hinitialized, -⟩
  · exact hunbound
  · rw [hstate] at hinitialized
    cases hinitialized

/-- The phases of a run handoff in the second schema, by the number of records
they come after the reset. -/
def phaseOffset : RunEpochHandoffState → UInt64
  | .pending => 1
  | .committed => 2
  | _ => 3

theorem schema2Plausible_bound (hstate : record.state = .initialized)
    (hhandoff : record.handoff = .pending ∨ record.handoff = .committed ∨
      record.handoff = .consumed) :
    record.schema2Plausible = (record.headed 1 && record.noAuthHandoffBinding &&
      record.schema2PhasePlausible (phaseOffset record.handoff)) := by
  rw [schema2Plausible, hstate]
  rcases hhandoff with hhandoff | hhandoff | hhandoff <;> rw [hhandoff] <;> rfl

/-- The next phase of the second schema, one record later in the same epoch. -/
theorem sequencePlausible_next {offset next' : UInt64}
    (h : record.schema2SequencePlausible offset = true) (hoffset : offset.toNat ≤ 2)
    (hnextOffset : next'.toNat = offset.toNat + 1)
    (hepoch : next.storageEpoch = record.storageEpoch)
    (hsequence : next.sequence.toNat = record.sequence.toNat + 1) :
    next.schema2SequencePlausible next' = true := by
  obtain ⟨hfirst, hlimit, passed, hpassed, hvalue⟩ :=
    (schema2SequencePlausible_iff (by omega)).mp h
  refine (schema2SequencePlausible_iff (by omega)).mpr ?_
  rw [hepoch]
  exact ⟨hfirst, hlimit, passed, hpassed, by omega⟩

theorem headed_next {first : UInt64} (h : record.isPlausible = true)
    (hformat : next.storageFormatVersion = record.storageFormatVersion)
    (hepoch : next.storageEpoch ≠ 0) (hsequence : first.toNat ≤ next.sequence.toNat) :
    next.headed first = true :=
  headed_iff.mpr ⟨hsequence, hepoch, hformat.trans (format_of_isPlausible h).2.2⟩

/-- What the third schema asks of an initialized record. -/
theorem schema3Plausible_initialized (hstate : record.state = .initialized)
    (hheaded : record.headed 3 = true) (hauth : record.authHandoffBindingPlausible = true)
    (hbinding : record.noHandoffBinding = true ∨ record.boundToEpoch = true) :
    record.schema3Plausible = true := by
  rw [schema3Plausible, hheaded, hauth, hstate, Bool.true_and, Bool.true_and]
  show (if record.handoff = .none then record.noHandoffBinding else record.boundToEpoch) = true
  rcases hbinding with hunbound | hbound
  · rw [if_pos (noHandoffBinding_iff.mp hunbound).1]
    exact hunbound
  · rw [if_neg (boundToEpoch_iff.mp hbound).1]
    exact hbound

/-- A record of the third schema was preceded by two others. -/
theorem sequence_of_schema3 (h : record.isPlausible = true)
    (hschema : record.schemaVersion = kConfigurationBootstrapSchemaVersion3) :
    3 ≤ record.sequence.toNat ∧ record.authHandoffBindingPlausible = true := by
  rw [isPlausible_schema3 hschema, schema3Plausible, Bool.and_eq_true, Bool.and_eq_true] at h
  exact ⟨(headed_iff.mp h.1.1).1, h.1.2⟩

/-- A handoff of the authentication domain that is not under way stays plausible
behind every further record. -/
theorem authBinding_later (h : record.authHandoffBindingPlausible = true)
    (hauth : next.authDomainHandoff = record.authDomainHandoff)
    (hopened : next.authHandoffSequence = record.authHandoffSequence)
    (hsequence : next.sequence.toNat = record.sequence.toNat + 1)
    (hclosed : record.authDomainHandoff ≠ .unconsumed ∧
      record.authDomainHandoff ≠ .inProgress) : next.authHandoffBindingPlausible = true := by
  rw [authHandoffBindingPlausible_iff] at h ⊢
  rw [hauth, hopened, hsequence]
  generalize record.authDomainHandoff = handoff at h hclosed
  cases handoff with
  | none => exact h
  | unconsumed => exact absurd rfl hclosed.1
  | inProgress => exact absurd rfl hclosed.2
  | consumed => exact ⟨h.1, h.2.trans (Nat.le_succ _)⟩
  | indeterminate => exact ⟨h.1, h.2.trans (Nat.le_succ _)⟩

/-- An initialized record was preceded by at least one other. -/
theorem sequence_of_initialized (h : record.isPlausible = true) (hwritten : record.Written)
    (hstate : record.state = .initialized) : 2 ≤ record.sequence.toNat := by
  rcases hwritten with h2 | h3
  · rw [isPlausible_schema2 h2, schema2Plausible, hstate, Bool.and_eq_true] at h
    have hphase : ∀ {offset : UInt64}, offset.toNat ≤ 3 →
        record.schema2PhasePlausible offset = true → 2 ≤ record.sequence.toNat := by
      intro offset hoffset hphase
      rw [schema2PhasePlausible, Bool.and_eq_true, schema2SequencePlausible_iff hoffset] at hphase
      obtain ⟨-, hepoch, -, passed, -, hvalue⟩ := hphase
      omega
    cases hhandoff : record.handoff <;> simp only [hhandoff] at h
    · simp only [Bool.and_eq_true, decide_eq_true_eq] at h
      rw [h.2.1.2]
      decide
    · exact hphase (by decide) h.2
    · exact hphase (by decide) h.2
    · exact hphase (by decide) h.2
    · cases h.2
  · exact le_trans (by decide) (sequence_of_schema3 h h3).1

/-! ## The end of a reset -/

theorem finish_resetting (h : record.isPlausible = true) (hwritten : record.Written)
    (hstate : record.state = .resetting) (hroom : record.sequence ≠ maxUInt64) :
    ∃ next, record.successor .initialized = .ok next := by
  obtain ⟨sequence, hsequence⟩ := exists_nextSequence hroom
  obtain ⟨hhandoff, hprevious, hcurrent⟩ := noHandoffBinding_iff.mp
    (resetting_of_isPlausible h hstate)
  have hepoch : 2 ≤ record.storageEpoch.toNat := by
    rcases hwritten with h2 | h3
    · rw [isPlausible_schema2 h2, schema2Plausible, hstate] at h
      simp only [Bool.and_eq_true] at h
      exact ((schema2SequencePlausible_iff (by decide)).mp h.2.2).1
    · rw [isPlausible_schema3 h3, schema3Plausible, hstate] at h
      simp only [Bool.and_eq_true, decide_eq_true_eq] at h
      exact UInt64.le_iff_toNat_le.mp h.2.1.1
  have hzero : record.storageEpoch ≠ 0 := (format_of_isPlausible h).2.1
  rw [successor, if_pos ⟨hstate, rfl⟩]
  set target := record.targetRecord sequence record.storageEpoch
    (some (record.storageEpoch - 1), some record.storageEpoch) .initialized .pending with htarget
  have hbound : target.boundToEpoch = true :=
        boundToEpoch_iff.mpr ⟨by rintro ⟨⟩, rfl, hepoch, rfl⟩
  have hsuccessor : record.boundSuccessor target = true :=
    decide_eq_true ⟨rfl, rfl, rfl, rfl, rfl⟩
  refine ⟨target, successorWithHandoff_eq_ok.mpr ⟨sequence, record.storageEpoch, _, hsequence,
    .inr rfl, rfl, ?_, htarget, isAllowedBootstrapSuccessor_iff.mpr ⟨h, ?_, hsequence, ?_⟩⟩⟩
  · rw [handoffEpochs, if_neg (by rintro ⟨⟩), hprevious]
    have hlater : 1 < record.storageEpoch := UInt64.lt_iff_toNat_lt.mpr hepoch
    exact if_pos hlater
  · rcases hwritten with h2 | h3
    · have hschema : target.schemaVersion = kConfigurationBootstrapSchemaVersion2 := by
        rw [htarget, targetRecord, h2]
        rfl
      have hheaded : target.headed 1 = true :=
        headed_next h rfl hzero (show 1 ≤ sequence.toNat by omega)
      rw [isPlausible_schema2 hschema, schema2Plausible_bound rfl (.inl rfl), hheaded]
      rw [isPlausible_schema2 h2, schema2Plausible, hstate] at h
      simp only [Bool.and_eq_true] at h
      have hauth : target.noAuthHandoffBinding = true := h.1.2
      rw [hauth, schema2PhasePlausible, hbound]
      exact sequencePlausible_next h.2.2 (by decide) rfl rfl hsequence
    · have hschema : target.schemaVersion = kConfigurationBootstrapSchemaVersion3 := by
        rw [htarget, targetRecord, h3]
        rfl
      obtain ⟨hthree, hauth⟩ := sequence_of_schema3 h h3
      rw [isPlausible_schema3 hschema]
      refine schema3Plausible_initialized rfl
        (headed_next h rfl hzero (show 3 ≤ sequence.toNat by omega)) ?_ (.inr hbound)
      rw [isPlausible_schema3 h3, schema3Plausible, hstate] at h
      simp only [Bool.and_eq_true, decide_eq_true_eq] at h
      have hnone : target.authDomainHandoff = .none := h.2.2
      rw [authHandoffBindingPlausible, h.2.2] at hauth
      rw [authHandoffBindingPlausible, hnone]
      exact hauth
  · rcases hwritten with h2 | h3
    · refine .schema2 h2 (by rw [htarget, targetRecord, h2]; rfl) ?_
      rw [schema2ToSchema2Successor, hstate]
      exact hsuccessor
    · refine .schema3 h3 (by rw [htarget, targetRecord, h3]; rfl) ?_
      rw [schema3ConfigurationSuccessor, inNextSequence_iff.mpr hsequence, hstate, Bool.true_and,
        hsuccessor, Bool.true_and]
      obtain ⟨-, hauth⟩ := sequence_of_schema3 h h3
      rw [isPlausible_schema3 h3, schema3Plausible, hstate] at h
      simp only [Bool.and_eq_true, decide_eq_true_eq] at h
      rw [authHandoffBindingPlausible, h.2.2] at hauth
      exact noAuthHandoffBinding_iff.mpr ⟨h.2.2, of_decide_eq_true hauth⟩

/-! ## The begin of a reset -/

/-- The only unbound initialized record of the second schema is the second
record of a device. -/
theorem reset_schema2 (h : record.isPlausible = true)
    (hschema : record.schemaVersion = kConfigurationBootstrapSchemaVersion2)
    (hstate : record.state = .initialized) (hhandoff : record.handoff = .none) :
    ∃ next, record.successor .resetting = .ok next := by
  obtain ⟨hauth, hauthSequence⟩ := noAuthHandoff_of_isPlausible h (by rw [hschema]; decide)
  obtain ⟨-, -, hformat⟩ := format_of_isPlausible h
  obtain ⟨hprevious, hcurrent⟩ := unbound_of_none h hhandoff
  rw [isPlausible_schema2 hschema, schema2Plausible, hstate, hhandoff] at h
  simp only [Bool.and_eq_true, decide_eq_true_eq] at h
  obtain ⟨-, ⟨hepoch, hsequence⟩, -⟩ := h
  obtain ⟨_, _, _, _, _, _, _, _, _, _⟩ := record
  subst hauth hauthSequence hformat hepoch hsequence hhandoff hprevious hcurrent hstate hschema
  exact ⟨_, rfl⟩

theorem reset_schema3 (h : record.isPlausible = true)
    (hschema : record.schemaVersion = kConfigurationBootstrapSchemaVersion3)
    (hsettled : record.Settled) (hroom : record.sequence ≠ maxUInt64)
    (hepochRoom : record.storageEpoch ≠ maxUInt64) :
    ∃ next, record.successor .resetting = .ok next := by
  obtain ⟨sequence, hsequence⟩ := exists_nextSequence hroom
  have hnextEpoch : checkedIncrement record.storageEpoch = some (record.storageEpoch + 1) :=
    if_neg hepochRoom
  have hepoch := checkedIncrement_eq_some.mp hnextEpoch
  obtain ⟨-, hzero, -⟩ := format_of_isPlausible h
  have hepochZero : record.storageEpoch.toNat ≠ 0 := fun heq => hzero (UInt64.toNat_inj.mp heq)
  rw [successor, if_neg (by rw [hsettled.1]; nofun)]
  set target := record.targetRecord sequence (record.storageEpoch + 1) (none, none) .resetting
    .none with htarget
  have hunbound : target.noHandoffBinding = true := noHandoffBinding_iff.mpr ⟨rfl, rfl, rfl⟩
  have hnoAuth : target.noAuthHandoffBinding = true := noAuthHandoffBinding_iff.mpr ⟨rfl, rfl⟩
  have htargetSchema : target.schemaVersion = kConfigurationBootstrapSchemaVersion3 := by
    rw [htarget, targetRecord, hschema]
    rfl
  refine ⟨target, successorWithHandoff_eq_ok.mpr ⟨sequence, record.storageEpoch + 1, (none, none),
    hsequence, .inl rfl, ?_, rfl, htarget, isAllowedBootstrapSuccessor_iff.mpr ⟨h, ?_, hsequence,
      .schema3 hschema htargetSchema ?_⟩⟩⟩
  · rw [targetEpoch, if_pos rfl, hnextEpoch]
    rfl
  · have hheaded : target.headed 3 = true :=
      headed_next h rfl (fun heq => by
        have hvalue := congrArg UInt64.toNat (show record.storageEpoch + 1 = 0 from heq)
        rw [hepoch] at hvalue
        cases hvalue)
        (show 3 ≤ sequence.toNat by have := (sequence_of_schema3 h hschema).1; omega)
    have hlater : 2 ≤ record.storageEpoch + 1 := by
      rw [UInt64.le_iff_toNat_le, hepoch]
      show 2 ≤ _
      omega
    rw [isPlausible_schema3 htargetSchema, schema3Plausible, hheaded]
    show (decide (2 ≤ record.storageEpoch + 1) && target.noHandoffBinding && true) = true
    rw [decide_eq_true hlater, hunbound]
    rfl
  · rw [schema3ConfigurationSuccessor, inNextSequence_iff.mpr hsequence, hsettled.1]
    show (decide (record.handoff = .none ∨ record.handoff = .consumed) &&
      record.inNextEpoch target && target.noHandoffBinding && target.noAuthHandoffBinding) = true
    rw [decide_eq_true hsettled.2, inNextEpoch_iff.mpr hepoch, hunbound, hnoAuth]
    rfl

/-! ## The run handoff -/

/-- The handoff that follows an open one. -/
inductive HandoffNext : RunEpochHandoffState → RunEpochHandoffState → Prop
  | commit : HandoffNext .pending .committed
  | consume : HandoffNext .committed .consumed

theorem advance_handoff {targetHandoff : RunEpochHandoffState} (h : record.isPlausible = true)
    (hwritten : record.Written) (hnext : HandoffNext record.handoff targetHandoff)
    (hclosed : record.schemaVersion = kConfigurationBootstrapSchemaVersion3 →
      record.authDomainHandoff ≠ .unconsumed ∧ record.authDomainHandoff ≠ .inProgress)
    (hroom : record.sequence ≠ maxUInt64) :
    ∃ next, record.handoffSuccessor targetHandoff = .ok next := by
  obtain ⟨sequence, hsequence⟩ := exists_nextSequence hroom
  have hopen : record.handoff ≠ .none := by
    generalize record.handoff = handoff at hnext
    cases hnext <;> nofun
  have htargetOpen : targetHandoff ≠ .none := by
    generalize record.handoff = handoff at hnext
    cases hnext <;> nofun
  obtain ⟨hstate, hbound⟩ := bound_of_ne_none h hopen
  obtain ⟨-, hcurrent, hepoch, hprevious⟩ := boundToEpoch_iff.mp hbound
  obtain ⟨-, hzero, -⟩ := format_of_isPlausible h
  set target := record.targetRecord sequence record.storageEpoch
    (some (record.storageEpoch - 1), some record.storageEpoch) .initialized targetHandoff
    with htarget
  have htargetBound : target.boundToEpoch = true :=
    boundToEpoch_iff.mpr ⟨htargetOpen, rfl, hepoch, rfl⟩
  have hsame : record.sameBinding target = true := sameBinding_iff.mpr ⟨hprevious, hcurrent, rfl⟩
  refine ⟨target, successorWithHandoff_eq_ok.mpr ⟨sequence, record.storageEpoch,
    (some (record.storageEpoch - 1), some record.storageEpoch), hsequence, .inr rfl, rfl, ?_,
    htarget, isAllowedBootstrapSuccessor_iff.mpr ⟨h, ?_, hsequence, ?_⟩⟩⟩
  · rw [handoffEpochs, if_neg htargetOpen, hprevious, hcurrent]
  · rcases hwritten with h2 | h3
    · have hschema : target.schemaVersion = kConfigurationBootstrapSchemaVersion2 := by
        rw [htarget, targetRecord, h2]
        rfl
      have hheaded : target.headed 1 = true :=
        headed_next h rfl hzero (show 1 ≤ sequence.toNat by omega)
      have hnoAuth := noAuthHandoff_of_isPlausible h (by rw [h2]; decide)
      have hauth : target.noAuthHandoffBinding = true := noAuthHandoffBinding_iff.mpr hnoAuth
      rw [isPlausible_schema2 h2] at h
      have hphases : record.schema2PhasePlausible (phaseOffset record.handoff) = true ∧
          (phaseOffset record.handoff).toNat ≤ 2 ∧
          (phaseOffset targetHandoff).toNat = (phaseOffset record.handoff).toNat + 1 ∧
          (targetHandoff = .committed ∨ targetHandoff = .consumed) := by
        generalize hhandoff : record.handoff = handoff at hnext
        cases hnext with
        | commit =>
            rw [schema2Plausible_bound hstate (.inl hhandoff), hhandoff, Bool.and_eq_true] at h
            exact ⟨h.2, by decide, by decide, .inl rfl⟩
        | consume =>
            rw [schema2Plausible_bound hstate (.inr (.inl hhandoff)), hhandoff,
              Bool.and_eq_true] at h
            exact ⟨h.2, by decide, by decide, .inr rfl⟩
      obtain ⟨hphase, hoffset, hnextOffset, hkind⟩ := hphases
      rw [schema2PhasePlausible, Bool.and_eq_true] at hphase
      rw [isPlausible_schema2 hschema, schema2Plausible_bound rfl (.inr hkind), hheaded, hauth,
        schema2PhasePlausible, htargetBound]
      exact sequencePlausible_next hphase.2 hoffset hnextOffset rfl hsequence
    · have hschema : target.schemaVersion = kConfigurationBootstrapSchemaVersion3 := by
        rw [htarget, targetRecord, h3]
        rfl
      obtain ⟨hthree, hauth⟩ := sequence_of_schema3 h h3
      rw [isPlausible_schema3 hschema]
      refine schema3Plausible_initialized rfl
        (headed_next h rfl hzero (show 3 ≤ sequence.toNat by omega)) ?_ (.inr htargetBound)
      exact authBinding_later hauth rfl rfl hsequence (hclosed h3)
  · have hrule : (match record.handoff with
        | .pending => decide (targetHandoff = .committed) && record.sameBinding target
        | .committed => decide (targetHandoff = .consumed) && record.sameBinding target
        | _ => false) = true := by
      rw [hsame]
      generalize record.handoff = handoff at hnext
      cases hnext <;> rfl
    rcases hwritten with h2 | h3
    · refine .schema2 h2 (by rw [htarget, targetRecord, h2]; rfl) ?_
      rw [schema2ToSchema2Successor, hstate, hbound, hsame]
      generalize record.handoff = handoff at hnext
      cases hnext <;> rfl
    · refine .schema3 h3 (by rw [htarget, targetRecord, h3]; rfl) ?_
      rw [schema3ConfigurationSuccessor, inNextSequence_iff.mpr hsequence, hstate]
      show (decide _ && _) = true
      rw [decide_eq_true ⟨rfl, rfl, rfl⟩]
      exact hrule

/-! ## The authentication handoff -/

/-- The next phase of the authentication handoff, with the schemas it joins. -/
theorem advance_auth {targetHandoff : AuthDomainHandoffState} (h : record.isPlausible = true)
    (hstate : record.state = .initialized) (hwritten : record.Written)
    (hroom : record.sequence ≠ maxUInt64)
    (hlegal : ∀ sequence : UInt64, sequence.toNat = record.sequence.toNat + 1 →
      (record.authDomainTarget sequence targetHandoff).authHandoffBindingPlausible = true)
    (hopens : record.schemaVersion = kConfigurationBootstrapSchemaVersion2 →
      targetHandoff = .unconsumed)
    (hrule : record.schemaVersion = kConfigurationBootstrapSchemaVersion3 →
      ∀ sequence : UInt64, sequence.toNat = record.sequence.toNat + 1 →
        record.schema3AuthHandoffSuccessor (record.authDomainTarget sequence targetHandoff) =
          true) :
    ∃ next, record.authDomainSuccessor targetHandoff = .ok next := by
  obtain ⟨sequence, hsequence⟩ := exists_nextSequence hroom
  set target := record.authDomainTarget sequence targetHandoff with htarget
  have hschema : target.schemaVersion = kConfigurationBootstrapSchemaVersion3 := by
    rcases hwritten with h2 | h3
    · rw [htarget, authDomainTarget, if_pos h2]
    · rw [htarget, authDomainTarget, h3]
      rfl
  have htwo := sequence_of_initialized h hwritten hstate
  have hheaded : target.headed 3 = true :=
    headed_next h rfl (format_of_isPlausible h).2.1 (show 3 ≤ sequence.toNat by omega)
  have hbinding : target.noHandoffBinding = true ∨ target.boundToEpoch = true :=
    (binding_of_isPlausible h).imp id And.right
  have htargetPlausible : target.isPlausible = true := by
    rw [isPlausible_schema3 hschema]
    exact schema3Plausible_initialized hstate hheaded (hlegal sequence hsequence) hbinding
  refine ⟨target, authDomainSuccessor_eq_ok.mpr ⟨hstate, hwritten, sequence, hsequence, htarget,
    isAllowedBootstrapSuccessor_iff.mpr ⟨h, htargetPlausible, hsequence, ?_⟩⟩⟩
  rcases hwritten with h2 | h3
  · refine .schema2To3 h2 hschema ?_
    have hopened := hopens h2
    rw [schema2ToSchema3Successor, inNextSequence_iff.mpr hsequence]
    refine decide_eq_true ⟨hstate, rfl, rfl, rfl, rfl, rfl, hopened, ?_⟩
    rw [htarget, authDomainTarget, hopened]
    rfl
  · exact .schema3Auth h3 hschema (hrule h3 sequence hsequence)

/-- The third schema is the only one with an open authentication handoff. -/
theorem schema3_of_auth (h : record.isPlausible = true)
    (hauth : record.authDomainHandoff ≠ .none) :
    record.schemaVersion = kConfigurationBootstrapSchemaVersion3 := by
  by_contra hschema
  exact hauth (noAuthHandoff_of_isPlausible h hschema).1

/-- The rule of the third schema for a step of the authentication handoff alone. -/
theorem authRule {targetHandoff : AuthDomainHandoffState} (hstate : record.state = .initialized)
    (hsequence : sequence.toNat = record.sequence.toNat + 1)
    (hphase : (match record.authDomainHandoff with
      | .none => targetHandoff = .unconsumed
      | .unconsumed => targetHandoff = .inProgress
      | .inProgress => targetHandoff = .consumed ∨ targetHandoff = .indeterminate
      | .consumed | .indeterminate => False)) :
    record.schema3AuthHandoffSuccessor (record.authDomainTarget sequence targetHandoff) = true := by
  rw [schema3AuthHandoffSuccessor, Bool.and_eq_true, Bool.and_eq_true]
  refine ⟨⟨inNextSequence_iff.mpr hsequence, decide_eq_true ⟨hstate, rfl, rfl, rfl, rfl, rfl⟩⟩, ?_⟩
  cases hauth : record.authDomainHandoff with
  | none =>
      rw [hauth] at hphase
      subst hphase
      exact decide_eq_true ⟨rfl, rfl⟩
  | unconsumed =>
      rw [hauth] at hphase
      subst hphase
      exact decide_eq_true ⟨rfl, rfl⟩
  | inProgress =>
      rw [hauth] at hphase
      rcases hphase with rfl | rfl
      · exact decide_eq_true ⟨.inl rfl, rfl⟩
      · exact decide_eq_true ⟨.inr rfl, rfl⟩
  | consumed =>
      rw [hauth] at hphase
      cases hphase
  | indeterminate =>
      rw [hauth] at hphase
      cases hphase

theorem open_auth (h : record.isPlausible = true) (hstate : record.state = .initialized)
    (hwritten : record.Written) (hauth : record.authDomainHandoff = .none)
    (hroom : record.sequence ≠ maxUInt64) :
    ∃ next, record.authDomainSuccessor .unconsumed = .ok next := by
  refine advance_auth h hstate hwritten hroom (fun sequence hsequence => ?_) (fun _ => rfl)
    (fun _ sequence hsequence => authRule hstate hsequence (by rw [hauth]))
  rw [authHandoffBindingPlausible_iff]
  exact ⟨by show sequence.toNat ≠ 0; omega, rfl⟩

theorem settle_auth {targetHandoff : AuthDomainHandoffState} (h : record.isPlausible = true)
    (hstate : record.state = .initialized) (hroom : record.sequence ≠ maxUInt64)
    (hphase : record.authDomainHandoff = .unconsumed ∧ targetHandoff = .inProgress ∨
      record.authDomainHandoff = .inProgress ∧
        (targetHandoff = .consumed ∨ targetHandoff = .indeterminate)) :
    ∃ next, record.authDomainSuccessor targetHandoff = .ok next := by
  have hopen : record.authDomainHandoff ≠ .none := by
    rcases hphase with ⟨hauth, -⟩ | ⟨hauth, -⟩ <;> rw [hauth] <;> nofun
  have hschema := schema3_of_auth h hopen
  have hbinding := authHandoffBindingPlausible_iff.mp (sequence_of_schema3 h hschema).2
  refine advance_auth h hstate (.inr hschema) hroom (fun sequence hsequence => ?_)
    (fun h2 => by rw [hschema] at h2; cases h2)
    (fun _ sequence hsequence => authRule hstate hsequence ?_)
  · rw [authHandoffBindingPlausible_iff]
    rcases hphase with ⟨hauth, rfl⟩ | ⟨hauth, rfl | rfl⟩ <;> rw [hauth] at hbinding <;>
      obtain ⟨hopened, hvalue⟩ := hbinding
    · exact ⟨hopened, hsequence.trans (congrArg (· + 1) hvalue)⟩
    · exact ⟨hopened, by show _ ≤ sequence.toNat; rw [hsequence, hvalue]; rfl⟩
    · exact ⟨hopened, by show _ ≤ sequence.toNat; rw [hsequence, hvalue]; rfl⟩
  · rcases hphase with ⟨hauth, htarget⟩ | ⟨hauth, htarget⟩ <;> rw [hauth] <;> exact htarget

/-! ## One step -/

/-- The reset of a bound record of the second schema is refused: its rule asks
the successor for the binding that a reset removes. -/
theorem reset_refused (hschema : record.schemaVersion = kConfigurationBootstrapSchemaVersion2)
    (hstate : record.state = .initialized) (hhandoff : record.handoff = .consumed) :
    record.successor .resetting ≠ .ok next := by
  intro h
  rw [successor, if_neg (by rw [hstate]; nofun)] at h
  obtain ⟨sequence, epoch, epochs, -, -, -, -, hnext, hallowed⟩ := successorWithHandoff_eq_ok.mp h
  have hnextSchema : next.schemaVersion = kConfigurationBootstrapSchemaVersion2 := by
    rw [hnext, targetRecord, hschema]
    rfl
  obtain ⟨-, -, -, hrule⟩ := isAllowedBootstrapSuccessor_iff.mp hallowed
  cases hrule with
  | schema1 h1 => cases hschema.symm.trans h1
  | schema1To2 h1 => cases hschema.symm.trans h1
  | schema2To3 _ h3 => cases hnextSchema.symm.trans h3
  | schema3Auth h3 => cases hschema.symm.trans h3
  | schema3 h3 => cases hschema.symm.trans h3
  | schema2 _ _ hrule =>
      rw [schema2ToSchema2Successor, hstate, hhandoff] at hrule
      simp only [Bool.and_eq_true, sameBinding_iff, inNextEpoch_iff] at hrule
      obtain ⟨⟨⟨-, -, -, hsame⟩, -⟩, hlater⟩ := hrule
      rw [hsame] at hlater
      omega

/-- A handoff of the authentication domain that is under way names the sequence
of its record, which the next record of the run handoff does not keep. -/
theorem handoff_refused_overlap {targetHandoff : RunEpochHandoffState}
    (h : record.isPlausible = true)
    (hauth : record.authDomainHandoff = .unconsumed ∨ record.authDomainHandoff = .inProgress) :
    record.handoffSuccessor targetHandoff ≠ .ok next := by
  intro hok
  have hschema := schema3_of_auth h (by rcases hauth with h | h <;> rw [h] <;> nofun)
  obtain ⟨sequence, epoch, epochs, hsequence, -, -, -, hnext, hallowed⟩ :=
    successorWithHandoff_eq_ok.mp hok
  have hnextSchema : next.schemaVersion = kConfigurationBootstrapSchemaVersion3 := by
    rw [hnext, targetRecord, hschema]
    rfl
  obtain ⟨-, hnextPlausible, -, -⟩ := isAllowedBootstrapSuccessor_iff.mp hallowed
  have hbinding := authHandoffBindingPlausible_iff.mp (sequence_of_schema3 h hschema).2
  have hnextBinding := authHandoffBindingPlausible_iff.mp
    (sequence_of_schema3 hnextPlausible hnextSchema).2
  have hnextAuth : next.authDomainHandoff = record.authDomainHandoff := by
    rw [hnext]
    rfl
  have hnextOpened : next.authHandoffSequence = record.authHandoffSequence := by
    rw [hnext]
    rfl
  have hnextSequence : next.sequence = sequence := by
    rw [hnext]
    rfl
  rw [hnextAuth, hnextOpened, hnextSequence, hsequence] at hnextBinding
  rcases hauth with hauth | hauth <;> rw [hauth] at hbinding hnextBinding
  · have hvalue := hbinding.2
    have hnextValue := hnextBinding.2
    omega
  · have hvalue := hbinding.2
    have hnextValue := hnextBinding.2
    omega

theorem not_overlap {operation : BootstrapOperation} (h : record.Settled)
    (hoperation : operation ≠ .successor .resetting) :
    ¬(record.ResetAfterHandoff operation ∨ record.HandoffsOverlap) := by
  rintro (⟨-, -, hreset⟩ | ⟨hopen, -⟩)
  · exact hoperation hreset
  · rcases h.2 with hhandoff | hhandoff <;> rw [hhandoff] at hopen <;>
      rcases hopen with hopen | hopen <;> cases hopen

/-- A step of the recovery service goes through unless it is one of the two
refused ones. -/
theorem Regular.step_iff {operation : BootstrapOperation} (h : record.Regular)
    (hroom : record.sequence ≠ maxUInt64) (hepochRoom : record.storageEpoch ≠ maxUInt64)
    (htakes : record.RecoveryTakes operation) :
    (∃ next, operation.target record = .ok next) ↔
      ¬(record.ResetAfterHandoff operation ∨ record.HandoffsOverlap) := by
  have hlegal := h.legal
  have hwritten : record.state ≠ .initializing → record.Written := fun hstate =>
    (schema_of_isPlausible hlegal).resolve_left fun h1 => hstate (h.first h1)
  cases htakes with
  | finish hstate =>
      constructor
      · rintro - (⟨-, -, hoperation⟩ | ⟨hopen, -⟩)
        · cases hoperation
        · have hbound := bound_of_ne_none hlegal
            (by rcases hopen with hopen | hopen <;> rw [hopen] <;> nofun)
          rcases hstate with hstate | hstate <;> cases hstate.symm.trans hbound.1
      · intro _
        rcases hstate with hstate | hstate
        · exact finish_initializing hlegal hstate
        · exact finish_resetting hlegal (hwritten (by rw [hstate]; nofun)) hstate hroom
  | beginReset hstate hpending hcommitted =>
      have hsettled : record.Settled := by
        refine ⟨hstate, ?_⟩
        cases hhandoff : record.handoff with
        | none => exact .inl rfl
        | pending => exact absurd hhandoff hpending
        | committed => exact absurd hhandoff hcommitted
        | consumed => exact .inr rfl
        | unnamed code hcode => exact absurd hhandoff (h.named code hcode)
      constructor
      · rintro ⟨next, hok⟩ (⟨hschema, hhandoff, -⟩ | ⟨hopen, -⟩)
        · exact reset_refused hschema hstate hhandoff hok
        · exact hopen.elim hpending hcommitted
      · intro hfree
        rcases hwritten (by rw [hstate]; nofun) with h2 | h3
        · refine reset_schema2 hlegal h2 hstate (hsettled.2.resolve_right fun hhandoff => ?_)
          exact hfree (.inl ⟨h2, hhandoff, rfl⟩)
        · exact reset_schema3 hlegal h3 hsettled hroom hepochRoom
  | commitRun hschema hstate hhandoff =>
      constructor
      · rintro ⟨next, hok⟩ (⟨-, -, hoperation⟩ | ⟨-, hauth⟩)
        · cases hoperation
        · exact handoff_refused_overlap hlegal hauth hok
      · intro hfree
        refine advance_handoff hlegal hschema (by rw [hhandoff]; exact .commit) ?_ hroom
        exact fun _ => ⟨fun hauth => hfree (.inr ⟨.inl hhandoff, .inl hauth⟩),
          fun hauth => hfree (.inr ⟨.inl hhandoff, .inr hauth⟩)⟩
  | consumeRun hschema hstate hhandoff =>
      constructor
      · rintro ⟨next, hok⟩ (⟨-, -, hoperation⟩ | ⟨-, hauth⟩)
        · cases hoperation
        · exact handoff_refused_overlap hlegal hauth hok
      · intro hfree
        refine advance_handoff hlegal hschema (by rw [hhandoff]; exact .consume) ?_ hroom
        exact fun _ => ⟨fun hauth => hfree (.inr ⟨.inr hhandoff, .inl hauth⟩),
          fun hauth => hfree (.inr ⟨.inr hhandoff, .inr hauth⟩)⟩
  | openAuth hsettled hauth hschema =>
      refine ⟨fun _ => not_overlap hsettled nofun, fun _ => ?_⟩
      exact open_auth hlegal hsettled.1 (hschema.imp id And.right) hauth hroom
  | beginAuth hsettled hauth =>
      refine ⟨fun _ => not_overlap hsettled nofun, fun _ => ?_⟩
      exact settle_auth hlegal hsettled.1 hroom (.inl ⟨hauth, rfl⟩)
  | consumeAuth hsettled hauth =>
      refine ⟨fun _ => not_overlap hsettled nofun, fun _ => ?_⟩
      exact settle_auth hlegal hsettled.1 hroom (.inr ⟨hauth, .inl rfl⟩)
  | loseAuth hsettled hauth =>
      refine ⟨fun _ => not_overlap hsettled nofun, fun _ => ?_⟩
      exact settle_auth hlegal hsettled.1 hroom (.inr ⟨hauth, .inr rfl⟩)

end ConfigurationBootstrapRecord

end Fermentationsschrank

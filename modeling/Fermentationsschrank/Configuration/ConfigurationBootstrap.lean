import Fermentationsschrank.Run.ProcessStateMachine

/-!
# Bootstrap records

The bootstrap record says in which epoch the configuration store is and how far
a start or a reset of that epoch has come.  Three record schemas follow each
other.  In the first two the sequence is tied to the epoch by counting the
records that an epoch takes; the third only bounds it from below.
-/

namespace Fermentationsschrank

inductive ConfigurationBootstrapState
  | initializing
  | initialized
  | resetting
  deriving DecidableEq, Repr

/-- The handoff of the run store to a new epoch.  The decoder casts any byte to
this enumeration, and the third schema accepts a byte without a name. -/
inductive RunEpochHandoffState
  | none
  | pending
  | committed
  | consumed
  | unnamed (code : UInt8) (hcode : 3 < code)
  deriving DecidableEq, Repr

/-- The one-time handoff that initializes the authentication domain. -/
inductive AuthDomainHandoffState
  | none
  | unconsumed
  | inProgress
  | consumed
  | indeterminate
  deriving DecidableEq, Repr

def kConfigurationBootstrapSchemaVersion1 : UInt32 := 1
def kConfigurationBootstrapSchemaVersion2 : UInt32 := 2
def kConfigurationBootstrapSchemaVersion3 : UInt32 := 3
def kConfigurationStorageFormatVersion1 : UInt32 := 1

structure ConfigurationBootstrapRecord where
  sequence : UInt64
  storageFormatVersion : UInt32
  storageEpoch : UInt64
  state : ConfigurationBootstrapState
  schemaVersion : UInt32 := kConfigurationBootstrapSchemaVersion2
  handoff : RunEpochHandoffState := .none
  previousEpoch : Option UInt64 := none
  currentEpoch : Option UInt64 := none
  authDomainHandoff : AuthDomainHandoffState := .none
  authHandoffSequence : UInt64 := 0
  deriving DecidableEq, Repr

/-! ## Checked arithmetic -/

def checkedDouble (value : UInt64) : Option UInt64 :=
  if maxUInt64 / 2 < value then none else some (value * 2)

def checkedIncrement (value : UInt64) : Option UInt64 :=
  if value = maxUInt64 then none else some (value + 1)

theorem toNat_sub_one {value : UInt64} (h : 1 ≤ value.toNat) :
    (value - 1).toNat = value.toNat - 1 :=
  UInt64.toNat_sub_of_le value 1 (UInt64.le_iff_toNat_le.mpr h)

theorem toNat_sub_two {value : UInt64} (h : 2 ≤ value.toNat) :
    (value - 2).toNat = value.toNat - 2 :=
  UInt64.toNat_sub_of_le value 2 (UInt64.le_iff_toNat_le.mpr h)

theorem checkedDouble_eq_some {value result : UInt64} :
    checkedDouble value = some result ↔ result.toNat = 2 * value.toNat := by
  have hword := result.toNat_lt
  have hhalf : maxUInt64 / 2 < value ↔ 9223372036854775807 < value.toNat :=
    UInt64.lt_iff_toNat_lt
  rw [checkedDouble]
  by_cases hlarge : maxUInt64 / 2 < value
  · rw [if_pos hlarge]
    rw [hhalf] at hlarge
    exact ⟨nofun, fun h => by omega⟩
  · rw [if_neg hlarge, Option.some_inj, ← UInt64.toNat_inj]
    rw [hhalf] at hlarge
    have hdouble : (value * 2).toNat = 2 * value.toNat := by
      rw [UInt64.toNat_mul, show (2 : UInt64).toNat = 2 from rfl, Nat.mod_eq_of_lt (by omega)]
      omega
    rw [hdouble]
    exact eq_comm

theorem checkedIncrement_eq_some {value result : UInt64} :
    checkedIncrement value = some result ↔ result.toNat = value.toNat + 1 := by
  have hword := result.toNat_lt
  have hmax : value = maxUInt64 ↔ value.toNat = 18446744073709551615 := UInt64.toNat_inj.symm
  have hvalue := value.toNat_lt
  rw [checkedIncrement]
  by_cases hlast : value = maxUInt64
  · rw [if_pos hlast]
    rw [hmax] at hlast
    exact ⟨nofun, fun h => by omega⟩
  · rw [if_neg hlast, Option.some_inj, ← UInt64.toNat_inj]
    rw [hmax] at hlast
    have hnext : (value + 1).toNat = value.toNat + 1 := by
      rw [UInt64.toNat_add, show (1 : UInt64).toNat = 1 from rfl, Nat.mod_eq_of_lt (by omega)]
    rw [hnext]
    exact eq_comm

namespace ConfigurationBootstrapRecord

/-! ## Plausibility -/

def noHandoffBinding (record : ConfigurationBootstrapRecord) : Bool :=
  record.handoff = .none ∧ record.previousEpoch = none ∧ record.currentEpoch = none

def noAuthHandoffBinding (record : ConfigurationBootstrapRecord) : Bool :=
  record.authDomainHandoff = .none ∧ record.authHandoffSequence = 0

def boundToEpoch (record : ConfigurationBootstrapRecord) : Bool :=
  match record.previousEpoch, record.currentEpoch with
  | some previous, some current =>
      record.handoff ≠ .none ∧ previous ≠ 0 ∧ current = record.storageEpoch ∧
        previous ≠ maxUInt64 ∧ previous + 1 = current
  | _, _ => false

/-- What every schema asks of the counters and of the format version. -/
def headed (record : ConfigurationBootstrapRecord) (firstSequence : UInt64) : Bool :=
  firstSequence ≤ record.sequence ∧ record.storageEpoch ≠ 0 ∧
    record.storageFormatVersion = kConfigurationStorageFormatVersion1

def schema1Plausible (record : ConfigurationBootstrapRecord) : Bool :=
  record.headed 1 && record.noHandoffBinding && record.noAuthHandoffBinding &&
    (checkedDouble record.storageEpoch).any fun twiceEpoch =>
      match record.state with
      | .initializing => record.storageEpoch = 1 ∧ record.sequence = 1
      | .initialized => record.sequence = twiceEpoch
      | .resetting => 2 ≤ record.storageEpoch ∧ record.sequence = twiceEpoch - 1

/-- An epoch takes two records when it is started by a reset, and two more for
each earlier epoch whose handoff went through. -/
def schema2SequencePlausible (record : ConfigurationBootstrapRecord) (phaseOffset : UInt64) :
    Bool :=
  decide (2 ≤ record.storageEpoch) &&
    (checkedDouble record.storageEpoch).any fun twiceEpoch =>
      let base := twiceEpoch - 1
      let delta := record.sequence - base
      let phaseDelta := delta - phaseOffset
      twiceEpoch ≠ 0 ∧ base ≤ record.sequence ∧ phaseOffset ≤ delta ∧ phaseDelta % 2 = 0 ∧
        phaseDelta / 2 ≤ record.storageEpoch - 2

def schema2PhasePlausible (record : ConfigurationBootstrapRecord) (phaseOffset : UInt64) :
    Bool :=
  record.boundToEpoch && record.schema2SequencePlausible phaseOffset

def schema2Plausible (record : ConfigurationBootstrapRecord) : Bool :=
  record.headed 1 && record.noAuthHandoffBinding &&
    match record.state, record.handoff with
    | .initializing, _ =>
        decide (record.storageEpoch = 1 ∧ record.sequence = 1) && record.noHandoffBinding
    | .initialized, .none =>
        decide (record.storageEpoch = 1 ∧ record.sequence = 2) && record.noHandoffBinding
    | .resetting, _ => record.noHandoffBinding && record.schema2SequencePlausible 0
    | .initialized, .pending => record.schema2PhasePlausible 1
    | .initialized, .committed => record.schema2PhasePlausible 2
    | .initialized, .consumed => record.schema2PhasePlausible 3
    | .initialized, .unnamed _ _ => false

def authHandoffBindingPlausible (record : ConfigurationBootstrapRecord) : Bool :=
  let handoffSequence := record.authHandoffSequence
  match record.authDomainHandoff with
  | .none => handoffSequence = 0
  | .unconsumed => handoffSequence ≠ 0 ∧ handoffSequence = record.sequence
  | .inProgress =>
      handoffSequence ≠ 0 ∧ handoffSequence ≤ record.sequence ∧
        handoffSequence ≠ maxUInt64 ∧ record.sequence = handoffSequence + 1
  | .consumed | .indeterminate =>
      handoffSequence ≠ 0 ∧ handoffSequence ≤ record.sequence ∧
        handoffSequence ≤ maxUInt64 - 2 ∧ handoffSequence + 2 ≤ record.sequence

/-- The handoff of an initialized record is only compared with `none` here, so
that a bound record is plausible in any other phase. -/
def schema3Plausible (record : ConfigurationBootstrapRecord) : Bool :=
  record.headed 3 && record.authHandoffBindingPlausible &&
    match record.state with
    | .initializing => false
    | .resetting =>
        decide (2 ≤ record.storageEpoch) && record.noHandoffBinding &&
          decide (record.authDomainHandoff = .none)
    | .initialized =>
        if record.handoff = .none then record.noHandoffBinding else record.boundToEpoch

def isPlausible (record : ConfigurationBootstrapRecord) : Bool :=
  if record.schemaVersion = kConfigurationBootstrapSchemaVersion1 then record.schema1Plausible
  else if record.schemaVersion = kConfigurationBootstrapSchemaVersion2 then
    record.schema2Plausible
  else if record.schemaVersion = kConfigurationBootstrapSchemaVersion3 then
    record.schema3Plausible
  else false

/-! ## What plausibility says -/

section Plausible

variable {record : ConfigurationBootstrapRecord}

theorem noHandoffBinding_iff :
    record.noHandoffBinding = true ↔
      record.handoff = .none ∧ record.previousEpoch = none ∧ record.currentEpoch = none :=
  decide_eq_true_iff

theorem noAuthHandoffBinding_iff :
    record.noAuthHandoffBinding = true ↔
      record.authDomainHandoff = .none ∧ record.authHandoffSequence = 0 :=
  decide_eq_true_iff

theorem headed_iff {firstSequence : UInt64} :
    record.headed firstSequence = true ↔
      firstSequence.toNat ≤ record.sequence.toNat ∧ record.storageEpoch ≠ 0 ∧
        record.storageFormatVersion = kConfigurationStorageFormatVersion1 := by
  rw [headed, decide_eq_true_eq, UInt64.le_iff_toNat_le]

/-- A bound handoff names the epoch of the record and the one before. -/
theorem boundToEpoch_iff :
    record.boundToEpoch = true ↔
      record.handoff ≠ .none ∧ record.currentEpoch = some record.storageEpoch ∧
        2 ≤ record.storageEpoch.toNat ∧
        record.previousEpoch = some (record.storageEpoch - 1) := by
  have hword := record.storageEpoch.toNat_lt
  rw [boundToEpoch]
  rcases record.previousEpoch with _ | previous
  · exact ⟨nofun, fun ⟨_, _, _, h⟩ => nomatch h⟩
  rcases record.currentEpoch with _ | current
  · exact ⟨nofun, fun ⟨_, h, _⟩ => nomatch h⟩
  have hzero : ∀ value : UInt64, value ≠ 0 ↔ value.toNat ≠ 0 := fun value =>
    not_congr UInt64.toNat_inj.symm
  have hmax : ∀ value : UInt64, value ≠ maxUInt64 ↔ value.toNat ≠ 18446744073709551615 :=
    fun value => not_congr UInt64.toNat_inj.symm
  simp only [decide_eq_true_eq, Option.some.injEq, hzero, hmax, UInt64.eq_sub_iff_add_eq]
  constructor
  · rintro ⟨hhandoff, hfirst, rfl, hlast, hnext⟩
    have hsum : previous.toNat + 1 = record.storageEpoch.toNat := by
      rw [← hnext, UInt64.toNat_add, show (1 : UInt64).toNat = 1 from rfl,
        Nat.mod_eq_of_lt (by have := previous.toNat_lt; omega)]
    exact ⟨hhandoff, rfl, by omega, hnext⟩
  · rintro ⟨hhandoff, rfl, hepoch, hnext⟩
    have hvalue := toNat_sub_one (show 1 ≤ record.storageEpoch.toNat by omega)
    rw [← UInt64.eq_sub_iff_add_eq.mpr hnext] at hvalue
    exact ⟨hhandoff, by omega, rfl, by omega, hnext⟩

/-- Every epoch since the second started with two records of its own, and up to
two more for each epoch in between. -/
theorem schema2SequencePlausible_iff {phaseOffset : UInt64} (hoffset : phaseOffset.toNat ≤ 3) :
    record.schema2SequencePlausible phaseOffset = true ↔
      2 ≤ record.storageEpoch.toNat ∧ 2 * record.storageEpoch.toNat < 2 ^ 64 ∧
        ∃ passed, passed + 2 ≤ record.storageEpoch.toNat ∧
          record.sequence.toNat =
            2 * record.storageEpoch.toNat - 1 + phaseOffset.toNat + 2 * passed := by
  have hword := record.sequence.toNat_lt
  rw [schema2SequencePlausible, Bool.and_eq_true, decide_eq_true_eq, UInt64.le_iff_toNat_le,
    show (2 : UInt64).toNat = 2 from rfl]
  refine and_congr_right fun hepoch => ?_
  rw [Option.any_eq_true]
  constructor
  · rintro ⟨twice, htwice, h⟩
    rw [checkedDouble_eq_some] at htwice
    have hlimit := twice.toNat_lt
    simp only [decide_eq_true_eq] at h
    obtain ⟨-, hbase, hdelta, heven, hbound⟩ := h
    have hbaseValue : (twice - 1).toNat = 2 * record.storageEpoch.toNat - 1 := by
      rw [toNat_sub_one (by omega), htwice]
    rw [UInt64.le_iff_toNat_le, UInt64.toNat_sub_of_le _ _ hbase, hbaseValue] at hdelta
    have hphase : (record.sequence - (twice - 1) - phaseOffset).toNat =
        record.sequence.toNat - (2 * record.storageEpoch.toNat - 1) - phaseOffset.toNat := by
      rw [UInt64.toNat_sub_of_le, UInt64.toNat_sub_of_le _ _ hbase, hbaseValue]
      rwa [UInt64.le_iff_toNat_le, UInt64.toNat_sub_of_le _ _ hbase, hbaseValue]
    rw [UInt64.le_iff_toNat_le, hbaseValue] at hbase
    rw [← UInt64.toNat_inj, UInt64.toNat_mod, hphase] at heven
    rw [UInt64.le_iff_toNat_le, UInt64.toNat_div, hphase, toNat_sub_two hepoch] at hbound
    simp only [show (2 : UInt64).toNat = 2 from rfl, show (0 : UInt64).toNat = 0 from rfl]
      at heven hbound
    exact ⟨by omega, (record.sequence.toNat - (2 * record.storageEpoch.toNat - 1) -
      phaseOffset.toNat) / 2, by omega, by omega⟩
  · rintro ⟨hlimit, passed, hpassed, hsequence⟩
    have htwice : (UInt64.ofNat (2 * record.storageEpoch.toNat)).toNat =
        2 * record.storageEpoch.toNat := UInt64.toNat_ofNat_of_lt' hlimit
    refine ⟨_, checkedDouble_eq_some.mpr htwice, ?_⟩
    set twice := UInt64.ofNat (2 * record.storageEpoch.toNat)
    have hbaseValue : (twice - 1).toNat = 2 * record.storageEpoch.toNat - 1 := by
      rw [toNat_sub_one (by omega), htwice]
    have hbase : twice - 1 ≤ record.sequence := by
      rw [UInt64.le_iff_toNat_le, hbaseValue]
      omega
    have hdeltaValue : (record.sequence - (twice - 1)).toNat = phaseOffset.toNat + 2 * passed := by
      rw [UInt64.toNat_sub_of_le _ _ hbase, hbaseValue]
      omega
    have hdelta : phaseOffset ≤ record.sequence - (twice - 1) := by
      rw [UInt64.le_iff_toNat_le, hdeltaValue]
      omega
    have hphase : (record.sequence - (twice - 1) - phaseOffset).toNat = 2 * passed := by
      rw [UInt64.toNat_sub_of_le _ _ hdelta, hdeltaValue]
      omega
    simp only [decide_eq_true_eq]
    refine ⟨fun h => ?_, hbase, hdelta, ?_, ?_⟩
    · rw [h] at htwice
      rw [show (0 : UInt64).toNat = 0 from rfl] at htwice
      omega
    · rw [← UInt64.toNat_inj, UInt64.toNat_mod, hphase]
      exact Nat.mul_mod_right 2 passed
    · rw [UInt64.le_iff_toNat_le, UInt64.toNat_div, hphase, toNat_sub_two hepoch]
      simp only [show (2 : UInt64).toNat = 2 from rfl]
      omega

/-- The number of records since the authentication handoff was opened, by its
phase. -/
def AuthPhase : AuthDomainHandoffState → (opened sequence : ℕ) → Prop
  | .none, opened, _ => opened = 0
  | .unconsumed, opened, sequence => opened ≠ 0 ∧ sequence = opened
  | .inProgress, opened, sequence => opened ≠ 0 ∧ sequence = opened + 1
  | .consumed, opened, sequence | .indeterminate, opened, sequence =>
      opened ≠ 0 ∧ opened + 2 ≤ sequence

theorem authHandoffBindingPlausible_iff :
    record.authHandoffBindingPlausible = true ↔
      AuthPhase record.authDomainHandoff record.authHandoffSequence.toNat
        record.sequence.toNat := by
  have hopened := record.authHandoffSequence.toNat_lt
  have hsequence := record.sequence.toNat_lt
  have hzero : record.authHandoffSequence = 0 ↔ record.authHandoffSequence.toNat = 0 :=
    UInt64.toNat_inj.symm
  have hmax : record.authHandoffSequence = maxUInt64 ↔
      record.authHandoffSequence.toNat = 18446744073709551615 := UInt64.toNat_inj.symm
  have hlast : record.authHandoffSequence ≤ maxUInt64 - 2 ↔
      record.authHandoffSequence.toNat ≤ 18446744073709551613 := UInt64.le_iff_toNat_le
  have hadd : ∀ step : UInt64, record.authHandoffSequence.toNat + step.toNat < 2 ^ 64 →
      (record.authHandoffSequence + step).toNat =
        record.authHandoffSequence.toNat + step.toNat := fun step h => by
    rw [UInt64.toNat_add, Nat.mod_eq_of_lt h]
  have hone : (1 : UInt64).toNat = 1 := rfl
  have htwo : (2 : UInt64).toNat = 2 := rfl
  rw [authHandoffBindingPlausible]
  cases record.authDomainHandoff with
  | none => exact decide_eq_true_iff.trans hzero
  | unconsumed =>
      simp only [decide_eq_true_eq, AuthPhase, ne_eq, hzero]
      exact and_congr_right fun _ => UInt64.toNat_inj.symm.trans eq_comm
  | inProgress =>
      simp only [decide_eq_true_eq, AuthPhase, ne_eq, hzero, hmax, UInt64.le_iff_toNat_le,
        ← UInt64.toNat_inj (a := record.sequence)]
      constructor
      · rintro ⟨hopen, -, hroom, hnext⟩
        rw [hadd 1 (by omega)] at hnext
        exact ⟨hopen, hnext⟩
      · rintro ⟨hopen, hnext⟩
        refine ⟨hopen, by omega, by omega, ?_⟩
        rw [hadd 1 (by omega)]
        exact hnext
  | consumed | indeterminate =>
      simp only [decide_eq_true_eq, AuthPhase, ne_eq, hzero, hlast, UInt64.le_iff_toNat_le]
      constructor
      · rintro ⟨hopen, -, hroom, hlater⟩
        rw [hadd 2 (by omega)] at hlater
        exact ⟨hopen, hlater⟩
      · rintro ⟨hopen, hlater⟩
        refine ⟨hopen, by omega, by omega, ?_⟩
        rw [hadd 2 (by omega)]
        exact hlater

end Plausible

/-! ## Successors -/

def sameBinding (left right : ConfigurationBootstrapRecord) : Bool :=
  left.previousEpoch = right.previousEpoch ∧ left.currentEpoch = right.currentEpoch ∧
    left.storageEpoch = right.storageEpoch

/-- The epoch one further on, unless it was the last one. -/
def inNextEpoch (previous next : ConfigurationBootstrapRecord) : Bool :=
  checkedIncrement previous.storageEpoch = some next.storageEpoch

def boundSuccessor (previous next : ConfigurationBootstrapRecord) : Bool :=
  next.state = .initialized ∧ next.handoff = .pending ∧
    next.storageEpoch = previous.storageEpoch ∧
    next.previousEpoch = some (previous.storageEpoch - 1) ∧
    next.currentEpoch = some next.storageEpoch

def schema1ToSchema1Successor (previous next : ConfigurationBootstrapRecord) : Bool :=
  match previous.state with
  | .initializing | .resetting =>
      next.state = .initialized ∧ next.storageEpoch = previous.storageEpoch
  | .initialized => decide (next.state = .resetting) && previous.inNextEpoch next

def schema1ToSchema2Successor (previous next : ConfigurationBootstrapRecord) : Bool :=
  match previous.state with
  | .initializing =>
      next.state = .initialized ∧ next.handoff = .none ∧
        next.storageEpoch = previous.storageEpoch ∧ next.sequence = 2
  | .initialized =>
      decide (next.state = .resetting ∧ next.handoff = .none) && previous.inNextEpoch next
  | .resetting => decide (2 ≤ previous.storageEpoch) && previous.boundSuccessor next

def schema2ToSchema2Successor (previous next : ConfigurationBootstrapRecord) : Bool :=
  match previous.state, previous.handoff with
  | .initializing, _ =>
      next.state = .initialized ∧ next.handoff = .none ∧
        next.storageEpoch = previous.storageEpoch
  | .initialized, .none =>
      decide (next.state = .resetting ∧ next.handoff = .none) && previous.inNextEpoch next
  | .resetting, _ => previous.boundSuccessor next
  | .initialized, .pending =>
      previous.boundToEpoch && previous.sameBinding next && decide (next.handoff = .committed)
  | .initialized, .committed =>
      previous.boundToEpoch && previous.sameBinding next && decide (next.handoff = .consumed)
  -- The binding of the next record is compared before it is required to be gone.
  | .initialized, .consumed =>
      previous.boundToEpoch && previous.sameBinding next &&
        decide (next.state = .resetting ∧ next.handoff = .none ∧ next.previousEpoch = none ∧
          next.currentEpoch = none) && previous.inNextEpoch next
  | .initialized, .unnamed _ _ => false

def inNextSequence (previous next : ConfigurationBootstrapRecord) : Bool :=
  checkedIncrement previous.sequence = some next.sequence

def schema2ToSchema3Successor (previous next : ConfigurationBootstrapRecord) : Bool :=
  previous.inNextSequence next &&
    decide (previous.state = .initialized ∧ next.state = previous.state ∧
      next.storageEpoch = previous.storageEpoch ∧ next.handoff = previous.handoff ∧
      next.previousEpoch = previous.previousEpoch ∧ next.currentEpoch = previous.currentEpoch ∧
      next.authDomainHandoff = .unconsumed ∧ next.authHandoffSequence = next.sequence)

def schema3ConfigurationSuccessor (previous next : ConfigurationBootstrapRecord) : Bool :=
  previous.inNextSequence next &&
    match previous.state, next.state with
    | .initializing, _ =>
        decide (next.state = .initialized ∧ next.storageEpoch = previous.storageEpoch ∧
          next.authDomainHandoff = .none) && next.noHandoffBinding
    | .resetting, _ => previous.boundSuccessor next && next.noAuthHandoffBinding
    | .initialized, .resetting =>
        decide (previous.handoff = .none ∨ previous.handoff = .consumed) &&
          previous.inNextEpoch next && next.noHandoffBinding && next.noAuthHandoffBinding
    | .initialized, .initializing => false
    | .initialized, .initialized =>
        decide (next.storageEpoch = previous.storageEpoch ∧
          next.authDomainHandoff = previous.authDomainHandoff ∧
          next.authHandoffSequence = previous.authHandoffSequence) &&
        match previous.handoff with
        | .pending => decide (next.handoff = .committed) && previous.sameBinding next
        | .committed => decide (next.handoff = .consumed) && previous.sameBinding next
        | _ => false

def schema3AuthHandoffSuccessor (previous next : ConfigurationBootstrapRecord) : Bool :=
  previous.inNextSequence next &&
    decide (previous.state = .initialized ∧ next.state = previous.state ∧
      next.storageEpoch = previous.storageEpoch ∧ next.handoff = previous.handoff ∧
      next.previousEpoch = previous.previousEpoch ∧ next.currentEpoch = previous.currentEpoch) &&
    match previous.authDomainHandoff with
    | .none =>
        next.authDomainHandoff = .unconsumed ∧ next.authHandoffSequence = next.sequence
    | .unconsumed =>
        next.authDomainHandoff = .inProgress ∧
          next.authHandoffSequence = previous.authHandoffSequence
    | .inProgress =>
        (next.authDomainHandoff = .consumed ∨ next.authDomainHandoff = .indeterminate) ∧
          next.authHandoffSequence = previous.authHandoffSequence
    | .consumed | .indeterminate => false

def isAllowedBootstrapSuccessor (previous next : ConfigurationBootstrapRecord) : Bool :=
  previous.isPlausible && next.isPlausible && previous.inNextSequence next &&
    if previous.schemaVersion = kConfigurationBootstrapSchemaVersion1 then
      if next.schemaVersion = kConfigurationBootstrapSchemaVersion1 then
        previous.schema1ToSchema1Successor next
      else
        decide (next.schemaVersion = kConfigurationBootstrapSchemaVersion2) &&
          previous.schema1ToSchema2Successor next
    else if previous.schemaVersion = kConfigurationBootstrapSchemaVersion2 ∧
        next.schemaVersion = kConfigurationBootstrapSchemaVersion3 then
      previous.schema2ToSchema3Successor next
    else if previous.schemaVersion = kConfigurationBootstrapSchemaVersion3 ∧
        next.schemaVersion = kConfigurationBootstrapSchemaVersion3 then
      previous.schema3AuthHandoffSuccessor next || previous.schema3ConfigurationSuccessor next
    else
      decide (previous.schemaVersion = kConfigurationBootstrapSchemaVersion2 ∧
        next.schemaVersion = kConfigurationBootstrapSchemaVersion2) &&
        previous.schema2ToSchema2Successor next

end ConfigurationBootstrapRecord

end Fermentationsschrank

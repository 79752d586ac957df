import Fermentationsschrank.Authentication.AuthenticationAttempts
import Fermentationsschrank.Core.Runs

/-!
# Lockouts

Runs of the device: checks and changes of both secrets, each finished or cut off by a
power failure.  An observer of the run keeps, for one secret, the wrong answers since
the last right one, the lockout in force and how long the device has been running
since the later of its start and the last reboot.
-/

namespace Fermentationsschrank

open AuthenticationDomain

/-! ## Runs -/

/-- What the store holds, and the clocks that a reboot resets. -/
structure AuthenticationDevice where
  contents : AuthenticationContents
  clocks : LockoutClocks := {}

def AuthenticationDevice.credentials (device : AuthenticationDevice) :
    Option AuthenticationCredentialRecord := credentialsIn device.contents

structure AttemptLabel where
  call : AuthenticationCall
  verification : Option AuthCheckStatus
  rebooted : Bool
  before : AuthenticationDevice
  after : AuthenticationDevice

/-- A call is answered, or the power fails while it is under way. -/
inductive AttemptStep (unknown : UnknownOutcome) (kdf : AuthenticationKdf) :
    AuthenticationDevice → AttemptLabel → AuthenticationDevice → Prop
  | answered {device call answer contents}
      (hrun : Program.Finishes (stateStore unknown) (call.perform kdf device.clocks)
        device.contents answer contents) :
      AttemptStep unknown kdf device
        ⟨call, answer.verification, false, device, ⟨contents, answer.clocks⟩⟩
        ⟨contents, answer.clocks⟩
  | rebooted {device call contents}
      (hcut : Program.Interrupted (stateStore unknown) (call.perform kdf device.clocks)
        device.contents contents) :
      AttemptStep unknown kdf device ⟨call, none, true, device, ⟨contents, {}⟩⟩ ⟨contents, {}⟩

namespace AttemptLabel

/-- What a stored attempt counts as. -/
inductive Counted
  | success
  | failure
  | lockout (durationMs : ℕ)
  deriving DecidableEq, Repr

/-- How the call was counted, if the stored record changed. -/
def counted (kdf : AuthenticationKdf) (label : AttemptLabel) : Option Counted :=
  match label.before.credentials, label.after.credentials with
  | some before, some after =>
      if before = after then none
      else if before.Matches kdf label.call.secret label.call.input then some .success
      else if (after.lockoutOf label.call.secret).lockoutRemainingMs = 0 then some .failure
      else some (.lockout (after.lockoutOf label.call.secret).lockoutRemainingMs.toNat)
  | _, _ => none

/-- A well-formed input was found wrong. -/
def DeniedBy (label : AttemptLabel) : Prop :=
  label.call.wellFormed = true ∧ label.verification = some .invalid

instance (label : AttemptLabel) : Decidable label.DeniedBy :=
  inferInstanceAs (Decidable (_ ∧ _))

end AttemptLabel

/-! ## The observer -/

/-- What a run has shown of one secret. -/
structure LockoutHistory where
  /-- Wrong answers since the last right one and the last lockout. -/
  denials : ℕ := 0
  /-- The lockout in force, until the next counted attempt. -/
  lockoutMs : ℕ := 0
  /-- The last lockout since the last right answer. -/
  durationMs : ℕ := 0
  /-- Forward movement of the given times since the later of the last lockout and the
  last reboot. -/
  runningMs : ℕ := 0
  lastNowMs : Option UInt64 := none

namespace LockoutHistory

/-- The running time at the given time. -/
def runningAt (history : LockoutHistory) (nowMs : UInt64) : ℕ :=
  history.runningMs + match history.lastNowMs with
    | none => 0
    | some last => nowMs.toNat - last.toNat

def advance (history : LockoutHistory) (nowMs : UInt64) : LockoutHistory :=
  { history with runningMs := history.runningAt nowMs, lastNowMs := some nowMs }

def count (history : LockoutHistory) (label : AttemptLabel) :
    Option AttemptLabel.Counted → LockoutHistory
  | none => history
  | some .success => { history with denials := 0, lockoutMs := 0, durationMs := 0 }
  | some .failure =>
      { history with
        denials := history.denials + if label.DeniedBy then 1 else 0
        lockoutMs := 0 }
  | some (.lockout durationMs) =>
      { history with denials := 0, lockoutMs := durationMs, durationMs, runningMs := 0 }

/-- After a reboot the device starts to run again. -/
def reboot (history : LockoutHistory) (rebooted : Bool) : LockoutHistory :=
  if rebooted then { history with runningMs := 0, lastNowMs := none } else history

/-- The history of the secret goes on with every call, whichever secret it is about. -/
def observe (kdf : AuthenticationKdf) (secret : AuthSecret) (history : LockoutHistory)
    (label : AttemptLabel) : LockoutHistory :=
  let advanced := history.advance label.call.nowMs
  let counted :=
    if label.call.secret = secret then advanced.count label (label.counted kdf) else advanced
  counted.reboot label.rebooted

end LockoutHistory

/-- What holds of one call, after what the run has shown before it. -/
structure LockoutHolds (kdf : AuthenticationKdf) (secret : AuthSecret)
    (history : LockoutHistory) (label : AttemptLabel) : Prop where
  /-- A wrong answer is told once it is counted in the store. -/
  counted : label.call.secret = secret → label.DeniedBy → label.counted kdf ≠ none
  /-- There are so many wrong answers before each lockout. -/
  bounded : label.call.secret = secret → label.DeniedBy →
    history.denials + 1 ≤ secret.policy.maximumFailures.toNat ∧
      (label.counted kdf = some .failure →
        history.denials + 1 < secret.policy.maximumFailures.toNat)
  /-- Nothing is told or counted while the lockout in force still runs. -/
  waits : label.call.secret = secret →
    label.counted kdf ≠ none ∨ (label.call.wellFormed = true ∧ GivesVerdict label.verification) →
      history.lockoutMs ≤ history.runningAt label.call.nowMs
  /-- A lockout is not shorter than the one before. -/
  growing : label.call.secret = secret → ∀ durationMs,
    label.counted kdf = some (.lockout durationMs) → history.durationMs ≤ durationMs
  /-- The other secret's calls leave the lockout alone, stored and measured. -/
  apart : label.call.secret ≠ secret →
    (∀ before after, label.before.credentials = some before →
      label.after.credentials = some after → after.lockoutOf secret = before.lockoutOf secret) ∧
    (label.rebooted = false → label.after.clocks.of secret = label.before.clocks.of secret)

/-! ## Durations -/

/-- The stages that a stored lockout can have. -/
theorem exists_stage {stage : UInt8} (h : stage ≤ 31) :
    ∃ index : Fin 32, stage = UInt8.ofNat index := by
  rw [UInt8.le_iff_toNat_le] at h
  exact ⟨⟨stage.toNat, Nat.lt_succ_of_le h⟩, UInt8.ofNat_toNat.symm⟩

theorem durationMs_ne_zero (secret : AuthSecret) {stage : UInt8} (h : stage ≤ 31) :
    secret.policy.durationMs stage ≠ 0 := by
  obtain ⟨index, rfl⟩ := exists_stage h
  revert index
  cases secret <;> decide

/-- No stage is shorter than the one before. -/
theorem durationMs_mono (secret : AuthSecret) {stage : UInt8} (hfirst : 1 ≤ stage)
    (hlast : stage < 31) :
    secret.policy.durationMs stage ≤ secret.policy.durationMs (stage + 1) := by
  obtain ⟨index, rfl⟩ := exists_stage (UInt8.le_of_lt hlast)
  revert index
  cases secret <;> decide

/-- The stage after a failure that starts a lockout. -/
def nextStage (stage : UInt8) : UInt8 := if stage < 31 then stage + 1 else stage

theorem nextStage_le {stage : UInt8} (h : stage ≤ 31) : nextStage stage ≤ 31 := by
  obtain ⟨index, rfl⟩ := exists_stage h
  revert index
  decide

theorem one_le_nextStage {stage : UInt8} (h : stage ≤ 31) : 1 ≤ nextStage stage := by
  obtain ⟨index, rfl⟩ := exists_stage h
  revert index
  decide

theorem durationMs_nextStage (secret : AuthSecret) {stage : UInt8} (hfirst : 1 ≤ stage) :
    secret.policy.durationMs stage ≤ secret.policy.durationMs (nextStage stage) := by
  unfold nextStage
  split_ifs with hlast
  · exact durationMs_mono secret hfirst hlast
  · exact UInt64.le_refl _

variable {kdf : AuthenticationKdf} {secret other : AuthSecret}
variable {record : AuthenticationCredentialRecord} {lockout : AuthLockoutState}
variable {verifier : AuthVerifier}

/-! ## The clock of a lockout -/

variable {history : LockoutHistory} {clock : LockoutClock} {nowMs : UInt64}

/-- The clock measures the stored lockout of the secret. -/
def LockoutClock.Measures (clock : LockoutClock) (record : AuthenticationCredentialRecord)
    (secret : AuthSecret) : Prop :=
  clock.initialized = true ∧ clock.storageEpoch = record.storageEpoch ∧
    clock.credentialEpoch = record.epochOf secret ∧ clock.persisted = record.lockoutOf secret

/-- What the clock has left of the lockout was not run through before its anchor, and
the device has been running at least from the anchor to the last call. -/
def LockoutHistory.Tracks (history : LockoutHistory) (clock : LockoutClock) : Prop :=
  ∃ last before forward, history.lastNowMs = some last ∧
    history.runningMs = before + forward ∧ last.toNat - clock.anchorMs.toNat ≤ forward ∧
    history.lockoutMs ≤ clock.remainingMs.toNat + before

/-- Whichever way the time of the next call moves, the clock stays behind. -/
theorem LockoutHistory.Tracks.advance (h : history.Tracks clock) :
    (history.advance nowMs).Tracks clock := by
  obtain ⟨last, before, forward, hlast, hrunning, hforward, hleft⟩ := h
  refine ⟨nowMs, before, forward + (nowMs.toNat - last.toNat), rfl, ?_, by omega, hleft⟩
  show history.runningAt nowMs = _
  rw [runningAt, hlast, hrunning, Nat.add_assoc]

/-- A clock that measures nothing anymore has run through the lockout; one that still
measures goes on behind the device. -/
theorem measured_tracks {clocks : LockoutClocks} (hlockout : history.lockoutMs ≠ 0)
    (hstored : (record.lockoutOf secret).lockoutRemainingMs.toNat = history.lockoutMs)
    (htracks : (clocks.of secret).Measures record secret → history.Tracks (clocks.of secret))
    (hnow : history.lastNowMs = some nowMs) :
    ((record.measured secret nowMs clocks).1 = 0 → history.lockoutMs ≤ history.runningMs) ∧
      ((record.measured secret nowMs clocks).2.Measures record secret →
        history.Tracks (record.measured secret nowMs clocks).2) := by
  unfold AuthenticationCredentialRecord.measured effectiveLockoutRemaining
  have hremaining : (record.lockoutOf secret).lockoutRemainingMs ≠ 0 := by
    intro h
    rw [h] at hstored
    exact hlockout hstored.symm
  rw [if_neg hremaining]
  generalize clocks.of secret = clock at htracks ⊢
  split_ifs with hfresh hover
  · refine ⟨fun h => absurd h hremaining, fun _ => ?_⟩
    refine ⟨nowMs, history.runningMs, 0, hnow, rfl, ?_, ?_⟩
    · exact Nat.le_of_eq (Nat.sub_self _)
    · rw [← hstored]
      exact Nat.le_add_right _ _
  all_goals
    simp only [not_or, Bool.not_eq_false, not_not] at hfresh
    obtain ⟨hinitialized, hepoch, hcredential, hpersisted, hforth⟩ := hfresh
    obtain ⟨last, before, forward, hlast, hrunning, hforward, hleft⟩ :=
      htracks ⟨hinitialized, hepoch, hcredential, hpersisted⟩
    cases hnow.symm.trans hlast
    rw [UInt64.not_lt, UInt64.le_iff_toNat_le] at hforth
    have helapsed := UInt64.toNat_sub_of_le _ _ (UInt64.le_iff_toNat_le.mpr hforth)
    rw [UInt64.le_iff_toNat_le, helapsed] at hover
  · exact ⟨fun _ => by omega, nofun⟩
  · have hlonger : (nowMs - clock.anchorMs).toNat < clock.remainingMs.toNat := by omega
    have hrest := UInt64.toNat_sub_of_le _ _ (UInt64.le_iff_toNat_le.mpr hlonger.le)
    refine ⟨fun h => ?_, fun _ => ?_⟩
    · rw [show clock.remainingMs - (nowMs - clock.anchorMs) = 0 from h, UInt64.toNat_zero] at hrest
      omega
    · refine ⟨nowMs, before + (nowMs - clock.anchorMs).toNat,
        forward - (nowMs - clock.anchorMs).toNat, hnow, by omega, ?_, ?_⟩
      · show nowMs.toNat - nowMs.toNat ≤ _
        omega
      · show history.lockoutMs ≤ (clock.remainingMs - (nowMs - clock.anchorMs)).toNat + _
        omega

/-! ## What the history says of the record -/

/-- The stored record knows at least what the run has shown. -/
structure LockoutKnown (record : AuthenticationCredentialRecord) (clock : LockoutClock)
    (secret : AuthSecret) (history : LockoutHistory) : Prop where
  denials : history.denials ≤ (record.lockoutOf secret).failedAttempts.toNat
  stored : history.lockoutMs ≠ 0 →
    (record.lockoutOf secret).lockoutRemainingMs.toNat = history.lockoutMs
  stage : history.durationMs ≠ 0 → 1 ≤ (record.lockoutOf secret).lockoutStage ∧
    history.durationMs ≤ (secret.policy.durationMs (record.lockoutOf secret).lockoutStage).toNat
  tracks : history.lockoutMs ≠ 0 → clock.Measures record secret → history.Tracks clock

namespace LockoutKnown

variable {record' : AuthenticationCredentialRecord}

theorem congr (h : LockoutKnown record clock secret history)
    (hsame : record.SameLockout record' secret) :
    LockoutKnown record' clock secret history := by
  obtain ⟨hlockout, hepoch, hstorage⟩ := hsame
  obtain ⟨hdenials, hstored, hstage, htracks⟩ := h
  rw [← hlockout] at hdenials hstored hstage
  refine ⟨hdenials, hstored, hstage, fun hne hmeasures => htracks hne ?_⟩
  rw [LockoutClock.Measures, hlockout, hepoch, hstorage] at hmeasures
  exact hmeasures

theorem advance (h : LockoutKnown record clock secret history) :
    LockoutKnown record clock secret (history.advance nowMs) :=
  ⟨h.denials, h.stored, h.stage, fun hne hmeasures => (h.tracks hne hmeasures).advance⟩

/-- After a reboot no clock measures anything. -/
theorem reboot (h : LockoutKnown record clock secret history) :
    LockoutKnown record {} secret (history.reboot true) :=
  ⟨h.denials, h.stored, h.stage, fun _ hmeasures => nomatch hmeasures.1⟩

theorem measured {clocks : LockoutClocks}
    (h : LockoutKnown record (clocks.of secret) secret history)
    (hnow : history.lastNowMs = some nowMs) :
    LockoutKnown record (record.measured secret nowMs clocks).2 secret history :=
  ⟨h.denials, h.stored, h.stage, fun hne =>
    (measured_tracks hne (h.stored hne) (h.tracks hne) hnow).2⟩

/-- Without anything left of the lockout the device has run through it. -/
theorem waited {clocks : LockoutClocks}
    (h : LockoutKnown record (clocks.of secret) secret history)
    (hnow : history.lastNowMs = some nowMs)
    (hfree : (record.measured secret nowMs clocks).1 = 0) :
    history.lockoutMs ≤ history.runningMs := by
  rcases Nat.eq_zero_or_pos history.lockoutMs with hnone | hsome
  · rw [hnone]
    exact Nat.zero_le _
  · have hne : history.lockoutMs ≠ 0 := by omega
    exact (measured_tracks hne (h.stored hne) (h.tracks hne) hnow).1 hfree

/-- A right answer starts a new history. -/
theorem success (label : AttemptLabel) :
    LockoutKnown record clock secret (history.count label (some .success)) := by
  refine ⟨?_, fun h => absurd rfl h, fun h => absurd rfl h, fun h => absurd rfl h⟩
  exact Nat.zero_le _

end LockoutKnown

/-- The lockout after a failure, when it does not start the next one. -/
theorem failed_of_lt {policy : LockoutPolicy}
    (h : lockout.failedAttempts + 1 < policy.maximumFailures) :
    lockout.failed policy = ⟨lockout.failedAttempts + 1, lockout.lockoutStage, 0⟩ := by
  rw [AuthLockoutState.failed, if_neg (UInt32.not_le.mpr h)]

theorem failed_of_le {policy : LockoutPolicy}
    (h : policy.maximumFailures ≤ lockout.failedAttempts + 1) :
    lockout.failed policy =
      ⟨0, nextStage lockout.lockoutStage, policy.durationMs (nextStage lockout.lockoutStage)⟩ := by
  rw [AuthLockoutState.failed, if_pos h]
  rfl

/-- A valid count has room for one more failure. -/
theorem toNat_failedAttempts (h : lockout.failedAttempts < secret.policy.maximumFailures) :
    (lockout.failedAttempts + 1).toNat = lockout.failedAttempts.toNat + 1 := by
  rw [UInt32.lt_iff_toNat_lt] at h
  have hsmall : secret.policy.maximumFailures.toNat ≤ 5 := by cases secret <;> decide
  rw [UInt32.toNat_add, UInt32.toNat_one]
  omega

/-- A wrong answer is one more failure, or it starts a lockout that is not shorter than
the one before. -/
theorem LockoutKnown.failure (h : LockoutKnown record clock secret history)
    (hlegal : record.isPlausible = true) (hnow : history.lastNowMs = some nowMs)
    {clock' : LockoutClock} (label : AttemptLabel)
    (hclock : clock'.initialized = false ∨
      clock' = (record.afterFailure secret).startedClock secret nowMs) :
    let lockout := (record.afterFailure secret).lockoutOf secret
    (lockout.lockoutRemainingMs = 0 ∧
      LockoutKnown (record.afterFailure secret) clock' secret
        (history.count label (some .failure)) ∧
      history.denials + 1 < secret.policy.maximumFailures.toNat) ∨
    (lockout.lockoutRemainingMs ≠ 0 ∧
      LockoutKnown (record.afterFailure secret) clock' secret
        (history.count label (some (.lockout lockout.lockoutRemainingMs.toNat))) ∧
      history.denials + 1 ≤ secret.policy.maximumFailures.toNat ∧
      history.durationMs ≤ lockout.lockoutRemainingMs.toNat) := by
  obtain ⟨hvalid, hstage⟩ := @AuthenticationCredentialRecord.valid_lockoutOf record secret hlegal
  have hfailures := toNat_failedAttempts hvalid
  have hdenials := h.denials
  have hafter : (record.afterFailure secret).lockoutOf secret =
      (record.lockoutOf secret).failed secret.policy :=
    AuthenticationCredentialRecord.lockoutOf_counted
  simp only
  rcases UInt32.lt_or_le ((record.lockoutOf secret).failedAttempts + 1)
    secret.policy.maximumFailures with hfew | hmany
  · rw [failed_of_lt hfew] at hafter
    rw [UInt32.lt_iff_toNat_lt, hfailures] at hfew
    refine .inl ⟨by rw [hafter], ⟨?_, fun hne => absurd rfl hne, ?_, fun hne => absurd rfl hne⟩,
      by omega⟩
    · rw [hafter, hfailures]
      show history.denials + (if label.DeniedBy then 1 else 0) ≤ _
      split_ifs <;> omega
    · rw [hafter]
      exact h.stage
  · rw [failed_of_le hmany] at hafter
    have hduration := durationMs_ne_zero secret (nextStage_le hstage)
    rw [UInt32.lt_iff_toNat_lt] at hvalid
    refine .inr ⟨by rw [hafter]; exact hduration, ⟨Nat.zero_le _, fun _ => rfl, fun _ => ?_,
      fun _ hmeasures => ?_⟩, by omega, ?_⟩
    · rw [hafter]
      exact ⟨one_le_nextStage hstage, Nat.le_refl _⟩
    · rcases hclock with hidle | rfl
      · cases hidle.symm.trans hmeasures.1
      · exact ⟨nowMs, 0, 0, hnow, rfl, Nat.le_of_eq (Nat.sub_self _), Nat.le_add_right _ _⟩
    · rw [hafter]
      rcases Nat.eq_zero_or_pos history.durationMs with hnone | hsome
      · rw [hnone]
        exact Nat.zero_le _
      · obtain ⟨hfirst, hbefore⟩ := h.stage (by omega)
        have hgrows := UInt64.le_iff_toNat_le.mp (durationMs_nextStage secret hfirst)
        exact hbefore.trans hgrows

/-! ## Steps -/

variable {unknown : UnknownOutcome} {device next : AuthenticationDevice} {label : AttemptLabel}

/-- A step has one of the outcomes of its call; a reboot resets the clocks. -/
theorem AttemptStep.outcome (hunknown : LeavesNoOther unknown)
    (h : AttemptStep unknown kdf device label next) :
    label.before = device ∧ label.after = next ∧ ∃ clocks,
      AttemptOutcome kdf label.call device.clocks device.credentials label.verification
        next.credentials clocks ∧
      next.clocks = if label.rebooted then {} else clocks := by
  cases h with
  | answered hrun =>
      exact ⟨rfl, rfl, _, (AuthenticationCall.ensures_perform hunknown _).finishes hrun, rfl⟩
  | rebooted hcut =>
      obtain ⟨clocks, houtcome⟩ :=
        (AuthenticationCall.ensures_perform hunknown _).interrupted hcut
      exact ⟨rfl, rfl, clocks, houtcome, rfl⟩

/-- The history of the secret is known to the device. -/
def DeviceKnows (secret : AuthSecret) (device : AuthenticationDevice)
    (history : LockoutHistory) : Prop :=
  ∀ record, device.credentials = some record →
    LockoutKnown record (device.clocks.of secret) secret history

namespace AttemptLabel

theorem counted_of_same (h : label.after.credentials = label.before.credentials) :
    label.counted kdf = none := by
  rw [counted, h]
  cases label.before.credentials with
  | none => rfl
  | some record => exact if_pos rfl

theorem counted_of_lost (h : label.after.credentials = none) : label.counted kdf = none := by
  rw [counted, h]
  cases label.before.credentials <;> rfl

theorem counted_of_changed {before after : AuthenticationCredentialRecord}
    (hbefore : label.before.credentials = some before)
    (hafter : label.after.credentials = some after) (hne : after ≠ before) :
    label.counted kdf =
      if before.Matches kdf label.call.secret label.call.input then some .success
      else if (after.lockoutOf label.call.secret).lockoutRemainingMs = 0 then some .failure
      else some (.lockout (after.lockoutOf label.call.secret).lockoutRemainingMs.toNat) := by
  rw [counted, hbefore, hafter]
  exact if_neg hne.symm

end AttemptLabel

variable {call : AuthenticationCall} {clocks clocks' : LockoutClocks}
variable {before after : Option AuthenticationCredentialRecord}
variable {verification : Option AuthCheckStatus}

theorem LockoutClocks.of_set_other (h : other ≠ secret) (clocks : LockoutClocks)
    (clock : LockoutClock) : (clocks.set clock other).of secret = clocks.of secret := by
  cases other <;> cases secret <;> first | exact absurd rfl h | rfl

/-- The calls about one secret leave the lockout of the other alone. -/
theorem AttemptOutcome.apart
    (h : AttemptOutcome kdf call clocks before verification after clocks')
    (hother : call.secret ≠ secret) :
    clocks'.of secret = clocks.of secret ∧ ∀ record', after = some record' →
      ∃ record, before = some record ∧ record.SameLockout record' secret := by
  cases h with
  | untouched _ => exact ⟨rfl, fun record' h => ⟨record', h, rfl, rfl, rfl⟩⟩
  | measured _ =>
      refine ⟨LockoutClocks.of_set_other hother _ _, fun record' h => ?_⟩
      exact ⟨record', h, rfl, rfl, rfl⟩
  | failed _ _ _ _ =>
      refine ⟨LockoutClocks.of_set_other hother _ _, fun record' h => ?_⟩
      cases h
      exact ⟨_, rfl, AuthenticationCredentialRecord.sameLockout_counted hother⟩
  | passed _ _ _ =>
      refine ⟨LockoutClocks.of_set_other hother _ _, fun record' h => ?_⟩
      cases h
      exact ⟨_, rfl, AuthenticationCredentialRecord.sameLockout_counted hother⟩
  | changed verifier _ _ _ _ =>
      refine ⟨LockoutClocks.of_set_other hother _ _, fun record' h => ?_⟩
      cases h
      exact ⟨_, rfl, (AuthenticationCredentialRecord.sameLockout_counted hother).trans
        (AuthenticationCredentialRecord.sameLockout_replaced hother)⟩
  | lost _ _ => exact ⟨LockoutClocks.of_set_other hother _ _, nofun⟩

/-- What the observer counts, before the clocks are reset by a reboot. -/
theorem AttemptOutcome.own (hbefore : label.before.credentials = before)
    (hafter : label.after.credentials = after)
    (h : AttemptOutcome kdf label.call clocks before label.verification after clocks')
    (hlegal : ∀ record, before = some record → record.isPlausible = true)
    (hnow : history.lastNowMs = some label.call.nowMs)
    (hknows : ∀ record, before = some record →
      LockoutKnown record (clocks.of label.call.secret) label.call.secret history) :
    (∀ record, after = some record →
      LockoutKnown record (clocks'.of label.call.secret) label.call.secret
        (history.count label (label.counted kdf))) ∧
    (label.DeniedBy → label.counted kdf ≠ none ∧
      history.denials + 1 ≤ label.call.secret.policy.maximumFailures.toNat ∧
      (label.counted kdf = some .failure →
        history.denials + 1 < label.call.secret.policy.maximumFailures.toNat)) ∧
    (label.counted kdf ≠ none ∨
        (label.call.wellFormed = true ∧ GivesVerdict label.verification) →
      history.lockoutMs ≤ history.runningMs) ∧
    ∀ durationMs, label.counted kdf = some (.lockout durationMs) →
      history.durationMs ≤ durationMs := by
  generalize hverification : label.verification = verification at h
  have hdenied : label.DeniedBy → verification = some .invalid := fun h =>
    hverification.symm.trans h.2
  cases h with
  | untouched hverdict =>
      have hcounted : label.counted kdf = none :=
        AttemptLabel.counted_of_same (hafter.trans hbefore.symm)
      have hmalformed : ¬(label.call.wellFormed = true ∧ GivesVerdict verification) := by
        rintro ⟨hformed, h⟩
        cases (hverdict h).symm.trans hformed
      rw [hcounted]
      exact ⟨hknows, fun h => absurd ⟨h.1, .inr (hdenied h)⟩ hmalformed,
        fun h => absurd (h.resolve_left (not_not_intro rfl)) hmalformed, nofun⟩
  | measured hverdict =>
      have hcounted : label.counted kdf = none :=
        AttemptLabel.counted_of_same (hafter.trans hbefore.symm)
      rw [hcounted]
      refine ⟨fun record hrecord => ?_, fun h => absurd (.inr (hdenied h)) hverdict,
        fun h => absurd (h.resolve_left (not_not_intro rfl)).2 hverdict, nofun⟩
      cases hrecord
      rw [LockoutClocks.of_set]
      exact (hknows _ rfl).measured hnow
  | @failed record _ clock hfree hmatch hverdict hclock =>
      have hwaited := (hknows record rfl).waited hnow hfree
      have hcounted := @AttemptLabel.counted_of_changed kdf label _ _ hbefore hafter
        AuthenticationCredentialRecord.counted_ne
      rw [if_neg hmatch] at hcounted
      rcases (hknows record rfl).failure (hlegal record rfl) hnow label hclock with
        ⟨hzero, hknown, hfew⟩ | ⟨hsome, hknown, hmany, hgrows⟩
      · rw [if_pos hzero] at hcounted
        rw [hcounted]
        refine ⟨fun found hfound => ?_, fun _ => ⟨nofun, hfew.le, fun _ => hfew⟩,
          fun _ => hwaited, nofun⟩
        cases hfound
        rw [LockoutClocks.of_set]
        exact hknown
      · rw [if_neg hsome] at hcounted
        rw [hcounted]
        refine ⟨fun found hfound => ?_, fun _ => ⟨nofun, hmany, nofun⟩, fun _ => hwaited,
          fun durationMs hduration => ?_⟩
        · cases hfound
          rw [LockoutClocks.of_set]
          exact hknown
        · cases hduration
          exact hgrows
  | @passed record _ clock hfree hmatch hverdict =>
      have hcounted := @AttemptLabel.counted_of_changed kdf label _ _ hbefore hafter
        AuthenticationCredentialRecord.counted_ne
      rw [if_pos hmatch] at hcounted
      rw [hcounted]
      refine ⟨fun found hfound => ?_, fun h => absurd (hdenied h) hverdict,
        fun _ => (hknows record rfl).waited hnow hfree, nofun⟩
      cases hfound
      exact .success label
  | @changed record _ clock verifier hfree hmatch hverdict hchange =>
      have hcounted := @AttemptLabel.counted_of_changed kdf label _ _ hbefore hafter
        AuthenticationCredentialRecord.replaced_counted_ne
      rw [if_pos hmatch] at hcounted
      rw [hcounted]
      refine ⟨fun found hfound => ?_, fun h => absurd (hdenied h) hverdict,
        fun _ => (hknows record rfl).waited hnow hfree, nofun⟩
      cases hfound
      exact .success label
  | @lost record _ clock hfree hverdict =>
      have hcounted : label.counted kdf = none := AttemptLabel.counted_of_lost hafter
      rw [hcounted]
      refine ⟨nofun, fun h => ?_, fun _ => (hknows record rfl).waited hnow hfree, nofun⟩
      cases (hdenied h).symm.trans (hverdict (.inr (hdenied h))).1

/-- Every step holds what the run so far promises, and the device knows the run with
this step. -/
theorem AttemptStep.holds (hunknown : LeavesNoOther unknown)
    (h : AttemptStep unknown kdf device label next) (hknows : DeviceKnows secret device history) :
    LockoutHolds kdf secret history label ∧
      DeviceKnows secret next (history.observe kdf secret label) := by
  obtain ⟨hbefore, hafter, clocks, houtcome, hclocks⟩ := h.outcome hunknown
  have hadvanced : ∀ record, device.credentials = some record →
      LockoutKnown record (device.clocks.of secret) secret (history.advance label.call.nowMs) :=
    fun record hrecord => (hknows record hrecord).advance
  -- A reboot resets the clocks and the running time, whatever the call has done.
  have hreboot : ∀ counted, (∀ record, next.credentials = some record →
      LockoutKnown record (clocks.of secret) secret counted) →
        DeviceKnows secret next (counted.reboot label.rebooted) := by
    intro counted hcounted record hrecord
    rw [hclocks]
    cases label.rebooted with
    | false => exact hcounted record hrecord
    | true =>
        have hidle : ({} : LockoutClocks).of secret = {} := by cases secret <;> rfl
        rw [if_pos rfl, hidle]
        exact (hcounted record hrecord).reboot
  rw [LockoutHistory.observe]
  by_cases hown : label.call.secret = secret
  · subst hown
    have hlegal : ∀ record, device.credentials = some record → record.isPlausible = true :=
      fun record hrecord => isPlausible_of_credentialsIn hrecord
    obtain ⟨hcounted, hdenied, hwaits, hgrows⟩ := houtcome.own
      (by rw [hbefore]) (by rw [hafter]) hlegal rfl hadvanced
    simp only [if_true]
    refine ⟨⟨fun _ h => (hdenied h).1, fun _ h => (hdenied h).2, fun _ => hwaits,
      fun _ => hgrows, fun h => absurd rfl h⟩, hreboot _ hcounted⟩
  · obtain ⟨hclock, hsame⟩ := houtcome.apart hown
    simp only [if_neg hown]
    refine ⟨⟨fun h => absurd h hown, fun h => absurd h hown, fun h => absurd h hown,
      fun h => absurd h hown, fun _ => ⟨fun before after hfirst hlast => ?_, fun hkept => ?_⟩⟩,
      hreboot _ fun record hrecord => ?_⟩
    · rw [hafter] at hlast
      rw [hbefore] at hfirst
      obtain ⟨record, hrecord, hlockout⟩ := hsame after hlast
      cases hfirst.symm.trans hrecord
      exact hlockout.1
    · rw [hafter, hbefore, hclocks, hkept]
      exact hclock
    · obtain ⟨before, hfirst, hlockout⟩ := hsame record hrecord
      rw [hclock]
      exact (hadvanced before hfirst).congr hlockout

/-- A check tells whether a well-formed input is right once the store holds the record
that counts it. -/
theorem stored_of_verdict (hunknown : LeavesNoOther unknown) {contents after}
    {result : VerificationResult} (hformed : call.wellFormed = true)
    (hrun : Program.Finishes (stateStore unknown)
      (verifySecret kdf call.secret call.context call.input call.nowMs clocks) contents result after)
    (hverdict : GivesVerdict (some result.status)) :
    ∃ record, credentialsIn contents = some record ∧ credentialsIn after =
      some (if record.Matches kdf call.secret call.input then record.afterSuccess call.secret
        else record.afterFailure call.secret) := by
  have hends : Program.Ensures (stateStore unknown) (fun _ => True)
      (fun result after =>
        AttemptOutcome kdf call clocks (credentialsIn contents) (some result.status)
          (credentialsIn after) result.clocks ∧
        (result.status = .authenticated →
          Passes kdf call clocks (credentialsIn contents) (credentialsIn after) result.clocks))
      (verifySecret kdf call.secret call.context call.input call.nowMs clocks) contents :=
    ensures_verifySecret hunknown (fun _ _ => trivial) fun _ _ houtcome hpassed =>
      ⟨houtcome, hpassed⟩
  obtain ⟨houtcome, hpassed⟩ := hends.finishes hrun
  rcases hverdict with hstatus | hstatus
  · obtain ⟨record, clock, hrecord, -, hmatch, hafter, -⟩ := hpassed (Option.some.inj hstatus)
    exact ⟨record, hrecord, by rw [hafter, if_pos hmatch]⟩
  · rw [hstatus] at houtcome
    generalize credentialsIn contents = before at houtcome ⊢
    generalize credentialsIn after = stored at houtcome ⊢
    generalize result.clocks = started at houtcome
    cases houtcome with
    | untouched hmalformed => cases (hmalformed (.inr rfl)).symm.trans hformed
    | measured hnone => exact absurd (.inr rfl) hnone
    | @failed record _ _ _ hmatch _ _ => exact ⟨record, rfl, by rw [if_neg hmatch]⟩
    | passed _ _ hdenied => exact absurd rfl hdenied
    | changed _ _ _ hdenied _ => exact absurd rfl hdenied
    | lost _ hlost => cases (hlost (.inr rfl)).1

/-- Lockouts cannot be bypassed.  Whatever calls are made with whatever inputs and times,
whatever fails in the store and wherever the power fails: an answer to a well-formed
input waits for the stored attempt, so many wrong answers start the next lockout, a
lockout runs for its whole duration since the later of its start and the last reboot,
lockouts do not get shorter before a right answer, and the other secret is left alone. -/
theorem lockouts_hold (hunknown : LeavesNoOther unknown) {first last : AuthenticationDevice}
    {labels : List AttemptLabel} (hrun : Steps (AttemptStep unknown kdf) first labels last)
    (secret : AuthSecret) :
    (∀ earlier label later, labels = earlier ++ label :: later →
      LockoutHolds kdf secret (earlier.foldl (LockoutHistory.observe kdf secret) {}) label) ∧
    ∀ (call : AuthenticationCall) (clocks : LockoutClocks) contents result after,
      call.wellFormed = true →
      Program.Finishes (stateStore unknown)
        (verifySecret kdf call.secret call.context call.input call.nowMs clocks)
        contents result after →
      GivesVerdict (some result.status) →
      ∃ record, credentialsIn contents = some record ∧ credentialsIn after =
        some (if record.Matches kdf call.secret call.input then record.afterSuccess call.secret
          else record.afterFailure call.secret) := by
  have hfirst : DeviceKnows secret first {} := fun record _ =>
    ⟨Nat.zero_le _, fun h => absurd rfl h, fun h => absurd rfl h, fun h => absurd rfl h⟩
  refine ⟨(hrun.observed hfirst fun hknows hstep => hstep.holds hunknown hknows).2, ?_⟩
  intro call clocks contents result after hformed hfinishes hverdict
  exact stored_of_verdict hunknown hformed hfinishes hverdict

/-! ## A wrong PIN, and a malformed one -/

/-- The keys of a device whose credential record is the given one. -/
def provisionedContents (record : AuthenticationCredentialRecord) : AuthenticationContents
  | .credentials => (encodeAuthenticationCredential record).toOption
  | .root =>
      (encodeAuthProvisioningRoot
        { storageEpoch := 1, state := .provisioned, bootstrapSequenceBinding := 1 }).toOption

def pinCall (input : Bytes) : AuthenticationCall where
  secret := .servicePin
  context := ⟨true, 1, 1⟩
  input := input
  nowMs := 0

/-- A derivation that never gives the stored verifier. -/
def ownKdf : AuthenticationKdf := fun _ _ => some ⟨List.replicate 32 1, rfl⟩

def wrongPinDevice : AuthenticationDevice where
  contents := provisionedContents { storageEpoch := 1 }

/-- A call that a store without errors answers. -/
def answered (device : AuthenticationDevice) (call : AuthenticationCall) : AttemptLabel :=
  let run := (call.perform ownKdf device.clocks).run faultlessStore device.contents
  ⟨call, run.1.verification, false, device, ⟨run.2, run.1.clocks⟩⟩

theorem step_answered (device : AuthenticationDevice) (call : AuthenticationCall) :
    AttemptStep allOrNothing ownKdf device (answered device call) (answered device call).after :=
  .answered (Program.finishes_run (faultlessStore_stateStore allOrNothing) _ _)

/-- The device after so many wrong PINs in the first millisecond. -/
def deviceAfter : ℕ → AuthenticationDevice
  | 0 => wrongPinDevice
  | count + 1 => (answered (deviceAfter count) (pinCall [49, 50, 51, 52])).after

def wrongPin (count : ℕ) : AttemptLabel := answered (deviceAfter count) (pinCall [49, 50, 51, 52])

theorem steps_wrongPins (count : ℕ) : Steps (AttemptStep allOrNothing ownKdf) wrongPinDevice
    ((List.range count).map wrongPin) (deviceAfter count) := by
  induction count with
  | zero => exact .start
  | succ count ih =>
      rw [List.range_succ, List.map_append]
      exact ih.step (step_answered _ _)

set_option maxRecDepth 1000000 in
/-- The third wrong PIN starts a lockout, and with this the fourth one is not looked at. -/
theorem wrongPin_counted :
    (wrongPin 2).DeniedBy ∧ (wrongPin 2).counted ownKdf = some (.lockout 30000) ∧
      (wrongPin 3).counted ownKdf = none ∧ (wrongPin 3).verification = some .lockedOut := by
  have hheld : LockoutHolds ownKdf .servicePin
      ([wrongPin 0, wrongPin 1, wrongPin 2].foldl (LockoutHistory.observe ownKdf .servicePin) {})
      (wrongPin 3) :=
    (lockouts_hold leavesNoOther_allOrNothing (steps_wrongPins 4) .servicePin).1
      [wrongPin 0, wrongPin 1, wrongPin 2] (wrongPin 3) [] rfl
  have hlocked : ¬([wrongPin 0, wrongPin 1, wrongPin 2].foldl
      (LockoutHistory.observe ownKdf .servicePin) {}).lockoutMs ≤
        ([wrongPin 0, wrongPin 1, wrongPin 2].foldl
          (LockoutHistory.observe ownKdf .servicePin) {}).runningAt 0 := by
    decide +kernel
  have hthird : (wrongPin 2).DeniedBy ∧ (wrongPin 2).counted ownKdf = some (.lockout 30000) ∧
      (wrongPin 3).verification = some .lockedOut := by
    decide +kernel
  refine ⟨hthird.1, hthird.2.1, ?_, hthird.2.2⟩
  by_contra hcounted
  exact hlocked (hheld.waits rfl (.inl hcounted))

/-- A device in the first lockout of its PIN. -/
def lockedRecord : AuthenticationCredentialRecord :=
  { storageEpoch := 1, servicePinLockout := ⟨0, 1, 30000⟩ }

def lockedDevice : AuthenticationDevice where
  contents := provisionedContents lockedRecord

set_option maxRecDepth 1000000 in
/-- A PIN of three digits is found wrong at once, although a lockout is in force and
nothing is stored. -/
theorem malformedPin_not_counted :
    ∃ device label, AttemptStep allOrNothing ownKdf device label device ∧
      label.verification = some .invalid ∧ label.before = device ∧ label.after = device ∧
      ∃ record, device.credentials = some record ∧
        (record.lockoutOf label.call.secret).lockoutRemainingMs = 30000 := by
  have hcredentials : lockedDevice.credentials.map
      (fun record => (record.lockoutOf .servicePin).lockoutRemainingMs) = some 30000 := by
    decide +kernel
  have hrun : Program.Finishes (stateStore allOrNothing)
      ((pinCall [49, 50, 51]).perform ownKdf lockedDevice.clocks) lockedDevice.contents
      ⟨some .invalid, lockedDevice.clocks⟩ lockedDevice.contents := .done
  obtain ⟨record, hrecord, hremaining⟩ := Option.map_eq_some_iff.mp hcredentials
  exact ⟨lockedDevice, _, .answered hrun, rfl, rfl, rfl, record, hrecord, hremaining⟩

end Fermentationsschrank

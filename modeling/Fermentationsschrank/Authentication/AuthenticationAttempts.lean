import Fermentationsschrank.Authentication.AuthenticationWrites

/-!
# Attempts

What a check or a change of a secret can do to the stored credentials and to the
lockout clocks, whatever the store answers and wherever the power fails.
-/

namespace Fermentationsschrank

open AuthenticationRecordStore
open AuthenticationDomain

/-- A check of a secret, or with a replacement its change. -/
structure AuthenticationCall where
  secret : AuthSecret
  context : AuthenticationBootstrapContext
  input : Bytes
  nowMs : UInt64
  replacement : Option (Bytes × Option (Block kAuthenticationSaltBytes)) := none
  deriving DecidableEq, Repr

/-- What a call tells about the secret, and the clocks after it. -/
structure AuthenticationAnswer where
  verification : Option AuthCheckStatus
  clocks : LockoutClocks
  deriving DecidableEq, Repr

namespace AuthenticationCall

def perform (kdf : AuthenticationKdf) (call : AuthenticationCall) (clocks : LockoutClocks) :
    AuthenticationProgram AuthenticationAnswer :=
  match call.replacement with
  | none => do
      let check := match call.secret with
        | .webPassword => verifyWebPassword
        | .servicePin => verifyServicePin
      let result ← check kdf call.context call.input call.nowMs clocks
      return ⟨some result.status, result.clocks⟩
  | some (replacement, salt) => do
      let change := match call.secret with
        | .webPassword => changeWebPassword
        | .servicePin => changeServicePin
      let result ← change kdf call.context call.input replacement salt call.nowMs clocks
      return ⟨result.verification, result.clocks⟩

def wellFormed (call : AuthenticationCall) : Bool := call.secret.validate call.input = .valid

end AuthenticationCall

/-- The answer says whether the secret was right. -/
def GivesVerdict (verification : Option AuthCheckStatus) : Prop :=
  verification = some .authenticated ∨ verification = some .invalid

instance (verification : Option AuthCheckStatus) : Decidable (GivesVerdict verification) :=
  inferInstanceAs (Decidable (_ ∨ _))

namespace AuthenticationCredentialRecord

/-- The input derives the stored verifier. -/
def Matches (record : AuthenticationCredentialRecord) (kdf : AuthenticationKdf)
    (secret : AuthSecret) (input : Bytes) : Prop :=
  kdf input (record.verifierOf secret) = some (record.verifierOf secret).verifier

instance (record : AuthenticationCredentialRecord) (kdf : AuthenticationKdf)
    (secret : AuthSecret) (input : Bytes) : Decidable (record.Matches kdf secret input) :=
  inferInstanceAs (Decidable (_ = _))

/-- What a clock measures of the lockout of the secret. -/
def measured (record : AuthenticationCredentialRecord) (secret : AuthSecret) (nowMs : UInt64)
    (clocks : LockoutClocks) : UInt64 × LockoutClock :=
  effectiveLockoutRemaining (record.lockoutOf secret) record.storageEpoch
    (record.epochOf secret) nowMs (clocks.of secret)

/-- The record after a wrong secret. -/
def afterFailure (record : AuthenticationCredentialRecord) (secret : AuthSecret) :
    AuthenticationCredentialRecord :=
  record.counted secret ((record.lockoutOf secret).failed secret.policy)

/-- The record after the right secret. -/
def afterSuccess (record : AuthenticationCredentialRecord) (secret : AuthSecret) :
    AuthenticationCredentialRecord :=
  record.counted secret {}

/-- The clock that starts when the record is stored. -/
def startedClock (record : AuthenticationCredentialRecord) (secret : AuthSecret)
    (nowMs : UInt64) : LockoutClock :=
  ⟨record.storageEpoch, record.epochOf secret, record.lockoutOf secret, nowMs,
    (record.lockoutOf secret).lockoutRemainingMs, true⟩

end AuthenticationCredentialRecord

/-- What a call makes of the stored credentials and the clocks. -/
inductive AttemptOutcome (kdf : AuthenticationKdf) (call : AuthenticationCall)
    (clocks : LockoutClocks) :
    Option AuthenticationCredentialRecord → Option AuthCheckStatus →
      Option AuthenticationCredentialRecord → LockoutClocks → Prop
  | untouched {credentials verification}
      (hverdict : GivesVerdict verification → call.wellFormed = false) :
      AttemptOutcome kdf call clocks credentials verification credentials clocks
  | measured {record verification} (hverdict : ¬GivesVerdict verification) :
      AttemptOutcome kdf call clocks (some record) verification (some record)
        (clocks.set (record.measured call.secret call.nowMs clocks).2 call.secret)
  | failed {record verification clock}
      (hfree : (record.measured call.secret call.nowMs clocks).1 = 0)
      (hmatch : ¬record.Matches kdf call.secret call.input)
      (hverdict : verification ≠ some .authenticated)
      (hclock : clock.initialized = false ∨
        clock = (record.afterFailure call.secret).startedClock call.secret call.nowMs) :
      AttemptOutcome kdf call clocks (some record) verification
        (some (record.afterFailure call.secret)) (clocks.set clock call.secret)
  | passed {record verification clock}
      (hfree : (record.measured call.secret call.nowMs clocks).1 = 0)
      (hmatch : record.Matches kdf call.secret call.input)
      (hverdict : verification ≠ some .invalid) :
      AttemptOutcome kdf call clocks (some record) verification
        (some (record.afterSuccess call.secret)) (clocks.set clock call.secret)
  | changed {record verification clock} (verifier : AuthVerifier)
      (hfree : (record.measured call.secret call.nowMs clocks).1 = 0)
      (hmatch : record.Matches kdf call.secret call.input)
      (hverdict : verification ≠ some .invalid) (hchange : call.replacement.isSome) :
      AttemptOutcome kdf call clocks (some record) verification
        (some ((record.afterSuccess call.secret).replaced call.secret verifier))
        (clocks.set clock call.secret)
  | lost {record verification clock}
      (hfree : (record.measured call.secret call.nowMs clocks).1 = 0)
      (hverdict : GivesVerdict verification → verification = some .authenticated ∧
        record.Matches kdf call.secret call.input ∧ call.replacement.isSome) :
      AttemptOutcome kdf call clocks (some record) verification none
        (clocks.set clock call.secret)

/-! ## The clock -/

/-- A clock that measures nothing is not running. -/
theorem clock_of_free {persisted : AuthLockoutState} {storageEpoch credentialEpoch nowMs : UInt64}
    {clock : LockoutClock}
    (h : (effectiveLockoutRemaining persisted storageEpoch credentialEpoch nowMs clock).1 = 0) :
    (effectiveLockoutRemaining persisted storageEpoch credentialEpoch nowMs clock).2 = {} := by
  unfold effectiveLockoutRemaining at h ⊢
  split_ifs at h ⊢ with hnone hfresh hover
  · rfl
  · exact absurd h hnone
  · rfl
  · have hlonger := UInt64.not_le.mp hover
    have hleft := UInt64.toNat_sub_of_le _ _ (UInt64.le_of_lt hlonger)
    rw [show clock.remainingMs - (nowMs - clock.anchorMs) = 0 from h, UInt64.toNat_zero] at hleft
    rw [UInt64.lt_iff_toNat_lt] at hlonger
    omega

/-! ## The decision -/

variable {kdf : AuthenticationKdf} {call : AuthenticationCall} {clocks : LockoutClocks}
variable {record : AuthenticationCredentialRecord}

/-- A decided attempt is refused without a verdict, or there is no lockout and the
record to write counts it. -/
theorem decideAttempt_cases (hepoch : record.storageEpoch = call.context.storageEpoch) :
    (∃ status retryAfterMs clocks', decideAttempt kdf call.secret call.context record call.input
        call.nowMs clocks = (.refused status retryAfterMs, clocks') ∧
      ¬GivesVerdict (some status) ∧ (clocks' = clocks ∨
        clocks' = clocks.set (record.measured call.secret call.nowMs clocks).2 call.secret)) ∨
    ((record.measured call.secret call.nowMs clocks).1 = 0 ∧
      ((decideAttempt kdf call.secret call.context record call.input call.nowMs clocks =
          (.count (record.afterSuccess call.secret) .authenticated,
            clocks.set (record.measured call.secret call.nowMs clocks).2 call.secret) ∧
        record.Matches kdf call.secret call.input) ∨
      (decideAttempt kdf call.secret call.context record call.input call.nowMs clocks =
          (.count (record.afterFailure call.secret) .invalid,
            clocks.set (record.measured call.secret call.nowMs clocks).2 call.secret) ∧
        ¬record.Matches kdf call.secret call.input ∧
        (kdf call.input (record.verifierOf call.secret)).isSome))) := by
  have hrefused : ∀ {status}, status ≠ .authenticated → status ≠ .invalid →
      ¬GivesVerdict (some status) := by
    intro status hpassed hfailed h
    rcases h with h | h
    · exact hpassed (Option.some.inj h)
    · exact hfailed (Option.some.inj h)
  have hmeasured : effectiveLockoutRemaining (record.lockoutOf call.secret)
      call.context.storageEpoch (record.epochOf call.secret) call.nowMs
      (clocks.of call.secret) = record.measured call.secret call.nowMs clocks := by
    rw [AuthenticationCredentialRecord.measured, hepoch]
  unfold decideAttempt
  rw [hmeasured]
  obtain ⟨remaining, clock⟩ := record.measured call.secret call.nowMs clocks
  simp only
  split_ifs with henabled hlocked
  · exact .inl ⟨_, _, _, rfl, hrefused nofun nofun, .inl rfl⟩
  · exact .inl ⟨_, _, _, rfl, hrefused nofun nofun, .inr rfl⟩
  · have hfree := not_not.mp hlocked
    unfold decideUnlocked
    cases hderived : kdf call.input (record.verifierOf call.secret) with
    | none => exact .inl ⟨_, _, _, rfl, hrefused nofun nofun, .inr rfl⟩
    | some derived =>
        have hmatches : record.Matches kdf call.secret call.input ↔
            derived = (record.verifierOf call.secret).verifier := by
          rw [AuthenticationCredentialRecord.Matches, hderived, Option.some.injEq]
        simp only
        by_cases hsequence : record.recordSequence = maxUInt64
        · rw [if_pos hsequence]
          exact .inl ⟨_, _, _, rfl, hrefused nofun nofun, .inr rfl⟩
        · rw [if_neg hsequence]
          by_cases hsame : derived = (record.verifierOf call.secret).verifier
          · rw [if_pos hsame, if_pos hsame]
            exact .inr ⟨hfree, .inl ⟨rfl, hmatches.mpr hsame⟩⟩
          · rw [if_neg hsame, if_neg hsame]
            exact .inr ⟨hfree, .inr ⟨rfl, fun h => hsame (hmatches.mp h), rfl⟩⟩

/-! ## Successors of a record -/

variable {secret other : AuthSecret} {lockout : AuthLockoutState} {verifier : AuthVerifier}

namespace AuthenticationCredentialRecord

theorem valid_lockoutOf (h : record.isPlausible = true) :
    (record.lockoutOf secret).failedAttempts < secret.policy.maximumFailures ∧
      (record.lockoutOf secret).lockoutStage ≤ 31 := by
  simp only [isPlausible, AuthLockoutState.validLockout, Bool.and_eq_true, decide_eq_true_eq] at h
  obtain ⟨⟨-, hweb⟩, hpin⟩ := h
  cases secret with
  | webPassword => exact ⟨hweb.1, hweb.2.1⟩
  | servicePin => exact ⟨hpin.1, hpin.2.1⟩

@[simp]
theorem lockoutOf_counted : (record.counted secret lockout).lockoutOf secret = lockout := by
  cases secret <;> rfl

@[simp]
theorem lockoutOf_replaced : (record.replaced secret verifier).lockoutOf secret = {} := by
  cases secret <;> rfl

/-- What a lockout of the secret depends on is the same in both records. -/
def SameLockout (record record' : AuthenticationCredentialRecord) (secret : AuthSecret) : Prop :=
  record'.lockoutOf secret = record.lockoutOf secret ∧
    record'.epochOf secret = record.epochOf secret ∧
    record'.storageEpoch = record.storageEpoch

theorem sameLockout_counted (h : other ≠ secret) :
    SameLockout record (record.counted other lockout) secret := by
  cases other <;> cases secret <;> first | exact absurd rfl h | exact ⟨rfl, rfl, rfl⟩

theorem sameLockout_replaced (h : other ≠ secret) :
    SameLockout record (record.replaced other verifier) secret := by
  cases other <;> cases secret <;> first | exact absurd rfl h | exact ⟨rfl, rfl, rfl⟩

theorem SameLockout.trans {first second third : AuthenticationCredentialRecord}
    (h : SameLockout first second secret) (h' : SameLockout second third secret) :
    SameLockout first third secret :=
  ⟨h'.1.trans h.1, h'.2.1.trans h.2.1, h'.2.2.trans h.2.2⟩

theorem recordSequence_counted :
    (record.counted secret lockout).recordSequence = record.recordSequence + 1 := rfl

theorem recordSequence_replaced :
    (record.replaced secret verifier).recordSequence = record.recordSequence + 1 := by
  cases secret <;> rfl

theorem counted_ne : record.counted secret lockout ≠ record := by
  intro h
  have hsequence := congrArg (·.recordSequence.toNat) h
  simp only [recordSequence_counted, UInt64.toNat_add, UInt64.toNat_one] at hsequence
  have hbound := record.recordSequence.toNat_lt
  omega

theorem replaced_ne : record.replaced secret verifier ≠ record := by
  intro h
  have hsequence := congrArg (·.recordSequence.toNat) h
  simp only [recordSequence_replaced, UInt64.toNat_add, UInt64.toNat_one] at hsequence
  have hbound := record.recordSequence.toNat_lt
  omega

theorem replaced_counted_ne :
    (record.counted secret lockout).replaced secret verifier ≠ record := by
  intro h
  have hsequence := congrArg (·.recordSequence.toNat) h
  simp only [recordSequence_replaced, recordSequence_counted, UInt64.toNat_add,
    UInt64.toNat_one] at hsequence
  have hbound := record.recordSequence.toNat_lt
  omega

end AuthenticationCredentialRecord

/-! ## A check -/

variable {unknown : UnknownOutcome} {contents : AuthenticationContents}

/-- The credentials that survive a power failure during the call. -/
def AttemptLeaves (kdf : AuthenticationKdf) (call : AuthenticationCall) (clocks : LockoutClocks)
    (before : Option AuthenticationCredentialRecord) (after : AuthenticationContents) : Prop :=
  ∃ clocks', AttemptOutcome kdf call clocks before none (credentialsIn after) clocks'

theorem not_givesVerdict_none : ¬GivesVerdict none := by
  rintro (h | h) <;> cases h

theorem attemptLeaves_start : AttemptLeaves kdf call clocks (credentialsIn contents) contents :=
  ⟨clocks, .untouched fun h => absurd h not_givesVerdict_none⟩

/-- The stored attempt of a check: the answer is not given away when the write fails. -/
theorem ensures_countAttempt (hunknown : LeavesNoOther unknown)
    {target : AuthenticationCredentialRecord} {verdict : AuthCheckStatus} {clock : LockoutClock}
    {post : VerificationResult → AuthenticationContents → Prop}
    {crash : AuthenticationContents → Prop} (hheld : credentialsIn contents = some record)
    (hcrash : ∀ after, Replacing record target (credentialsIn after) → crash after)
    (hunconfirmed : ∀ retryAfterMs after, Replacing record target (credentialsIn after) →
      post ⟨.recoveryRequired, retryAfterMs, clocks.set clock call.secret⟩ after)
    (hstored : ∀ retryAfterMs after, credentialsIn after = some target →
      post ⟨verdict, retryAfterMs, (clocks.set clock call.secret).set
        (attemptClock call.context call.secret target call.nowMs) call.secret⟩ after) :
    Program.Ensures (stateStore unknown) crash post (do
      let retryAfterMs := (target.lockoutOf call.secret).lockoutRemainingMs
      if (← writeCredentials record target) = .success then
        return ⟨verdict, some retryAfterMs, (clocks.set clock call.secret).set
          (attemptClock call.context call.secret target call.nowMs) call.secret⟩
      else return ⟨.recoveryRequired, some retryAfterMs, clocks.set clock call.secret⟩)
      contents := by
  simp only
  rw [Program.ensures_bind]
  refine ensures_writeCredentials hunknown hheld hcrash fun status after hafter hsuccess => ?_
  split_ifs with hstatus
  · exact ⟨hcrash _ hafter, hstored _ _ (hsuccess hstatus)⟩
  · exact ⟨hcrash _ hafter, hunconfirmed _ _ hafter⟩

@[simp]
theorem LockoutClocks.set_set (clocks : LockoutClocks) (first second : LockoutClock)
    (secret : AuthSecret) :
    (clocks.set first secret).set second secret = clocks.set second secret := by
  cases secret <;> rfl

/-- Whatever an unconfirmed write left behind, the attempt was at most counted. -/
theorem outcome_of_replacing {target : AuthenticationCredentialRecord}
    {verification : Option AuthCheckStatus} {clock : LockoutClock} {credentials}
    (hfree : (record.measured call.secret call.nowMs clocks).1 = 0)
    (hverdict : ¬GivesVerdict verification)
    (hclock : clock = (record.measured call.secret call.nowMs clocks).2)
    (htarget : (target = record.afterSuccess call.secret ∧
        record.Matches kdf call.secret call.input) ∨
      (target = record.afterFailure call.secret ∧
        ¬record.Matches kdf call.secret call.input))
    (h : Replacing record target credentials) :
    AttemptOutcome kdf call clocks (some record) verification credentials
      (clocks.set clock call.secret) := by
  rcases h with rfl | rfl | rfl
  · rw [hclock]
    exact .measured hverdict
  · rcases htarget with ⟨rfl, hmatch⟩ | ⟨rfl, hmatch⟩
    · exact .passed hfree hmatch fun h => hverdict (.inr h)
    · refine .failed hfree hmatch (fun h => hverdict (.inl h)) (.inl ?_)
      rw [hclock, AuthenticationCredentialRecord.measured, clock_of_free hfree]
  · exact .lost hfree fun h => absurd h hverdict

/-- A passed check, with its record in the store. -/
def Passes (kdf : AuthenticationKdf) (call : AuthenticationCall) (clocks : LockoutClocks)
    (before after : Option AuthenticationCredentialRecord) (clocks' : LockoutClocks) : Prop :=
  ∃ record clock, before = some record ∧
    (record.measured call.secret call.nowMs clocks).1 = 0 ∧
    record.Matches kdf call.secret call.input ∧
    after = some (record.afterSuccess call.secret) ∧ clocks' = clocks.set clock call.secret

/-- A check counts the attempt before it gives its verdict. -/
theorem ensures_verifySecret (hunknown : LeavesNoOther unknown)
    {post : VerificationResult → AuthenticationContents → Prop}
    {crash : AuthenticationContents → Prop}
    (hcrash : ∀ after, AttemptLeaves kdf call clocks (credentialsIn contents) after → crash after)
    (hpost : ∀ result after, AttemptOutcome kdf call clocks (credentialsIn contents)
        (some result.status) (credentialsIn after) result.clocks →
      (result.status = .authenticated →
        Passes kdf call clocks (credentialsIn contents) (credentialsIn after) result.clocks) →
      post result after) :
    Program.Ensures (stateStore unknown) crash post
      (verifySecret kdf call.secret call.context call.input call.nowMs clocks) contents := by
  have hstart := hcrash _ attemptLeaves_start
  have hrecovery : ¬GivesVerdict (some .recoveryRequired) := by decide
  have huntouched : ∀ retryAfterMs, post ⟨.recoveryRequired, retryAfterMs, clocks⟩ contents :=
    fun retryAfterMs => hpost _ _ (.untouched fun h => absurd h hrecovery) (by rintro ⟨⟩)
  unfold verifySecret
  split_ifs with hvalid hinput
  · rw [Program.ensures_bind]
    refine ensures_readActiveCredentials hstart fun result hresult => ?_
    split
    · rename_i record
      obtain ⟨hheld, hepoch⟩ := hresult record rfl
      have hleaves : ∀ {target}, ((target = record.afterSuccess call.secret ∧
            record.Matches kdf call.secret call.input) ∨
          (target = record.afterFailure call.secret ∧
            ¬record.Matches kdf call.secret call.input)) →
          (record.measured call.secret call.nowMs clocks).1 = 0 →
          ∀ {verification}, ¬GivesVerdict verification → ∀ after,
            Replacing record target (credentialsIn after) →
              AttemptOutcome kdf call clocks (credentialsIn contents) verification
                (credentialsIn after)
                (clocks.set (record.measured call.secret call.nowMs clocks).2 call.secret) := by
        intro target htarget hfree verification hverdict after hafter
        rw [hheld]
        exact outcome_of_replacing hfree hverdict rfl htarget hafter
      have hdecide := @decideAttempt_cases kdf call clocks record (hepoch rfl)
      rcases hdecide with ⟨status, retryAfterMs, clocks', hdecided, hstatus, hclocks⟩ |
        ⟨hfree, ⟨hdecided, hmatch⟩ | ⟨hdecided, hmatch, -⟩⟩
      · rw [hdecided]
        refine ⟨hstart, hpost _ _ ?_ fun h => absurd (.inl (congrArg some h)) hstatus⟩
        rw [hheld]
        rcases hclocks with rfl | rfl
        · exact .untouched fun h => absurd h hstatus
        · exact .measured hstatus
      · have hleft := @hleaves _ (.inl ⟨rfl, hmatch⟩) hfree
        rw [hdecided]
        refine ensures_countAttempt hunknown hheld
          (fun after hafter => hcrash _ ⟨_, hleft not_givesVerdict_none after hafter⟩)
          (fun _ after hafter => hpost _ _ (hleft hrecovery after hafter) (by rintro ⟨⟩))
          fun _ after hafter => hpost _ _ ?_ fun _ => ?_
        · rw [hheld, hafter, LockoutClocks.set_set]
          exact .passed hfree hmatch (by rintro ⟨⟩)
        · rw [LockoutClocks.set_set]
          exact ⟨record, _, hheld, hfree, hmatch, hafter, rfl⟩
      · have hleft := @hleaves _ (.inr ⟨rfl, hmatch⟩) hfree
        rw [hdecided]
        refine ensures_countAttempt hunknown hheld
          (fun after hafter => hcrash _ ⟨_, hleft not_givesVerdict_none after hafter⟩)
          (fun _ after hafter => hpost _ _ (hleft hrecovery after hafter) (by rintro ⟨⟩))
          fun _ after hafter => hpost _ _ ?_ (by rintro ⟨⟩)
        rw [hheld, hafter, LockoutClocks.set_set]
        refine .failed hfree hmatch (by rintro ⟨⟩) (.inr ?_)
        rw [attemptClock, ← hepoch rfl]
        cases call.secret <;> rfl
    · exact ⟨hstart, huntouched _⟩
  · refine ⟨hstart, hpost _ _ (.untouched fun _ => ?_) (by rintro ⟨⟩)⟩
    rw [AuthenticationCall.wellFormed, decide_eq_false hinput]
  · exact ⟨hstart, huntouched _⟩

/-! ## A change -/

/-- The stored credentials while the secret of a record is being replaced. -/
def ReplacingSecret (record : AuthenticationCredentialRecord) (secret : AuthSecret)
    (after : AuthenticationContents) : Prop :=
  credentialsIn after = some record ∨
    (∃ verifier, credentialsIn after = some (record.replaced secret verifier)) ∨
    credentialsIn after = none

theorem ensures_replaceSecret (hunknown : LeavesNoOther unknown) {secret : AuthSecret}
    {context : AuthenticationBootstrapContext} {replacement : Bytes}
    {salt : Option (Block kAuthenticationSaltBytes)}
    {post : AuthBootstrapStatus → AuthenticationContents → Prop}
    {crash : AuthenticationContents → Prop} (hheld : credentialsIn contents = some record)
    (hcrash : ∀ after, ReplacingSecret record secret after → crash after)
    (hpost : ∀ status after, ReplacingSecret record secret after → post status after) :
    Program.Ensures (stateStore unknown) crash post
      (replaceSecret kdf secret context replacement salt) contents := by
  have hdone : ∀ status after, ReplacingSecret record secret after →
      Program.Ensures (stateStore unknown) crash post (.done status) after :=
    fun status after hafter => ⟨hcrash _ hafter, hpost _ _ hafter⟩
  have hstart : ReplacingSecret record secret contents := .inl hheld
  unfold replaceSecret
  rw [Program.ensures_bind]
  refine ensures_readActiveRoot (hcrash _ hstart) fun rootRead => ?_
  rw [Program.ensures_bind]
  refine ensures_readCredentials (hcrash _ hstart) fun credentialRead hfound => ?_
  split
  · rename_i root found hroot hread
    cases hheld.symm.trans (hfound found hread).1
    split
    · exact hdone _ _ hstart
    · rename_i verifier hverifier
      split
      · exact hdone _ _ hstart
      split
      · exact hdone _ _ hstart
      rw [Program.ensures_bind]
      have hkept : ∀ after, credentialsIn after = credentialsIn contents →
          ReplacingSecret record secret after := fun after hafter => .inl (hafter.trans hheld)
      refine ensures_writeRoot (fun after hafter => hcrash _ (hkept after hafter))
        fun status middle hmiddle => ?_
      split
      · rw [Program.ensures_bind]
        have hreplacing : ∀ after,
            Replacing record (record.replaced secret verifier) (credentialsIn after) →
              ReplacingSecret record secret after := fun after hafter =>
          hafter.imp id (Or.imp (fun h => ⟨verifier, h⟩) id)
        refine ensures_writeCredentials hunknown (hmiddle.trans hheld)
          (fun after hafter => hcrash _ (hreplacing after hafter))
          fun status written hwritten _ => ?_
        have hlast : ∀ after, credentialsIn after = credentialsIn written →
            ReplacingSecret record secret after := fun after hafter =>
          hreplacing after (by rw [hafter]; exact hwritten)
        cases status with
        | success =>
            simp only
            split
            · exact hdone _ _ (hreplacing _ hwritten)
            rw [Program.ensures_bind]
            refine ensures_writeRoot (fun after hafter => hcrash _ (hlast after hafter))
              fun status after hafter => ?_
            split
            · exact hdone _ _ (hlast _ hafter)
            · exact hdone _ _ (hlast _ hafter)
        | _ => exact hdone _ _ (hreplacing _ hwritten)
      · exact hdone _ _ (hkept _ hmiddle)
  · exact hdone _ _ hstart

/-- After a passed check the replacement keeps what the check has stored, replaces it
or loses it. -/
theorem outcome_of_replacingSecret {before middle : Option AuthenticationCredentialRecord}
    {clocks' : LockoutClocks} {verification : Option AuthCheckStatus}
    {after : AuthenticationContents} (hpasses : Passes kdf call clocks before middle clocks')
    (hverdict : verification ≠ some .invalid) (hchange : call.replacement.isSome)
    (hafter : ∀ record, middle = some record → ReplacingSecret record call.secret after) :
    AttemptOutcome kdf call clocks before verification (credentialsIn after) clocks' := by
  obtain ⟨record, clock, rfl, hfree, hmatch, rfl, rfl⟩ := hpasses
  rcases hafter _ rfl with hsame | ⟨verifier, hreplaced⟩ | hlost
  · rw [hsame]
    exact .passed hfree hmatch hverdict
  · rw [hreplaced]
    exact .changed verifier hfree hmatch hverdict hchange
  · rw [hlost]
    exact .lost hfree fun h => ⟨h.resolve_right hverdict, hmatch, hchange⟩

/-- What an answered call does to the credentials, it may also do unanswered. -/
theorem AttemptOutcome.leaves {before : Option AuthenticationCredentialRecord}
    {clocks' : LockoutClocks} {verification : Option AuthCheckStatus}
    {after : AuthenticationContents}
    (h : AttemptOutcome kdf call clocks before verification (credentialsIn after) clocks') :
    AttemptLeaves kdf call clocks before after := by
  refine ⟨clocks', ?_⟩
  generalize credentialsIn after = credentials at h ⊢
  cases h with
  | untouched _ => exact .untouched fun h => absurd h not_givesVerdict_none
  | measured _ => exact .measured not_givesVerdict_none
  | failed hfree hmatch _ hclock => exact .failed hfree hmatch nofun hclock
  | passed hfree hmatch _ => exact .passed hfree hmatch nofun
  | changed verifier hfree hmatch _ hchange => exact .changed verifier hfree hmatch nofun hchange
  | lost hfree _ => exact .lost hfree fun h => absurd h not_givesVerdict_none

theorem ensures_changeSecret (hunknown : LeavesNoOther unknown) {replacement : Bytes}
    {salt : Option (Block kAuthenticationSaltBytes)} (hchange : call.replacement.isSome)
    {post : ChangeResult → AuthenticationContents → Prop}
    {crash : AuthenticationContents → Prop}
    (hcrash : ∀ after, AttemptLeaves kdf call clocks (credentialsIn contents) after → crash after)
    (hpost : ∀ result after, AttemptOutcome kdf call clocks (credentialsIn contents)
        result.verification (credentialsIn after) result.clocks → post result after) :
    Program.Ensures (stateStore unknown) crash post
      (changeSecret kdf call.secret call.context call.input replacement salt call.nowMs clocks)
      contents := by
  have hstart := hcrash _ attemptLeaves_start
  have huntouched : ∀ status, post ⟨none, status, clocks⟩ contents := fun status =>
    hpost _ _ (.untouched fun h => absurd h not_givesVerdict_none)
  unfold changeSecret
  split
  · split
    · rw [Program.ensures_bind]
      refine ensures_verifySecret hunknown hcrash fun result middle houtcome hpassed => ?_
      split
      · rename_i hstatus
        have hpasses := hpassed hstatus
        obtain ⟨record, clock, -, -, -, hmiddle, -⟩ := id hpasses
        have hreplaced : ∀ verification after, verification ≠ some .invalid →
            ReplacingSecret (record.afterSuccess call.secret) call.secret after →
              AttemptOutcome kdf call clocks (credentialsIn contents) verification
                (credentialsIn after) result.clocks := by
          intro verification after hverdict hafter
          refine outcome_of_replacingSecret hpasses hverdict hchange fun found hfound => ?_
          cases hmiddle.symm.trans hfound
          exact hafter
        rw [Program.ensures_bind]
        refine ensures_replaceSecret hunknown hmiddle
          (fun after hafter => hcrash _ (hreplaced none after (by rintro ⟨⟩) hafter).leaves)
          fun status after hafter => ?_
        have houtcome := hreplaced (some .authenticated) after (by rintro ⟨⟩) hafter
        exact ⟨hcrash _ houtcome.leaves, hpost _ _ houtcome⟩
      · exact ⟨hcrash _ houtcome.leaves, hpost _ _ houtcome⟩
    · exact ⟨hstart, huntouched _⟩
  · exact ⟨hstart, huntouched _⟩

/-- A call has one of the outcomes, with or without a power failure. -/
theorem AuthenticationCall.ensures_perform (hunknown : LeavesNoOther unknown) (call : AuthenticationCall) :
    Program.Ensures (stateStore unknown)
      (AttemptLeaves kdf call clocks (credentialsIn contents))
      (fun answer after => AttemptOutcome kdf call clocks (credentialsIn contents)
        answer.verification (credentialsIn after) answer.clocks)
      (call.perform kdf clocks) contents := by
  have hcheck : (match call.secret with
      | .webPassword => verifyWebPassword
      | .servicePin => verifyServicePin) = fun kdf => verifySecret kdf call.secret := by
    cases call.secret <;> rfl
  have hchanging : (match call.secret with
      | .webPassword => changeWebPassword
      | .servicePin => changeServicePin) = fun kdf => changeSecret kdf call.secret := by
    cases call.secret <;> rfl
  unfold AuthenticationCall.perform
  split
  · simp only [hcheck]
    rw [Program.ensures_bind]
    exact ensures_verifySecret hunknown (fun _ hafter => hafter) fun result after houtcome _ =>
      ⟨houtcome.leaves, houtcome⟩
  · rename_i replacement salt hreplacement
    simp only [hchanging]
    rw [Program.ensures_bind]
    exact ensures_changeSecret hunknown (by rw [hreplacement]; rfl) (fun _ hafter => hafter)
      fun result after houtcome => ⟨houtcome.leaves, houtcome⟩

end Fermentationsschrank

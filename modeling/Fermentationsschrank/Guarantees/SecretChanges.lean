import Fermentationsschrank.Authentication.SecretChange

/-!
# Changes of a secret

What a change of a secret leaves behind, finished or cut off after any of its writes:
either secret is verified as before, unless the provisioning marker stays in the root, a
served lockout starts again or the record has run out of sequence numbers.
-/

namespace Fermentationsschrank

open AuthenticationDomain
open AuthenticationRecordStore

/-- On a store without errors the check of the secret succeeds with this input. -/
def Verifies (kdf : AuthenticationKdf) (context : AuthenticationBootstrapContext)
    (contents : AuthenticationContents) (secret : AuthSecret) (input : Bytes) (nowMs : UInt64)
    (clocks : LockoutClocks) : Prop :=
  ((verifySecret kdf secret context input nowMs clocks).run faultlessStore contents).1.status =
    .authenticated

instance (kdf : AuthenticationKdf) (context : AuthenticationBootstrapContext)
    (contents : AuthenticationContents) (secret : AuthSecret) (input : Bytes) (nowMs : UInt64)
    (clocks : LockoutClocks) :
    Decidable (Verifies kdf context contents secret input nowMs clocks) :=
  inferInstanceAs (Decidable (_ = _))

/-- The other secret is in force as before, with its lockout. -/
def Unaffected (context : AuthenticationBootstrapContext)
    (before after : AuthenticationContents) (secret : AuthSecret) : Prop :=
  ∀ record, activeCredentials context before = some record →
    ∃ record', activeCredentials context after = some record' ∧
      record'.verifierOf secret = record.verifierOf secret ∧
      record'.enabled secret = record.enabled secret ∧ record.SameLockout record' secret

/-- A derivation that depends on the parameters and the salt alone and never gives the
same verifier for both secrets. -/
structure SeparatesSecrets (kdf : AuthenticationKdf) (current replacement : Bytes) : Prop where
  parameters : ∀ (input : Bytes) (left right : AuthVerifier),
    left.algorithmId = right.algorithmId → left.workFactor = right.workFactor →
      left.salt = right.salt → kdf input left = kdf input right
  separates : ∀ verifier : AuthVerifier, kdf current verifier = some verifier.verifier →
    kdf replacement verifier ≠ some verifier.verifier

/-- What a change may be, whether it ended with a status or not: checks at any later time,
with the clocks that it has left behind. -/
structure ChangeIsAtomic (kdf : AuthenticationKdf) (context : AuthenticationBootstrapContext)
    (secret : AuthSecret) (current replacement : Bytes) (before : AuthenticationContents)
    (clocks : LockoutClocks) (status : Option AuthBootstrapStatus) (definitelyFailed : Prop)
    (after : AuthenticationContents) (clocks' : LockoutClocks) : Prop where
  one : ∀ nowMs laterMs first second,
    ¬(Verifies kdf context after secret current nowMs first ∧
      Verifies kdf context after secret replacement laterMs second)
  unaffected : ∀ other, other ≠ secret → Unaffected context before after other
  other : ∀ other, other ≠ secret → ∀ input laterMs,
    Verifies kdf context after other input laterMs clocks' ↔
      Verifies kdf context before other input laterMs clocks
  allowed : status = some .bootstrapAllowed →
    ∀ laterMs, Verifies kdf context after secret replacement laterMs clocks'
  /-- The root is provisioned again when a secret is verified. -/
  failed : definitelyFailed → ∀ laterMs, Verifies kdf context after secret current laterMs clocks'

variable {kdf faulty : AuthenticationKdf} {context : AuthenticationBootstrapContext}
variable {contents after : AuthenticationContents} {secret : AuthSecret}
variable {record final : AuthenticationCredentialRecord} {root : AuthProvisioningRoot}
variable {current replacement input : Bytes} {salt : Option (Block kAuthenticationSaltBytes)}
variable {nowMs : UInt64} {clocks : LockoutClocks}

/-! ## Checks on a store without errors -/

theorem isPlausible_afterSuccess (h : record.isPlausible = true)
    (hsequence : record.recordSequence ≠ maxUInt64) :
    (record.afterSuccess secret).isPlausible = true := by
  have hnext : record.recordSequence + 1 ≠ 0 := by
    intro hzero
    apply hsequence
    have hsum := congrArg UInt64.toNat hzero
    rw [UInt64.toNat_add, UInt64.toNat_one, UInt64.toNat_zero] at hsum
    apply UInt64.toNat_inj.mp
    have hbound := record.recordSequence.toNat_lt
    change _ = 2 ^ 64 - 1
    omega
  simp only [AuthenticationCredentialRecord.isPlausible, Bool.and_eq_true,
    decide_eq_true_eq] at h ⊢
  obtain ⟨⟨⟨⟨⟨hepoch, -, hepochs⟩, hweb⟩, hpin⟩, hwebLockout⟩, hpinLockout⟩ := h
  cases secret with
  | webPassword => exact ⟨⟨⟨⟨⟨hepoch, hnext, hepochs⟩, hweb⟩, hpin⟩, rfl⟩, hpinLockout⟩
  | servicePin => exact ⟨⟨⟨⟨⟨hepoch, hnext, hepochs⟩, hweb⟩, hpin⟩, hwebLockout⟩, rfl⟩

/-- A store without errors replaces the record it holds by its successor. -/
theorem run_writeCredentials (hheld : HoldsCredentials contents record)
    (hsequence : record.recordSequence ≠ maxUInt64) :
    ((writeCredentials record (record.afterSuccess secret)).run faultlessStore contents).1 =
      .success := by
  obtain ⟨bytes, hbytes, hfits, hdecode⟩ := hheld
  have hplausible := isPlausible_of_decode hdecode
  have hsuccessor : (record.afterSuccess secret).isPlausible = true :=
    isPlausible_afterSuccess hplausible hsequence
  obtain ⟨encoded, hencode⟩ := encodeAuthenticationCredential_of_plausible hsuccessor
  have hsteps : incremented record.recordSequence (record.afterSuccess secret).recordSequence =
      true := decide_eq_true ⟨hsequence, rfl⟩
  have hepoch : record.storageEpoch = (record.afterSuccess secret).storageEpoch := by
    cases secret <;> rfl
  have hput : (contents.put .credentials (some encoded)) .credentials = some encoded :=
    StoreContents.put_same ..
  rw [writeCredentials, hplausible, hsuccessor, hsteps, decide_eq_true hepoch]
  simp only [Bool.and_self, if_true]
  rw [compareAndWrite, encode_decodeAuthenticationCredential hdecode hfits, hencode]
  simp only
  rw [Program.run_bind, run_readStore, readReply_of_some hbytes hfits]
  have hread : (decodeAuthenticationCredential bytes).toOption = some record := by
    rw [hdecode]
    rfl
  simp only [hread, and_self, if_true]
  rw [writeExact, Program.run_bind]
  show ((readStore .credentials kMaximumCredentialEnvelopeBytes >>= fun readback =>
    Program.done (confirm .success encoded decodeAuthenticationCredential
      (record.afterSuccess secret) readback)).run faultlessStore
        (contents.put .credentials (some encoded))).1 = .success
  rw [Program.run_bind, run_readStore, Program.run_done,
    readReply_of_some hput (length_encodeAuthenticationCredential hencode), confirm,
    decode_encodeAuthenticationCredential hencode]
  exact if_pos ⟨rfl, rfl⟩

theorem run_readActiveCredentials :
    ((readActiveCredentials context).run faultlessStore contents).2 = contents := by
  have hkept : ((readActiveRoot context).run faultlessStore contents).2 = contents := by
    rw [run_readActiveRoot]
  rw [readActiveCredentials, Program.run_bind, hkept]
  split
  · split
    · rfl
    · rfl
  · rfl

/-- The attempt of the input is free, right and countable. -/
def CanVerify (kdf : AuthenticationKdf) (record : AuthenticationCredentialRecord)
    (secret : AuthSecret) (input : Bytes) (nowMs : UInt64) (clocks : LockoutClocks) : Prop :=
  record.enabled secret = true ∧ (record.measured secret nowMs clocks).1 = 0 ∧
    record.Matches kdf secret input ∧ record.recordSequence ≠ maxUInt64

/-- The attempts that are counted as right. -/
theorem decideAttempt_eq_authenticated {target : AuthenticationCredentialRecord}
    {clocks' : LockoutClocks} (hepoch : record.storageEpoch = context.storageEpoch) :
    decideAttempt kdf secret context record input nowMs clocks =
        (.count target .authenticated, clocks') ↔
      CanVerify kdf record secret input nowMs clocks ∧ target = record.afterSuccess secret ∧
        clocks' = clocks.set (record.measured secret nowMs clocks).2 secret := by
  have hmeasured : effectiveLockoutRemaining (record.lockoutOf secret) context.storageEpoch
      (record.epochOf secret) nowMs (clocks.of secret) = record.measured secret nowMs clocks := by
    rw [AuthenticationCredentialRecord.measured, hepoch]
  unfold decideAttempt
  rw [hmeasured, CanVerify]
  generalize record.measured secret nowMs clocks = measured
  obtain ⟨remaining, clock⟩ := measured
  simp only
  split_ifs with henabled hlocked
  · refine ⟨by rintro ⟨⟩, fun h => ?_⟩
    cases henabled.symm.trans h.1.1
  · exact ⟨by rintro ⟨⟩, fun h => absurd h.1.2.1 hlocked⟩
  · have hfree := not_not.mp hlocked
    have henabled : record.enabled secret = true := (Bool.not_eq_false _).mp henabled
    unfold decideUnlocked AuthenticationCredentialRecord.Matches
    cases hderived : kdf input (record.verifierOf secret) with
    | none =>
        refine ⟨by rintro ⟨⟩, ?_⟩
        rintro ⟨⟨-, -, ⟨⟩, -⟩, -⟩
    | some derived =>
        simp only
        by_cases hsequence : record.recordSequence = maxUInt64
        · rw [if_pos hsequence]
          exact ⟨by rintro ⟨⟩, fun h => absurd hsequence h.1.2.2.2⟩
        rw [if_neg hsequence]
        by_cases hsame : derived = (record.verifierOf secret).verifier
        · rw [if_pos hsame, if_pos hsame]
          constructor
          · rintro ⟨⟩
            exact ⟨⟨henabled, hfree, congrArg some hsame, hsequence⟩, rfl, rfl⟩
          · rintro ⟨-, rfl, rfl⟩
            rfl
        · rw [if_neg hsame, if_neg hsame]
          exact ⟨by rintro ⟨⟩, fun h => absurd (Option.some.inj h.1.2.2.1) hsame⟩

/-- A check succeeds for the right input once no lockout is in the way, as long as the
record can count the attempt. -/
theorem verifies_iff :
    Verifies kdf context contents secret input nowMs clocks ↔
      secret.validate input = .valid ∧ ∃ record, activeCredentials context contents = some record ∧
        CanVerify kdf record secret input nowMs clocks := by
  have hactive := fun record => @activeCredentials_eq_some contents context record
  have hkept := @run_readActiveCredentials context contents
  unfold Verifies verifySecret
  by_cases hvalid : context.validFor = true
  swap
  · rw [if_neg hvalid]
    refine ⟨by rintro ⟨⟩, ?_⟩
    rintro ⟨-, record, hrecord, -⟩
    exact absurd ((hactive record).mp hrecord).1 hvalid
  by_cases hinput : secret.validate input = .valid
  swap
  · rw [if_pos hvalid, if_neg hinput]
    exact ⟨by rintro ⟨⟩, fun h => absurd h.1 hinput⟩
  rw [if_pos hvalid, if_pos hinput, Program.run_bind, hkept]
  have hread := fun record => @activeCredentials_iff_read contents context record
  generalize ((readActiveCredentials context).run faultlessStore contents).1 = read at hread ⊢
  split
  swap
  · rename_i hnone
    refine ⟨by rintro ⟨⟩, ?_⟩
    rintro ⟨-, record, hrecord, -⟩
    exact absurd ((hread record).mp hrecord) (hnone record)
  rename_i record
  have hsome := (hread record).mpr rfl
  obtain ⟨-, -, hheld, hepoch⟩ := (hactive record).mp hsome
  have hverdict := @decideAttempt_cases kdf ⟨secret, context, input, nowMs, none⟩ clocks record
    hepoch
  simp only [hinput, hsome, true_and, Option.some.injEq, exists_eq_left']
  have hcounted := fun target clocks' => @decideAttempt_eq_authenticated kdf context secret record
    input nowMs clocks target clocks' hepoch
  generalize decideAttempt kdf secret context record input nowMs clocks = decided
    at hverdict hcounted ⊢
  obtain ⟨decision, clocks'⟩ := decided
  cases decision with
  | refused status retryAfterMs =>
      constructor
      · intro hpassed
        cases (show status = .authenticated from hpassed)
        rcases hverdict with ⟨_, _, _, hrefused, hstatus, -⟩ | ⟨-, ⟨⟨⟩, -⟩ | ⟨⟨⟩, -⟩⟩
        cases hrefused
        exact absurd (.inl rfl) hstatus
      · intro hcan
        cases (hcounted _ _).mpr ⟨hcan, rfl, rfl⟩
  | count target verdict =>
      have hrun : ((do
          let retryAfterMs := (target.lockoutOf secret).lockoutRemainingMs
          if (← writeCredentials record target) = .success then
            return ⟨verdict, some retryAfterMs,
              clocks'.set (attemptClock context secret target nowMs) secret⟩
          else return ⟨.recoveryRequired, some retryAfterMs, clocks'⟩ :
            AuthenticationProgram VerificationResult).run faultlessStore contents).1.status =
          .authenticated ↔
        verdict = .authenticated ∧
          ((writeCredentials record target).run faultlessStore contents).1 = .success := by
        simp only
        rw [Program.run_bind]
        split
        · rename_i hstored
          exact ⟨fun h => ⟨h, hstored⟩, fun h => h.1⟩
        · rename_i hstored
          exact ⟨by rintro ⟨⟩, fun h => absurd h.2 hstored⟩
      rw [hrun]
      constructor
      · rintro ⟨rfl, -⟩
        exact ((hcounted _ _).mp rfl).1
      · intro hcan
        cases (hcounted _ _).mpr ⟨hcan, rfl, rfl⟩
        exact ⟨rfl, run_writeCredentials hheld hcan.2.2.2⟩

theorem verifies_iff_of_active (h : activeCredentials context contents = some record) :
    Verifies kdf context contents secret input nowMs clocks ↔
      secret.validate input = .valid ∧ CanVerify kdf record secret input nowMs clocks := by
  rw [verifies_iff, h]
  simp only [Option.some.injEq, exists_eq_left']

/-! ## The credentials that are left -/

/-- Behind the marker no credentials are in force. -/
theorem activeCredentials_of_marked (hroot : HoldsRoot contents root.marked) :
    activeCredentials context contents = none := by
  rw [Option.eq_none_iff_forall_not_mem]
  intro record hrecord
  obtain ⟨-, ⟨found, hheld, -, hstate⟩, -⟩ := activeCredentials_eq_some.mp hrecord
  cases hroot.unique hheld
  cases hstate

/-- The verifier that a change has computed is the one of the new secret. -/
theorem derives_newVerifier {verifier : AuthVerifier}
    (hsecret : RightSecret kdf faulty record secret current)
    (hkdf : SeparatesSecrets kdf current replacement)
    (h : newVerifier faulty record secret current replacement salt = some verifier) :
    kdf replacement verifier = some verifier.verifier := by
  simp only [newVerifier, makeVerifier, Option.bind_eq_bind, Option.bind_eq_some_iff] at h
  obtain ⟨_, -, salt, -, derived, hderived, hverifier⟩ := h
  cases hverifier
  rw [← hsecret.derives _ _ _ hderived]
  exact hkdf.parameters _ _ _ rfl rfl rfl

/-- So many of the first writes of a change store credentials. -/
def credentialWrites : ℕ → UInt64
  | 0 => 0
  | 1 => 1
  | 2 => 1
  | _ => 2

/-- The credentials that a change leaves in force after so many writes. -/
structure LeftInForce (kdf : AuthenticationKdf) (record : AuthenticationCredentialRecord)
    (secret : AuthSecret) (current replacement : Bytes) (effective : ℕ)
    (final : AuthenticationCredentialRecord) : Prop where
  other : ∀ other, other ≠ secret → final.verifierOf other = record.verifierOf other ∧
    final.enabled other = record.enabled other ∧ record.SameLockout final other
  enabled : final.enabled secret = record.enabled secret
  countable : effective ≠ 0 → record.recordSequence ≠ maxUInt64
  sequence : final.recordSequence = record.recordSequence + credentialWrites effective
  kept : effective < 4 → final.Matches kdf secret current
  replaced : effective = 4 → final.Matches kdf secret replacement
  lockout : effective = 0 → final.lockoutOf secret = record.lockoutOf secret
  cleared : effective ≠ 0 → final.lockoutOf secret = {}

/-- Of the five stages the two with the marker are the ones where nothing is in force. -/
theorem left_of_stage {world : CountedContents}
    (hprovisioned : Provisioned context contents root record)
    (hsecret : RightSecret kdf faulty record secret current)
    (hkdf : SeparatesSecrets kdf current replacement)
    (hstage : AtSomeStage record root secret
      (newVerifier faulty record secret current replacement salt) world) :
    (activeCredentials context world.contents = none ∧
        (world.effective = 2 ∨ world.effective = 3)) ∨
      ∃ final, activeCredentials context world.contents = some final ∧
        (world.effective ≠ 2 ∧ world.effective ≠ 3) ∧
        LeftInForce kdf record secret current replacement world.effective final := by
  obtain ⟨stage, hcontents, heffective, -, hcountable⟩ := hstage
  rw [heffective]
  have hactive : ∀ {found final}, found.BoundTo context → found.state = .provisioned →
      HoldsRoot world.contents found → HoldsCredentials world.contents final →
        final.storageEpoch = record.storageEpoch →
          activeCredentials context world.contents = some final :=
    fun hbound hstate hheld hcredentials hepoch => activeCredentials_eq_some.mpr
      ⟨hprovisioned.valid, ⟨_, hheld, hbound, hstate⟩, hcredentials,
        hepoch.trans hprovisioned.epoch⟩
  rcases stage with _ | _ | _ | _ | _ | stage
  · obtain ⟨hcredentials, hheld⟩ := hcontents
    refine .inr ⟨record, hactive hprovisioned.bound hprovisioned.state hheld hcredentials rfl,
      by decide, fun _ _ => ⟨rfl, rfl, rfl, rfl, rfl⟩, rfl, hcountable, (UInt64.add_zero _).symm,
      fun _ => hsecret.matching, by rintro ⟨⟩, fun _ => rfl, fun h => absurd rfl h⟩
  · obtain ⟨hcredentials, hheld⟩ := hcontents
    refine .inr ⟨_, hactive hprovisioned.bound hprovisioned.state hheld hcredentials ?_,
      by decide, fun other hother => ⟨?_, ?_, AuthenticationCredentialRecord.sameLockout_counted
        hother.symm⟩, ?_, hcountable, rfl, fun _ => ?_, by rintro ⟨⟩, by rintro ⟨⟩, fun _ => ?_⟩
    · cases secret <;> rfl
    · cases other <;> cases secret <;> rfl
    · cases other <;> cases secret <;> rfl
    · cases secret <;> rfl
    · have hright := hsecret.matching
      cases secret <;> exact hright
    · exact AuthenticationCredentialRecord.lockoutOf_counted
  · obtain ⟨-, -, hheld⟩ := hcontents
    exact .inl ⟨activeCredentials_of_marked hheld, by decide⟩
  · obtain ⟨_, -, -, hheld⟩ := hcontents
    exact .inl ⟨activeCredentials_of_marked hheld, by decide⟩
  · obtain ⟨new, hnew, hcredentials, hheld⟩ := hcontents
    have hderives := derives_newVerifier hsecret hkdf hnew
    refine .inr ⟨_, @hactive root.marked.unmarked _ hprovisioned.bound rfl hheld hcredentials ?_,
      by decide,
      fun other hother => ⟨?_, ?_, (AuthenticationCredentialRecord.sameLockout_counted
        hother.symm).trans (AuthenticationCredentialRecord.sameLockout_replaced hother.symm)⟩,
      ?_, hcountable, ?_, fun h => absurd h (by decide), fun _ => ?_, by rintro ⟨⟩, fun _ => ?_⟩
    · cases secret <;> rfl
    · cases other <;> cases secret <;> first | exact absurd rfl hother | rfl
    · cases other <;> cases secret <;> first | exact absurd rfl hother | rfl
    · cases secret <;> rfl
    · rw [AuthenticationCredentialRecord.recordSequence_replaced]
      exact UInt64.add_assoc _ 1 1
    · cases secret <;> exact hderives
    · exact AuthenticationCredentialRecord.lockoutOf_replaced
  · cases hcontents

/-- Without a clock a stored lockout is measured anew. -/
theorem measured_fresh (h : clocks.of secret = {}) :
    (record.measured secret nowMs clocks).1 = (record.lockoutOf secret).lockoutRemainingMs := by
  rw [AuthenticationCredentialRecord.measured, h, effectiveLockoutRemaining]
  split_ifs with hnone hfresh
  · exact hnone.symm
  · rfl
  · exact absurd (.inl rfl) hfresh
  · exact absurd (.inl rfl) hfresh

theorem measured_cleared (h : record.lockoutOf secret = {}) :
    (record.measured secret nowMs clocks).1 = 0 := by
  rw [AuthenticationCredentialRecord.measured, h]
  rfl

/-! ## Changes -/

/-- The record has no number left for another attempt. -/
def UsedUp (record : AuthenticationCredentialRecord) (effective : ℕ) : Prop :=
  record.recordSequence + credentialWrites effective = maxUInt64

/-- How a change may go wrong: the marker stays, a served lockout starts again after a
definite failure, or the last sequence number is used. -/
inductive ChangeSpoiled (kdf : AuthenticationKdf) (context : AuthenticationBootstrapContext)
    (secret : AuthSecret) (before : AuthenticationContents)
    (record : AuthenticationCredentialRecord) (clocks : LockoutClocks)
    (definitelyFailed finished : Prop) (effective : ℕ) : Prop
  | marked (h : effective = 2 ∨ effective = 3)
  | lockout (hfailed : definitelyFailed) (hfirst : effective = 0)
      (hlockout : (record.lockoutOf secret).lockoutRemainingMs ≠ 0)
  | current (hfailed : definitelyFailed) (hused : UsedUp record effective)
  | replacement (hfinished : finished) (hused : UsedUp record effective)
  | other (other : AuthSecret) (input : Bytes) (laterMs : UInt64) (hother : other ≠ secret)
      (hverifies : Verifies kdf context before other input laterMs clocks)
      (hcounted : effective ≠ 0) (hused : UsedUp record effective)

theorem exists_other (secret : AuthSecret) : ∃ other, other ≠ secret := by
  cases secret with
  | webPassword => exact ⟨.servicePin, by decide⟩
  | servicePin => exact ⟨.webPassword, by decide⟩

namespace LeftInForce

variable {effective : ℕ} {laterMs : UInt64}

theorem usedUp_iff (h : LeftInForce kdf record secret current replacement effective final) :
    final.recordSequence = maxUInt64 ↔ UsedUp record effective := by
  rw [h.sequence, UsedUp]

/-- A served lockout that is not cleared starts again. -/
theorem verifies_current
    (h : LeftInForce kdf record secret current replacement effective final)
    (hfinal : activeCredentials context after = some final)
    (hvalid : secret.validate current = .valid) (hfirst : effective < 4)
    (henabled : record.enabled secret = true)
    (hfresh : effective = 0 → clocks.of secret = {}) :
    Verifies kdf context after secret current laterMs clocks ↔
      (effective = 0 → (record.lockoutOf secret).lockoutRemainingMs = 0) ∧
        ¬UsedUp record effective := by
  have hmeasured : (final.measured secret laterMs clocks).1 = 0 ↔
      (effective = 0 → (record.lockoutOf secret).lockoutRemainingMs = 0) := by
    by_cases hzero : effective = 0
    · rw [measured_fresh (hfresh hzero), h.lockout hzero]
      exact ⟨fun h _ => h, fun h => h hzero⟩
    · exact ⟨fun _ h => absurd h hzero, fun _ => measured_cleared (h.cleared hzero)⟩
  rw [verifies_iff_of_active hfinal, CanVerify, h.enabled, hmeasured, ← h.usedUp_iff]
  exact ⟨fun hcan => ⟨hcan.2.2.1, hcan.2.2.2.2⟩,
    fun hcan => ⟨hvalid, henabled, hcan.1, h.kept hfirst, hcan.2⟩⟩

theorem verifies_replacement
    (h : LeftInForce kdf record secret current replacement effective final)
    (hfinal : activeCredentials context after = some final)
    (hvalid : secret.validate replacement = .valid) (hlast : effective = 4)
    (henabled : record.enabled secret = true) :
    Verifies kdf context after secret replacement laterMs clocks ↔
      ¬UsedUp record effective := by
  have hcounted : effective ≠ 0 := by
    rw [hlast]
    decide
  rw [verifies_iff_of_active hfinal, CanVerify, h.enabled, ← h.usedUp_iff]
  exact ⟨fun hcan => hcan.2.2.2.2, fun hcan => ⟨hvalid, henabled,
    measured_cleared (h.cleared hcounted), h.replaced hlast, hcan⟩⟩

theorem verifies_other {other : AuthSecret} {clocks' : LockoutClocks}
    (h : LeftInForce kdf record secret current replacement effective final)
    (hfinal : activeCredentials context after = some final) (hother : other ≠ secret)
    (hclocks : clocks'.of other = clocks.of other) :
    Verifies kdf context after other input laterMs clocks' ↔
      other.validate input = .valid ∧ record.enabled other = true ∧
        (record.measured other laterMs clocks).1 = 0 ∧ record.Matches kdf other input ∧
        ¬UsedUp record effective := by
  obtain ⟨hverifier, henabled, hlockout, hepoch, hstorage⟩ := h.other other hother
  rw [verifies_iff_of_active hfinal, CanVerify, henabled, ← h.usedUp_iff,
    AuthenticationCredentialRecord.Matches, hverifier,
    AuthenticationCredentialRecord.measured, hlockout, hepoch, hstorage, hclocks]
  rfl

/-- Nothing happens to the other secret, unless the last number is used in the attempt. -/
theorem verifies_other_iff {other : AuthSecret} {clocks' : LockoutClocks}
    (h : LeftInForce kdf record secret current replacement effective final)
    (hfinal : activeCredentials context after = some final)
    (hactive : activeCredentials context contents = some record) (hother : other ≠ secret)
    (hclocks : clocks'.of other = clocks.of other)
    (hunused : effective ≠ 0 → Verifies kdf context contents other input laterMs clocks →
      ¬UsedUp record effective) :
    Verifies kdf context after other input laterMs clocks' ↔
      Verifies kdf context contents other input laterMs clocks := by
  have hbefore := @verifies_iff_of_active kdf context contents other record input laterMs clocks
    hactive
  rw [h.verifies_other hfinal hother hclocks]
  by_cases hzero : effective = 0
  · have hsequence : UsedUp record effective ↔ record.recordSequence = maxUInt64 := by
      rw [UsedUp, hzero]
      exact iff_of_eq (congrArg (· = maxUInt64) (UInt64.add_zero _))
    rw [hbefore, CanVerify, hsequence]
  · constructor
    · rintro ⟨hvalid, henabled, hfree, hmatch, -⟩
      exact hbefore.mpr ⟨hvalid, henabled, hfree, hmatch, h.countable hzero⟩
    · intro hverifies
      obtain ⟨hvalid, henabled, hfree, hmatch, -⟩ := hbefore.mp hverifies
      exact ⟨hvalid, henabled, hfree, hmatch, hunused hzero hverifies⟩

end LeftInForce

theorem atomic_iff_of_stage {world : CountedContents} {status : Option AuthBootstrapStatus}
    {definitelyFailed finished : Prop} {clocks' : LockoutClocks} {clock : LockoutClock}
    (hprovisioned : Provisioned context contents root record)
    (hsecret : RightSecret kdf faulty record secret current)
    (hreplacement : secret.validate replacement = .valid)
    (hkdf : SeparatesSecrets kdf current replacement)
    (hstage : AtSomeStage record root secret
      (newVerifier faulty record secret current replacement salt) world)
    (hclocks : clocks' = clocks.set clock secret)
    (hallowed : status = some .bootstrapAllowed ↔ finished)
    (hfinished : finished → world.effective = 4 ∧ record.enabled secret = true)
    (hfailed : definitelyFailed → world.effective < 4 ∧ record.enabled secret = true ∧
      (world.effective = 0 → clocks'.of secret = {})) :
    ChangeIsAtomic kdf context secret current replacement contents clocks status definitelyFailed
        world.contents clocks' ↔
      ¬ChangeSpoiled kdf context secret contents record clocks definitelyFailed finished
        world.effective := by
  have hactive := activeCredentials_iff_provisioned.mpr ⟨root, hprovisioned⟩
  have hothers : ∀ other, other ≠ secret → clocks'.of other = clocks.of other := by
    intro other hother
    rw [hclocks]
    cases other <;> cases secret <;> first | exact absurd rfl hother | rfl
  rcases left_of_stage hprovisioned hsecret hkdf hstage with
    ⟨hnone, hmarked⟩ | ⟨final, hfinal, hunmarked, hleft⟩
  · refine ⟨fun h => ?_, fun h => absurd (.marked hmarked) h⟩
    obtain ⟨other, hother⟩ := exists_other secret
    obtain ⟨record', hrecord', -⟩ := h.unaffected other hother record hactive
    cases hnone.symm.trans hrecord'
  have hcurrent := fun hfails laterMs => @LeftInForce.verifies_current kdf context
    world.contents secret record final current replacement clocks' world.effective laterMs hleft
    hfinal hsecret.valid (hfailed hfails).1 (hfailed hfails).2.1 (hfailed hfails).2.2
  have hreplaced := fun hdone laterMs => @LeftInForce.verifies_replacement kdf context
    world.contents secret record final current replacement clocks' world.effective laterMs hleft
    hfinal hreplacement (hfinished hdone).1 (hfinished hdone).2
  constructor
  · rintro h (hmarked | ⟨hfails, hzero, hlockout⟩ | ⟨hfails, hspent⟩ | ⟨hdone, hspent⟩ |
      ⟨other, input, laterMs, hother, hbefore, -, hspent⟩)
    · rcases hmarked with htwo | hthree
      · exact hunmarked.1 htwo
      · exact hunmarked.2 hthree
    · exact hlockout (((hcurrent hfails 0).mp (h.failed hfails 0)).1 hzero)
    · exact ((hcurrent hfails 0).mp (h.failed hfails 0)).2 hspent
    · exact (hreplaced hdone 0).mp (h.allowed (hallowed.mpr hdone) 0) hspent
    · have hafter := (h.other other hother input laterMs).mpr hbefore
      have hcan := (hleft.verifies_other hfinal hother (hothers other hother)).mp hafter
      exact hcan.2.2.2.2 hspent
  · intro h
    refine ⟨?_, fun other hother before hbefore => ?_, fun other hother input laterMs => ?_,
      fun hstatus laterMs => ?_, fun hfails laterMs => ?_⟩
    · rintro _ _ _ _ ⟨hfirst, hsecond⟩
      have hold := (verifies_iff_of_active hfinal).mp hfirst
      exact hkdf.separates _ hold.2.2.2.1 ((verifies_iff_of_active hfinal).mp hsecond).2.2.2.1
    · cases hactive.symm.trans hbefore
      exact ⟨final, hfinal, hleft.other other hother⟩
    · exact hleft.verifies_other_iff hfinal hactive hother (hothers other hother)
        fun hzero hverifies hspent =>
          h (.other other input laterMs hother hverifies hzero hspent)
    · have hdone := hallowed.mp hstatus
      exact (hreplaced hdone laterMs).mpr fun hspent => h (.replacement hdone hspent)
    · refine (hcurrent hfails laterMs).mpr
        ⟨fun hzero => ?_, fun hspent => h (.current hfails hspent)⟩
      by_contra hlockout
      exact h (.lockout hfails hzero hlockout)

/-- The verifier is the secret itself. -/
def plainKdf : AuthenticationKdf := fun secret _ =>
  some ⟨(secret ++ List.replicate 32 0).take 32, by simp [kAuthenticationVerifierBytes]⟩

def oldPin : Bytes := [49, 50, 51, 52]
def newPin : Bytes := [53, 54, 55, 56]

def pinContext : AuthenticationBootstrapContext := ⟨true, 1, 1⟩

def pinRecord : AuthenticationCredentialRecord where
  storageEpoch := 1
  servicePin := { verifier := ⟨oldPin ++ List.replicate 28 0, rfl⟩ }

def pinContents : AuthenticationContents
  | .credentials => (encodeAuthenticationCredential pinRecord).toOption
  | .root =>
      (encodeAuthProvisioningRoot
        { storageEpoch := 1, state := .provisioned, bootstrapSequenceBinding := 1 }).toOption

theorem plainKdf_separates : SeparatesSecrets plainKdf oldPin newPin := by
  refine ⟨fun _ _ _ _ _ _ => rfl, fun verifier hold hnew => ?_⟩
  have hother : plainKdf oldPin {} ≠ plainKdf newPin {} := by decide
  exact hother (hold.trans hnew.symm)

theorem pinRecord_right : RightSecret plainKdf plainKdf pinRecord .servicePin oldPin :=
  ⟨rfl, fun _ _ _ h => h, by decide⟩

theorem newPin_valid : AuthSecret.servicePin.validate newPin = .valid := rfl

/-- A store that refuses every write after so many. -/
def refusingStore (limit : ℕ) (world : CountedContents) :
    (request : StoreCall AuthenticationStoreKey) → StoreReply request × CountedContents
  | .read key maxBytes => (readReply world.contents key maxBytes, world)
  | .write key value =>
      if world.effective < limit then (.success, world.wrote key value)
      else (.writeError, world.refuse)

theorem refusingStore_counts (limit : ℕ) (world : CountedContents)
    (request : StoreCall AuthenticationStoreKey) :
    countingStore world request (refusingStore limit world request).1
      (refusingStore limit world request).2 := by
  cases request with
  | read key maxBytes => exact .inl ⟨rfl, rfl⟩
  | write key value =>
      rw [refusingStore]
      split
      · exact .inl ⟨rfl, .inl rfl⟩
      · exact .inr (.inl ⟨rfl, .inl rfl⟩)

/-- The change of the PIN on a store that refuses every write after so many. -/
def pinChange (limit : ℕ) : ChangeResult × CountedContents :=
  (changeServicePin plainKdf pinContext oldPin newPin (some (.zero _)) 0 {}).run
    (refusingStore limit) { contents := pinContents }

theorem pinChange_finishes (limit : ℕ) : Program.Finishes countingStore
    (changeSecret plainKdf .servicePin pinContext oldPin newPin (some (.zero _)) 0 {})
    { contents := pinContents } (pinChange limit).1 (pinChange limit).2 :=
  Program.finishes_run (refusingStore_counts limit) _ _

set_option maxRecDepth 1000000 in
theorem pinContents_active : activeCredentials pinContext pinContents = some pinRecord := by
  decide +kernel

set_option maxRecDepth 1000000 in
theorem effective_pinChange : (pinChange 0).2.effective = 0 ∧ (pinChange 2).2.effective = 2 := by
  decide +kernel

end Fermentationsschrank

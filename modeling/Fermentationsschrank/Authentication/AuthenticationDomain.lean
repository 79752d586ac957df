import Fermentationsschrank.Authentication.AuthenticationStore

/-!
# Authentication domain

The checks of the web password and the service PIN, each with its lockout, and the
change of either secret.  The two secrets share one credential record; a lockout is
stored as a duration and measured by a clock that does not survive a reboot.
-/

namespace Fermentationsschrank

/-! ## Input -/

inductive AuthInputStatus
  | valid
  | invalidUtf8
  | invalidLength
  | capacityExceeded
  deriving DecidableEq, Repr

/-- The code point behind a lead byte, given its continuation bytes. -/
def codePointOf (lead : UInt32) (continuation : Bytes) : Option UInt32 :=
  continuation.foldl
    (fun (codePoint : Option UInt32) (byte : UInt8) => codePoint.bind fun codePoint =>
      if byte &&& 0xC0 ≠ 0x80 then none
      else some (codePoint <<< 6 ||| (byte &&& 0x3F).toUInt32))
    (some lead)

/-- The code point is not written in fewer bytes, is in range and no surrogate. -/
def validCodePoint (width : ℕ) (codePoint : UInt32) : Bool :=
  ¬((width = 2 ∧ codePoint < 0x80) ∨ (width = 3 ∧ codePoint < 0x800) ∨
    (width = 4 ∧ codePoint < 0x10000) ∨ codePoint > 0x10FFFF ∨
    (0xD800 ≤ codePoint ∧ codePoint ≤ 0xDFFF))

/-- The number of code points of a well-formed UTF-8 text. -/
def validUtf8 : Bytes → Option ℕ
  | [] => some 0
  | byte :: rest =>
      if byte ≤ 0x7F then (validUtf8 rest).map (· + 1)
      else if 0xC2 ≤ byte ∧ byte ≤ 0xDF then
        match rest with
        | second :: rest =>
            if (codePointOf (byte &&& 0x1F).toUInt32 [second]).any (validCodePoint 2) then
              (validUtf8 rest).map (· + 1)
            else none
        | _ => none
      else if 0xE0 ≤ byte ∧ byte ≤ 0xEF then
        match rest with
        | second :: third :: rest =>
            if (codePointOf (byte &&& 0x0F).toUInt32 [second, third]).any (validCodePoint 3) then
              (validUtf8 rest).map (· + 1)
            else none
        | _ => none
      else if 0xF0 ≤ byte ∧ byte ≤ 0xF4 then
        match rest with
        | second :: third :: fourth :: rest =>
            if (codePointOf (byte &&& 0x07).toUInt32 [second, third, fourth]).any
                (validCodePoint 4) then
              (validUtf8 rest).map (· + 1)
            else none
        | _ => none
      else none

def validateWebPassword (value : Bytes) : AuthInputStatus :=
  if value.length > 256 then .capacityExceeded
  else match validUtf8 value with
    | none => .invalidUtf8
    | some codePoints => if 15 ≤ codePoints ∧ codePoints ≤ 64 then .valid else .invalidLength

def validateServicePin (value : Bytes) : AuthInputStatus :=
  if value.length ≠ 4 then .invalidLength
  else if value.all fun byte => 48 ≤ byte ∧ byte ≤ 57 then .valid
  else .invalidLength

/-! ## Secrets -/

inductive AuthSecret
  | webPassword
  | servicePin
  deriving DecidableEq, Repr

/-- Failures before a lockout, and how its duration grows with the stage. -/
structure LockoutPolicy where
  maximumFailures : UInt32
  maximumExponent : UInt8
  maximumDurationMs : UInt64

namespace LockoutPolicy

def durationMs (policy : LockoutPolicy) (lockoutStage : UInt8) : UInt64 :=
  min policy.maximumDurationMs
    ((30 * 1000 : UInt64) <<< (min (lockoutStage - 1) policy.maximumExponent).toUInt64)

end LockoutPolicy

namespace AuthSecret

def policy : AuthSecret → LockoutPolicy
  | .webPassword => ⟨5, 5, 15 * 60 * 1000⟩
  | .servicePin => ⟨3, 6, 30 * 60 * 1000⟩

def validate : AuthSecret → Bytes → AuthInputStatus
  | .webPassword => validateWebPassword
  | .servicePin => validateServicePin

end AuthSecret

namespace AuthenticationCredentialRecord

/-- Only the web password can be switched off. -/
def enabled (record : AuthenticationCredentialRecord) : AuthSecret → Bool
  | .webPassword => record.webPasswordEnabled
  | .servicePin => true

def verifierOf (record : AuthenticationCredentialRecord) : AuthSecret → AuthVerifier
  | .webPassword => record.webPassword
  | .servicePin => record.servicePin

def epochOf (record : AuthenticationCredentialRecord) : AuthSecret → UInt64
  | .webPassword => record.webCredentialEpoch
  | .servicePin => record.servicePinCredentialEpoch

def lockoutOf (record : AuthenticationCredentialRecord) : AuthSecret → AuthLockoutState
  | .webPassword => record.webLockout
  | .servicePin => record.servicePinLockout

def withLockout (record : AuthenticationCredentialRecord) (lockout : AuthLockoutState) :
    AuthSecret → AuthenticationCredentialRecord
  | .webPassword => { record with webLockout := lockout }
  | .servicePin => { record with servicePinLockout := lockout }

def withVerifier (record : AuthenticationCredentialRecord) (verifier : AuthVerifier)
    (epoch : UInt64) : AuthSecret → AuthenticationCredentialRecord
  | .webPassword => { record with webPassword := verifier, webCredentialEpoch := epoch }
  | .servicePin => { record with servicePin := verifier, servicePinCredentialEpoch := epoch }

/-- The successor of the record with another lockout of the secret. -/
def counted (record : AuthenticationCredentialRecord) (secret : AuthSecret)
    (lockout : AuthLockoutState) : AuthenticationCredentialRecord :=
  { record.withLockout lockout secret with recordSequence := record.recordSequence + 1 }

/-- The successor of the record with another secret and no lockout on it. -/
def replaced (record : AuthenticationCredentialRecord) (secret : AuthSecret)
    (verifier : AuthVerifier) : AuthenticationCredentialRecord :=
  (record.withVerifier verifier (record.epochOf secret + 1) secret).counted secret {}

end AuthenticationCredentialRecord

/-! ## Lockouts -/

/-- Measures a stored lockout; valid for exactly this one. -/
structure LockoutClock where
  storageEpoch : UInt64 := 0
  credentialEpoch : UInt64 := 0
  persisted : AuthLockoutState := {}
  anchorMs : UInt64 := 0
  remainingMs : UInt64 := 0
  initialized : Bool := false
  deriving DecidableEq, Repr

structure LockoutClocks where
  webLockoutClock : LockoutClock := {}
  servicePinLockoutClock : LockoutClock := {}
  deriving DecidableEq, Repr

namespace LockoutClocks

def of (clocks : LockoutClocks) : AuthSecret → LockoutClock
  | .webPassword => clocks.webLockoutClock
  | .servicePin => clocks.servicePinLockoutClock

def set (clocks : LockoutClocks) (clock : LockoutClock) : AuthSecret → LockoutClocks
  | .webPassword => { clocks with webLockoutClock := clock }
  | .servicePin => { clocks with servicePinLockoutClock := clock }

theorem of_set (clocks : LockoutClocks) (clock : LockoutClock) (secret : AuthSecret) :
    (clocks.set clock secret).of secret = clock := by
  cases secret <;> rfl

end LockoutClocks

/-- What remains of the stored lockout, and the clock that measured it. -/
def effectiveLockoutRemaining (persisted : AuthLockoutState)
    (storageEpoch credentialEpoch nowMs : UInt64) (clock : LockoutClock) :
    UInt64 × LockoutClock :=
  if persisted.lockoutRemainingMs = 0 then (0, {})
  else if clock.initialized = false ∨ clock.storageEpoch ≠ storageEpoch ∨
      clock.credentialEpoch ≠ credentialEpoch ∨ clock.persisted ≠ persisted ∨
      nowMs < clock.anchorMs then
    (persisted.lockoutRemainingMs,
      ⟨storageEpoch, credentialEpoch, persisted, nowMs, persisted.lockoutRemainingMs, true⟩)
  else if clock.remainingMs ≤ nowMs - clock.anchorMs then (0, {})
  else
    let remainingMs := clock.remainingMs - (nowMs - clock.anchorMs)
    (remainingMs, { clock with remainingMs, anchorMs := nowMs })

/-- The lockout after one more failure: every so many failures start the next one. -/
def AuthLockoutState.failed (lockout : AuthLockoutState) (policy : LockoutPolicy) :
    AuthLockoutState :=
  let failedAttempts := lockout.failedAttempts + 1
  if policy.maximumFailures ≤ failedAttempts then
    let lockoutStage :=
      if lockout.lockoutStage < 31 then lockout.lockoutStage + 1 else lockout.lockoutStage
    ⟨0, lockoutStage, policy.durationMs lockoutStage⟩
  else ⟨failedAttempts, lockout.lockoutStage, 0⟩

/-! ## Context -/

/-- Created by the recovery of the configuration for one store. -/
structure AuthenticationBootstrapContext where
  storeMatches : Bool
  storageEpoch : UInt64
  bootstrapSequence : UInt64
  deriving DecidableEq, Repr

def AuthenticationBootstrapContext.validFor (context : AuthenticationBootstrapContext) : Bool :=
  context.storeMatches ∧ context.storageEpoch ≠ 0 ∧ context.bootstrapSequence ≠ 0

inductive AuthCheckStatus
  | authenticated
  | disabled
  | invalid
  | lockedOut
  | recoveryRequired
  | kdfUnavailable
  deriving DecidableEq, Repr

inductive AuthBootstrapStatus
  | bootstrapAllowed
  | notProvisioned
  | recoveryRequired
  | alreadyProvisioned
  | invalidInput
  | authenticationDenied
  | lockedOut
  | authenticationDisabled
  | kdfUnavailable
  | persistenceFailure
  | commitOutcomeUnknown
  deriving DecidableEq, Repr

def AuthCheckStatus.mapCredentialVerification : AuthCheckStatus → AuthBootstrapStatus
  | .authenticated => .bootstrapAllowed
  | .disabled => .authenticationDisabled
  | .invalid => .authenticationDenied
  | .lockedOut => .lockedOut
  | .recoveryRequired => .recoveryRequired
  | .kdfUnavailable => .kdfUnavailable

/-- The derivation of a verifier from a secret, which may be unavailable. -/
abbrev AuthenticationKdf :=
  Bytes → AuthVerifier → Option (Block kAuthenticationVerifierBytes)

namespace AuthenticationDomain

open AuthenticationRecordStore

def readActiveRoot (context : AuthenticationBootstrapContext) :
    AuthenticationProgram (AuthenticationReadResult AuthProvisioningRoot) :=
  if context.validFor then do
    let root ← readRoot context.storageEpoch
    match root with
    | ⟨.success, some value⟩ =>
        if value.bootstrapSequenceBinding = context.bootstrapSequence then return root
        else return {}
    | _ => return {}
  else return {}

def readActiveCredentials (context : AuthenticationBootstrapContext) :
    AuthenticationProgram (AuthenticationReadResult AuthenticationCredentialRecord) := do
  match ← readActiveRoot context with
  | ⟨.success, some root⟩ =>
      if root.state = .provisioned then readCredentials context.storageEpoch
      else return {}
  | _ => return {}

/-! ## Verification -/

/-- The clocks change with every check of a lockout; the retry time is left alone
when there is none. -/
structure VerificationResult where
  status : AuthCheckStatus
  retryAfterMs : Option UInt64 := some 0
  clocks : LockoutClocks
  deriving DecidableEq, Repr

/-- One attempt on a loaded record: refused, or counted by the record to write. -/
inductive AttemptDecision
  | refused (status : AuthCheckStatus) (retryAfterMs : UInt64)
  | count (target : AuthenticationCredentialRecord) (verdict : AuthCheckStatus)

/-- The attempt once no lockout is in the way. -/
def decideUnlocked (kdf : AuthenticationKdf) (secret : AuthSecret)
    (record : AuthenticationCredentialRecord) (input : Bytes) : AttemptDecision :=
  match kdf input (record.verifierOf secret) with
  | none => .refused .kdfUnavailable 0
  | some derived =>
      let matching := derived = (record.verifierOf secret).verifier
      let lockout :=
        if matching then {} else (record.lockoutOf secret).failed secret.policy
      if record.recordSequence = maxUInt64 then
        .refused .recoveryRequired lockout.lockoutRemainingMs
      else
        .count (record.counted secret lockout) (if matching then .authenticated else .invalid)

def decideAttempt (kdf : AuthenticationKdf) (secret : AuthSecret)
    (context : AuthenticationBootstrapContext) (record : AuthenticationCredentialRecord)
    (input : Bytes) (nowMs : UInt64) (clocks : LockoutClocks) :
    AttemptDecision × LockoutClocks :=
  if record.enabled secret = false then (.refused .disabled 0, clocks)
  else
    let (remaining, clock) := effectiveLockoutRemaining (record.lockoutOf secret)
      context.storageEpoch (record.epochOf secret) nowMs (clocks.of secret)
    if remaining ≠ 0 then (.refused .lockedOut remaining, clocks.set clock secret)
    else (decideUnlocked kdf secret record input, clocks.set clock secret)

/-- The clock that starts with a stored attempt. -/
def attemptClock (context : AuthenticationBootstrapContext) (secret : AuthSecret)
    (target : AuthenticationCredentialRecord) (nowMs : UInt64) : LockoutClock :=
  ⟨context.storageEpoch, target.epochOf secret, target.lockoutOf secret, nowMs,
    (target.lockoutOf secret).lockoutRemainingMs, true⟩

/-- The check of either secret.  The verdict waits for the stored record. -/
def verifySecret (kdf : AuthenticationKdf) (secret : AuthSecret)
    (context : AuthenticationBootstrapContext) (input : Bytes) (nowMs : UInt64)
    (clocks : LockoutClocks) : AuthenticationProgram VerificationResult :=
  if context.validFor then
    if secret.validate input = .valid then do
      match ← readActiveCredentials context with
      | ⟨.success, some record⟩ =>
          match decideAttempt kdf secret context record input nowMs clocks with
          | (.refused status retryAfterMs, clocks) => return ⟨status, some retryAfterMs, clocks⟩
          | (.count target verdict, clocks) => do
              let retryAfterMs := (target.lockoutOf secret).lockoutRemainingMs
              if (← writeCredentials record target) = .success then
                return ⟨verdict, some retryAfterMs,
                  clocks.set (attemptClock context secret target nowMs) secret⟩
              else return ⟨.recoveryRequired, some retryAfterMs, clocks⟩
      | _ => return ⟨.recoveryRequired, some 0, clocks⟩
    else return ⟨.invalid, some 0, clocks⟩
  else return ⟨.recoveryRequired, none, clocks⟩

def verifyWebPassword (kdf : AuthenticationKdf) :
    AuthenticationBootstrapContext → Bytes → UInt64 → LockoutClocks →
      AuthenticationProgram VerificationResult :=
  verifySecret kdf .webPassword

def verifyServicePin (kdf : AuthenticationKdf) :
    AuthenticationBootstrapContext → Bytes → UInt64 → LockoutClocks →
      AuthenticationProgram VerificationResult :=
  verifySecret kdf .servicePin

/-! ## Change of a secret -/

/-- The salt is what the random source gives, if anything. -/
def makeVerifier (kdf : AuthenticationKdf) (secret : Bytes)
    (salt : Option (Block kAuthenticationSaltBytes)) (verifier : AuthVerifier) :
    Option AuthVerifier := do
  let salt ← salt
  let parameters : AuthVerifier :=
    { verifier with
      algorithmId := kAuthenticationPbkdf2Sha256Algorithm
      workFactor := kAuthenticationPbkdf2Sha256WorkFactor
      salt }
  let derived ← kdf secret parameters
  return { parameters with verifier := derived }

/-- The status of a change, with the answer to the check of the current secret. -/
structure ChangeResult where
  verification : Option AuthCheckStatus := none
  status : AuthBootstrapStatus
  clocks : LockoutClocks
  deriving DecidableEq, Repr

/-- The root leaves the provisioned state while the credentials are replaced. -/
def replaceSecret (kdf : AuthenticationKdf) (secret : AuthSecret)
    (context : AuthenticationBootstrapContext) (replacement : Bytes)
    (salt : Option (Block kAuthenticationSaltBytes)) :
    AuthenticationProgram AuthBootstrapStatus := do
  let rootRead ← readActiveRoot context
  let credentialRead ← readCredentials context.storageEpoch
  match rootRead.value, credentialRead.value with
  | some root, some record =>
      match makeVerifier kdf replacement salt (record.verifierOf secret) with
      | none => return .kdfUnavailable
      | some verifier =>
          if record.epochOf secret = maxUInt64 ∨ record.recordSequence = maxUInt64 then
            return .kdfUnavailable
          else if root.recordSequence = maxUInt64 then return .commitOutcomeUnknown
          else
            let rootLocked :=
              { root with state := .provisioning, recordSequence := root.recordSequence + 1 }
            if (← writeRoot root rootLocked) = .success then
              match ← writeCredentials record (record.replaced secret verifier) with
              | .success =>
                  if rootLocked.recordSequence = maxUInt64 then return .commitOutcomeUnknown
                  else
                    let rootProvisioned :=
                      { rootLocked with
                        state := .provisioned
                        recordSequence := rootLocked.recordSequence + 1 }
                    if (← writeRoot rootLocked rootProvisioned) = .success then
                      return .bootstrapAllowed
                    else return .recoveryRequired
              | .commitOutcomeUnknown => return .commitOutcomeUnknown
              | _ => return .recoveryRequired
            else return .recoveryRequired
  | _, _ => return .recoveryRequired

def changeSecret (kdf : AuthenticationKdf) (secret : AuthSecret)
    (context : AuthenticationBootstrapContext) (current replacement : Bytes)
    (salt : Option (Block kAuthenticationSaltBytes)) (nowMs : UInt64)
    (clocks : LockoutClocks) : AuthenticationProgram ChangeResult :=
  if context.validFor then
    if secret.validate replacement = .valid then do
      let verification ← verifySecret kdf secret context current nowMs clocks
      if verification.status = .authenticated then
        let status ← replaceSecret kdf secret context replacement salt
        return ⟨some .authenticated, status, verification.clocks⟩
      else
        return ⟨some verification.status, verification.status.mapCredentialVerification,
          verification.clocks⟩
    else return ⟨none, .invalidInput, clocks⟩
  else return ⟨none, .recoveryRequired, clocks⟩

def changeWebPassword (kdf : AuthenticationKdf) :
    AuthenticationBootstrapContext → Bytes → Bytes → Option (Block kAuthenticationSaltBytes) →
      UInt64 → LockoutClocks → AuthenticationProgram ChangeResult :=
  changeSecret kdf .webPassword

def changeServicePin (kdf : AuthenticationKdf) :
    AuthenticationBootstrapContext → Bytes → Bytes → Option (Block kAuthenticationSaltBytes) →
      UInt64 → LockoutClocks → AuthenticationProgram ChangeResult :=
  changeSecret kdf .servicePin

end AuthenticationDomain

end Fermentationsschrank

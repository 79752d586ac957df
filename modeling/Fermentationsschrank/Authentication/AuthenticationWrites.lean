import Fermentationsschrank.Authentication.AuthenticationDomain

/-!
# Writes of the authentication store

What a read finds and what a write leaves behind, on a store that may fail at every
call and lose its power between any two.
-/

namespace Fermentationsschrank

open AuthenticationRecordStore

variable {unknown : UnknownOutcome} {contents : AuthenticationContents}
variable {crash : AuthenticationContents → Prop}

/-- The credential record that the store holds, if it holds a readable one. -/
def credentialsIn (contents : AuthenticationContents) : Option AuthenticationCredentialRecord :=
  (contents .credentials).bind fun bytes => (decodeAuthenticationCredential bytes).toOption

/-- An unresolved write leaves the old bytes, the new ones, or none that are a
credential record. -/
def LeavesNoOther (unknown : UnknownOutcome) : Prop :=
  ∀ old new bytes, unknown old new (some bytes) →
    (decodeAuthenticationCredential bytes).toOption.isSome →
      some bytes = old ∨ bytes = new

theorem leavesNoOther_allOrNothing : LeavesNoOther allOrNothing := by
  intro old new bytes hleft _
  exact hleft.imp id Option.some.inj

theorem isPlausible_of_decode {bytes : Bytes} {record : AuthenticationCredentialRecord}
    (h : decodeAuthenticationCredential bytes = .ok record) : record.isPlausible = true := by
  simp only [decodeAuthenticationCredential, bind_eq_ok, require_eq_ok, orFail_eq_ok] at h
  obtain ⟨_, _, _, _, _, _, _, hlegal, hrecord⟩ := h
  cases hrecord
  exact hlegal

theorem isPlausible_of_credentialsIn {record : AuthenticationCredentialRecord}
    (h : credentialsIn contents = some record) : record.isPlausible = true := by
  obtain ⟨bytes, _, hdecode⟩ := Option.bind_eq_some_iff.mp h
  exact isPlausible_of_decode (toOption_eq_some.mp hdecode)

/-! ## Reads -/

/-- Reads leave the store alone and find the stored credentials or none. -/
theorem ensures_readCredentials {epoch : UInt64}
    {post : AuthenticationReadResult AuthenticationCredentialRecord → AuthenticationContents →
      Prop}
    (hcrash : crash contents)
    (hpost : ∀ result, (∀ record, result.value = some record →
      credentialsIn contents = some record ∧
        (result.status = .success → record.storageEpoch = epoch)) → post result contents) :
    Program.Ensures (stateStore unknown) crash post (readCredentials epoch) contents := by
  rw [readCredentials, Program.ensures_bind]
  refine ensures_readStore hcrash fun reply hreply => ⟨hcrash, hpost _ ?_⟩
  intro record hrecord
  cases reply with
  | notFound => cases hrecord
  | readError => cases hrecord
  | capacityError => cases hrecord
  | success value =>
      rw [readResult] at hrecord ⊢
      cases hdecode : decodeAuthenticationCredential value with
      | error status =>
          rw [hdecode] at hrecord
          cases status <;> cases hrecord
      | ok found =>
          rw [hdecode] at hrecord
          simp only at hrecord ⊢
          have hheld : credentialsIn contents = some found := by
            rw [credentialsIn, hreply.1, Option.bind_some, hdecode]
            rfl
          split_ifs at hrecord ⊢ with hepoch
          · cases hrecord
            exact ⟨hheld, nofun⟩
          · cases hrecord
            exact ⟨hheld, fun _ => not_not.mp hepoch⟩

theorem ensures_readActiveRoot {context : AuthenticationBootstrapContext}
    {post : AuthenticationReadResult AuthProvisioningRoot → AuthenticationContents → Prop}
    (hcrash : crash contents) (hpost : ∀ result, post result contents) :
    Program.Ensures (stateStore unknown) crash post
      (AuthenticationDomain.readActiveRoot context) contents := by
  unfold AuthenticationDomain.readActiveRoot readRoot
  split_ifs
  · rw [Program.ensures_bind, Program.ensures_bind]
    refine ensures_readStore hcrash fun reply _ => ⟨hcrash, ?_⟩
    beta_reduce
    split
    · split_ifs
      · exact ⟨hcrash, hpost _⟩
      · exact ⟨hcrash, hpost _⟩
    · exact ⟨hcrash, hpost _⟩
  · exact ⟨hcrash, hpost _⟩

/-- Active credentials are the stored ones, of the epoch of the context. -/
theorem ensures_readActiveCredentials {context : AuthenticationBootstrapContext}
    {post : AuthenticationReadResult AuthenticationCredentialRecord → AuthenticationContents →
      Prop}
    (hcrash : crash contents)
    (hpost : ∀ result, (∀ record, result.value = some record →
      credentialsIn contents = some record ∧
        (result.status = .success → record.storageEpoch = context.storageEpoch)) →
      post result contents) :
    Program.Ensures (stateStore unknown) crash post
      (AuthenticationDomain.readActiveCredentials context) contents := by
  rw [AuthenticationDomain.readActiveCredentials, Program.ensures_bind]
  refine ensures_readActiveRoot hcrash fun root => ?_
  split
  · split_ifs
    · exact ensures_readCredentials hcrash hpost
    · exact ⟨hcrash, hpost _ nofun⟩
  · exact ⟨hcrash, hpost _ nofun⟩

/-! ## Writes -/

/-- The stored credentials while `record` is being replaced by `target`. -/
def Replacing (record target : AuthenticationCredentialRecord)
    (credentials : Option AuthenticationCredentialRecord) : Prop :=
  credentials = some record ∨ credentials = some target ∨ credentials = none

theorem credentialsIn_put {encoded : Bytes} {record : AuthenticationCredentialRecord}
    (h : encodeAuthenticationCredential record = .ok encoded) :
    credentialsIn (contents.put .credentials (some encoded)) = some record := by
  rw [credentialsIn, StoreContents.put_same, Option.bind_some,
    decode_encodeAuthenticationCredential h]
  rfl

/-- An unresolved write leaves the old credentials, the new ones or none. -/
theorem replacing_put {record target : AuthenticationCredentialRecord} {encoded : Bytes}
    {left : Option Bytes} (hunknown : LeavesNoOther unknown)
    (hheld : credentialsIn contents = some record)
    (hencode : encodeAuthenticationCredential target = .ok encoded)
    (hleft : unknown (contents .credentials) encoded left) :
    Replacing record target (credentialsIn (contents.put .credentials left)) := by
  cases left with
  | none =>
      rw [credentialsIn, StoreContents.put_same]
      exact .inr (.inr rfl)
  | some bytes =>
      cases hdecode : (decodeAuthenticationCredential bytes).toOption with
      | none =>
          rw [credentialsIn, StoreContents.put_same, Option.bind_some, hdecode]
          exact .inr (.inr rfl)
      | some found =>
          rcases hunknown _ _ _ hleft (by rw [hdecode]; rfl) with hold | rfl
          · rw [hold, StoreContents.put_current]
            exact .inl hheld
          · exact .inr (.inl (credentialsIn_put hencode))

theorem credentialsIn_of_confirm {writeStatus : StateStoreWriteStatus} {encoded : Bytes}
    {target : AuthenticationCredentialRecord} {reply : StateStoreReadResult} {maxBytes : ℕ}
    (hreply : ReadsAs contents .credentials maxBytes reply)
    (h : confirm writeStatus encoded decodeAuthenticationCredential target reply = .success) :
    credentialsIn contents = some target := by
  have hunconfirmed : ∀ otherwise, otherwise ≠ .success →
      unconfirmed writeStatus otherwise ≠ .success := by
    intro otherwise hother
    unfold unconfirmed
    split_ifs
    · nofun
    · exact hother
  cases reply with
  | notFound => exact absurd h (hunconfirmed _ nofun)
  | readError => exact absurd h (hunconfirmed _ nofun)
  | capacityError => exact absurd h (hunconfirmed _ nofun)
  | success value =>
      rw [confirm] at h
      split_ifs at h with hread
      · rw [credentialsIn, hreply.1, Option.bind_some, hread.1]
      · exact absurd h (hunconfirmed _ nofun)

variable {record target : AuthenticationCredentialRecord}

/-- A write of the credentials replaces the stored record or not, and only one that
reports success has certainly done so. -/
theorem ensures_writeCredentials
    {post : AuthenticationWriteStatus → AuthenticationContents → Prop}
    (hunknown : LeavesNoOther unknown) (hheld : credentialsIn contents = some record)
    (hcrash : ∀ after, Replacing record target (credentialsIn after) → crash after)
    (hpost : ∀ status after, Replacing record target (credentialsIn after) →
      (status = .success → credentialsIn after = some target) → post status after) :
    Program.Ensures (stateStore unknown) crash post (writeCredentials record target) contents := by
  have hstart : Replacing record target (credentialsIn contents) := .inl hheld
  have hrefused : ∀ status, status ≠ .success →
      Program.Ensures (stateStore unknown) crash post (.done status) contents := by
    intro status hstatus
    exact ⟨hcrash _ hstart, hpost _ _ hstart fun h => absurd h hstatus⟩
  unfold writeCredentials compareAndWrite
  split_ifs
  · split
    · rename_i hencode
      rw [Program.ensures_bind]
      refine ensures_readStore (hcrash _ hstart) fun reply _ => ?_
      cases reply with
      | notFound => exact hrefused _ nofun
      | readError => exact hrefused _ nofun
      | capacityError => exact hrefused _ nofun
      | success current =>
          simp only
          split_ifs
          · rw [writeExact, Program.ensures_bind]
            refine ensures_writeStore (hcrash _ hstart) fun status after hafter => ?_
            have hreplacing : Replacing record target (credentialsIn after) := by
              cases status with
              | success =>
                  cases hafter
                  exact .inr (.inl (credentialsIn_put hencode))
              | writeError =>
                  cases hafter
                  exact hstart
              | capacityError =>
                  cases hafter
                  exact hstart
              | commitOutcomeUnknown =>
                  obtain ⟨left, hleft, rfl⟩ := hafter
                  exact replacing_put hunknown hheld hencode hleft
            refine ⟨hcrash _ hreplacing, ?_⟩
            split_ifs with hfailed
            · refine ⟨hcrash _ hreplacing, hpost _ _ hreplacing fun h => ?_⟩
              rcases hfailed with rfl | rfl <;> cases h
            · rw [Program.ensures_bind]
              refine ensures_readStore (hcrash _ hreplacing) fun reply hreply => ?_
              exact ⟨hcrash _ hreplacing, hpost _ _ hreplacing (credentialsIn_of_confirm hreply)⟩
          · exact hrefused _ nofun
    · exact hrefused _ nofun
  · exact hrefused _ nofun

/-- A write of the root does not touch the credentials. -/
theorem ensures_writeRoot {expected root : AuthProvisioningRoot}
    {post : AuthenticationWriteStatus → AuthenticationContents → Prop}
    (hcrash : ∀ after, credentialsIn after = credentialsIn contents → crash after)
    (hpost : ∀ status after, credentialsIn after = credentialsIn contents → post status after) :
    Program.Ensures (stateStore unknown) crash post (writeRoot expected root) contents := by
  have hput : ∀ left, credentialsIn (contents.put .root left) = credentialsIn contents := by
    intro left
    have hother : AuthenticationStoreKey.credentials ≠ .root := by decide
    rw [credentialsIn, StoreContents.put_other hother]
    rfl
  have hrefused : ∀ status,
      Program.Ensures (stateStore unknown) crash post (.done status) contents := fun status =>
    ⟨hcrash _ rfl, hpost _ _ rfl⟩
  unfold writeRoot compareAndWrite
  split_ifs
  · split
    · rw [Program.ensures_bind]
      refine ensures_readStore (hcrash _ rfl) fun reply _ => ?_
      cases reply with
      | notFound => exact hrefused _
      | readError => exact hrefused _
      | capacityError => exact hrefused _
      | success current =>
          simp only
          split_ifs
          · rw [writeExact, Program.ensures_bind]
            refine ensures_writeStore (hcrash _ rfl) fun status after hafter => ?_
            have hkept : credentialsIn after = credentialsIn contents := by
              cases status with
              | success =>
                  cases hafter
                  exact hput _
              | writeError =>
                  cases hafter
                  rfl
              | capacityError =>
                  cases hafter
                  rfl
              | commitOutcomeUnknown =>
                  obtain ⟨left, -, rfl⟩ := hafter
                  exact hput left
            refine ⟨hcrash _ hkept, ?_⟩
            split_ifs
            · exact ⟨hcrash _ hkept, hpost _ _ hkept⟩
            · rw [Program.ensures_bind]
              exact ensures_readStore (hcrash _ hkept) fun reply _ =>
                ⟨hcrash _ hkept, hpost _ _ hkept⟩
          · exact hrefused _
    · exact hrefused _
  · exact hrefused _

end Fermentationsschrank

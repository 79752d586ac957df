import Fermentationsschrank.Authentication.AuthenticationAttempts

/-!
# Stages of a change

A change of a secret writes the counted attempt, the provisioning marker, the new
credentials and the end of the marker.  On a store whose writes take effect as a whole
or not at all, the contents after any prefix of these writes are one of five stages.
-/

namespace Fermentationsschrank

open AuthenticationRecordStore
open AuthenticationDomain

/-! ## A store that counts -/

/-- The keys, with the number of writes that took effect, whether one was refused and
whether a read has failed. -/
structure CountedContents where
  contents : AuthenticationContents
  effective : ℕ := 0
  refused : Bool := false
  misread : Bool := false

namespace CountedContents

def wrote (world : CountedContents) (key : AuthenticationStoreKey) (value : Bytes) :
    CountedContents :=
  { world with
    contents := world.contents.put key (some value)
    effective := world.effective + 1 }

def refuse (world : CountedContents) : CountedContents := { world with refused := true }

def failRead (world : CountedContents) : CountedContents := { world with misread := true }

end CountedContents

/-- Every single write takes effect as a whole or not at all. -/
def countingStore : Environment (@StoreReply AuthenticationStoreKey) CountedContents :=
  fun world request => match request with
    | .read key maxBytes => fun reply after =>
        (reply = readReply world.contents key maxBytes ∧ after = world) ∨
        ((reply = .readError ∨ reply = .capacityError) ∧ after = world.failRead)
    | .write key value => fun status after =>
        (after = world.wrote key value ∧ (status = .success ∨ status = .commitOutcomeUnknown)) ∨
        (after = world.refuse ∧ (status = .writeError ∨ status = .capacityError)) ∨
        (after = world ∧ status = .commitOutcomeUnknown)

variable {world : CountedContents} {crash : CountedContents → Prop}

theorem ensures_readCounted {key : AuthenticationStoreKey} {maxBytes : ℕ}
    {post : StateStoreReadResult → CountedContents → Prop} (hcrash : crash world)
    (hread : post (readReply world.contents key maxBytes) world)
    (hfailed : crash world.failRead ∧ post .readError world.failRead ∧
      post .capacityError world.failRead) :
    Program.Ensures countingStore crash post (readStore key maxBytes) world := by
  refine ⟨hcrash, ?_⟩
  rintro reply middle (⟨rfl, rfl⟩ | ⟨rfl | rfl, rfl⟩)
  · exact ⟨hcrash, hread⟩
  · exact ⟨hfailed.1, hfailed.2.1⟩
  · exact ⟨hfailed.1, hfailed.2.2⟩

theorem ensures_writeCounted {key : AuthenticationStoreKey} {value : Bytes}
    {post : StateStoreWriteStatus → CountedContents → Prop} (hcrash : crash world)
    (hwrote : crash (world.wrote key value) ∧ post .success (world.wrote key value) ∧
      post .commitOutcomeUnknown (world.wrote key value))
    (hrefused : crash world.refuse ∧ post .writeError world.refuse ∧
      post .capacityError world.refuse)
    (hlost : post .commitOutcomeUnknown world) :
    Program.Ensures countingStore crash post (writeStore key value) world := by
  refine ⟨hcrash, ?_⟩
  rintro status after (⟨rfl, rfl | rfl⟩ | ⟨rfl, rfl | rfl⟩ | ⟨rfl, rfl⟩)
  · exact ⟨hwrote.1, hwrote.2.1⟩
  · exact ⟨hwrote.1, hwrote.2.2⟩
  · exact ⟨hrefused.1, hrefused.2.1⟩
  · exact ⟨hrefused.1, hrefused.2.2⟩
  · exact ⟨hcrash, hlost⟩

/-! ## One write -/

variable {Record : Type} [DecidableEq Record]
variable {encode : Record → Except AuthenticationRecordCodecStatus Bytes}
variable {decode : Bytes → Except AuthenticationRecordCodecStatus Record}

/-- What a write of the target may have done, and what it reports then: only a failed read
keeps a write that took effect from being reported. -/
inductive WriteAttempted (encode : Record → Except AuthenticationRecordCodecStatus Bytes)
    (key : AuthenticationStoreKey) (target : Record) (world : CountedContents) :
    AuthenticationWriteStatus → CountedContents → Prop
  | unchanged {status} (hstatus : status ≠ .success) :
      WriteAttempted encode key target world status world
  | unread {status} (hstatus : status ≠ .success) :
      WriteAttempted encode key target world status world.failRead
  | refused {status} (hstatus : status ≠ .success) :
      WriteAttempted encode key target world status world.refuse
  | written {encoded} (hencode : encode target = .ok encoded) :
      WriteAttempted encode key target world .success (world.wrote key encoded)
  | unconfirmed {status encoded} (hencode : encode target = .ok encoded)
      (hstatus : status ≠ .success) :
      WriteAttempted encode key target world status (world.wrote key encoded).failRead

theorem unconfirmed_ne_success {writeStatus : StateStoreWriteStatus}
    {otherwise : AuthenticationWriteStatus} (h : otherwise ≠ .success) :
    unconfirmed writeStatus otherwise ≠ .success := by
  unfold unconfirmed
  split
  · rintro ⟨⟩
  · exact h

/-- A readback that confirms the write finds the written bytes. -/
theorem bytes_of_confirm {writeStatus : StateStoreWriteStatus} {key : AuthenticationStoreKey}
    {encoded : Bytes} {target : Record} {maxBytes : ℕ} {contents : AuthenticationContents}
    (h : confirm writeStatus encoded decode target (readReply contents key maxBytes) = .success) :
    contents key = some encoded ∧ (decode encoded).toOption = some target := by
  have hreply := (faultlessStore_stateStore allOrNothing contents (.read key maxBytes)).1
  change ReadsAs contents key maxBytes (readReply contents key maxBytes) at hreply
  cases hread : readReply contents key maxBytes with
  | success value =>
      rw [hread] at h hreply
      rw [confirm] at h
      split_ifs at h with hsame
      · obtain ⟨hdecoded, rfl⟩ := hsame
        exact ⟨hreply.1, hdecoded⟩
      · exact absurd h (unconfirmed_ne_success (by rintro ⟨⟩))
  | _ =>
      rw [hread] at h
      exact absurd h (unconfirmed_ne_success (by rintro ⟨⟩))

/-- A write of a record that differs from the stored one succeeds only by taking
effect. -/
theorem ensures_compareAndWrite {key : AuthenticationStoreKey} {expected target : Record}
    {maxBytes : ℕ} {post : AuthenticationWriteStatus → CountedContents → Prop}
    (hne : target ≠ expected)
    (hcodec : ∀ encoded, encode target = .ok encoded →
      decode encoded = .ok target ∧ encoded.length ≤ maxBytes)
    (hcrash : ∀ status after, WriteAttempted encode key target world status after → crash after)
    (hpost : ∀ status after, WriteAttempted encode key target world status after →
      post status after) :
    Program.Ensures countingStore crash post
      (compareAndWrite key expected target maxBytes encode decode) world := by
  have hstart : crash world := hcrash .invalidTransition _ (.unchanged (by rintro ⟨⟩))
  have hdone : ∀ status after, WriteAttempted encode key target world status after →
      Program.Ensures countingStore crash post (.done status) after :=
    fun status after hafter => ⟨hcrash _ _ hafter, hpost _ _ hafter⟩
  have hunread : crash world.failRead := hcrash .invalidTransition _ (.unread (by rintro ⟨⟩))
  unfold compareAndWrite
  split
  · rename_i oldEncoded newEncoded _ hencode
    rw [Program.ensures_bind]
    refine ensures_readCounted hstart ?_
      ⟨hunread, hdone _ _ (.unread (by rintro ⟨⟩)), hdone _ _ (.unread (by rintro ⟨⟩))⟩
    split
    · exact hdone _ _ (.unchanged (by rintro ⟨⟩))
    · exact hdone _ _ (.unchanged (by rintro ⟨⟩))
    · exact hdone _ _ (.unchanged (by rintro ⟨⟩))
    rename_i current hheld
    split
    · rename_i hcurrent
      obtain ⟨hdecode, hfits⟩ := hcodec _ hencode
      have hwritten : WriteAttempted encode key target world .success
          (world.wrote key newEncoded) := .written hencode
      have hread : ∀ writeStatus, Program.Ensures countingStore crash post (do
          let readback ← readStore key maxBytes
          return confirm writeStatus newEncoded decode target readback)
          (world.wrote key newEncoded) := by
        intro writeStatus
        have hconfirmed : confirm writeStatus newEncoded decode target
            (readReply (world.wrote key newEncoded).contents key maxBytes) = .success := by
          have hput : (world.wrote key newEncoded).contents key = some newEncoded :=
            StoreContents.put_same ..
          rw [readReply_of_some hput hfits, confirm, hdecode]
          exact if_pos ⟨rfl, rfl⟩
        have hlost : ∀ status, status ≠ .success → WriteAttempted encode key target world status
            (world.wrote key newEncoded).failRead := fun status => .unconfirmed hencode
        have herror : unconfirmed writeStatus .readbackFailure ≠ .success :=
          unconfirmed_ne_success (by rintro ⟨⟩)
        rw [Program.ensures_bind]
        refine ensures_readCounted (hcrash _ _ hwritten) ?_
          ⟨hcrash _ _ (hlost _ herror), hdone _ _ (hlost _ herror), hdone _ _ (hlost _ herror)⟩
        rw [hconfirmed]
        exact hdone _ _ hwritten
      rw [writeExact, Program.ensures_bind]
      refine ensures_writeCounted hstart ⟨hcrash _ _ hwritten, hread _, hread _⟩
        ⟨hcrash .writeError _ (.refused (by rintro ⟨⟩)), hdone _ _ (.refused (by rintro ⟨⟩)),
          hdone _ _ (.refused (by rintro ⟨⟩))⟩ ?_
      show Program.Ensures countingStore crash post (do
        let readback ← readStore key maxBytes
        return confirm .commitOutcomeUnknown newEncoded decode target readback) world
      rw [Program.ensures_bind]
      refine ensures_readCounted hstart (hdone _ _ (.unchanged fun h => ?_))
        ⟨hunread, hdone _ _ (.unread (unconfirmed_ne_success (by rintro ⟨⟩))),
          hdone _ _ (.unread (unconfirmed_ne_success (by rintro ⟨⟩)))⟩
      obtain ⟨hbytes, hdecoded⟩ := bytes_of_confirm h
      -- The store still holds the expected record, which is not the target.
      have hsame : current = newEncoded := by
        have hreply := (faultlessStore_stateStore allOrNothing world.contents
          (.read key maxBytes)).1
        change ReadsAs world.contents key maxBytes (readReply world.contents key maxBytes) at hreply
        rw [hheld] at hreply
        exact Option.some.inj (hreply.1.symm.trans hbytes)
      rw [← hsame, hcurrent.1] at hdecoded
      exact hne (Option.some.inj hdecoded).symm
    · exact hdone _ _ (.unchanged (by rintro ⟨⟩))
  · exact hdone _ _ (.unchanged (by rintro ⟨⟩))

theorem ensures_writeCountedCredentials {record target : AuthenticationCredentialRecord}
    {post : AuthenticationWriteStatus → CountedContents → Prop} (hne : target ≠ record)
    (hcrash : ∀ status after, WriteAttempted encodeAuthenticationCredential .credentials target
      world status after → crash after)
    (hpost : ∀ status after, WriteAttempted encodeAuthenticationCredential .credentials target
      world status after → post status after) :
    Program.Ensures countingStore crash post (writeCredentials record target) world := by
  unfold writeCredentials
  split
  · exact ensures_compareAndWrite hne (fun _ hencode =>
      ⟨decode_encodeAuthenticationCredential hencode,
        length_encodeAuthenticationCredential hencode⟩) hcrash hpost
  · have hrefused : WriteAttempted encodeAuthenticationCredential .credentials target world
        .invalidTransition world := .unchanged (by rintro ⟨⟩)
    exact ⟨hcrash _ _ hrefused, hpost _ _ hrefused⟩

theorem ensures_writeCountedRoot {root target : AuthProvisioningRoot}
    {post : AuthenticationWriteStatus → CountedContents → Prop} (hne : target ≠ root)
    (hcrash : ∀ status after, WriteAttempted encodeAuthProvisioningRoot .root target world status
      after → crash after)
    (hpost : ∀ status after, WriteAttempted encodeAuthProvisioningRoot .root target world status
      after → post status after) :
    Program.Ensures countingStore crash post (writeRoot root target) world := by
  unfold writeRoot
  split
  · exact ensures_compareAndWrite hne (fun _ hencode =>
      ⟨decode_encodeAuthProvisioningRoot hencode, length_encodeAuthProvisioningRoot hencode⟩)
      hcrash hpost
  · have hrefused : WriteAttempted encodeAuthProvisioningRoot .root target world
        .invalidTransition world := .unchanged (by rintro ⟨⟩)
    exact ⟨hcrash _ _ hrefused, hpost _ _ hrefused⟩

/-! ## Active credentials -/

variable {contents : AuthenticationContents} {context : AuthenticationBootstrapContext}
variable {record : AuthenticationCredentialRecord} {root : AuthProvisioningRoot}

/-- The credentials that a working store would check a secret against. -/
def activeCredentials (context : AuthenticationBootstrapContext)
    (contents : AuthenticationContents) : Option AuthenticationCredentialRecord :=
  match ((readActiveCredentials context).run faultlessStore contents).1 with
  | ⟨.success, some record⟩ => some record
  | _ => none

def HoldsCredentials (contents : AuthenticationContents)
    (record : AuthenticationCredentialRecord) : Prop :=
  ∃ bytes, contents .credentials = some bytes ∧
    bytes.length ≤ kMaximumCredentialEnvelopeBytes ∧
    decodeAuthenticationCredential bytes = .ok record

def HoldsRoot (contents : AuthenticationContents) (root : AuthProvisioningRoot) : Prop :=
  ∃ bytes, contents .root = some bytes ∧
    bytes.length ≤ kMaximumAuthenticationRootEnvelopeBytes ∧
    decodeAuthProvisioningRoot bytes = .ok root

/-- The root is bound to the context. -/
def AuthProvisioningRoot.BoundTo (root : AuthProvisioningRoot)
    (context : AuthenticationBootstrapContext) : Prop :=
  root.storageEpoch = context.storageEpoch ∧
    root.bootstrapSequenceBinding = context.bootstrapSequence

instance (root : AuthProvisioningRoot) (context : AuthenticationBootstrapContext) :
    Decidable (root.BoundTo context) := inferInstanceAs (Decidable (_ ∧ _))

theorem run_readStore {key : AuthenticationStoreKey} {maxBytes : ℕ} :
    (readStore key maxBytes).run faultlessStore contents =
      (readReply contents key maxBytes, contents) := rfl

omit [DecidableEq Record] in
/-- A successful read finds a stored record of the epoch. -/
theorem readResult_eq_success {epochOf : Record → UInt64} {epoch : UInt64} {value : Record}
    {key : AuthenticationStoreKey} {maxBytes : ℕ} :
    readResult decode epochOf epoch (readReply contents key maxBytes) = ⟨.success, some value⟩ ↔
      (∃ bytes, contents key = some bytes ∧ bytes.length ≤ maxBytes ∧
        decode bytes = .ok value) ∧ epochOf value = epoch := by
  constructor
  · intro h
    unfold readReply at h
    cases hheld : contents key with
    | none =>
        rw [hheld] at h
        cases h
    | some bytes =>
        rw [hheld] at h
        simp only at h
        split at h
        · rename_i hfits
          rw [readResult] at h
          cases hdecode : decode bytes with
          | error status =>
              rw [hdecode] at h
              cases status <;> cases h
          | ok found =>
              rw [hdecode] at h
              simp only at h
              split at h
              · cases h
              · rename_i hepoch
                cases h
                exact ⟨⟨bytes, rfl, hfits, hdecode⟩, not_not.mp hepoch⟩
        · cases h
  · rintro ⟨⟨bytes, hheld, hfits, hdecode⟩, hepoch⟩
    rw [readReply_of_some hheld hfits, readResult, hdecode]
    simp only
    rw [if_neg (not_not.mpr hepoch)]

/-- What a working store shows of the root. -/
theorem run_readActiveRoot :
    (readActiveRoot context).run faultlessStore contents =
      (match readResult decodeAuthProvisioningRoot (·.storageEpoch) context.storageEpoch
          (readReply contents .root kMaximumAuthenticationRootEnvelopeBytes) with
        | ⟨.success, some root⟩ =>
            if context.validFor ∧ root.bootstrapSequenceBinding = context.bootstrapSequence then
              ⟨.success, some root⟩
            else {}
        | _ => {}, contents) := by
  unfold readActiveRoot readRoot
  by_cases hvalid : context.validFor = true
  · rw [if_pos hvalid, Program.run_bind, Program.run_bind, run_readStore]
    simp only [Program.pure_eq_done, Program.run_done, hvalid, true_and]
    generalize readResult decodeAuthProvisioningRoot (·.storageEpoch) context.storageEpoch
      (readReply contents .root kMaximumAuthenticationRootEnvelopeBytes) = read
    obtain ⟨status, value⟩ := read
    cases status with
    | success =>
        cases value with
        | none => rfl
        | some root =>
            simp only
            split <;> rfl
    | _ => rfl
  · rw [if_neg hvalid]
    split
    · rw [if_neg fun h => hvalid h.1]
      rfl
    · rfl

/-- The active root is a stored one, bound to the context. -/
theorem run_readActiveRoot_eq_some :
    ((readActiveRoot context).run faultlessStore contents).1 = ⟨.success, some root⟩ ↔
      context.validFor = true ∧ HoldsRoot contents root ∧ root.BoundTo context := by
  have hroot := fun root => @readResult_eq_success _ decodeAuthProvisioningRoot contents
    (·.storageEpoch) context.storageEpoch root .root kMaximumAuthenticationRootEnvelopeBytes
  rw [run_readActiveRoot]
  constructor
  · intro h
    simp only at h
    split at h
    · rename_i found hfound
      obtain ⟨hheld, hepoch⟩ := (hroot found).mp hfound
      split at h
      · rename_i hbound
        cases h
        exact ⟨hbound.1, hheld, hepoch, hbound.2⟩
      · cases h
    · cases h
  · rintro ⟨hvalid, hheld, hepoch, hbinding⟩
    rw [(hroot root).mpr ⟨hheld, hepoch⟩]
    exact if_pos ⟨hvalid, hbinding⟩

theorem activeCredentials_iff_read :
    activeCredentials context contents = some record ↔
      ((readActiveCredentials context).run faultlessStore contents).1 =
        ⟨.success, some record⟩ := by
  unfold activeCredentials
  generalize ((readActiveCredentials context).run faultlessStore contents).1 = read
  constructor
  · intro h
    split at h <;> cases h
    rfl
  · rintro rfl
    rfl

/-- The active credentials are the stored ones behind a provisioned root. -/
theorem activeCredentials_eq_some :
    activeCredentials context contents = some record ↔
      context.validFor = true ∧ (∃ root, HoldsRoot contents root ∧ root.BoundTo context ∧
        root.state = .provisioned) ∧
      HoldsCredentials contents record ∧ record.storageEpoch = context.storageEpoch := by
  have hrecord := fun record => @readResult_eq_success _ decodeAuthenticationCredential contents
    (·.storageEpoch) context.storageEpoch record .credentials kMaximumCredentialEnvelopeBytes
  have hroot := fun root => @run_readActiveRoot_eq_some contents context root
  have hkept : ((readActiveRoot context).run faultlessStore contents).2 = contents := by
    rw [run_readActiveRoot]
  unfold activeCredentials readActiveCredentials
  rw [Program.run_bind, hkept]
  generalize ((readActiveRoot context).run faultlessStore contents).1 = read at hroot ⊢
  constructor
  · intro h
    split at h
    · rename_i found hfound
      cases h
      split at hfound
      · rename_i root
        obtain ⟨hvalid, hheld, hbound⟩ := (hroot root).mp rfl
        split at hfound
        · rename_i hstate
          obtain ⟨hstored, hepoch⟩ := (hrecord record).mp hfound
          exact ⟨hvalid, ⟨root, hheld, hbound, hstate⟩, hstored, hepoch⟩
        · cases hfound
      · cases hfound
    · cases h
  · rintro ⟨hvalid, ⟨root, hheld, hbound, hstate⟩, hstored, hepoch⟩
    rw [(hroot root).mpr ⟨hvalid, hheld, hbound⟩]
    simp only
    rw [if_pos hstate, readCredentials, Program.run_bind, run_readStore]
    simp only [Program.pure_eq_done, Program.run_done]
    rw [(hrecord record).mpr ⟨hstored, hepoch⟩]

/-! ## Stages -/

/-- The root while the credentials are replaced, and after it. -/
def AuthProvisioningRoot.marked (root : AuthProvisioningRoot) : AuthProvisioningRoot :=
  { root with state := .provisioning, recordSequence := root.recordSequence + 1 }

def AuthProvisioningRoot.unmarked (root : AuthProvisioningRoot) : AuthProvisioningRoot :=
  { root with state := .provisioned, recordSequence := root.recordSequence + 1 }

/-- The contents after so many writes of a change; the new verifier is there from the
second one on. -/
def ChangeStage (record : AuthenticationCredentialRecord) (root : AuthProvisioningRoot)
    (secret : AuthSecret) (verifier : Option AuthVerifier) :
    ℕ → AuthenticationContents → Prop
  | 0, contents => HoldsCredentials contents record ∧ HoldsRoot contents root
  | 1, contents => HoldsCredentials contents (record.afterSuccess secret) ∧ HoldsRoot contents root
  | 2, contents => verifier.isSome ∧ HoldsCredentials contents (record.afterSuccess secret) ∧
      HoldsRoot contents root.marked
  | 3, contents => ∃ new, verifier = some new ∧
      HoldsCredentials contents ((record.afterSuccess secret).replaced secret new) ∧
      HoldsRoot contents root.marked
  | 4, contents => ∃ new, verifier = some new ∧
      HoldsCredentials contents ((record.afterSuccess secret).replaced secret new) ∧
      HoldsRoot contents root.marked.unmarked
  | _, _ => False

theorem HoldsRoot.unique {other : AuthProvisioningRoot} (h : HoldsRoot contents root)
    (h' : HoldsRoot contents other) : other = root := by
  obtain ⟨bytes, hbytes, -, hdecode⟩ := h
  obtain ⟨bytes', hbytes', -, hdecode'⟩ := h'
  cases hbytes.symm.trans hbytes'
  exact Except.ok.inj (hdecode'.symm.trans hdecode)

theorem holdsCredentials_put {bytes : Bytes}
    (h : encodeAuthenticationCredential record = .ok bytes) :
    HoldsCredentials (contents.put .credentials (some bytes)) record :=
  ⟨bytes, StoreContents.put_same .., length_encodeAuthenticationCredential h,
    decode_encodeAuthenticationCredential h⟩

theorem holdsRoot_put {bytes : Bytes} (h : encodeAuthProvisioningRoot root = .ok bytes) :
    HoldsRoot (contents.put .root (some bytes)) root :=
  ⟨bytes, StoreContents.put_same .., length_encodeAuthProvisioningRoot h,
    decode_encodeAuthProvisioningRoot h⟩

theorem HoldsRoot.put (h : HoldsRoot contents root) (value : Option Bytes) :
    HoldsRoot (contents.put .credentials value) root := by
  have hother : AuthenticationStoreKey.root ≠ .credentials := by decide
  rw [HoldsRoot, StoreContents.put_other hother]
  exact h

theorem HoldsCredentials.put (h : HoldsCredentials contents record) (value : Option Bytes) :
    HoldsCredentials (contents.put .root value) record := by
  have hother : AuthenticationStoreKey.credentials ≠ .root := by decide
  rw [HoldsCredentials, StoreContents.put_other hother]
  exact h

/-! ## Reads -/

/-- The store shows a provisioned root of the context, and the record behind it. -/
structure Provisioned (context : AuthenticationBootstrapContext)
    (contents : AuthenticationContents) (root : AuthProvisioningRoot)
    (record : AuthenticationCredentialRecord) : Prop where
  valid : context.validFor = true
  held : HoldsRoot contents root
  bound : root.BoundTo context
  state : root.state = .provisioned
  credentials : HoldsCredentials contents record
  epoch : record.storageEpoch = context.storageEpoch

theorem activeCredentials_iff_provisioned :
    activeCredentials context contents = some record ↔
      ∃ root, Provisioned context contents root record := by
  rw [activeCredentials_eq_some]
  constructor
  · rintro ⟨hvalid, ⟨root, hheld, hbound, hstate⟩, hcredentials, hepoch⟩
    exact ⟨root, hvalid, hheld, hbound, hstate, hcredentials, hepoch⟩
  · rintro ⟨root, h⟩
    exact ⟨h.valid, ⟨root, h.held, h.bound, h.state⟩, h.credentials, h.epoch⟩

/-- The root of the context is read, or nothing. -/
theorem ensures_readCountedRoot
    {post : AuthenticationReadResult AuthProvisioningRoot → CountedContents → Prop}
    (h : Provisioned context world.contents root record) (hcrash : crash world)
    (hunread : crash world.failRead) (hfound : post ⟨.success, some root⟩ world)
    (hfailed : ∀ result, result.value = none → post result world.failRead) :
    Program.Ensures countingStore crash post (readActiveRoot context) world := by
  unfold readActiveRoot readRoot
  rw [if_pos h.valid, Program.ensures_bind, Program.ensures_bind]
  refine ensures_readCounted hcrash ⟨hcrash, ?_⟩
    ⟨hunread, ⟨hunread, hunread, hfailed _ rfl⟩, hunread, hunread, hfailed _ rfl⟩
  rw [readResult_eq_success.mpr ⟨h.held, h.bound.1⟩]
  simp only
  rw [if_pos h.bound.2]
  exact ⟨hcrash, hfound⟩

/-- The credentials are read, or nothing. -/
theorem ensures_readCountedCredentials
    {post : AuthenticationReadResult AuthenticationCredentialRecord → CountedContents → Prop}
    (hheld : HoldsCredentials world.contents record)
    (hepoch : record.storageEpoch = context.storageEpoch) (hcrash : crash world)
    (hunread : crash world.failRead) (hfound : post ⟨.success, some record⟩ world)
    (hfailed : ∀ result, result.value = none → post result world.failRead) :
    Program.Ensures countingStore crash post (readCredentials context.storageEpoch) world := by
  rw [readCredentials, Program.ensures_bind]
  refine ensures_readCounted hcrash ?_
    ⟨hunread, ⟨hunread, hfailed _ rfl⟩, hunread, hfailed _ rfl⟩
  rw [readResult_eq_success.mpr ⟨hheld, hepoch⟩]
  exact ⟨hcrash, hfound⟩

theorem ensures_readCountedActive
    {post : AuthenticationReadResult AuthenticationCredentialRecord → CountedContents → Prop}
    (h : Provisioned context world.contents root record) (hcrash : crash world)
    (hunread : crash world.failRead) (hfound : post ⟨.success, some record⟩ world)
    (hfailed : ∀ result, result.value = none → post result world.failRead) :
    Program.Ensures countingStore crash post (readActiveCredentials context) world := by
  rw [readActiveCredentials, Program.ensures_bind]
  refine ensures_readCountedRoot h hcrash hunread ?_ fun result hnone => ?_
  · simp only
    rw [if_pos h.state]
    exact ensures_readCountedCredentials h.credentials h.epoch hcrash hunread hfound hfailed
  · split
    · cases hnone
    · exact ⟨hunread, hfailed _ rfl⟩

/-! ## The check at the start -/

variable {secret : AuthSecret} {verifier : Option AuthVerifier}
variable {kdf faulty : AuthenticationKdf} {current replacement : Bytes} {nowMs : UInt64}
variable {clocks : LockoutClocks}

/-- The change has come so far, by writes that took effect; only the end of it cannot be
refused, and the first write needs a number for its record. -/
def AtStage (record : AuthenticationCredentialRecord) (root : AuthProvisioningRoot)
    (secret : AuthSecret) (verifier : Option AuthVerifier) (stage : ℕ)
    (world : CountedContents) : Prop :=
  ChangeStage record root secret verifier stage world.contents ∧ world.effective = stage ∧
    (world.refused = true → stage < 4) ∧ (stage ≠ 0 → record.recordSequence ≠ maxUInt64)

def AtSomeStage (record : AuthenticationCredentialRecord) (root : AuthProvisioningRoot)
    (secret : AuthSecret) (verifier : Option AuthVerifier) (world : CountedContents) : Prop :=
  ∃ stage, AtStage record root secret verifier stage world

theorem AtStage.failRead {stage : ℕ} (h : AtStage record root secret verifier stage world) :
    AtStage record root secret verifier stage world.failRead := h

theorem AtStage.refuse {stage : ℕ} (h : AtStage record root secret verifier stage world)
    (hstage : stage < 4) : AtStage record root secret verifier stage world.refuse :=
  ⟨h.1, h.2.1, fun _ => hstage, h.2.2.2⟩

omit [DecidableEq Record] in
/-- A write of the next stage gets there, or leaves the change where it is. -/
theorem AtStage.attempt {stage : ℕ} {key : AuthenticationStoreKey} {target : Record}
    {status : AuthenticationWriteStatus} {after : CountedContents}
    (h : AtStage record root secret verifier stage world) (hstage : stage < 4)
    (hsequence : record.recordSequence ≠ maxUInt64) (hrefused : world.refused = false)
    (hread : world.misread = false)
    (hnext : ∀ encoded, encode target = .ok encoded →
      ChangeStage record root secret verifier (stage + 1)
        (world.contents.put key (some encoded)))
    (hafter : WriteAttempted encode key target world status after) :
    (AtStage record root secret verifier stage after ∧ status ≠ .success) ∨
      (AtStage record root secret verifier (stage + 1) after ∧ after.refused = false ∧
        (status = .success ↔ after.misread = false)) := by
  have hthere : ∀ {encoded}, encode target = .ok encoded →
      AtStage record root secret verifier (stage + 1) (world.wrote key encoded) := by
    intro encoded hencode
    refine ⟨hnext _ hencode, congrArg (· + 1) h.2.1, fun hnone => ?_, fun _ => hsequence⟩
    cases hrefused.symm.trans hnone
  cases hafter with
  | unchanged hstatus => exact .inl ⟨h, hstatus⟩
  | unread hstatus => exact .inl ⟨h.failRead, hstatus⟩
  | refused hstatus => exact .inl ⟨h.refuse hstage, hstatus⟩
  | written hencode => exact .inr ⟨hthere hencode, hrefused, fun _ => hread, fun _ => rfl⟩
  | unconfirmed hencode hstatus =>
      refine .inr ⟨(hthere hencode).failRead, hrefused, fun h => absurd h hstatus, ?_⟩
      rintro ⟨⟩

/-- The current secret is right, whenever the derivation is available. -/
structure RightSecret (kdf faulty : AuthenticationKdf) (record : AuthenticationCredentialRecord)
    (secret : AuthSecret) (current : Bytes) : Prop where
  valid : secret.validate current = .valid
  derives : ∀ input parameters derived, faulty input parameters = some derived →
    kdf input parameters = some derived
  matching : record.Matches kdf secret current

/-- The attempt is free, but the derivation is not available for it. -/
def Underived (record : AuthenticationCredentialRecord) (secret : AuthSecret)
    (faulty : AuthenticationKdf) (current : Bytes) (nowMs : UInt64) (clocks : LockoutClocks) :
    Prop :=
  record.enabled secret = true ∧ (record.measured secret nowMs clocks).1 = 0 ∧
    faulty current (record.verifierOf secret) = none

/-- Where the right secret gets: refused before the derivation or without one, or counted. -/
theorem decideAttempt_right (hsecret : RightSecret kdf faulty record secret current)
    (hepoch : record.storageEpoch = context.storageEpoch) :
    (∃ status retryAfterMs clock, decideAttempt faulty secret context record current nowMs
        clocks = (.refused status retryAfterMs, clocks.set clock secret) ∧
      status ≠ .authenticated ∧ status ≠ .kdfUnavailable ∧
      ¬Underived record secret faulty current nowMs clocks) ∨
    (∃ retryAfterMs, decideAttempt faulty secret context record current nowMs clocks =
        (.refused .kdfUnavailable retryAfterMs, clocks.set {} secret) ∧
      Underived record secret faulty current nowMs clocks) ∨
    (decideAttempt faulty secret context record current nowMs clocks =
        (.count (record.afterSuccess secret) .authenticated, clocks.set {} secret) ∧
      record.enabled secret = true ∧ record.Matches faulty secret current ∧
      record.recordSequence ≠ maxUInt64) := by
  have hmeasured : effectiveLockoutRemaining (record.lockoutOf secret)
      context.storageEpoch (record.epochOf secret) nowMs (clocks.of secret) =
        record.measured secret nowMs clocks := by
    rw [AuthenticationCredentialRecord.measured, hepoch]
  have hfreeClock : (record.measured secret nowMs clocks).1 = 0 →
      (record.measured secret nowMs clocks).2 = {} := clock_of_free
  unfold decideAttempt
  rw [hmeasured, Underived]
  generalize record.measured secret nowMs clocks = measured at hfreeClock ⊢
  obtain ⟨remaining, clock⟩ := measured
  simp only at hfreeClock ⊢
  split_ifs with henabled hlocked
  · refine .inl ⟨.disabled, 0, clocks.of secret, ?_, by rintro ⟨⟩, by rintro ⟨⟩, fun h => ?_⟩
    · cases secret <;> rfl
    · cases henabled.symm.trans h.1
  · exact .inl ⟨_, _, _, rfl, by rintro ⟨⟩, by rintro ⟨⟩, fun h => hlocked h.2.1⟩
  · have hfree := not_not.mp hlocked
    have henabled : record.enabled secret = true := (Bool.not_eq_false _).mp henabled
    rw [hfreeClock hfree, decideUnlocked]
    cases hderived : faulty current (record.verifierOf secret) with
    | none => exact .inr (.inl ⟨_, rfl, henabled, hfree, rfl⟩)
    | some derived =>
        have hsame := Option.some.inj ((hsecret.derives _ _ _ hderived).symm.trans hsecret.matching)
        simp only
        rw [if_pos hsame]
        split_ifs with hsequence
        · refine .inl ⟨_, _, _, rfl, by rintro ⟨⟩, by rintro ⟨⟩, ?_⟩
          rintro ⟨-, -, ⟨⟩⟩
        · refine .inr (.inr ⟨rfl, henabled, ?_, hsequence⟩)
          rw [AuthenticationCredentialRecord.Matches, hderived, hsame]

/-- How the check at the start of a change may end. -/
inductive CheckEnd (record : AuthenticationCredentialRecord) (root : AuthProvisioningRoot)
    (secret : AuthSecret) (verifier : Option AuthVerifier) (faulty : AuthenticationKdf)
    (current : Bytes) (nowMs : UInt64) (clocks : LockoutClocks) :
    VerificationResult → CountedContents → Prop
  | denied {status retryAfterMs clock after}
      (hstage : AtStage record root secret verifier 0 after) (hrefused : after.refused = false)
      (hstatus : status ≠ .authenticated ∧ status ≠ .kdfUnavailable)
      (hreason : after.misread = true ∨ ¬Underived record secret faulty current nowMs clocks) :
      CheckEnd record root secret verifier faulty current nowMs clocks
        ⟨status, retryAfterMs, clocks.set clock secret⟩ after
  | underived {retryAfterMs after} (hstage : AtStage record root secret verifier 0 after)
      (hread : after.misread = false)
      (hreason : Underived record secret faulty current nowMs clocks) :
      CheckEnd record root secret verifier faulty current nowMs clocks
        ⟨.kdfUnavailable, retryAfterMs, clocks.set {} secret⟩ after
  | refused {retryAfterMs after} (hstage : AtStage record root secret verifier 0 after)
      (hrefused : after.refused = true) (henabled : record.enabled secret = true) :
      CheckEnd record root secret verifier faulty current nowMs clocks
        ⟨.recoveryRequired, retryAfterMs, clocks.set {} secret⟩ after
  | unconfirmed {retryAfterMs clock after} (hstage : AtStage record root secret verifier 1 after)
      (hrefused : after.refused = false) (hread : after.misread = true)
      (henabled : record.enabled secret = true) :
      CheckEnd record root secret verifier faulty current nowMs clocks
        ⟨.recoveryRequired, retryAfterMs, clocks.set clock secret⟩ after
  | passed {retryAfterMs clock after} (hstage : AtStage record root secret verifier 1 after)
      (hrefused : after.refused = false) (hread : after.misread = false)
      (henabled : record.enabled secret = true) (hmatch : record.Matches faulty secret current) :
      CheckEnd record root secret verifier faulty current nowMs clocks
        ⟨.authenticated, retryAfterMs, clocks.set clock secret⟩ after

theorem LockoutClocks.set_of (clocks : LockoutClocks) (secret : AuthSecret) :
    clocks.set (clocks.of secret) secret = clocks := by
  cases secret <;> rfl

/-- The check at the start of a change counts its attempt or leaves everything alone. -/
theorem ensures_checkCurrent (hsecret : RightSecret kdf faulty record secret current)
    (hprovisioned : Provisioned context world.contents root record)
    (hstart : AtStage record root secret verifier 0 world) (hrefused : world.refused = false)
    (hread : world.misread = false) {post : VerificationResult → CountedContents → Prop}
    (hcrash : ∀ after, AtSomeStage record root secret verifier after → crash after)
    (hpost : ∀ result after,
      CheckEnd record root secret verifier faulty current nowMs clocks result after →
        post result after) :
    Program.Ensures countingStore crash post
      (verifySecret faulty secret context current nowMs clocks) world := by
  have hcut := hcrash world ⟨0, hstart⟩
  unfold verifySecret
  rw [if_pos hprovisioned.valid, if_pos hsecret.valid, Program.ensures_bind]
  refine ensures_readCountedActive hprovisioned hcut (hcrash _ ⟨0, hstart.failRead⟩) ?_
    fun read hnone => ?_
  · rcases decideAttempt_right hsecret hprovisioned.epoch with
      ⟨status, retryAfterMs, clock, hdecided, hpassed, hderived, hreason⟩ |
      ⟨retryAfterMs, hdecided, hreason⟩ | ⟨hdecided, henabled, hmatch, hsequence⟩
    · simp only
      rw [hdecided]
      exact ⟨hcut, hpost _ _ (.denied hstart hrefused ⟨hpassed, hderived⟩ (.inr hreason))⟩
    · simp only
      rw [hdecided]
      exact ⟨hcut, hpost _ _ (.underived hstart hread hreason)⟩
    · simp only
      rw [hdecided]
      simp only
      rw [Program.ensures_bind]
      have hattempt := fun status after => @AtStage.attempt world _
        encodeAuthenticationCredential record root secret verifier 0 .credentials
        (record.afterSuccess secret) status after hstart (by decide) hsequence hrefused
        hread fun encoded hencode => ⟨holdsCredentials_put hencode, hstart.1.2.put _⟩
      refine ensures_writeCountedCredentials AuthenticationCredentialRecord.counted_ne
        (fun status after hafter => ?_) fun status after hafter => ?_
      · rcases hattempt _ _ hafter with ⟨hsame, -⟩ | ⟨hcounted, -⟩
        · exact hcrash _ ⟨0, hsame⟩
        · exact hcrash _ ⟨1, hcounted⟩
      · rcases hattempt _ _ hafter with ⟨hsame, hstatus⟩ | ⟨hcounted, hnone, hsuccess⟩
        · rw [if_neg hstatus]
          refine ⟨hcrash _ ⟨0, hsame⟩, hpost _ _ ?_⟩
          cases hrefusal : after.refused with
          | true => exact .refused hsame hrefusal henabled
          | false =>
              refine .denied hsame hrefusal ⟨by rintro ⟨⟩, by rintro ⟨⟩⟩ (.inr ?_)
              rintro ⟨-, -, hunavailable⟩
              cases hmatch.symm.trans hunavailable
        · split
          · rename_i hstatus
            rw [LockoutClocks.set_set]
            exact ⟨hcrash _ ⟨1, hcounted⟩,
              hpost _ _ (.passed hcounted hnone (hsuccess.mp hstatus) henabled hmatch)⟩
          · rename_i hstatus
            exact ⟨hcrash _ ⟨1, hcounted⟩, hpost _ _ (.unconfirmed hcounted hnone
              ((Bool.not_eq_false _).mp fun h => hstatus (hsuccess.mpr h)) henabled)⟩
  · split
    · cases hnone
    · have hdenied := @CheckEnd.denied record root secret verifier faulty current nowMs clocks
        .recoveryRequired (some 0) (clocks.of secret) world.failRead hstart.failRead hrefused
        ⟨by rintro ⟨⟩, by rintro ⟨⟩⟩ (.inl rfl)
      rw [LockoutClocks.set_of] at hdenied
      exact ⟨hcrash _ ⟨0, hstart.failRead⟩, hpost _ _ hdenied⟩

theorem AuthProvisioningRoot.marked_ne : root.marked ≠ root := by
  intro h
  have hsequence := congrArg (·.recordSequence.toNat) h
  simp only [marked, UInt64.toNat_add, UInt64.toNat_one] at hsequence
  have hbound := root.recordSequence.toNat_lt
  omega

theorem AuthProvisioningRoot.unmarked_ne : root.unmarked ≠ root := by
  intro h
  have hsequence := congrArg (·.recordSequence.toNat) h
  simp only [unmarked, UInt64.toNat_add, UInt64.toNat_one] at hsequence
  have hbound := root.recordSequence.toNat_lt
  omega

/-! ## The replacement -/

/-- The verifier of the new secret, as a change computes it with both derivations. -/
def newVerifier (kdf : AuthenticationKdf) (record : AuthenticationCredentialRecord)
    (secret : AuthSecret) (current replacement : Bytes)
    (salt : Option (Block kAuthenticationSaltBytes)) : Option AuthVerifier := do
  let _ ← kdf current (record.verifierOf secret)
  makeVerifier kdf replacement salt (record.verifierOf secret)

/-- How the rest of a change may end, once its attempt is counted. -/
inductive ReplaceEnd (record : AuthenticationCredentialRecord) (root : AuthProvisioningRoot)
    (secret : AuthSecret) (verifier : Option AuthVerifier) :
    AuthBootstrapStatus → CountedContents → Prop
  | underived {after} (hstage : AtStage record root secret verifier 1 after)
      (hread : after.misread = false) (hnone : verifier = none) :
      ReplaceEnd record root secret verifier .kdfUnavailable after
  | unread {after} (hstage : AtStage record root secret verifier 1 after)
      (hread : after.misread = true) :
      ReplaceEnd record root secret verifier .recoveryRequired after
  | stopped {status stage after} (hstage : AtStage record root secret verifier stage after)
      (hbetween : 1 ≤ stage ∧ stage < 4) (hstatus : status ≠ .bootstrapAllowed)
      (hsome : verifier ≠ none) :
      ReplaceEnd record root secret verifier status after
  | unconfirmed {after} (hstage : AtStage record root secret verifier 4 after)
      (hread : after.misread = true) :
      ReplaceEnd record root secret verifier .recoveryRequired after
  | finished {after} (hstage : AtStage record root secret verifier 4 after)
      (hread : after.misread = false) :
      ReplaceEnd record root secret verifier .bootstrapAllowed after

/-- The rest of a change goes on from the counted attempt, one stage for each write. -/
theorem ensures_replaceCounted {salt : Option (Block kAuthenticationSaltBytes)}
    (hmatch : record.Matches faulty secret current)
    (hprovisioned : Provisioned context world.contents root (record.afterSuccess secret))
    (hverifier : verifier = newVerifier faulty record secret current replacement salt)
    (hstart : AtStage record root secret verifier 1 world) (hrefused : world.refused = false)
    (hread : world.misread = false) {post : AuthBootstrapStatus → CountedContents → Prop}
    (hcrash : ∀ after, AtSomeStage record root secret verifier after → crash after)
    (hpost : ∀ status after, ReplaceEnd record root secret verifier status after →
      post status after) :
    Program.Ensures countingStore crash post
      (replaceSecret faulty secret context replacement salt) world := by
  have hcut := hcrash _ ⟨1, hstart⟩
  have hunreadCut := hcrash _ ⟨1, hstart.failRead⟩
  have hunread : Program.Ensures countingStore crash post (.done .recoveryRequired)
      world.failRead := ⟨hunreadCut, hpost _ _ (.unread hstart.failRead rfl)⟩
  obtain ⟨hcredentials, hroot⟩ := id hstart.1
  have hsequence := hstart.2.2.2 (by decide)
  unfold replaceSecret
  rw [Program.ensures_bind]
  refine ensures_readCountedRoot hprovisioned hcut hunreadCut ?_ fun rootRead hnone => ?_
  swap
  · rw [Program.ensures_bind]
    refine @ensures_readCountedCredentials world.failRead _ _ _ _ hprovisioned.credentials
      hprovisioned.epoch hunreadCut hunreadCut ?_ fun _ _ => ?_
    · rw [hnone]
      exact hunread
    · rw [hnone]
      exact hunread
  rw [Program.ensures_bind]
  refine ensures_readCountedCredentials hprovisioned.credentials hprovisioned.epoch hcut
    hunreadCut ?_ fun credentialRead hnone => ?_
  swap
  · rw [hnone]
    exact hunread
  have hsame : (record.afterSuccess secret).verifierOf secret = record.verifierOf secret := by
    cases secret <;> rfl
  rw [newVerifier, hmatch] at hverifier
  simp only [hsame]
  split
  · rename_i hnone
    exact ⟨hcut, hpost _ _ (.underived hstart hread (hverifier.trans hnone))⟩
  rename_i new hnew
  have hnew : verifier = some new := hverifier.trans hnew
  have hsome : verifier ≠ none := by
    rw [hnew]
    rintro ⟨⟩
  have hstopped : ∀ {status stage after}, 1 ≤ stage → stage < 4 → status ≠ .bootstrapAllowed →
      AtStage record root secret verifier stage after →
        Program.Ensures countingStore crash post (.done status) after :=
    fun hfirst hlast hstatus hafter =>
      ⟨hcrash _ ⟨_, hafter⟩, hpost _ _ (.stopped hafter ⟨hfirst, hlast⟩ hstatus hsome)⟩
  split
  · exact hstopped (by decide) (by decide) (by rintro ⟨⟩) hstart
  split
  · exact hstopped (by decide) (by decide) (by rintro ⟨⟩) hstart
  rw [Program.ensures_bind]
  have hmark := fun status after => @AtStage.attempt world _ encodeAuthProvisioningRoot record
    root secret _ 1 .root root.marked status after hstart (by decide) hsequence hrefused hread
    fun encoded hencode => ⟨by rw [hnew]; rfl, hcredentials.put _, holdsRoot_put hencode⟩
  refine ensures_writeCountedRoot AuthProvisioningRoot.marked_ne
    (fun status after hafter => ?_) fun status marked hafter => ?_
  · rcases hmark _ _ hafter with ⟨hsame, -⟩ | ⟨hmarked, -⟩
    · exact hcrash _ ⟨1, hsame⟩
    · exact hcrash _ ⟨2, hmarked⟩
  rcases hmark _ _ hafter with ⟨hsame, hstatus⟩ | ⟨hmarked, hmarkedRefused, hmarkedRead⟩
  · rw [if_neg hstatus]
    exact hstopped (by decide) (by decide) (by rintro ⟨⟩) hsame
  split
  swap
  · exact hstopped (by decide) (by decide) (by rintro ⟨⟩) hmarked
  rename_i hstatus
  rw [Program.ensures_bind]
  have hreplace := fun status after => @AtStage.attempt marked _ encodeAuthenticationCredential
    record root secret _ 2 .credentials ((record.afterSuccess secret).replaced secret new)
    status after hmarked (by decide) hsequence hmarkedRefused (hmarkedRead.mp hstatus)
    fun encoded hencode => ⟨new, hnew, holdsCredentials_put hencode, hmarked.1.2.2.put _⟩
  refine ensures_writeCountedCredentials AuthenticationCredentialRecord.replaced_ne
    (fun status after hafter => ?_) fun status replaced hafter => ?_
  · rcases hreplace _ _ hafter with ⟨hsame, -⟩ | ⟨hreplaced, -⟩
    · exact hcrash _ ⟨2, hsame⟩
    · exact hcrash _ ⟨3, hreplaced⟩
  rcases hreplace _ _ hafter with ⟨hsame, hstatus⟩ | ⟨hreplaced, hreplacedRefused, hreplacedRead⟩
  · cases status with
    | success => exact absurd rfl hstatus
    | _ => exact hstopped (by decide) (by decide) (by rintro ⟨⟩) hsame
  cases status with
  | success =>
      simp only
      split
      · exact hstopped (by decide) (by decide) (by rintro ⟨⟩) hreplaced
      rw [Program.ensures_bind]
      have hfinish := fun status after => @AtStage.attempt replaced _ encodeAuthProvisioningRoot
        record root secret _ 3 .root root.marked.unmarked status after hreplaced (by decide)
        hsequence hreplacedRefused (hreplacedRead.mp rfl) fun encoded hencode => by
          obtain ⟨found, hfound, hheld, -⟩ := id hreplaced.1
          exact ⟨found, hfound, hheld.put _, holdsRoot_put hencode⟩
      refine ensures_writeCountedRoot (@AuthProvisioningRoot.unmarked_ne root.marked)
        (fun status after hafter => ?_) fun status finished hafter => ?_
      · rcases hfinish _ _ hafter with ⟨hsame, -⟩ | ⟨hfinished, -⟩
        · exact hcrash _ ⟨3, hsame⟩
        · exact hcrash _ ⟨4, hfinished⟩
      rcases hfinish _ _ hafter with ⟨hsame, hstatus⟩ | ⟨hfinished, -, hfinishedRead⟩
      · rw [if_neg hstatus]
        exact hstopped (by decide) (by decide) (by rintro ⟨⟩) hsame
      · split
        · rename_i hstatus
          exact ⟨hcrash _ ⟨4, hfinished⟩,
            hpost _ _ (.finished hfinished (hfinishedRead.mp hstatus))⟩
        · rename_i hstatus
          exact ⟨hcrash _ ⟨4, hfinished⟩, hpost _ _ (.unconfirmed hfinished
            ((Bool.not_eq_false _).mp fun h => hstatus (hfinishedRead.mpr h)))⟩
  | _ => exact hstopped (by decide) (by decide) (by rintro ⟨⟩) hreplaced

/-! ## A change -/

/-- The change has failed for sure: a write was refused, or the verifier of either secret
could not be derived where it was needed. -/
def FailsDefinitely (record : AuthenticationCredentialRecord) (secret : AuthSecret)
    (verifier : Option AuthVerifier) (faulty : AuthenticationKdf) (current : Bytes)
    (nowMs : UInt64) (clocks : LockoutClocks) (after : CountedContents) : Prop :=
  after.refused = true ∨ after.misread = false ∧
    (after.effective = 0 ∧ Underived record secret faulty current nowMs clocks ∨
      after.effective = 1 ∧ verifier = none)

/-- What the status of a change and the clocks after it tell about the world. -/
structure ChangeEnd (record : AuthenticationCredentialRecord) (root : AuthProvisioningRoot)
    (secret : AuthSecret) (verifier : Option AuthVerifier) (faulty : AuthenticationKdf)
    (current : Bytes) (nowMs : UInt64) (clocks : LockoutClocks) (result : ChangeResult)
    (after : CountedContents) : Prop where
  stage : AtSomeStage record root secret verifier after
  measured : ∃ clock, result.clocks = clocks.set clock secret
  allowed : result.status = .bootstrapAllowed ↔ after.effective = 4 ∧ after.misread = false
  failed : after.refused = true ∨ result.status = .kdfUnavailable ∧ verifier = none ↔
    FailsDefinitely record secret verifier faulty current nowMs clocks after
  enabled : 1 ≤ after.effective ∨
      FailsDefinitely record secret verifier faulty current nowMs clocks after →
    record.enabled secret = true
  fresh : after.effective = 0 →
    FailsDefinitely record secret verifier faulty current nowMs clocks after →
      result.clocks.of secret = {}

/-- A change whose check has not passed. -/
theorem CheckEnd.change {result : VerificationResult} {after : CountedContents}
    (h : CheckEnd record root secret verifier faulty current nowMs clocks result after)
    (hnone : Underived record secret faulty current nowMs clocks → verifier = none)
    (hstatus : result.status ≠ .authenticated) :
    ChangeEnd record root secret verifier faulty current nowMs clocks
      ⟨some result.status, result.status.mapCredentialVerification, result.clocks⟩ after := by
  have hallowed : result.status.mapCredentialVerification ≠ .bootstrapAllowed := by
    cases hresult : result.status with
    | authenticated => exact absurd hresult hstatus
    | _ => rintro ⟨⟩
  have hunavailable : result.status ≠ .kdfUnavailable →
      result.status.mapCredentialVerification ≠ .kdfUnavailable := by
    intro h
    cases hresult : result.status with
    | kdfUnavailable => exact absurd hresult h
    | _ => rintro ⟨⟩
  cases h with
  | denied hstage hrefused hdenied hreason =>
      have heffective := hstage.2.1
      have hfails : ¬FailsDefinitely record secret verifier faulty current nowMs clocks after := by
        rintro (hrefusal | ⟨hread, ⟨-, hunderived⟩ | ⟨hcounted, -⟩⟩)
        · cases hrefused.symm.trans hrefusal
        · rcases hreason with hunread | hreason
          · cases hread.symm.trans hunread
          · exact hreason hunderived
        · cases heffective.symm.trans hcounted
      refine ⟨⟨0, hstage⟩, ⟨_, rfl⟩, ⟨fun h => absurd h hallowed, fun h => ?_⟩,
        ⟨?_, fun h => absurd h hfails⟩, ?_, fun _ h => absurd h hfails⟩
      · cases heffective.symm.trans h.1
      · rintro (hrefusal | ⟨hkdf, -⟩)
        · cases hrefused.symm.trans hrefusal
        · exact absurd hkdf (hunavailable hdenied.2)
      · rintro (hcounted | h)
        · rw [heffective] at hcounted
          cases hcounted
        · exact absurd h hfails
  | underived hstage hread hreason =>
      have heffective := hstage.2.1
      refine ⟨⟨0, hstage⟩, ⟨_, rfl⟩, ⟨fun h => absurd h hallowed, fun h => ?_⟩,
        ⟨fun _ => .inr ⟨hread, .inl ⟨heffective, hreason⟩⟩, fun _ => .inr ⟨rfl, hnone hreason⟩⟩,
        fun _ => hreason.1, fun _ _ => LockoutClocks.of_set ..⟩
      cases heffective.symm.trans h.1
  | refused hstage hrefused henabled =>
      have heffective := hstage.2.1
      refine ⟨⟨0, hstage⟩, ⟨_, rfl⟩, ⟨fun h => absurd h hallowed, fun h => ?_⟩,
        ⟨fun _ => .inl hrefused, fun _ => .inl hrefused⟩, fun _ => henabled,
        fun _ _ => LockoutClocks.of_set ..⟩
      cases heffective.symm.trans h.1
  | unconfirmed hstage hrefused hread henabled =>
      have heffective := hstage.2.1
      have hfails : ¬FailsDefinitely record secret verifier faulty current nowMs clocks after := by
        rintro (hrefusal | ⟨hconfirmed, -⟩)
        · cases hrefused.symm.trans hrefusal
        · cases hread.symm.trans hconfirmed
      refine ⟨⟨1, hstage⟩, ⟨_, rfl⟩, ⟨fun h => absurd h hallowed, fun h => ?_⟩,
        ⟨?_, fun h => absurd h hfails⟩, fun _ => henabled, fun _ h => absurd h hfails⟩
      · cases heffective.symm.trans h.1
      · rintro (hrefusal | ⟨⟨⟩, -⟩)
        cases hrefused.symm.trans hrefusal
  | passed => exact absurd rfl hstatus

/-- A change that has come past its check. -/
theorem ReplaceEnd.change {status : AuthBootstrapStatus} {after : CountedContents}
    {clock : LockoutClock} (h : ReplaceEnd record root secret verifier status after)
    (henabled : record.enabled secret = true) :
    ChangeEnd record root secret verifier faulty current nowMs clocks
      ⟨some .authenticated, status, clocks.set clock secret⟩ after := by
  -- Past the first write a change fails for sure by a refusal, or underived at stage one.
  have hlater : 1 ≤ after.effective →
      (FailsDefinitely record secret verifier faulty current nowMs clocks after ↔
        after.refused = true ∨ after.misread = false ∧ after.effective = 1 ∧ verifier = none) := by
    intro hcounted
    have hpositive : after.effective ≠ 0 := by omega
    simp only [FailsDefinitely, hpositive, false_and, false_or]
  have hdone : ∀ {stage}, AtStage record root secret verifier stage after → 1 ≤ stage →
      (status = .bootstrapAllowed ↔ after.effective = 4 ∧ after.misread = false) →
      (status = .kdfUnavailable ∧ verifier = none ↔
        after.misread = false ∧ after.effective = 1 ∧ verifier = none) →
      ChangeEnd record root secret verifier faulty current nowMs clocks
        ⟨some .authenticated, status, clocks.set clock secret⟩ after := by
    intro stage hstage hfirst hallowed hfailed
    have hcounted : 1 ≤ after.effective := hstage.2.1.symm ▸ hfirst
    refine ⟨⟨_, hstage⟩, ⟨_, rfl⟩, hallowed, ?_, fun _ => henabled, fun hzero => ?_⟩
    · rw [hlater hcounted, hfailed]
    · omega
  cases h with
  | underived hstage hread hnone =>
      refine hdone hstage (by decide) ⟨by rintro ⟨⟩, fun h => ?_⟩
        ⟨fun _ => ⟨hread, hstage.2.1, hnone⟩, fun _ => ⟨rfl, hnone⟩⟩
      cases hstage.2.1.symm.trans h.1
  | unread hstage hread =>
      refine hdone hstage (by decide) ⟨by rintro ⟨⟩, fun h => ?_⟩ ⟨by rintro ⟨⟨⟩, -⟩, fun h => ?_⟩
      · cases hstage.2.1.symm.trans h.1
      · cases hread.symm.trans h.1
  | @stopped _ stage _ hstage hbetween hstatus hsome =>
      refine hdone hstage hbetween.1 ⟨fun h => absurd h hstatus, fun h => ?_⟩
        ⟨fun h => absurd h.2 hsome, fun h => absurd h.2.2 hsome⟩
      have := hstage.2.1
      omega
  | unconfirmed hstage hread =>
      refine hdone hstage (by decide) ⟨by rintro ⟨⟩, fun h => ?_⟩ ⟨by rintro ⟨⟨⟩, -⟩, fun h => ?_⟩
      · cases hread.symm.trans h.2
      · cases hread.symm.trans h.1
  | finished hstage hread =>
      refine hdone hstage (by decide) ⟨fun _ => ⟨hstage.2.1, hread⟩, fun _ => rfl⟩
        ⟨by rintro ⟨⟨⟩, -⟩, fun h => ?_⟩
      cases hstage.2.1.symm.trans h.2.1

/-- A change, finished or cut off, is at one of its stages. -/
theorem ensures_changeCounted {salt : Option (Block kAuthenticationSaltBytes)}
    (hsecret : RightSecret kdf faulty record secret current)
    (hreplacement : secret.validate replacement = .valid)
    (hprovisioned : Provisioned context contents root record) :
    Program.Ensures countingStore
      (AtSomeStage record root secret (newVerifier faulty record secret current replacement salt))
      (ChangeEnd record root secret (newVerifier faulty record secret current replacement salt)
        faulty current nowMs clocks)
      (changeSecret faulty secret context current replacement salt nowMs clocks)
      { contents } := by
  have hstart : AtStage record root secret
      (newVerifier faulty record secret current replacement salt) 0 { contents } :=
    ⟨⟨hprovisioned.credentials, hprovisioned.held⟩, rfl, fun _ => by decide,
      fun h => absurd rfl h⟩
  have hnone : Underived record secret faulty current nowMs clocks →
      newVerifier faulty record secret current replacement salt = none := by
    rintro ⟨-, -, hunavailable⟩
    rw [newVerifier, hunavailable]
    rfl
  unfold changeSecret
  rw [if_pos hprovisioned.valid, if_pos hreplacement, Program.ensures_bind]
  refine ensures_checkCurrent hsecret hprovisioned hstart rfl rfl (fun _ hafter => hafter)
    fun result middle hend => ?_
  split
  · rename_i hstatus
    cases hend with
    | passed hstage hrefused hread henabled hmatch =>
        have hcounted : Provisioned context middle.contents root (record.afterSuccess secret) :=
          ⟨hprovisioned.valid, hstage.1.2, hprovisioned.bound, hprovisioned.state, hstage.1.1, by
            rw [← hprovisioned.epoch]
            cases secret <;> rfl⟩
        rw [Program.ensures_bind]
        refine ensures_replaceCounted hmatch hcounted rfl hstage hrefused hread
          (fun _ hafter => hafter) fun status after hreplaced => ?_
        have hchange := fun clock => @ReplaceEnd.change record root secret _ faulty current nowMs
          clocks status after clock hreplaced henabled
        exact ⟨(hchange {}).stage, hchange _⟩
    | denied _ _ hdenied _ => exact absurd hstatus hdenied.1
    | _ => cases hstatus
  · rename_i hstatus
    have hchange := hend.change hnone hstatus
    exact ⟨hchange.stage, hchange⟩

end Fermentationsschrank

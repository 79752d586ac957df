import Fermentationsschrank.Core.Runs
import Fermentationsschrank.Network.NetworkConfigurationService

/-!
# Network credentials in memory and in the store

Between two calls of the service the active credential is the one that a load would
return, whatever the store and the lifecycle did.  Most of the service only calls the
lifecycle and leaves the store alone; what remains is one read and one write.
-/

namespace Fermentationsschrank

open Program ConnectivityCredentialStore NetworkConfigurationService

/-! ## What was handed out -/

inductive NetworkSecret
  | softAp (password : Bytes)
  | homeWifi (home : NetworkCredentials)
  deriving DecidableEq, Repr

def ConnectivityCredential.secrets (credential : ConnectivityCredential) : List NetworkSecret :=
  credential.softApPassword.toList.map .softAp ++ credential.homeWifi.toList.map .homeWifi

/-- The secrets of a credential that may be absent. -/
def secretsOf (credential : Option ConnectivityCredential) : List NetworkSecret :=
  credential.toList.flatMap (·.secrets)

def LifecycleCall.secrets : LifecycleCall → List NetworkSecret
  | .setAccessPointCredentials _ password => [.softAp password]
  | .start _ homeCredentials => homeCredentials.toList.map .homeWifi
  | .stop => []
  | .testCandidate candidate => [.homeWifi candidate]

/-- Every lifecycle call of the events carries only allowed secrets. -/
def HandsOut (allowed : NetworkSecret → Prop) (events : List NetworkEvent) : Prop :=
  ∀ request status, .lifecycle request status ∈ events →
    ∀ secret ∈ request.secrets, allowed secret

variable {allowed : NetworkSecret → Prop} {events later : List NetworkEvent}

theorem handsOut_nil : HandsOut allowed [] := by
  intro request status h
  cases h

theorem HandsOut.append (h : HandsOut allowed events) (hlater : HandsOut allowed later) :
    HandsOut allowed (events ++ later) := by
  intro request status hmem
  rcases List.mem_append.mp hmem with hearly | hlate
  · exact h request status hearly
  · exact hlater request status hlate

theorem HandsOut.mono {permitted : NetworkSecret → Prop} (h : HandsOut allowed events)
    (hallowed : ∀ secret, allowed secret → permitted secret) : HandsOut permitted events :=
  fun request status hmem secret hsecret => hallowed secret (h request status hmem secret hsecret)

theorem handsOut_singleton {request : LifecycleCall} {status : NetworkOperationStatus}
    (h : ∀ secret ∈ request.secrets, allowed secret) :
    HandsOut allowed [.lifecycle request status] := by
  intro other found hmem
  cases List.mem_singleton.mp hmem
  exact h

theorem mem_secretsOf {credential : ConnectivityCredential} {secret : NetworkSecret} :
    secret ∈ secretsOf (some credential) ↔ secret ∈ credential.secrets := by
  rw [secretsOf, Option.toList_some, List.flatMap_singleton]

theorem softAp_mem_secrets {credential : ConnectivityCredential} {password : Bytes}
    (h : credential.softApPassword = some password) :
    NetworkSecret.softAp password ∈ credential.secrets := by
  rw [ConnectivityCredential.secrets, h]
  exact List.mem_append_left _ List.mem_cons_self

theorem homeWifi_mem_secrets {credential : ConnectivityCredential} {home : NetworkCredentials}
    (h : credential.homeWifi = some home) :
    NetworkSecret.homeWifi home ∈ credential.secrets := by
  rw [ConnectivityCredential.secrets, h]
  exact List.mem_append_right _ List.mem_cons_self

/-! ## Writes without a known outcome -/

/-- The bytes of the last write as long as no readback has shown them. -/
def unresolvedAfter : Option Bytes → NetworkEvent → Option Bytes
  | _, .wrote value .success => some value
  | _, .wrote value .commitOutcomeUnknown => some value
  | some value, .read (.success found) => if found = value then none else some value
  | unresolved, _ => unresolved

def unresolvedWrite (events : List NetworkEvent) : Option Bytes :=
  events.foldl unresolvedAfter none

theorem unresolvedWrite_append :
    unresolvedWrite (events ++ later) = later.foldl unresolvedAfter (unresolvedWrite events) :=
  List.foldl_append ..

theorem unresolvedWrite_lifecycle (request : LifecycleCall) (status : NetworkOperationStatus) :
    unresolvedWrite (events ++ [.lifecycle request status]) = unresolvedWrite events := by
  rw [unresolvedWrite_append, List.foldl_cons, List.foldl_nil]
  cases unresolvedWrite events <;> rfl

theorem unresolvedWrite_read {reply : StateStoreReadResult} (h : unresolvedWrite events = none) :
    unresolvedWrite (events ++ [.read reply]) = none := by
  rw [unresolvedWrite_append, h]
  cases reply <;> rfl

/-! ## Routines that leave the store alone -/

variable {α : Type} {world last : NetworkWorld}

/-- The events went on, and handed out allowed secrets only. -/
def HandedSince (allowed : NetworkSecret → Prop) (world last : NetworkWorld) : Prop :=
  ∃ later, last.events = world.events ++ later ∧ HandsOut allowed later

theorem HandedSince.refl (world : NetworkWorld) : HandedSince allowed world world :=
  ⟨[], (List.append_nil _).symm, handsOut_nil⟩

theorem HandedSince.trans {middle : NetworkWorld} (h : HandedSince allowed world middle)
    (hlater : HandedSince allowed middle last) : HandedSince allowed world last := by
  obtain ⟨first, hfirst, hhanded⟩ := h
  obtain ⟨second, hsecond, hhandedLater⟩ := hlater
  exact ⟨first ++ second, by rw [hsecond, hfirst, List.append_assoc],
    hhanded.append hhandedLater⟩

theorem HandedSince.mono {permitted : NetworkSecret → Prop}
    (h : HandedSince allowed world last)
    (hallowed : ∀ secret, allowed secret → permitted secret) :
    HandedSince permitted world last := by
  obtain ⟨later, hevents, hhanded⟩ := h
  exact ⟨later, hevents, hhanded.mono hallowed⟩

/-- Only the lifecycle is called, and only with allowed secrets. -/
def OnlyHands (allowed : NetworkSecret → Prop) : NetworkCall → Prop
  | .lifecycle request => ∀ secret ∈ request.secrets, allowed secret
  | .read | .write _ => False

/-- The store and its open write are as they were, and the events go on with lifecycle
calls. -/
structure OnlyHanded (allowed : NetworkSecret → Prop) (world last : NetworkWorld) : Prop where
  contents : last.contents = world.contents
  unresolved : unresolvedWrite last.events = unresolvedWrite world.events
  events : HandedSince allowed world last

theorem OnlyHanded.refl (world : NetworkWorld) : OnlyHanded allowed world world :=
  ⟨rfl, rfl, .refl world⟩

theorem OnlyHanded.trans {middle : NetworkWorld} (h : OnlyHanded allowed world middle)
    (hlater : OnlyHanded allowed middle last) : OnlyHanded allowed world last := by
  exact ⟨hlater.contents.trans h.contents, hlater.unresolved.trans h.unresolved,
    h.events.trans hlater.events⟩

theorem onlyHanded_of_lifecycle {request : LifecycleCall} {status : NetworkOperationStatus}
    (h : ∀ secret ∈ request.secrets, allowed secret)
    (hreply : networkEnvironment world (.lifecycle request) status last) :
    OnlyHanded allowed world last := by
  have hlast : last = ⟨world.contents, world.events ++ [.lifecycle request status]⟩ := hreply
  rw [hlast]
  exact ⟨rfl, unresolvedWrite_lifecycle request status, _, rfl, handsOut_singleton h⟩

/-- A routine that only calls the lifecycle leaves the store alone. -/
theorem ensures_of_only {crash : NetworkWorld → Prop} {post : α → Prop}
    {routine : NetworkProgram α} (h : Only (OnlyHands allowed) post routine)
    (hcrash : ∀ world, crash world) (world : NetworkWorld) :
    Ensures networkEnvironment crash
      (fun result last => post result ∧ OnlyHanded allowed world last) routine world := by
  induction routine generalizing world with
  | done result => exact ⟨hcrash world, h, .refl world⟩
  | call request next ih =>
      refine ⟨hcrash world, fun reply middle hreply => ?_⟩
      cases request with
      | read => exact h.1.elim
      | write value => exact h.1.elim
      | lifecycle request =>
          refine (ih reply (h.2 reply) middle).mono (fun _ hdone => hdone) ?_
          rintro result last _ ⟨hpost, hhanded⟩
          exact ⟨hpost, (onlyHanded_of_lifecycle h.1 hreply).trans hhanded⟩

/-! ## Calls of the lifecycle -/

variable {service : NetworkConfigurationService}

theorem only_callLifecycle {post : NetworkOperationStatus → Prop} {request : LifecycleCall}
    (h : ∀ secret ∈ request.secrets, allowed secret) (hpost : ∀ status, post status) :
    Only (OnlyHands allowed) post (callLifecycle request) :=
  ⟨h, hpost⟩

theorem only_giveUp (service : NetworkConfigurationService)
    (status : NetworkConfigurationStatus) :
    Only (OnlyHands allowed) (fun outcome => outcome = (status, { service with
      initialized := false })) (service.giveUp status) :=
  only_bind (only_callLifecycle (by simp [LifecycleCall.secrets]) fun _ => rfl)

theorem only_haltForRecovery (service : NetworkConfigurationService)
    (active : Option ConnectivityCredential) (status : NetworkConfigurationStatus) :
    Only (OnlyHands allowed) (fun outcome => outcome.2.initialized = false ∧
      outcome.2.activeCredential = active ∧ outcome.2.storageEpoch = service.storageEpoch)
      (service.haltForRecovery active status) :=
  only_bind (only_callLifecycle (by simp [LifecycleCall.secrets]) fun _ => ⟨rfl, rfl, rfl⟩)

/-- Every secret of the request comes from the credential. -/
theorem secrets_setAccessPoint {credential : ConnectivityCredential} {ssid password : Bytes}
    (h : credential.softApPassword = some password) :
    ∀ secret ∈ (LifecycleCall.setAccessPointCredentials ssid password).secrets,
      secret ∈ credential.secrets := by
  intro secret hsecret
  rw [LifecycleCall.secrets, List.mem_singleton] at hsecret
  rw [hsecret]
  exact softAp_mem_secrets h

theorem secrets_start {credential : ConnectivityCredential} {mode : NetworkMode}
    {homeCredentials : Option NetworkCredentials}
    (h : ∀ home, homeCredentials = some home → credential.homeWifi = some home) :
    ∀ secret ∈ (LifecycleCall.start mode homeCredentials).secrets,
      secret ∈ credential.secrets := by
  intro secret hsecret
  rw [LifecycleCall.secrets, List.mem_map] at hsecret
  obtain ⟨home, hhome, rfl⟩ := hsecret
  exact homeWifi_mem_secrets (h home (Option.mem_toList.mp hhome))

theorem only_restoreActiveTransport (service : NetworkConfigurationService) :
    Only (OnlyHands (· ∈ secretsOf service.activeCredential)) (fun _ => True)
      service.restoreActiveTransport := by
  rw [restoreActiveTransport]
  split
  · trivial
  · rename_i active hactive
    rw [hactive]
    split
    · trivial
    · rename_i password hpassword
      split_ifs
      · trivial
      · refine only_bind (only_callLifecycle ?_ fun named => ?_)
        · intro secret hsecret
          exact mem_secretsOf.mpr (secrets_setAccessPoint hpassword secret hsecret)
        · split_ifs
          · trivial
          · refine only_bind (only_callLifecycle ?_ fun _ => trivial)
            intro secret hsecret
            exact mem_secretsOf.mpr (secrets_start (fun _ h => h) secret hsecret)

theorem only_dropCandidate (service : NetworkConfigurationService)
    (status : NetworkConfigurationStatus) :
    Only (OnlyHands (· ∈ secretsOf service.activeCredential))
      (fun outcome => outcome = (status, { service with candidate := none }))
      (service.dropCandidate status) :=
  only_bind ((only_restoreActiveTransport service).mono fun _ _ => rfl)

/-- What a start does once its active credential is settled. -/
def SettledOn (service : NetworkConfigurationService) (outcome : Outcome) : Prop :=
  outcome.2.activeCredential = service.activeCredential ∧
    outcome.2.storageEpoch = service.storageEpoch

theorem only_startAlong {active : ConnectivityCredential}
    (hactive : service.activeCredential = some active) (path : NetworkStartupPath) :
    Only (OnlyHands (· ∈ secretsOf service.activeCredential)) (SettledOn service)
      (startAlong service active path) := by
  rw [startAlong]
  split_ifs with hselection hhome
  · exact ⟨rfl, rfl⟩
  all_goals
    refine only_bind (only_callLifecycle ?_ fun started => ?_)
    · intro secret hsecret
      rw [hactive]
      exact mem_secretsOf.mpr (secrets_start (by simp) secret hsecret)
    · split_ifs
      · exact (only_giveUp _ _).mono fun outcome houtcome => by rw [houtcome]; exact ⟨rfl, rfl⟩
      · exact ⟨rfl, rfl⟩

theorem only_startTransport (service : NetworkConfigurationService) (canonicalDeviceName : Bytes)
    (explicitHomeWifiReconfiguration : Bool) :
    Only (OnlyHands (· ∈ secretsOf service.activeCredential)) (SettledOn service)
      (service.startTransport canonicalDeviceName explicitHomeWifiReconfiguration) := by
  have hgive : ∀ status, Only (OnlyHands (· ∈ secretsOf service.activeCredential))
      (SettledOn service) (service.giveUp status) := fun status =>
    (only_giveUp service status).mono fun outcome houtcome => by rw [houtcome]; exact ⟨rfl, rfl⟩
  rw [startTransport]
  split
  · rename_i softApSsid active _ hactive
    split
    · exact hgive _
    · rename_i password hpassword
      refine only_bind (only_callLifecycle ?_ fun named => ?_)
      · intro secret hsecret
        rw [hactive]
        exact mem_secretsOf.mpr (secrets_setAccessPoint hpassword secret hsecret)
      · split_ifs
        · exact hgive _
        · have hnamed : ({ service with activeSoftApSsid := softApSsid }
              : NetworkConfigurationService).activeCredential = some active := hactive
          exact only_startAlong hnamed _
  · exact hgive _

/-- An adopted credential is the active one, and it alone was handed out. -/
theorem only_adoptCommitted {committed : ConnectivityCredential} {password : Bytes}
    (service : NetworkConfigurationService) (hpassword : committed.softApPassword = some password) :
    Only (OnlyHands (· ∈ secretsOf (some committed)))
      (fun outcome => outcome.2.activeCredential = some committed ∧
        outcome.2.storageEpoch = service.storageEpoch) (service.adoptCommitted committed) := by
  have hhalt : ∀ status, Only (OnlyHands (· ∈ secretsOf (some committed)))
      (fun outcome => outcome.2.activeCredential = some committed ∧
        outcome.2.storageEpoch = service.storageEpoch)
      (service.haltForRecovery (some committed) status) := fun status =>
    (only_haltForRecovery service (some committed) status).mono fun _ houtcome => houtcome.2
  rw [adoptCommitted]
  refine only_bind (only_callLifecycle ?_ fun named => ?_)
  · intro secret hsecret
    rw [hpassword, Option.getD_some] at hsecret
    exact mem_secretsOf.mpr (secrets_setAccessPoint hpassword secret hsecret)
  · split_ifs
    · exact hhalt _
    · refine only_bind (only_callLifecycle ?_ fun started => ?_)
      · intro secret hsecret
        exact mem_secretsOf.mpr (secrets_start (fun _ h => h) secret hsecret)
      · split_ifs
        · exact hhalt _
        · exact ⟨rfl, rfl⟩

/-! ## Store -/

variable {epoch sequence : UInt64} {credential : ConnectivityCredential}

/-- The sequence of a new record: one above the record that loads, or the first one. -/
def FollowsOn : ConnectivityCredentialLoadResult → UInt64 → Prop
  | .available record, sequence => sequence.toNat = record.recordSequence.toNat + 1
  | .notFound, sequence | .otherEpoch, sequence => sequence = 1
  | .readError, _ | .capacityError, _ | .invalidRecord, _ => False

/-- The credential was stored as the next record of the epoch. -/
def StoredNext (contents : ConnectivityContents) (epoch : UInt64)
    (credential : ConnectivityCredential) (next : ConnectivityContents) : Prop :=
  ∃ sequence encoded, FollowsOn (loadStored contents epoch) sequence ∧
    encodeConnectivityRecord credential epoch sequence = .ok encoded ∧
      next = contents.put .credential (some encoded)

/-- What was stored is loaded from now on. -/
theorem loadStored_of_storedNext {contents next : ConnectivityContents}
    (h : StoredNext contents epoch credential next) :
    ∃ record, loadStored next epoch = .available record ∧ record.credential = credential := by
  obtain ⟨sequence, encoded, _, hencoded, rfl⟩ := h
  exact ⟨_, loadStored_encode hencoded (StoreContents.put_same ..), rfl⟩

theorem softApPassword_of_storedNext {contents next : ConnectivityContents}
    (h : StoredNext contents epoch credential next) :
    ∃ password, credential.softApPassword = some password := by
  obtain ⟨sequence, encoded, _, hencoded, _⟩ := h
  exact (validateConnectivityCredentialV2_eq_success
    (encodeConnectivityRecord_eq_ok hencoded).2.1).2

theorem followsOn_succ {record : ConnectivityCredentialRecord}
    (h : record.recordSequence ≠ kMaximumRecordSequence) :
    FollowsOn (.available record) (record.recordSequence + 1) := by
  have hbelow : record.recordSequence.toNat ≠ 18446744073709551615 := fun hmax =>
    h (UInt64.toNat_inj.mp hmax)
  have hword := record.recordSequence.toNat_lt
  show (record.recordSequence + 1).toNat = _
  rw [UInt64.toNat_add, UInt64.toNat_one]
  omega

variable {crash : NetworkWorld → Prop}

/-- What a load leaves behind: the events hand nothing out, and nothing is changed. -/
structure Loaded (epoch : UInt64) (world : NetworkWorld)
    (loaded : ConnectivityCredentialLoadResult) (last : NetworkWorld) : Prop where
  contents : last.contents = world.contents
  unresolved : unresolvedWrite world.events = none → unresolvedWrite last.events = none
  events : HandedSince (fun _ => False) world last
  stored : loaded ≠ .readError → loaded ≠ .capacityError →
    loadStored world.contents epoch = loaded

theorem handsOut_read {reply : StateStoreReadResult} :
    HandsOut (fun _ => False) [.read reply] := by
  intro request status h
  cases List.mem_singleton.mp h

theorem ensures_load (hcrash : ∀ world, crash world) (epoch : UInt64) (world : NetworkWorld) :
    Ensures networkEnvironment crash (Loaded epoch world) (load epoch) world := by
  refine ⟨hcrash world, fun reply middle hreply => ?_⟩
  obtain ⟨hreads, rfl⟩ := hreply
  exact ⟨hcrash _, rfl, unresolvedWrite_read, ⟨_, rfl, handsOut_read⟩, loadStored_of_read hreads⟩

/-- The ways a write of the next record ends. -/
structure Written (epoch : UInt64) (credential : ConnectivityCredential) (world : NetworkWorld)
    (status : ConnectivityCredentialWriteStatus) (last : NetworkWorld) : Prop where
  events : HandedSince (fun _ => False) world last
  contents : last.contents = world.contents ∨
    StoredNext world.contents epoch credential last.contents
  committed : status = .committed → StoredNext world.contents epoch credential last.contents
  refused : status = .writeFailure ∨ status = .capacityFailure →
    last.contents = world.contents
  resolved : status ≠ .indeterminate → unresolvedWrite last.events = none

theorem handsOut_wrote {value : Bytes} {status : StateStoreWriteStatus}
    {events : List NetworkEvent} (h : HandsOut (fun _ => False) events) :
    HandsOut (fun _ => False) (.wrote value status :: events) := by
  intro request found hmem
  rcases List.mem_cons.mp hmem with hhere | hlater
  · cases hhere
  · exact h request found hlater

/-- The readback of a write that took place, or may have taken place. -/
theorem ensures_confirm {encoded : Bytes} {writeStatus : StateStoreWriteStatus}
    {middle : NetworkWorld} (hcrash : ∀ world, crash world)
    (hwritten : writeStatus = .success ∨ writeStatus = .commitOutcomeUnknown)
    (hevents : middle.events = world.events ++ [.wrote encoded writeStatus])
    (hcontents : middle.contents = world.contents ∨
      middle.contents = world.contents.put .credential (some encoded))
    (hfollows : FollowsOn (loadStored world.contents epoch) sequence)
    (hencoded : encodeConnectivityRecord credential epoch sequence = .ok encoded) :
    Ensures networkEnvironment crash (Written epoch credential world)
      (readRecord >>= fun read =>
        (return if read = .success encoded then .committed else .indeterminate)) middle := by
  have hstored : middle.contents .credential = some encoded →
      StoredNext world.contents epoch credential middle.contents := by
    intro hfound
    refine ⟨sequence, encoded, hfollows, hencoded, ?_⟩
    rcases hcontents with hsame | hput
    · rw [hsame] at hfound ⊢
      rw [← hfound, StoreContents.put_current]
    · exact hput
  refine ⟨hcrash middle, fun reply last hreply => ?_⟩
  obtain ⟨hreads, rfl⟩ := hreply
  have hlater : HandedSince (fun _ => False) world
      ⟨middle.contents, middle.events ++ [.read reply]⟩ :=
    ⟨[.wrote encoded writeStatus, .read reply], by rw [hevents, List.append_assoc]; rfl,
      handsOut_wrote handsOut_read⟩
  refine ⟨hcrash _, hlater, ?_, ?_, ?_, ?_⟩
  · rcases hcontents with hsame | hput
    · exact .inl hsame
    · exact .inr ⟨sequence, encoded, hfollows, hencoded, hput⟩
  · intro hcommitted
    split_ifs at hcommitted with hread
    rw [hread] at hreads
    exact hstored hreads.1
  · intro hrefused
    split_ifs at hrefused <;> rcases hrefused with h | h <;> cases h
  · intro hresolved
    split_ifs at hresolved with hread
    · rw [hevents, unresolvedWrite_append, unresolvedWrite_append, hread]
      rcases hwritten with rfl | rfl <;>
        cases unresolvedWrite world.events <;>
        simp [unresolvedAfter]
    · exact absurd rfl hresolved

theorem ensures_write (hcrash : ∀ world, crash world)
    (hfollows : FollowsOn (loadStored world.contents epoch) sequence)
    (hnone : unresolvedWrite world.events = none) :
    Ensures networkEnvironment crash (Written epoch credential world)
      (write credential epoch sequence) world := by
  rw [write]
  split
  · rename_i failure hfailure
    have hnever : failure = .committed ∨ failure = .indeterminate → False := by
      rcases failsWith_encodeConnectivityRecord credential epoch sequence failure hfailure
        with rfl | rfl <;> rintro (h | h) <;> cases h
    exact ⟨hcrash world, .refl world, .inl rfl,
      fun h => (hnever (.inl h)).elim, fun _ => rfl, fun _ => hnone⟩
  · rename_i encoded hencoded
    refine ⟨hcrash world, fun writeStatus middle hwrite => ?_⟩
    obtain ⟨hstatus, hevents⟩ := hwrite
    have hrefused : ∀ status, status = .writeFailure ∨ status = .capacityFailure →
        middle.contents = world.contents →
        writeStatus = .writeError ∨ writeStatus = .capacityError →
        Ensures networkEnvironment crash (Written epoch credential world) (pure status) middle := by
      intro status hfailed hsame herror
      refine ⟨hcrash middle, ⟨_, hevents, handsOut_wrote handsOut_nil⟩, .inl hsame, ?_,
        fun _ => hsame, fun _ => ?_⟩
      · rcases hfailed with rfl | rfl <;> exact fun h => (nomatch h)
      · rw [hevents, unresolvedWrite_append, hnone]
        rcases herror with rfl | rfl <;> rfl
    cases writeStatus with
    | writeError => exact hrefused _ (.inl rfl) hstatus (.inl rfl)
    | capacityError => exact hrefused _ (.inr rfl) hstatus (.inr rfl)
    | success =>
        exact ensures_confirm hcrash (.inl rfl) hevents (.inr hstatus) hfollows hencoded
    | commitOutcomeUnknown =>
        obtain ⟨left, hleft, hcontents⟩ := hstatus
        refine ensures_confirm hcrash (.inr rfl) hevents ?_ hfollows hencoded
        rcases hleft with rfl | rfl
        · exact .inl (hcontents.trans (StoreContents.put_current ..))
        · exact .inr hcontents

/-! ## Start -/

/-- Why a start stores a record: the stored one has no access point password yet, or the
epoch has no record yet. -/
inductive StartReason (loaded : ConnectivityCredentialLoadResult) :
    ConnectivityCredential → Prop
  | migration {record : ConnectivityCredentialRecord} {password : Bytes}
      (hloaded : loaded = .available record)
      (hschema : record.schemaVersion = kConnectivityCredentialSchemaVersionV1) :
      StartReason loaded { record.credential with softApPassword := some password }
  | creation {password : Bytes} (hloaded : loaded = .notFound ∨ loaded = .otherEpoch) :
      StartReason loaded { softApPassword := some password }

/-- What the key holds is what it held, or a new record with a reason. -/
def Changed (contents : ConnectivityContents) (epoch : UInt64)
    (reason : ConnectivityCredential → Prop) (next : ConnectivityContents) : Prop :=
  next = contents ∨ ∃ credential, reason credential ∧ StoredNext contents epoch credential next

/-- The active credential is settled, or the start has failed. -/
structure Ensured (service : NetworkConfigurationService) (epoch : UInt64)
    (world : NetworkWorld) (outcome : Outcome) (last : NetworkWorld) : Prop where
  events : HandedSince (fun _ => False) world last
  changed : Changed world.contents epoch (StartReason (loadStored world.contents epoch))
    last.contents
  kept : outcome.2.storageEpoch = service.storageEpoch
  applied : outcome.1 = .applied → unresolvedWrite last.events = none ∧
    ∃ record, loadStored last.contents epoch = .available record ∧
      outcome.2.activeCredential = some record.credential

theorem ensures_writeNewCredential (hcrash : ∀ world, crash world)
    (service : NetworkConfigurationService)
    (hfollows : FollowsOn (loadStored world.contents epoch) sequence)
    (hnone : unresolvedWrite world.events = none)
    (hreason : StartReason (loadStored world.contents epoch) credential) :
    Ensures networkEnvironment crash (Ensured service epoch world)
      (writeNewCredential service credential epoch sequence) world := by
  refine ensures_bind.mpr ((ensures_write hcrash hfollows hnone).mono (fun _ _ => hcrash _) ?_)
  intro status last _ hwritten
  have hchanged : Changed world.contents epoch (StartReason (loadStored world.contents epoch))
      last.contents :=
    hwritten.contents.imp id fun hstored => ⟨credential, hreason, hstored⟩
  have hfailed : ∀ failure : NetworkConfigurationStatus, failure ≠ .applied →
      Ensures networkEnvironment crash (Ensured service epoch world) (pure (failure, service))
        last := fun failure hfailure =>
    ⟨hcrash last, hwritten.events, hchanged, rfl, fun h => absurd h hfailure⟩
  cases status with
  | committed =>
      obtain ⟨record, hrecord, hcredential⟩ :=
        loadStored_of_storedNext (hwritten.committed rfl)
      refine ⟨hcrash last, hwritten.events, hchanged, rfl, fun _ =>
        ⟨hwritten.resolved (by decide), record, hrecord, ?_⟩⟩
      rw [hcredential]
  | writeFailure => exact hfailed _ (by decide)
  | capacityFailure => exact hfailed _ (by decide)
  | indeterminate => exact hfailed _ (by decide)

theorem ensures_writeGenerated (hcrash : ∀ world, crash world)
    (service : NetworkConfigurationService) {base : ConnectivityCredential}
    {canonicalDeviceName : Bytes} {randomSource : List (Block kSoftApPasswordLength)}
    (hfollows : FollowsOn (loadStored world.contents epoch) sequence)
    (hnone : unresolvedWrite world.events = none)
    (hreason : ∀ password, StartReason (loadStored world.contents epoch)
      { base with softApPassword := some password }) :
    Ensures networkEnvironment crash (Ensured service epoch world)
      (writeGenerated service base epoch sequence canonicalDeviceName randomSource) world := by
  rw [writeGenerated]
  split
  · exact ⟨hcrash world, .refl world, .inl rfl, rfl, fun h => (nomatch h)⟩
  · exact ensures_writeNewCredential hcrash service hfollows hnone (hreason _)

theorem ensures_ensureCredential (hcrash : ∀ world, crash world)
    (service : NetworkConfigurationService) (canonicalDeviceName : Bytes)
    (randomSource : List (Block kSoftApPasswordLength))
    (hnone : unresolvedWrite world.events = none) :
    Ensures networkEnvironment crash (Ensured service epoch world)
      (ensureCredential service epoch canonicalDeviceName randomSource) world := by
  refine ensures_bind.mpr ((ensures_load hcrash epoch world).mono (fun _ _ => hcrash _) ?_)
  intro loaded middle _ hloaded
  have hopen : unresolvedWrite middle.events = none := hloaded.unresolved hnone
  have hback : ∀ outcome last, Ensured service epoch middle outcome last →
      Ensured service epoch world outcome last := by
    intro outcome last h
    refine ⟨hloaded.events.trans h.events, ?_, h.kept, h.applied⟩
    rw [← hloaded.contents]
    exact h.changed
  have hfailed : ∀ failure : NetworkConfigurationStatus, failure ≠ .applied →
      Ensures networkEnvironment crash (Ensured service epoch world) (pure (failure, service))
        middle := fun failure hfailure =>
    ⟨hcrash middle, hback _ _ ⟨.refl middle, .inl rfl, rfl, fun h => absurd h hfailure⟩⟩
  have hfound : loaded ≠ .readError → loaded ≠ .capacityError →
      loadStored middle.contents epoch = loaded := by
    intro herror hcapacity
    rw [hloaded.contents]
    exact hloaded.stored herror hcapacity
  have hcreates : loaded = .notFound ∨ loaded = .otherEpoch →
      loadStored middle.contents epoch = loaded →
      Ensures networkEnvironment crash (Ensured service epoch world)
        (writeGenerated service {} epoch 1 canonicalDeviceName randomSource) middle := by
    intro hfresh hstored
    refine (ensures_writeGenerated hcrash service ?_ hopen fun password => ?_).mono
      (fun _ _ => hcrash _) fun outcome last _ => hback outcome last
    · rw [hstored]
      rcases hfresh with rfl | rfl <;> rfl
    · rw [hstored]
      exact .creation hfresh
  cases loaded with
  | available record =>
      have hstored := hfound (by simp) (by simp)
      dsimp only
      split_ifs with hcurrent hmaximum
      · exact ⟨hcrash middle, hback _ _ ⟨.refl middle, .inl rfl, rfl, fun _ =>
          ⟨hopen, record, hstored, rfl⟩⟩⟩
      · exact hfailed _ (by decide)
      · have hschema := schemaVersion_of_loadStored hstored hcurrent
        refine (ensures_writeGenerated hcrash service ?_ hopen fun password => ?_).mono
          (fun _ _ => hcrash _) fun outcome last _ => hback outcome last
        · rw [hstored]
          exact followsOn_succ hmaximum
        · exact .migration hstored hschema
  | notFound => exact hcreates (.inl rfl) (hfound (by simp) (by simp))
  | otherEpoch => exact hcreates (.inr rfl) (hfound (by simp) (by simp))
  | readError => exact hfailed _ (by decide)
  | capacityError => exact hfailed _ (by decide)
  | invalidRecord => exact hfailed _ (by decide)

/-! ## One call -/

/-- A served call of the service, with the calls it made itself. -/
structure NetworkCallRecord where
  operation : NetworkOperation
  status : NetworkConfigurationStatus
  events : List NetworkEvent
  deriving DecidableEq, Repr

structure NetworkDevice where
  service : NetworkConfigurationService
  contents : ConnectivityContents

/-- While the service is initialized, its active credential is the one that a load returns. -/
def NetworkDevice.Synced (device : NetworkDevice) : Prop :=
  device.service.initialized = true →
    ∃ record, loadStored device.contents device.service.storageEpoch = .available record ∧
      device.service.activeCredential = some record.credential

def NetworkOperation.Starts : NetworkOperation → Prop
  | .start .. | .beginHomeWifiReconfiguration .. => True
  | .beginCandidate .. | .testCandidate | .discardCandidate | .discardAfterFactoryReset => False

/-- Why a call stores a record. -/
inductive StoreReason (service : NetworkConfigurationService) (call : NetworkCallRecord)
    (loaded : ConnectivityCredentialLoadResult) : ConnectivityCredential → Prop
  | start {credential : ConnectivityCredential} (hstarts : call.operation.Starts)
      (hreason : StartReason loaded credential) : StoreReason service call loaded credential
  | candidate {credential : ConnectivityCredential} {home : NetworkCredentials}
      (hoperation : call.operation = .testCandidate)
      (hcandidate : service.candidate = some credential)
      (hhome : credential.homeWifi = some home)
      (htested : .lifecycle (.testCandidate home) .applied ∈ call.events) :
      StoreReason service call loaded credential

/-- What a call of the service may do to a synced device. -/
structure KeepsCredentials (device : NetworkDevice) (call : NetworkCallRecord)
    (next : NetworkDevice) : Prop where
  synced : next.Synced
  changed : Changed device.contents next.service.storageEpoch
    (StoreReason device.service call
      (loadStored device.contents next.service.storageEpoch)) next.contents
  unresolved : (unresolvedWrite call.events).isSome → next.service.initialized = false
  handed : HandsOut (fun secret =>
    secret ∈ secretsOf next.service.activeCredential ∨
      call.operation = .testCandidate ∧ secret ∈ secretsOf device.service.candidate) call.events

/-- A call that ends with the outcome in the world, for a service that began with nothing
called yet. -/
def Keeps (device : NetworkDevice) (operation : NetworkOperation) (outcome : Outcome)
    (last : NetworkWorld) : Prop :=
  KeepsCredentials device ⟨operation, outcome.1, last.events⟩ ⟨outcome.2, last.contents⟩

variable {device : NetworkDevice} {operation : NetworkOperation}

/-- A call that changes neither the store nor the credential in use. -/
theorem keeps_quiet {outcome : Outcome} (hsynced : device.Synced)
    (hepoch : outcome.2.storageEpoch = device.service.storageEpoch)
    (hactive : outcome.2.initialized = true → device.service.initialized = true ∧
      outcome.2.activeCredential = device.service.activeCredential) :
    Keeps device operation outcome ⟨device.contents, []⟩ := by
  refine ⟨fun hinitialized => ?_, .inl rfl, fun h => (nomatch h), handsOut_nil⟩
  obtain ⟨hbefore, hsame⟩ := hactive hinitialized
  show ∃ record, loadStored device.contents outcome.2.storageEpoch = .available record ∧
    outcome.2.activeCredential = some record.credential
  rw [hepoch, hsame]
  exact hsynced hbefore

theorem ensures_start (hcrash : ∀ world, crash world) (hsynced : device.Synced)
    (hstarts : operation.Starts) (selectedMode : NetworkMode) (storageEpoch : UInt64)
    (canonicalDeviceName : Bytes) (explicitHomeWifiReconfiguration : Bool)
    (randomSource : List (Block kSoftApPasswordLength)) :
    Ensures networkEnvironment crash (Keeps device operation)
      (device.service.start selectedMode storageEpoch canonicalDeviceName
        explicitHomeWifiReconfiguration randomSource) ⟨device.contents, []⟩ := by
  rw [NetworkConfigurationService.start]
  split_ifs with hzero hselection
  · exact ⟨hcrash _, keeps_quiet hsynced rfl fun h => ⟨h, rfl⟩⟩
  · exact ⟨hcrash _, fun h => (nomatch h), .inl rfl, fun h => (nomatch h), handsOut_nil⟩
  · refine ensures_bind.mpr ((ensures_ensureCredential hcrash _ canonicalDeviceName randomSource
      rfl).mono (fun _ _ => hcrash _) ?_)
    rintro ⟨status, service⟩ middle _ hensured
    have hepoch : service.storageEpoch = storageEpoch := hensured.kept
    have hchanged : ∀ (call : NetworkCallRecord) (last : NetworkWorld),
        call.operation = operation → last.contents = middle.contents →
        Changed device.contents storageEpoch
          (StoreReason device.service call (loadStored device.contents storageEpoch))
          last.contents := by
      intro call last hcall hsame
      rw [hsame]
      refine hensured.changed.imp id ?_
      rintro ⟨credential, hreason, hstored⟩
      exact ⟨credential, .start (by rw [hcall]; exact hstarts) hreason, hstored⟩
    have hmiddle : HandsOut (fun _ => False) middle.events := by
      obtain ⟨later, hlater, hhanded⟩ := hensured.events
      rw [hlater]
      exact hhanded
    have hevents : ∀ {last : NetworkWorld} {permitted : NetworkSecret → Prop},
        HandedSince permitted middle last → HandsOut permitted last.events := by
      intro last permitted hhanded
      obtain ⟨later, hlater, hhanded⟩ := hhanded
      rw [hlater]
      exact (hmiddle.mono fun _ h => h.elim).append hhanded
    dsimp only
    split_ifs with hstatus
    · refine (ensures_of_only (@only_giveUp (fun _ => False) service status) hcrash
        middle).mono (fun _ _ => hcrash _) ?_
      rintro outcome last _ ⟨rfl, hlast⟩
      refine ⟨fun h => (nomatch h), ?_, fun _ => rfl, ?_⟩
      · show Changed device.contents service.storageEpoch _ last.contents
        rw [hepoch]
        exact hchanged _ last rfl hlast.contents
      · exact (hevents hlast.events).mono fun _ h => h.elim
    · obtain ⟨hresolved, record, hrecord, hactive⟩ := hensured.applied (not_not.mp hstatus)
      refine (ensures_of_only (only_startTransport service canonicalDeviceName
        explicitHomeWifiReconfiguration) hcrash middle).mono (fun _ _ => hcrash _) ?_
      rintro outcome last _ ⟨⟨hsettled, hkept⟩, hlast⟩
      have hlastEpoch : outcome.2.storageEpoch = storageEpoch := hkept.trans hepoch
      refine ⟨fun _ => ⟨record, ?_, ?_⟩, ?_, fun h => ?_, ?_⟩
      · show loadStored last.contents outcome.2.storageEpoch = _
        rw [hlast.contents, hlastEpoch]
        exact hrecord
      · exact hsettled.trans hactive
      · show Changed device.contents outcome.2.storageEpoch _ last.contents
        rw [hlastEpoch]
        exact hchanged _ last rfl hlast.contents
      · have hnone : unresolvedWrite last.events = none := hlast.unresolved.trans hresolved
        have hsome : (unresolvedWrite last.events).isSome = true := h
        rw [hnone] at hsome
        cases hsome
      · refine (hevents hlast.events).mono fun secret hsecret => .inl ?_
        show secret ∈ secretsOf outcome.2.activeCredential
        rw [hsettled]
        exact hsecret

/-! ### Test of the candidate -/

/-- The secrets that a test may hand out. -/
def Tested (device : NetworkDevice) (active : Option ConnectivityCredential)
    (secret : NetworkSecret) : Prop :=
  secret ∈ secretsOf active ∨ secret ∈ secretsOf device.service.candidate

/-- The world within a test before anything is written: the candidate was tested, and the
store is as it was. -/
structure Testing (device : NetworkDevice) (world : NetworkWorld) : Prop where
  contents : world.contents = device.contents
  unresolved : unresolvedWrite world.events = none
  handed : HandsOut (· ∈ secretsOf device.service.candidate) world.events

theorem Testing.handed_later {permitted : NetworkSecret → Prop} (h : Testing device world)
    {active : Option ConnectivityCredential} (hlater : HandedSince permitted world last)
    (hpermitted : ∀ secret, permitted secret → Tested device active secret) :
    HandsOut (Tested device active) last.events := by
  obtain ⟨later, hevents, hhanded⟩ := hlater
  rw [hevents]
  exact (h.handed.mono fun _ hsecret => .inr hsecret).append (hhanded.mono hpermitted)

theorem Testing.handsOut {active : Option ConnectivityCredential}
    (h : HandsOut (Tested device active) events) :
    HandsOut (fun secret => secret ∈ secretsOf active ∨
      NetworkOperation.testCandidate = .testCandidate ∧
        secret ∈ secretsOf device.service.candidate) events :=
  h.mono fun _ hsecret => hsecret.imp id fun hcandidate => ⟨rfl, hcandidate⟩

/-- The candidate is dropped, and the service goes on as before. -/
theorem ensures_dropCandidate (hcrash : ∀ world, crash world) (hsynced : device.Synced)
    (hworld : Testing device world) (status : NetworkConfigurationStatus) :
    Ensures networkEnvironment crash (Keeps device .testCandidate)
      (device.service.dropCandidate status) world := by
  refine (ensures_of_only (only_dropCandidate device.service status) hcrash world).mono
    (fun _ _ => hcrash _) ?_
  rintro outcome last _ ⟨rfl, hlast⟩
  have hcontents : last.contents = device.contents := hlast.contents.trans hworld.contents
  refine ⟨fun hinitialized => ?_, .inl hcontents, fun h => ?_, Testing.handsOut ?_⟩
  · show ∃ record, loadStored last.contents device.service.storageEpoch = .available record ∧
      device.service.activeCredential = some record.credential
    rw [hcontents]
    exact hsynced hinitialized
  · have hsome : (unresolvedWrite last.events).isSome = true := h
    rw [hlast.unresolved, hworld.unresolved] at hsome
    cases hsome
  · exact hworld.handed_later hlast.events fun _ hsecret => .inl hsecret

/-- A call that leaves the service switched off keeps its memory and the store together. -/
theorem keeps_switchedOff {outcome : Outcome} (hoff : outcome.2.initialized = false)
    (hchanged : Changed device.contents outcome.2.storageEpoch
      (StoreReason device.service ⟨.testCandidate, outcome.1, last.events⟩
        (loadStored device.contents outcome.2.storageEpoch)) last.contents)
    (hhanded : HandsOut (Tested device outcome.2.activeCredential) last.events) :
    Keeps device .testCandidate outcome last := by
  refine ⟨fun hinitialized => ?_, hchanged, fun _ => hoff, Testing.handsOut hhanded⟩
  exact absurd (hoff.symm.trans hinitialized) Bool.false_ne_true

theorem ensures_commitCandidate (hcrash : ∀ world, crash world) (hsynced : device.Synced)
    (hworld : Testing device world) {candidate : ConnectivityCredential}
    {home : NetworkCredentials} (hcandidate : device.service.candidate = some candidate)
    (hhome : candidate.homeWifi = some home)
    (htested : .lifecycle (.testCandidate home) .applied ∈ world.events)
    (hfollows : FollowsOn (loadStored device.contents device.service.storageEpoch) sequence) :
    Ensures networkEnvironment crash (Keeps device .testCandidate)
      (device.service.commitCandidate candidate sequence) world := by
  rw [← hworld.contents] at hfollows
  refine ensures_bind.mpr ((ensures_write hcrash hfollows hworld.unresolved).mono
    (fun _ _ => hcrash _) ?_)
  intro status middle _ hwritten
  -- a write hands nothing out, so the events before it still tell of the test
  have htestedLater : ∀ {permitted : NetworkSecret → Prop} {last : NetworkWorld},
      HandedSince permitted middle last →
      .lifecycle (.testCandidate home) .applied ∈ last.events := by
    rintro permitted last ⟨later, hlast, _⟩
    obtain ⟨written, hmiddle, _⟩ := hwritten.events
    rw [hlast, hmiddle]
    exact List.mem_append_left _ (List.mem_append_left _ htested)
  have hchanged : ∀ {permitted : NetworkSecret → Prop} {outcome : Outcome} {last : NetworkWorld},
      outcome.2.storageEpoch = device.service.storageEpoch →
      HandedSince permitted middle last → last.contents = middle.contents →
      Changed device.contents outcome.2.storageEpoch
        (StoreReason device.service ⟨.testCandidate, outcome.1, last.events⟩
          (loadStored device.contents outcome.2.storageEpoch)) last.contents := by
    intro permitted outcome last hepoch hlast hsame
    rw [hepoch, hsame, ← hworld.contents]
    exact hwritten.contents.imp id fun hstored =>
      ⟨candidate, .candidate rfl hcandidate hhome (htestedLater hlast), hstored⟩
  have hmiddle : ∀ {active : Option ConnectivityCredential} {permitted : NetworkSecret → Prop}
      {last : NetworkWorld}, HandedSince permitted middle last →
      (∀ secret, permitted secret → Tested device active secret) →
      HandsOut (Tested device active) last.events := by
    intro active permitted last hlast hpermitted
    exact hworld.handed_later ((hwritten.events.mono fun _ h => h.elim).trans hlast) hpermitted
  have hrefused : status = .writeFailure ∨ status = .capacityFailure →
      Ensures networkEnvironment crash (Keeps device .testCandidate)
        (device.service.dropCandidate .persistenceFailure) middle := by
    intro hfailed
    have hstatus : status ≠ .indeterminate := by
      rcases hfailed with rfl | rfl <;> decide
    obtain ⟨later, hlater, hhanded⟩ := hwritten.events
    refine ensures_dropCandidate hcrash hsynced ⟨?_, hwritten.resolved hstatus, ?_⟩ _
    · exact (hwritten.refused hfailed).trans hworld.contents
    · rw [hlater]
      exact hworld.handed.append (hhanded.mono fun _ h => h.elim)
  cases status with
  | committed =>
      have hstored := hwritten.committed rfl
      obtain ⟨password, hpassword⟩ := softApPassword_of_storedNext hstored
      refine (ensures_of_only (only_adoptCommitted device.service hpassword) hcrash middle).mono
        (fun _ _ => hcrash _) ?_
      rintro outcome last _ ⟨⟨hactive, hepoch⟩, hlast⟩
      refine ⟨fun _ => ?_, hchanged hepoch hlast.events hlast.contents, fun h => ?_,
        Testing.handsOut (hmiddle hlast.events fun secret hsecret => .inl ?_)⟩
      · obtain ⟨record, hrecord, hsame⟩ := loadStored_of_storedNext hstored
        refine ⟨record, ?_, ?_⟩
        · show loadStored last.contents outcome.2.storageEpoch = _
          rw [hlast.contents, hepoch]
          exact hrecord
        · rw [hsame]
          exact hactive
      · have hsome : (unresolvedWrite last.events).isSome = true := h
        rw [hlast.unresolved, hwritten.resolved (by decide)] at hsome
        cases hsome
      · rw [hactive]
        exact hsecret
  | indeterminate =>
      refine (ensures_of_only (@only_haltForRecovery (fun _ => False) device.service none
        .commitIndeterminate) hcrash middle).mono (fun _ _ => hcrash _) ?_
      rintro outcome last _ ⟨⟨hoff, hactive, hepoch⟩, hlast⟩
      exact keeps_switchedOff hoff (hchanged hepoch hlast.events hlast.contents)
        (hmiddle hlast.events fun _ h => h.elim)
  | writeFailure => exact hrefused (.inl rfl)
  | capacityFailure => exact hrefused (.inr rfl)

theorem ensures_testCandidate (hcrash : ∀ world, crash world) (hsynced : device.Synced) :
    Ensures networkEnvironment crash (Keeps device .testCandidate)
      device.service.testCandidate ⟨device.contents, []⟩ := by
  have hrejected : Ensures networkEnvironment crash (Keeps device .testCandidate)
      (pure (.candidateRejected, device.service)) ⟨device.contents, []⟩ :=
    ⟨hcrash _, keeps_quiet hsynced rfl fun h => ⟨h, rfl⟩⟩
  rw [NetworkConfigurationService.testCandidate]
  split
  · rename_i candidate home hcandidate hboth
    have hhome : candidate.homeWifi = some home := by rwa [hcandidate] at hboth
    split_ifs with hidle
    · exact hrejected
    · refine ensures_bind.mpr (ensures_call.mpr ⟨hcrash _, fun tested world hreply =>
        ensures_done.mpr ⟨hcrash _, ?_⟩⟩)
      have hevents : world = ⟨device.contents, [.lifecycle (.testCandidate home) tested]⟩ :=
        hreply
      have hworld : Testing device world := by
        rw [hevents]
        refine ⟨rfl, rfl, handsOut_singleton fun secret hsecret => ?_⟩
        rw [LifecycleCall.secrets, List.mem_singleton] at hsecret
        rw [hsecret, hcandidate, mem_secretsOf]
        exact homeWifi_mem_secrets hhome
      have hdrop := fun middle (hmiddle : Testing device middle) =>
        ensures_dropCandidate hcrash hsynced hmiddle
      split_ifs with hfailed
      · exact hdrop world hworld _
      · have htested : tested = .applied := not_not.mp hfailed
        refine ensures_bind.mpr ((ensures_load hcrash _ world).mono (fun _ _ => hcrash _) ?_)
        intro loaded middle _ hloaded
        obtain ⟨later, hlater, hhanded⟩ := hloaded.events
        have hmiddle : Testing device middle := by
          refine ⟨hloaded.contents.trans hworld.contents, hloaded.unresolved hworld.unresolved, ?_⟩
          rw [hlater]
          exact hworld.handed.append (hhanded.mono fun _ h => h.elim)
        have hproof : .lifecycle (.testCandidate home) .applied ∈ middle.events := by
          rw [hlater, hevents, htested]
          exact List.mem_append_left _ List.mem_cons_self
        have hstored : loaded ≠ .readError → loaded ≠ .capacityError →
            loadStored device.contents device.service.storageEpoch = loaded := by
          rw [← hworld.contents]
          exact hloaded.stored
        have hcommit := fun next
            (hnext : FollowsOn (loadStored device.contents device.service.storageEpoch) next) =>
          ensures_commitCandidate hcrash hsynced hmiddle hcandidate hhome hproof hnext
        cases loaded with
        | available record =>
            dsimp only
            split_ifs with hmaximum
            · exact hdrop middle hmiddle _
            · refine hcommit _ ?_
              rw [hstored (by simp) (by simp)]
              exact followsOn_succ hmaximum
        | notFound => exact hcommit _ (by rw [hstored (by simp) (by simp)]; rfl)
        | otherEpoch => exact hcommit _ (by rw [hstored (by simp) (by simp)]; rfl)
        | readError => exact hdrop middle hmiddle _
        | capacityError => exact hdrop middle hmiddle _
        | invalidRecord => exact hdrop middle hmiddle _
  · exact hrejected

/-! ## Any sequence of calls -/

theorem beginCandidate_keeps (service : NetworkConfigurationService) (ssid password : Bytes) :
    (service.beginCandidate ssid password).2.storageEpoch = service.storageEpoch ∧
      (service.beginCandidate ssid password).2.activeCredential = service.activeCredential ∧
      (service.beginCandidate ssid password).2.initialized = service.initialized := by
  rw [NetworkConfigurationService.beginCandidate]
  split
  · exact ⟨rfl, rfl, rfl⟩
  · split
    · exact ⟨rfl, rfl, rfl⟩
    · dsimp only
      split_ifs <;> exact ⟨rfl, rfl, rfl⟩

theorem ensures_serve (hcrash : ∀ world, crash world) (hsynced : device.Synced)
    (operation : NetworkOperation) :
    Ensures networkEnvironment crash (Keeps device operation)
      (operation.serve device.service) ⟨device.contents, []⟩ := by
  cases operation with
  | start selectedMode storageEpoch canonicalDeviceName explicitHomeWifiReconfiguration
      randomSource =>
      have hstarts : (NetworkOperation.start selectedMode storageEpoch canonicalDeviceName
          explicitHomeWifiReconfiguration randomSource).Starts := trivial
      exact ensures_start hcrash hsynced hstarts _ _ _ _ _
  | beginHomeWifiReconfiguration canonicalDeviceName randomSource =>
      rw [NetworkOperation.serve, NetworkConfigurationService.beginHomeWifiReconfiguration]
      split_ifs
      · exact ⟨hcrash _, keeps_quiet hsynced rfl fun h => ⟨h, rfl⟩⟩
      · have hstarts : (NetworkOperation.beginHomeWifiReconfiguration canonicalDeviceName
            randomSource).Starts := trivial
        exact ensures_start hcrash hsynced hstarts _ _ _ _ _
  | beginCandidate ssid password =>
      obtain ⟨hepoch, hactive, hinitialized⟩ :=
        beginCandidate_keeps device.service ssid password
      exact ⟨hcrash _, keeps_quiet hsynced hepoch fun h => ⟨hinitialized.symm.trans h, hactive⟩⟩
  | testCandidate => exact ensures_testCandidate hcrash hsynced
  | discardCandidate => exact ⟨hcrash _, keeps_quiet hsynced rfl fun h => ⟨h, rfl⟩⟩
  | discardAfterFactoryReset =>
      exact ⟨hcrash _, keeps_quiet hsynced rfl fun h => (nomatch h)⟩

/-- One call of the service, under any faults of the store and any replies of the
lifecycle. -/
inductive NetworkStep : NetworkDevice → NetworkCallRecord → NetworkDevice → Prop
  | call {device : NetworkDevice} {operation : NetworkOperation} {outcome : Outcome}
      {last : NetworkWorld}
      (hrun : Finishes networkEnvironment (operation.serve device.service)
        ⟨device.contents, []⟩ outcome last) :
      NetworkStep device ⟨operation, outcome.1, last.events⟩ ⟨outcome.2, last.contents⟩

theorem NetworkStep.keeps {call : NetworkCallRecord} {next : NetworkDevice}
    (hstep : NetworkStep device call next) (hsynced : device.Synced) :
    KeepsCredentials device call next := by
  cases hstep with
  | call hrun => exact (ensures_serve (fun _ => trivial) hsynced _).finishes hrun

/-- A device whose service was not called yet. -/
def NetworkDevice.fresh (contents : ConnectivityContents) : NetworkDevice := ⟨{}, contents⟩

/-- In any run from any stored bytes the active credential of an initialized service is the
stored one, and every call writes, hands out and gives up what it may. -/
theorem networkCredentials_never_split {contents : ConnectivityContents}
    {calls : List NetworkCallRecord}
    (hrun : Steps NetworkStep (NetworkDevice.fresh contents) calls device) :
    device.Synced ∧ ∀ call next, NetworkStep device call next →
      KeepsCredentials device call next := by
  have hsynced : device.Synced :=
    hrun.invariant (fun h => (nomatch h)) fun h hstep => (hstep.keeps h).synced
  exact ⟨hsynced, fun call next hstep => hstep.keeps hsynced⟩

/-! ### A device that sets up its home network -/

/-- A store without errors, and a lifecycle that applies everything. -/
def faultlessNetwork (world : NetworkWorld) :
    (request : NetworkCall) → NetworkReply request × NetworkWorld
  | .read =>
      let reply := readReply world.contents .credential kMaximumConnectivityCredentialEnvelopeBytes
      (reply, ⟨world.contents, world.events ++ [.read reply]⟩)
  | .write value =>
      (.success, ⟨world.contents.put .credential (some value),
        world.events ++ [.wrote value .success]⟩)
  | .lifecycle request =>
      (.applied, ⟨world.contents, world.events ++ [.lifecycle request .applied]⟩)

theorem faultlessNetwork_allowed (world : NetworkWorld) (request : NetworkCall) :
    networkEnvironment world request (faultlessNetwork world request).1
      (faultlessNetwork world request).2 := by
  cases request with
  | read =>
      exact ⟨(faultlessStore_stateStore allOrNothing world.contents
        (.read .credential kMaximumConnectivityCredentialEnvelopeBytes)).1, rfl⟩
  | write value => exact ⟨rfl, rfl⟩
  | lifecycle request => rfl

def NetworkDevice.serve (device : NetworkDevice) (operation : NetworkOperation) :
    Outcome × NetworkWorld :=
  (operation.serve device.service).run faultlessNetwork ⟨device.contents, []⟩

def NetworkDevice.after (device : NetworkDevice) (operation : NetworkOperation) : NetworkDevice :=
  ⟨(device.serve operation).1.2, (device.serve operation).2.contents⟩

theorem networkStep_serve (device : NetworkDevice) (operation : NetworkOperation) :
    NetworkStep device ⟨operation, (device.serve operation).1.1, (device.serve operation).2.events⟩
      (device.after operation) :=
  .call (finishes_run faultlessNetwork_allowed _ _)

/-- A device named `F`, and a draw of zeros. -/
def startHome : NetworkOperation := .start .homeWifi 1 [70] false [.zero _]

/-- The network `W` with the password `eightabc`. -/
def offerHome : NetworkOperation := .beginCandidate [87] [101, 105, 103, 104, 116, 97, 98, 99]

def offeredDevice : NetworkDevice := ((NetworkDevice.fresh fun _ => none).after startHome).after
  offerHome

set_option maxRecDepth 1000000 in
/-- The tested network is stored as the second record, and it is the one in use. -/
theorem networkCredentials_never_split_setup :
    (offeredDevice.after .testCandidate).service.initialized = true ∧
      (offeredDevice.after .testCandidate).service.activeCredential.bind (·.homeWifi) =
        some ⟨[87], [101, 105, 103, 104, 116, 97, 98, 99]⟩ ∧
      (offeredDevice.after .testCandidate).Synced := by
  refine ⟨by decide +kernel, by decide +kernel, ?_⟩
  have hoffered : Steps NetworkStep (NetworkDevice.fresh fun _ => none) _ offeredDevice :=
    (Steps.start.step (networkStep_serve _ startHome)).step (networkStep_serve _ offerHome)
  exact ((networkCredentials_never_split hoffered).2 _ _
    (networkStep_serve offeredDevice .testCandidate)).synced

end Fermentationsschrank

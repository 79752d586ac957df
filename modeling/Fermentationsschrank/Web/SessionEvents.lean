import Fermentationsschrank.Core.Runs
import Fermentationsschrank.Web.WebSession

/-!
# Session events

What clients and workers see of the session table: the call with its reply.  An event
leaves at most one mark: a session was opened, a number was reserved, or a reservation
was completed.  `SlotStep` says, for one slot, everything that one event can do.
-/

namespace Fermentationsschrank

inductive SessionEvent
  | create (nowMs : UInt64) (result : WebSessionResult)
  | find (cookie : Bytes) (nowMs : UInt64) (result : WebSessionResult)
  | validateCsrf (handle : WebSessionHandle) (token : Bytes) (nowMs : UInt64) (valid : Bool)
  | csrfToken (handle : WebSessionHandle) (nowMs : UInt64) (token : Option Bytes)
  | cookieValue (handle : WebSessionHandle) (nowMs : UInt64) (value : Option Bytes)
  | touch (handle : WebSessionHandle) (nowMs : UInt64) (touched : Bool)
  | revoke (handle : WebSessionHandle)
  | revokeAll
  | mutationSequence (handle : WebSessionHandle) (nowMs : UInt64) (view : MutationSequenceView)
  | reserveMutation (handle : WebSessionHandle) (nowMs sequence : UInt64) (digest : ReplayDigest)
      (reservation : MutationReservation)
  | completeMutation (handle : WebSessionHandle) (nowMs sequence : UInt64)
      (digest : ReplayDigest) (outcome : ReplayOutcomeCode) (completed : Bool)

/-- Calls come in any order, from anyone, with any handle and at any time. -/
inductive SessionStep (manager : WebSessionManager) : SessionEvent → WebSessionManager → Prop
  | create draws nowMs : SessionStep manager
      (.create nowMs (manager.create draws nowMs).1) (manager.create draws nowMs).2
  | find cookie nowMs : SessionStep manager
      (.find cookie nowMs (manager.find cookie nowMs).1) (manager.find cookie nowMs).2
  | validateCsrf handle token nowMs : SessionStep manager
      (.validateCsrf handle token nowMs (manager.validateCsrf handle token nowMs).1)
      (manager.validateCsrf handle token nowMs).2
  | csrfToken handle nowMs : SessionStep manager
      (.csrfToken handle nowMs (manager.csrfToken handle nowMs).1)
      (manager.csrfToken handle nowMs).2
  | cookieValue handle nowMs : SessionStep manager
      (.cookieValue handle nowMs (manager.cookieValue handle nowMs).1)
      (manager.cookieValue handle nowMs).2
  | touch handle nowMs : SessionStep manager
      (.touch handle nowMs (manager.touch handle nowMs).1) (manager.touch handle nowMs).2
  | revoke handle : SessionStep manager (.revoke handle) (manager.revoke handle)
  | revokeAll : SessionStep manager .revokeAll manager.revokeAll
  | mutationSequence handle nowMs : SessionStep manager
      (.mutationSequence handle nowMs (manager.mutationSequence handle nowMs).1)
      (manager.mutationSequence handle nowMs).2
  | reserveMutation handle nowMs sequence digest : SessionStep manager
      (.reserveMutation handle nowMs sequence digest
        (manager.reserveMutation handle nowMs sequence digest).1)
      (manager.reserveMutation handle nowMs sequence digest).2
  | completeMutation handle nowMs sequence digest outcome : SessionStep manager
      (.completeMutation handle nowMs sequence digest outcome
        (manager.completeMutation handle nowMs sequence digest outcome).1)
      (manager.completeMutation handle nowMs sequence digest outcome).2

/-! ## Marks -/

inductive SessionMark
  | opened (handle : WebSessionHandle)
  | reserved (handle : WebSessionHandle) (sequence : UInt64) (digest : ReplayDigest)
  | completed (handle : WebSessionHandle) (mutation : CompletedMutation)
  deriving DecidableEq

def SessionMark.handle : SessionMark → WebSessionHandle
  | .opened handle | .reserved handle _ _ | .completed handle _ => handle

def SessionMark.slot (mark : SessionMark) : ℕ := mark.handle.slot

namespace SessionEvent

def mark : SessionEvent → Option SessionMark
  | .create _ result => result.handle.map .opened
  | .reserveMutation handle _ sequence digest reservation =>
      if reservation.status = .reserved then some (.reserved handle sequence digest) else none
  | .completeMutation handle _ sequence digest outcome completed =>
      if completed then some (.completed handle ⟨sequence, digest, outcome⟩) else none
  | _ => none

/-- The handle a call was made with. -/
def handle : SessionEvent → Option WebSessionHandle
  | .validateCsrf handle _ _ _ | .csrfToken handle _ _ | .cookieValue handle _ _
  | .touch handle _ _ | .revoke handle | .mutationSequence handle _ _
  | .reserveMutation handle _ _ _ _ | .completeMutation handle _ _ _ _ _ => some handle
  | .create _ _ | .find _ _ _ | .revokeAll => none

/-- The reply tells nothing of any session. -/
def Refused : SessionEvent → Prop
  | .validateCsrf _ _ _ valid => valid = false
  | .csrfToken _ _ token => token = none
  | .cookieValue _ _ value => value = none
  | .touch _ _ touched => touched = false
  | .mutationSequence _ _ view => view = {}
  | .reserveMutation _ _ _ _ reservation => reservation = { status := .invalidSession }
  | .completeMutation _ _ _ _ _ completed => completed = false
  | .revoke _ => True
  | .create _ _ | .find _ _ _ | .revokeAll => False

end SessionEvent

/-! ## What one event does to one slot -/

/-- Nothing happened to the mutations of the session, unless it ended. -/
structure WebSession.Rests (session next : WebSession) : Prop where
  generation : next.generation = session.generation
  inFlight : next.inFlight = session.inFlight
  kept : next.active = true → session.active = true ∧ next.highWater = session.highWater ∧
    next.replayFloor = session.replayFloor ∧ next.completed = session.completed

namespace WebSession.Rests

theorem refl (session : WebSession) : session.Rests session :=
  ⟨rfl, rfl, fun hactive => ⟨hactive, rfl, rfl, rfl⟩⟩

theorem retire (session : WebSession) : session.Rests session.retire := ⟨rfl, rfl, nofun⟩

theorem trans {first second third : WebSession} (h : first.Rests second)
    (hnext : second.Rests third) : first.Rests third where
  generation := hnext.generation.trans h.generation
  inFlight := hnext.inFlight.trans h.inFlight
  kept hactive := by
    obtain ⟨hsecond, hwater, hfloor, hcompleted⟩ := hnext.kept hactive
    obtain ⟨hfirst, hwater', hfloor', hcompleted'⟩ := h.kept hsecond
    exact ⟨hfirst, hwater.trans hwater', hfloor.trans hfloor', hcompleted.trans hcompleted'⟩

theorem nextGeneration {session next : WebSession} (h : session.Rests next) :
    next.nextGeneration = session.nextGeneration := by
  rw [WebSession.nextGeneration, WebSession.nextGeneration, h.generation]

theorem retireIfExpired (session : WebSession) (nowMs : UInt64) :
    session.Rests (session.retireIfExpired nowMs) := by
  rw [WebSession.retireIfExpired]
  split
  · exact retire session
  · exact refl session

end WebSession.Rests

/-- What one event does to the session in one slot. -/
inductive SlotStep (slot : ℕ) (session : WebSession) : Option SessionMark → WebSession → Prop
  | quiet {mark next} (helsewhere : ∀ found ∈ mark, SessionMark.slot found ≠ slot)
      (hrests : session.Rests next) : SlotStep slot session mark next
  | opened {next} (hfree : session.inFlight = none)
      (hgeneration : next.generation = session.nextGeneration)
      (hblank : next.inFlight = none ∧ next.highWater = 0 ∧ next.replayFloor = 0 ∧
        next.completed = .empty) :
      SlotStep slot session (some (.opened ⟨slot, next.generation⟩)) next
  | reserved {sequence digest} (hactive : session.active = true)
      (hfree : session.inFlight = none)
      (hsequence : sequence.toNat = session.highWater.toNat + 1) :
      SlotStep slot session (some (.reserved ⟨slot, session.generation⟩ sequence digest))
        { session with inFlight := some { sequence := sequence, digest := digest } }
  | closed {mutation outcome} (hactive : session.active = true)
      (hopen : session.inFlight = some mutation) :
      SlotStep slot session
        (some (.completed ⟨slot, session.generation⟩ { mutation with outcome := outcome }))
        (session.close mutation outcome)
  | abandoned {mutation outcome next} (hopen : session.inFlight = some mutation)
      (hgeneration : next.generation = session.generation) (hended : next.active = false)
      (hclosed : next.inFlight = none) :
      SlotStep slot session
        (some (.completed ⟨slot, session.generation⟩ { mutation with outcome := outcome })) next

namespace WebSessionManager

variable {manager : WebSessionManager} {handle : WebSessionHandle} {nowMs : UInt64}

@[simp]
theorem put_same (slot : Fin kMaximumWebSessions) (session : WebSession) :
    (manager.put slot session).sessions slot = session :=
  Function.update_self ..

theorem put_other {slot other : Fin kMaximumWebSessions} (hne : other ≠ slot)
    (session : WebSession) : (manager.put slot session).sessions other = manager.sessions other :=
  Function.update_of_ne hne ..

theorem put_put (slot : Fin kMaximumWebSessions) (first second : WebSession) :
    (manager.put slot first).put slot second = manager.put slot second :=
  congrArg WebSessionManager.mk (Function.update_idem ..)

/-- Every session rests. -/
def Rests (manager next : WebSessionManager) : Prop :=
  ∀ slot, (manager.sessions slot).Rests (next.sessions slot)

theorem Rests.refl (manager : WebSessionManager) : manager.Rests manager :=
  fun slot => .refl (manager.sessions slot)

theorem Rests.put {slot : Fin kMaximumWebSessions} {session : WebSession}
    (h : (manager.sessions slot).Rests session) : manager.Rests (manager.put slot session) := by
  intro other
  by_cases hsame : other = slot
  · rw [hsame, put_same]
    exact h
  · rw [put_other hsame]
    exact .refl _

/-- A quiet event is quiet in every slot. -/
theorem Rests.slotStep {next : WebSessionManager} (h : manager.Rests next)
    (slot : Fin kMaximumWebSessions) :
    SlotStep slot (manager.sessions slot) none (next.sessions slot) :=
  .quiet nofun (h slot)

/-- A mark of one slot, seen from every slot. -/
theorem slotStep_put {slot : Fin kMaximumWebSessions} {session : WebSession}
    {mark : Option SessionMark} {reclaimed : WebSessionManager} (hrests : manager.Rests reclaimed)
    (hslot : ∀ found ∈ mark, SessionMark.slot found = slot)
    (h : SlotStep slot (manager.sessions slot) mark session) (other : Fin kMaximumWebSessions) :
    SlotStep other (manager.sessions other) mark ((reclaimed.put slot session).sessions other) := by
  by_cases hsame : other = slot
  · rw [hsame, put_same]
    exact h
  · rw [put_other hsame]
    refine .quiet (fun found hfound => ?_) (hrests other)
    rw [hslot found hfound]
    exact fun h => hsame (Fin.ext h.symm)

/-- The session that a handle names, if it lives. -/
theorem get_cases (manager : WebSessionManager) (handle : WebSessionHandle) (nowMs : UInt64) :
    (∃ slot : Fin kMaximumWebSessions, manager.get handle nowMs = (some slot, manager) ∧
      handle = ⟨slot, (manager.sessions slot).generation⟩ ∧
        (manager.sessions slot).active = true ∧ (manager.sessions slot).expired nowMs = false) ∨
    ∃ next, manager.get handle nowMs = (none, next) ∧ manager.Rests next := by
  rw [get]
  split
  · rename_i hslot
    dsimp only
    split
    · exact .inr ⟨_, rfl, .refl _⟩
    · rename_i hlive
      rw [not_or, Bool.not_eq_false, not_not] at hlive
      cases hexpired : (manager.sessions ⟨handle.slot, hslot⟩).expired nowMs with
      | true => exact .inr ⟨_, rfl, .put (.retire _)⟩
      | false => exact .inl ⟨_, rfl, by rw [hlive.2], hlive.1, hexpired⟩
  · exact .inr ⟨_, rfl, .refl _⟩

/-- A handle of another generation finds nothing and changes nothing. -/
theorem get_stale (hstale : ∀ slot : Fin kMaximumWebSessions, (slot : ℕ) = handle.slot →
    (manager.sessions slot).generation ≠ handle.generation) :
    manager.get handle nowMs = (none, manager) := by
  rw [get]
  split
  · rename_i hslot
    exact if_pos (.inr (hstale ⟨handle.slot, hslot⟩ rfl))
  · rfl

theorem read_rests {α : Type} (missing : α) (present : WebSession → α) :
    manager.Rests (manager.read handle nowMs missing present).2 := by
  rw [read]
  obtain ⟨slot, hget, -⟩ | ⟨next, hget, hrests⟩ := manager.get_cases handle nowMs
  · rw [hget]
    exact .refl manager
  · rw [hget]
    exact hrests

theorem find_rests (cookie : Bytes) : manager.Rests (manager.find cookie nowMs).2 := by
  rw [find]
  split
  · exact .refl manager
  · dsimp only
    split
    · exact .refl manager
    · rename_i slot _
      obtain ⟨_, hget, -⟩ | ⟨next, hget, hrests⟩ :=
        manager.get_cases ⟨slot, (manager.sessions slot).generation⟩ nowMs
      · rw [hget]
        exact .refl manager
      · rw [hget]
        exact hrests

theorem touch_rests : manager.Rests (manager.touch handle nowMs).2 := by
  rw [touch]
  obtain ⟨slot, hget, -⟩ | ⟨next, hget, hrests⟩ := manager.get_cases handle nowMs
  · rw [hget]
    exact .put ⟨rfl, rfl, fun hactive => ⟨hactive, rfl, rfl, rfl⟩⟩
  · rw [hget]
    exact hrests

theorem revoke_rests : manager.Rests (manager.revoke handle) := by
  rw [revoke]
  split
  · dsimp only
    split
    · exact .put (.retire _)
    · exact .refl manager
  · exact .refl manager

theorem reclaim_rests : manager.Rests (manager.reclaim nowMs) :=
  fun slot => .retireIfExpired (manager.sessions slot) nowMs

theorem freeSlot_free {slot : Fin kMaximumWebSessions} (h : manager.freeSlot = some slot) :
    (manager.sessions slot).active = false ∧ (manager.sessions slot).inFlight = none := by
  have hfree := List.find?_some h
  rw [Bool.and_eq_true, Bool.not_eq_true', Option.isNone_iff_eq_none] at hfree
  exact hfree

/-! ## The spec of each call -/

theorem create_slotStep (draws : SessionDraws) (slot : Fin kMaximumWebSessions) :
    SlotStep slot (manager.sessions slot) ((manager.create draws nowMs).1.handle.map .opened)
      ((manager.create draws nowMs).2.sessions slot) := by
  have hrests : manager.Rests (manager.reclaim nowMs) := reclaim_rests
  rw [create]
  dsimp only
  split
  · exact hrests.slotStep slot
  rename_i free hfree
  obtain ⟨-, hopen⟩ := freeSlot_free hfree
  split
  · exact hrests.slotStep slot
  split
  · refine slotStep_put hrests (by rintro _ ⟨⟩) ?_ slot
    exact .quiet nofun ((hrests free).trans ⟨rfl, rfl, fun hactive => ⟨hactive, rfl, rfl, rfl⟩⟩)
  · refine slotStep_put hrests (by rintro _ ⟨⟩; rfl) (.opened ?_ ?_ ⟨rfl, rfl, rfl, rfl⟩) slot
    · rw [← (hrests free).inFlight, hopen]
    · exact (hrests free).nextGeneration

/-- What a granted reservation found. -/
theorem reservation_granted {session : WebSession} {sequence : UInt64} {digest : ReplayDigest}
    (h : (session.reservation sequence digest).status = .reserved) :
    session.inFlight = none ∧ sequence.toNat = session.highWater.toNat + 1 := by
  rw [WebSession.reservation] at h
  split at h
  · split at h
    · dsimp only at h
      split at h <;> cases h
    · cases h
  rename_i hfree
  refine ⟨hfree, ?_⟩
  split at h
  · cases h
  split at h
  · split at h <;> cases h
  split at h
  · cases h
  rename_i hroom
  split at h
  · cases h
  rename_i hgap
  split at h
  · cases h
  rename_i hnew
  have hbelow : session.highWater.toNat + 1 < 2 ^ 64 := by
    have hlt := session.highWater.toNat_lt
    have hne : session.highWater.toNat ≠ 2 ^ 64 - 1 := fun h => hroom (UInt64.toNat_inj.mp h)
    omega
  have hwater : (session.highWater + 1).toNat = session.highWater.toNat + 1 := by
    rw [UInt64.toNat_add, UInt64.toNat_one, Nat.mod_eq_of_lt hbelow]
  rw [gt_iff_lt, UInt64.lt_iff_toNat_lt, hwater] at hgap
  rw [UInt64.le_iff_toNat_le] at hnew
  omega

section Reservations

variable {named : Fin kMaximumWebSessions} {next : WebSessionManager} {sequence : UInt64}
variable {digest : ReplayDigest}

theorem reserveMutation_granted (hget : manager.get handle nowMs = (some named, manager))
    (hgranted : ((manager.sessions named).reservation sequence digest).status = .reserved) :
    manager.reserveMutation handle nowMs sequence digest =
      ((manager.sessions named).reservation sequence digest,
        manager.put named { manager.sessions named with
          inFlight := some { sequence := sequence, digest := digest } }) := by
  rw [reserveMutation, hget]
  exact if_pos hgranted

theorem reserveMutation_answered (hget : manager.get handle nowMs = (some named, manager))
    (hgranted : ((manager.sessions named).reservation sequence digest).status ≠ .reserved) :
    manager.reserveMutation handle nowMs sequence digest =
      ((manager.sessions named).reservation sequence digest, manager) := by
  rw [reserveMutation, hget]
  exact if_neg hgranted

theorem reserveMutation_refused (hget : manager.get handle nowMs = (none, next)) :
    manager.reserveMutation handle nowMs sequence digest =
      ({ status := .invalidSession }, next) := by
  rw [reserveMutation, hget]

end Reservations

theorem reserveMutation_slotStep (sequence : UInt64) (digest : ReplayDigest)
    (slot : Fin kMaximumWebSessions) :
    SlotStep slot (manager.sessions slot)
      (if (manager.reserveMutation handle nowMs sequence digest).1.status = .reserved then
        some (.reserved handle sequence digest) else none)
      ((manager.reserveMutation handle nowMs sequence digest).2.sessions slot) := by
  obtain ⟨named, hget, rfl, hactive, -⟩ | ⟨next, hget, hrests⟩ := manager.get_cases handle nowMs
  · by_cases hgranted :
        ((manager.sessions named).reservation sequence digest).status = .reserved
    · obtain ⟨hfree, hsequence⟩ := reservation_granted hgranted
      rw [reserveMutation_granted hget hgranted, if_pos hgranted]
      exact slotStep_put (.refl manager) (by rintro _ ⟨⟩; rfl) (.reserved hactive hfree hsequence)
        slot
    · rw [reserveMutation_answered hget hgranted, if_neg hgranted]
      exact (Rests.refl manager).slotStep slot
  · rw [reserveMutation_refused hget]
    exact hrests.slotStep slot

/-- A completion is accepted for the open reservation of the slot, or changes nothing. -/
theorem completeMutation_cases (manager : WebSessionManager) (handle : WebSessionHandle)
    (nowMs sequence : UInt64) (digest : ReplayDigest) (outcome : ReplayOutcomeCode) :
    (∃ slot : Fin kMaximumWebSessions,
      handle = ⟨slot, (manager.sessions slot).generation⟩ ∧
      ∃ mutation, (manager.sessions slot).inFlight = some mutation ∧
        mutation.sequence = sequence ∧ mutation.digest = digest ∧
        manager.completeMutation handle nowMs sequence digest outcome =
          (true, manager.put slot
            ((manager.sessions slot).complete nowMs mutation outcome))) ∨
    manager.completeMutation handle nowMs sequence digest outcome = (false, manager) := by
  rw [completeMutation]
  split
  case isFalse => exact .inr rfl
  rename_i hslot
  dsimp only
  split
  · exact .inr rfl
  rename_i mutation hopen
  split
  · exact .inr rfl
  rename_i hown
  rw [not_or, not_or, not_not, not_not, Bool.not_eq_false, CompletedMutation.digestMatches_iff]
    at hown
  exact .inl ⟨⟨handle.slot, hslot⟩, by rw [hown.1], mutation, hopen, hown.2.1, hown.2.2, rfl⟩

/-- The open reservation of a slot is always completed by its own handle, number and
digest. -/
theorem completeMutation_own {slot : Fin kMaximumWebSessions} {mutation : CompletedMutation}
    (hopen : (manager.sessions slot).inFlight = some mutation) (outcome : ReplayOutcomeCode) :
    (manager.completeMutation ⟨slot, (manager.sessions slot).generation⟩ nowMs mutation.sequence
      mutation.digest outcome).1 = true := by
  rw [completeMutation, dif_pos slot.isLt]
  dsimp only
  rw [hopen]
  dsimp only
  rw [if_neg (by simp)]

theorem complete_slotStep {session : WebSession} {mutation : CompletedMutation}
    (slot : ℕ) (hopen : session.inFlight = some mutation) (outcome : ReplayOutcomeCode) :
    SlotStep slot session
      (some (.completed ⟨slot, session.generation⟩ { mutation with outcome := outcome }))
      (session.complete nowMs mutation outcome) := by
  have hrests := WebSession.Rests.retireIfExpired session nowMs
  rw [WebSession.complete]
  split
  · rename_i hended
    exact .abandoned hopen hrests.generation hended rfl
  · rename_i hlive
    rw [Bool.not_eq_false] at hlive
    have hkept : session.retireIfExpired nowMs = session := by
      rw [WebSession.retireIfExpired] at hlive ⊢
      split at hlive
      · cases hlive
      · rename_i hfresh
        exact if_neg hfresh
    rw [hkept] at hlive ⊢
    exact .closed hlive hopen

theorem completeMutation_slotStep (sequence : UInt64) (digest : ReplayDigest)
    (outcome : ReplayOutcomeCode) (slot : Fin kMaximumWebSessions) :
    SlotStep slot (manager.sessions slot)
      (if (manager.completeMutation handle nowMs sequence digest outcome).1 then
        some (.completed handle ⟨sequence, digest, outcome⟩) else none)
      ((manager.completeMutation handle nowMs sequence digest outcome).2.sessions slot) := by
  obtain ⟨named, rfl, mutation, hopen, rfl, rfl, hcall⟩ | hcall :=
    manager.completeMutation_cases handle nowMs sequence digest outcome
  · rw [hcall]
    exact slotStep_put (.refl manager) (by rintro _ ⟨⟩; rfl)
      (complete_slotStep named hopen outcome) slot
  · rw [hcall]
    exact (Rests.refl manager).slotStep slot

end WebSessionManager

open WebSessionManager in
theorem SessionStep.slotStep {manager next : WebSessionManager} {event : SessionEvent}
    (h : SessionStep manager event next) (slot : Fin kMaximumWebSessions) :
    SlotStep slot (manager.sessions slot) event.mark (next.sessions slot) := by
  cases h with
  | create draws nowMs => exact create_slotStep draws slot
  | find cookie nowMs => exact (find_rests cookie).slotStep slot
  | validateCsrf handle token nowMs => exact (read_rests _ _).slotStep slot
  | csrfToken handle nowMs => exact (read_rests _ _).slotStep slot
  | cookieValue handle nowMs => exact (read_rests _ _).slotStep slot
  | touch handle nowMs => exact touch_rests.slotStep slot
  | revoke handle => exact revoke_rests.slotStep slot
  | revokeAll => exact .quiet nofun (.retire _)
  | mutationSequence handle nowMs => exact (read_rests _ _).slotStep slot
  | reserveMutation handle nowMs sequence digest =>
      exact reserveMutation_slotStep sequence digest slot
  | completeMutation handle nowMs sequence digest outcome =>
      exact completeMutation_slotStep sequence digest outcome slot

/-! ## Handles of another generation -/

section Stale

variable {manager next : WebSessionManager} {handle : WebSessionHandle} {event : SessionEvent}

open WebSessionManager

/-- A mark names a slot of the table. -/
theorem SessionStep.mark_slot (h : SessionStep manager event next) {mark : SessionMark}
    (hmark : event.mark = some mark) : mark.slot < kMaximumWebSessions := by
  cases h with
  | create draws nowMs =>
      obtain ⟨handle, hhandle, rfl⟩ := Option.map_eq_some_iff.mp hmark
      rw [WebSessionManager.create] at hhandle
      dsimp only at hhandle
      split at hhandle
      · cases hhandle
      rename_i free _
      split at hhandle
      · cases hhandle
      split at hhandle
      · cases hhandle
      · cases hhandle
        exact free.isLt
  | reserveMutation handle nowMs sequence digest =>
      obtain ⟨hgranted, hreserved⟩ := Option.ite_none_right_eq_some.mp hmark
      cases hreserved
      obtain ⟨slot, -, rfl, -⟩ | ⟨_, hget, -⟩ := manager.get_cases handle nowMs
      · exact slot.isLt
      · rw [reserveMutation_refused hget] at hgranted
        cases hgranted
  | completeMutation handle nowMs sequence digest outcome =>
      obtain ⟨haccepted, hcompleted⟩ := Option.ite_none_right_eq_some.mp hmark
      cases hcompleted
      obtain ⟨slot, rfl, -⟩ | hcall :=
        manager.completeMutation_cases handle nowMs sequence digest outcome
      · exact slot.isLt
      · rw [hcall] at haccepted
        cases haccepted
  | _ => cases hmark

theorem read_stale {α : Type} {nowMs : UInt64} {missing : α} {present : WebSession → α}
    (hstale : ∀ slot : Fin kMaximumWebSessions, (slot : ℕ) = handle.slot →
      (manager.sessions slot).generation ≠ handle.generation) :
    manager.read handle nowMs missing present = (missing, manager) := by
  rw [WebSessionManager.read, get_stale hstale]

/-- A call with a handle of another generation is refused and changes nothing. -/
theorem SessionStep.stale (h : SessionStep manager event next)
    (hhandle : event.handle = some handle)
    (hstale : ∀ slot : Fin kMaximumWebSessions, (slot : ℕ) = handle.slot →
      (manager.sessions slot).generation ≠ handle.generation) :
    next = manager ∧ event.Refused := by
  cases h with
  | create _ _ => cases hhandle
  | find _ _ => cases hhandle
  | revokeAll => cases hhandle
  | validateCsrf _ token nowMs =>
      cases hhandle
      rw [WebSessionManager.validateCsrf, read_stale hstale]
      exact ⟨rfl, rfl⟩
  | csrfToken _ nowMs =>
      cases hhandle
      rw [WebSessionManager.csrfToken, read_stale hstale]
      exact ⟨rfl, rfl⟩
  | cookieValue _ nowMs =>
      cases hhandle
      rw [WebSessionManager.cookieValue, read_stale hstale]
      exact ⟨rfl, rfl⟩
  | mutationSequence _ nowMs =>
      cases hhandle
      rw [WebSessionManager.mutationSequence, read_stale hstale]
      exact ⟨rfl, rfl⟩
  | touch _ nowMs =>
      cases hhandle
      rw [WebSessionManager.touch, get_stale hstale]
      exact ⟨rfl, rfl⟩
  | revoke _ =>
      cases hhandle
      rw [WebSessionManager.revoke]
      split
      · rename_i hslot
        exact ⟨if_neg (hstale ⟨handle.slot, hslot⟩ rfl), trivial⟩
      · exact ⟨rfl, trivial⟩
  | reserveMutation _ nowMs sequence digest =>
      cases hhandle
      rw [reserveMutation_refused (get_stale hstale)]
      exact ⟨rfl, rfl⟩
  | completeMutation _ nowMs sequence digest outcome =>
      cases hhandle
      obtain ⟨slot, rfl, -⟩ | hcall :=
        manager.completeMutation_cases handle nowMs sequence digest outcome
      · exact absurd rfl (hstale slot rfl)
      · rw [hcall]
        exact ⟨rfl, rfl⟩

end Stale

end Fermentationsschrank

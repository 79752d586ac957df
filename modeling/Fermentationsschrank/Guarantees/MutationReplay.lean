import Fermentationsschrank.Web.SessionEvents
import Mathlib.Data.List.Range

/-!
# Replayed mutations

A browser repeats a request when it does not see the answer.  The marks that the
clients have seen are a ledger: which sessions were opened, which numbers were
reserved and with which outcome each was completed.  The table answers from what it
remembers of that ledger, and so no number of a session is carried out twice.
-/

namespace Fermentationsschrank

/-! ## The ledger -/

/-- The generations that were opened in a slot, in their order. -/
def openingsOf (slot : ℕ) (marks : List SessionMark) : List UInt64 :=
  marks.filterMap fun
    | .opened handle => if handle.slot = slot then some handle.generation else none
    | _ => none

/-- The numbers that were reserved for a session, with the digests of the requests. -/
def reservationsOf (handle : WebSessionHandle) (marks : List SessionMark) :
    List (UInt64 × ReplayDigest) :=
  marks.filterMap fun
    | .reserved other sequence digest => if other = handle then some (sequence, digest) else none
    | _ => none

def completionsOf (handle : WebSessionHandle) (marks : List SessionMark) :
    List CompletedMutation :=
  marks.filterMap fun
    | .completed other mutation => if other = handle then some mutation else none
    | _ => none

/-- What a completion has in common with its reservation. -/
def CompletedMutation.key (mutation : CompletedMutation) : UInt64 × ReplayDigest :=
  (mutation.sequence, mutation.digest)

/-- The reservations that nobody has completed. -/
def openReservations (handle : WebSessionHandle) (marks : List SessionMark) :
    List (UInt64 × ReplayDigest) :=
  (reservationsOf handle marks).filter
    (· ∉ (completionsOf handle marks).map CompletedMutation.key)

section Appending

variable {marks : List SessionMark} {handle other : WebSessionHandle} {slot : ℕ}

@[simp]
theorem openingsOf_append (later : List SessionMark) :
    openingsOf slot (marks ++ later) = openingsOf slot marks ++ openingsOf slot later :=
  List.filterMap_append ..

@[simp]
theorem reservationsOf_append (later : List SessionMark) :
    reservationsOf handle (marks ++ later) =
      reservationsOf handle marks ++ reservationsOf handle later :=
  List.filterMap_append ..

@[simp]
theorem completionsOf_append (later : List SessionMark) :
    completionsOf handle (marks ++ later) =
      completionsOf handle marks ++ completionsOf handle later :=
  List.filterMap_append ..

theorem mem_reservationsOf {sequence : UInt64} {digest : ReplayDigest} :
    (sequence, digest) ∈ reservationsOf handle marks ↔
      .reserved handle sequence digest ∈ marks := by
  rw [reservationsOf, List.mem_filterMap]
  constructor
  · rintro ⟨mark, hmem, hmark⟩
    cases mark with
    | reserved other =>
        dsimp only at hmark
        split at hmark
        · rename_i hsame
          cases hmark
          rwa [hsame] at hmem
        · cases hmark
    | opened _ => cases hmark
    | completed _ _ => cases hmark
  · exact fun hmem => ⟨_, hmem, if_pos rfl⟩

theorem mem_completionsOf {mutation : CompletedMutation} :
    mutation ∈ completionsOf handle marks ↔ .completed handle mutation ∈ marks := by
  rw [completionsOf, List.mem_filterMap]
  constructor
  · rintro ⟨mark, hmem, hmark⟩
    cases mark with
    | completed other =>
        dsimp only at hmark
        split at hmark
        · rename_i hsame
          cases hmark
          rwa [hsame] at hmem
        · cases hmark
    | opened _ => cases hmark
    | reserved _ _ _ => cases hmark
  · exact fun hmem => ⟨_, hmem, if_pos rfl⟩

end Appending

/-! ## What the table remembers of the ledger -/

/-- The reservation of a session that is still open. -/
def WebSession.openOf (session : WebSession) (handle : WebSessionHandle) :
    List (UInt64 × ReplayDigest) :=
  if handle.generation = session.generation then
    (session.inFlight.map CompletedMutation.key).toList
  else []

/-- How the ledger of a slot and its session agree. -/
structure SlotLedger (slot : ℕ) (session : WebSession) (marks : List SessionMark) : Prop where
  /-- Generations are given in their order. -/
  opened : (openingsOf slot marks).map UInt64.toNat = List.range' 1 session.generation.toNat
  /-- Nothing is known of a generation to come. -/
  fresh : ∀ handle, handle.slot = slot →
    session.generation.toNat < handle.generation.toNat → reservationsOf handle marks = []
  /-- Reservations are numbered from one. -/
  numbered : ∀ handle, handle.slot = slot →
    (reservationsOf handle marks).map (·.1.toNat) =
      List.range' 1 (reservationsOf handle marks).length
  /-- All but the open reservation are completed, in their order. -/
  settled : ∀ handle, handle.slot = slot →
    reservationsOf handle marks =
      (completionsOf handle marks).map CompletedMutation.key ++ session.openOf handle
  /-- A live session remembers the last of its completions. -/
  remembered : session.active = true →
    session.highWater.toNat = (completionsOf ⟨slot, session.generation⟩ marks).length ∧
    session.completed.entries =
      (completionsOf ⟨slot, session.generation⟩ marks).drop session.replayFloor.toNat ∧
    session.replayFloor.toNat ≤ (completionsOf ⟨slot, session.generation⟩ marks).length

namespace SlotLedger

variable {slot : ℕ} {session next : WebSession} {marks : List SessionMark}

theorem initial (slot : ℕ) : SlotLedger slot {} [] where
  opened := rfl
  fresh _ _ _ := rfl
  numbered _ _ := rfl
  settled handle _ := by
    rw [WebSession.openOf]
    split <;> rfl
  remembered := nofun

/-- The ledger of the slot is all that counts. -/
theorem congr {later : List SessionMark} (h : SlotLedger slot session marks)
    (hopenings : openingsOf slot later = openingsOf slot marks)
    (hreservations : ∀ handle, handle.slot = slot →
      reservationsOf handle later = reservationsOf handle marks)
    (hcompletions : ∀ handle, handle.slot = slot →
      completionsOf handle later = completionsOf handle marks) :
    SlotLedger slot session later where
  opened := by rw [hopenings, h.opened]
  fresh handle hslot hahead := by rw [hreservations handle hslot, h.fresh handle hslot hahead]
  numbered handle hslot := by rw [hreservations handle hslot, h.numbered handle hslot]
  settled handle hslot := by
    rw [hreservations handle hslot, hcompletions handle hslot, h.settled handle hslot]
  remembered hactive := by
    rw [hcompletions ⟨slot, session.generation⟩ rfl]
    exact h.remembered hactive

/-- A mark of another slot leaves the ledger of the slot alone. -/
theorem elsewhere {mark : Option SessionMark} (h : SlotLedger slot session marks)
    (helsewhere : ∀ found ∈ mark, SessionMark.slot found ≠ slot) :
    SlotLedger slot session (marks ++ mark.toList) := by
  cases mark with
  | none => exact h.congr (by simp) (by simp) (by simp)
  | some mark =>
      have hslot : mark.handle.slot ≠ slot := helsewhere mark rfl
      have hne : ∀ handle : WebSessionHandle, handle.slot = slot → mark.handle ≠ handle :=
        fun handle hhandle hsame => hslot (hsame ▸ hhandle)
      rw [Option.toList_some]
      cases mark with
      | opened handle =>
          have : handle.slot ≠ slot := hslot
          exact h.congr (by simp [openingsOf, this]) (by simp [reservationsOf])
            (by simp [completionsOf])
      | reserved handle sequence digest =>
          refine h.congr (by simp [openingsOf]) (fun other hother => ?_) (by simp [completionsOf])
          have : handle ≠ other := hne other hother
          simp [reservationsOf, this]
      | completed handle mutation =>
          refine h.congr (by simp [openingsOf]) (by simp [reservationsOf]) (fun other hother => ?_)
          have : handle ≠ other := hne other hother
          simp [completionsOf, this]

theorem rests (h : SlotLedger slot session marks) (hrests : session.Rests next) :
    SlotLedger slot next marks where
  opened := by rw [hrests.generation, h.opened]
  fresh handle hslot hahead := h.fresh handle hslot (hrests.generation ▸ hahead)
  numbered := h.numbered
  settled handle hslot := by
    rw [h.settled handle hslot, WebSession.openOf, WebSession.openOf, hrests.generation,
      hrests.inFlight]
  remembered hactive := by
    obtain ⟨hlive, hwater, hfloor, hcompleted⟩ := hrests.kept hactive
    rw [hrests.generation, hwater, hfloor, hcompleted]
    exact h.remembered hlive

/-- A handle of the slot is the current one or belongs to another generation. -/
theorem current_or_other {handle : WebSessionHandle} (generation : UInt64)
    (hslot : handle.slot = slot) :
    handle = ⟨slot, generation⟩ ∨
      handle.generation ≠ generation ∧ (⟨slot, generation⟩ : WebSessionHandle) ≠ handle := by
  obtain ⟨_, other⟩ := handle
  cases hslot
  by_cases hsame : other = generation
  · exact .inl (by rw [hsame])
  · exact .inr ⟨hsame, fun h => hsame (congrArg WebSessionHandle.generation h).symm⟩

/-- Without an open reservation everything is completed. -/
theorem settled_of_free (h : SlotLedger slot session marks) (hfree : session.inFlight = none)
    {handle : WebSessionHandle} (hslot : handle.slot = slot) :
    reservationsOf handle marks = (completionsOf handle marks).map CompletedMutation.key := by
  have hnone : session.openOf handle = [] := by
    rw [WebSession.openOf, hfree]
    split <;> rfl
  rw [h.settled handle hslot, hnone, List.append_nil]

theorem openings_length (h : SlotLedger slot session marks) :
    (openingsOf slot marks).length = session.generation.toNat := by
  have hlength := congrArg List.length h.opened
  rwa [List.length_map, List.length_range'] at hlength

/-- The counter has not wrapped. -/
theorem toNat_nextGeneration {session : WebSession}
    (hroom : session.generation.toNat + 1 < 2 ^ 64) :
    session.nextGeneration.toNat = session.generation.toNat + 1 := by
  have hnext : (session.generation + 1).toNat = session.generation.toNat + 1 := by
    rw [UInt64.toNat_add, UInt64.toNat_one, Nat.mod_eq_of_lt hroom]
  rw [WebSession.nextGeneration, if_neg, hnext]
  intro hzero
  rw [hzero] at hnext
  exact absurd hnext (by simp)

theorem open_session (h : SlotLedger slot session marks) (hfree : session.inFlight = none)
    (hgeneration : next.generation = session.nextGeneration)
    (hblank : next.inFlight = none ∧ next.highWater = 0 ∧ next.replayFloor = 0 ∧
      next.completed = .empty)
    (hroom : session.generation.toNat + 1 < 2 ^ 64) :
    SlotLedger slot next (marks ++ [.opened ⟨slot, next.generation⟩]) := by
  obtain ⟨hopen, hwater, hfloor, hcompleted⟩ := hblank
  have hnext : next.generation.toNat = session.generation.toNat + 1 := by
    rw [hgeneration, toNat_nextGeneration hroom]
  have hreservations : ∀ handle, reservationsOf handle
      (marks ++ [.opened ⟨slot, next.generation⟩]) = reservationsOf handle marks := by
    simp [reservationsOf]
  have hcompletions : ∀ handle, completionsOf handle
      (marks ++ [.opened ⟨slot, next.generation⟩]) = completionsOf handle marks := by
    simp [completionsOf]
  constructor
  case opened =>
    have hlast : openingsOf slot [.opened ⟨slot, next.generation⟩] = [next.generation] := by
      simp [openingsOf]
    rw [openingsOf_append, hlast, List.map_append, h.opened, hnext, List.range'_1_concat,
      List.map_singleton, hnext, Nat.add_comm 1]
  case fresh =>
    intro handle hslot hahead
    rw [hreservations, h.fresh handle hslot (by omega)]
  case numbered =>
    intro handle hslot
    rw [hreservations, h.numbered handle hslot]
  case settled =>
    intro handle hslot
    have hnone : next.openOf handle = [] := by
      rw [WebSession.openOf, hopen]
      split <;> rfl
    rw [hreservations, hcompletions, hnone, List.append_nil, h.settled_of_free hfree hslot]
  case remembered =>
    intro _
    have hempty : completionsOf ⟨slot, next.generation⟩ marks = [] := by
      have hsettled := h.settled_of_free hfree (rfl : (⟨slot, next.generation⟩ :
        WebSessionHandle).slot = slot)
      rw [h.fresh _ rfl (by rw [hnext]; exact Nat.lt_succ_self _)] at hsettled
      exact List.map_eq_nil_iff.mp hsettled.symm
    rw [hcompletions, hempty, hwater, hfloor, hcompleted]
    exact ⟨rfl, rfl, Nat.zero_le _⟩

theorem reserve (h : SlotLedger slot session marks) (hactive : session.active = true)
    (hfree : session.inFlight = none) {sequence : UInt64} (digest : ReplayDigest)
    (hsequence : sequence.toNat = session.highWater.toNat + 1) :
    SlotLedger slot
      { session with inFlight := some { sequence := sequence, digest := digest } }
      (marks ++ [.reserved ⟨slot, session.generation⟩ sequence digest]) := by
  have hcompletions : ∀ handle, completionsOf handle
      (marks ++ [.reserved ⟨slot, session.generation⟩ sequence digest]) =
        completionsOf handle marks := by
    simp [completionsOf]
  have hmine : reservationsOf ⟨slot, session.generation⟩
      (marks ++ [.reserved ⟨slot, session.generation⟩ sequence digest]) =
        reservationsOf ⟨slot, session.generation⟩ marks ++ [(sequence, digest)] := by
    simp [reservationsOf]
  have hother : ∀ handle, (⟨slot, session.generation⟩ : WebSessionHandle) ≠ handle →
      reservationsOf handle
        (marks ++ [.reserved ⟨slot, session.generation⟩ sequence digest]) =
          reservationsOf handle marks := by
    intro handle hne
    simp [reservationsOf, hne]
  constructor
  case opened =>
    rw [← h.opened]
    simp [openingsOf]
  case fresh =>
    intro handle hslot hahead
    rw [hother handle, h.fresh handle hslot hahead]
    rintro rfl
    exact Nat.lt_irrefl _ hahead
  case numbered =>
    intro handle hslot
    rcases current_or_other session.generation hslot with rfl | ⟨-, hne⟩
    · have hcount : sequence.toNat =
          (reservationsOf ⟨slot, session.generation⟩ marks).length + 1 := by
        rw [h.settled_of_free hfree hslot, List.length_map, hsequence, (h.remembered hactive).1]
      rw [hmine, List.map_append, h.numbered _ rfl, List.length_append, List.length_singleton,
        List.range'_1_concat, List.map_singleton, hcount, Nat.add_comm 1]
    · rw [hother handle hne, h.numbered handle hslot]
  case settled =>
    intro handle hslot
    rw [hcompletions]
    rcases current_or_other session.generation hslot with rfl | ⟨hgeneration, hne⟩
    · rw [hmine, h.settled_of_free hfree hslot, WebSession.openOf, if_pos rfl]
      rfl
    · rw [hother handle hne, h.settled_of_free hfree hslot, WebSession.openOf,
        if_neg hgeneration, List.append_nil]
  case remembered =>
    intro _
    rw [hcompletions]
    exact h.remembered hactive

/-- The ledger after a completion, but for what the session remembers. -/
theorem complete (h : SlotLedger slot session marks) {mutation : CompletedMutation}
    (hopen : session.inFlight = some mutation) (outcome : ReplayOutcomeCode)
    (hgeneration : next.generation = session.generation) (hclosed : next.inFlight = none)
    (hremembered : next.active = true → ∀ completions,
      completions = completionsOf ⟨slot, session.generation⟩ marks ++
        [{ mutation with outcome := outcome }] →
      next.highWater.toNat = completions.length ∧
        next.completed.entries = completions.drop next.replayFloor.toNat ∧
          next.replayFloor.toNat ≤ completions.length) :
    SlotLedger slot next
      (marks ++ [.completed ⟨slot, session.generation⟩ { mutation with outcome := outcome }]) := by
  have hreservations : ∀ handle, reservationsOf handle (marks ++
      [.completed ⟨slot, session.generation⟩ { mutation with outcome := outcome }]) =
        reservationsOf handle marks := by
    simp [reservationsOf]
  have hmine : completionsOf ⟨slot, session.generation⟩ (marks ++
      [.completed ⟨slot, session.generation⟩ { mutation with outcome := outcome }]) =
        completionsOf ⟨slot, session.generation⟩ marks ++
          [{ mutation with outcome := outcome }] := by
    simp [completionsOf]
  have hother : ∀ handle, (⟨slot, session.generation⟩ : WebSessionHandle) ≠ handle →
      completionsOf handle (marks ++
        [.completed ⟨slot, session.generation⟩ { mutation with outcome := outcome }]) =
          completionsOf handle marks := by
    intro handle hne
    simp [completionsOf, hne]
  have hnone : ∀ handle, next.openOf handle = [] := by
    intro handle
    rw [WebSession.openOf, hclosed]
    split <;> rfl
  constructor
  case opened =>
    rw [hgeneration, ← h.opened]
    simp [openingsOf]
  case fresh =>
    intro handle hslot hahead
    rw [hreservations, h.fresh handle hslot (hgeneration ▸ hahead)]
  case numbered =>
    intro handle hslot
    rw [hreservations, h.numbered handle hslot]
  case settled =>
    intro handle hslot
    rw [hreservations, hnone, List.append_nil, h.settled handle hslot, WebSession.openOf]
    rcases current_or_other session.generation hslot with rfl | ⟨hgeneration, hne⟩
    · rw [hmine, if_pos rfl, hopen, List.map_append]
      rfl
    · rw [hother handle hne, if_neg hgeneration, List.append_nil]
  case remembered =>
    intro hlive
    rw [hgeneration]
    exact hremembered hlive _ hmine

/-- Completions are numbered from one, and the open reservation comes next. -/
theorem completions_numbered (h : SlotLedger slot session marks) {handle : WebSessionHandle}
    (hslot : handle.slot = slot) :
    (completionsOf handle marks).map (·.sequence.toNat) =
        List.range' 1 (completionsOf handle marks).length ∧
      (session.openOf handle).map (·.1.toNat) =
        List.range' (1 + (completionsOf handle marks).length) (session.openOf handle).length := by
  have hnumbered := h.numbered handle hslot
  rw [h.settled handle hslot, List.map_append, List.length_append, List.length_map,
    ← List.range'_append_1, List.map_map] at hnumbered
  exact List.append_inj hnumbered (by rw [List.length_map, List.length_range'])

/-- The completion at a place has the number of that place. -/
theorem completion_sequence (h : SlotLedger slot session marks) {handle : WebSessionHandle}
    (hslot : handle.slot = slot) {place : ℕ} {mutation : CompletedMutation}
    (hmutation : (completionsOf handle marks)[place]? = some mutation) :
    mutation.sequence.toNat = place + 1 := by
  have hplace := congrArg (·[place]?) (h.completions_numbered hslot).1
  have hlt : place < (completionsOf handle marks).length := (List.getElem?_eq_some_iff.mp hmutation).1
  rw [List.getElem?_map, hmutation, Option.map_some, List.getElem?_range' hlt] at hplace
  rw [Option.some.inj hplace, Nat.one_mul, Nat.add_comm]

theorem open_sequence (h : SlotLedger slot session marks) {mutation : CompletedMutation}
    (hopen : session.inFlight = some mutation) :
    mutation.sequence.toNat = (completionsOf ⟨slot, session.generation⟩ marks).length + 1 := by
  have hnumbered := (h.completions_numbered
    (rfl : (⟨slot, session.generation⟩ : WebSessionHandle).slot = slot)).2
  rw [WebSession.openOf, if_pos rfl, hopen] at hnumbered
  have hsequence : mutation.sequence.toNat =
    1 + (completionsOf ⟨slot, session.generation⟩ marks).length := List.head_eq_of_cons_eq hnumbered
  rw [hsequence, Nat.add_comm]

/-- A live session goes on to remember its last completions. -/
theorem close_remembers (h : SlotLedger slot session marks) (hactive : session.active = true)
    {mutation : CompletedMutation} (hopen : session.inFlight = some mutation)
    (outcome : ReplayOutcomeCode) {completions : List CompletedMutation}
    (hcompletions : completions = completionsOf ⟨slot, session.generation⟩ marks ++
      [{ mutation with outcome := outcome }]) :
    (session.close mutation outcome).highWater.toNat = completions.length ∧
      (session.close mutation outcome).completed.entries =
        completions.drop (session.close mutation outcome).replayFloor.toNat ∧
          (session.close mutation outcome).replayFloor.toNat ≤ completions.length := by
  obtain ⟨-, hentries, hfloor⟩ := h.remembered hactive
  have hwater : (session.close mutation outcome).highWater.toNat = completions.length := by
    rw [hcompletions, List.length_append, List.length_singleton]
    exact h.open_sequence hopen
  refine ⟨hwater, ?_⟩
  rw [hcompletions]
  by_cases hroom : session.completed.entries.length < kMaximumCompletedMutationOutcomes
  · have hkept : (session.close mutation outcome).replayFloor = session.replayFloor := if_pos hroom
    have hpushed : (session.close mutation outcome).completed.entries =
        session.completed.entries ++ [{ mutation with outcome := outcome }] :=
      CompletedMutations.push_of_room hroom
    rw [hkept, hpushed, hentries, List.drop_append_of_le_length hfloor, List.length_append]
    exact ⟨rfl, by omega⟩
  · -- the oldest entry is forgotten, and the floor rises to its number
    have hfull : 0 < session.completed.entries.length := by
      have : 0 < kMaximumCompletedMutationOutcomes := by decide
      omega
    have hlength : session.replayFloor.toNat <
        (completionsOf ⟨slot, session.generation⟩ marks).length := by
      rw [hentries, List.length_drop] at hfull
      omega
    have holdest : (completionsOf ⟨slot, session.generation⟩ marks)[session.replayFloor.toNat]? =
        some (session.completed.entries.headD {}) := by
      rw [hentries, List.drop_eq_getElem_cons hlength, List.getElem?_eq_getElem hlength]
      rfl
    have hraised : (session.close mutation outcome).replayFloor.toNat =
        session.replayFloor.toNat + 1 := by
      rw [← h.completion_sequence rfl holdest, WebSession.close, if_neg hroom]
    have hpushed : (session.close mutation outcome).completed.entries =
        session.completed.entries.tail ++ [{ mutation with outcome := outcome }] :=
      CompletedMutations.push_of_full hroom
    rw [hraised, hpushed, hentries, List.tail_drop, List.drop_append_of_le_length hlength,
      List.length_append]
    exact ⟨rfl, by omega⟩

/-- What one event does to a slot keeps the ledger and the session in agreement. -/
theorem step {mark : Option SessionMark} (h : SlotLedger slot session marks)
    (hstep : SlotStep slot session mark next)
    (hroom : (openingsOf slot (marks ++ mark.toList)).length < 2 ^ 64) :
    SlotLedger slot next (marks ++ mark.toList) := by
  cases hstep with
  | quiet helsewhere hrests => exact (h.rests hrests).elsewhere helsewhere
  | opened hfree hgeneration hblank =>
      refine h.open_session hfree hgeneration hblank ?_
      rw [openingsOf_append, List.length_append, h.openings_length] at hroom
      simpa [openingsOf] using hroom
  | reserved hactive hfree hsequence => exact h.reserve hactive hfree _ hsequence
  | closed hactive hopen =>
      exact h.complete hopen _ rfl rfl fun _ _ => h.close_remembers hactive hopen _
  | abandoned hopen hgeneration hended hclosed =>
      exact h.complete hopen _ hgeneration hclosed fun hlive => absurd hlive (by simp [hended])

end SlotLedger

/-! ## The ledger of a run -/

def marksOf (events : List SessionEvent) : List SessionMark := events.filterMap SessionEvent.mark

theorem marksOf_append (events : List SessionEvent) (event : SessionEvent) :
    marksOf (events ++ [event]) = marksOf events ++ event.mark.toList := by
  rw [marksOf, List.filterMap_append]
  cases hmark : event.mark with
  | none => rw [List.filterMap_cons_none hmark]; rfl
  | some mark => rw [List.filterMap_cons_some hmark]; rfl

theorem openingsOf_length_le (slot : ℕ) (events : List SessionEvent) :
    (openingsOf slot (marksOf events)).length ≤ events.length :=
  (List.length_filterMap_le ..).trans (List.length_filterMap_le ..)

/-- Every slot of the table agrees with the ledger of a run, as long as no slot has been
opened so often that its counter wrapped. -/
theorem ledger_of_run {events : List SessionEvent} {manager : WebSessionManager}
    (hrun : Steps SessionStep {} events manager)
    (hroom : ∀ slot, (openingsOf slot (marksOf events)).length < 2 ^ 64)
    (slot : Fin kMaximumWebSessions) :
    SlotLedger slot (manager.sessions slot) (marksOf events) := by
  induction hrun with
  | start => exact .initial slot
  | @step earlier middle event last hrun hstep ih =>
      rw [marksOf_append] at hroom ⊢
      refine (ih fun slot => ?_).step (hstep.slotStep slot) (hroom slot)
      have hlength := hroom slot
      rw [openingsOf_append, List.length_append] at hlength
      omega

theorem marks_inside {events : List SessionEvent} {manager : WebSessionManager}
    (hrun : Steps SessionStep {} events manager) {mark : SessionMark}
    (hmark : mark ∈ marksOf events) : mark.slot < kMaximumWebSessions := by
  obtain ⟨event, hevent, hmark⟩ := List.mem_filterMap.mp hmark
  have hinside : ∀ event ∈ events, ∀ mark, event.mark = some mark →
      mark.slot < kMaximumWebSessions :=
    hrun.forall_label trivial (fun _ _ => trivial) (fun _ hstep _ => hstep.mark_slot)
  exact hinside event hevent mark hmark

/-! ## Every number once -/

/-- What an event after a run may show, and what a completion would find. -/
structure ExecutesOnce (manager : WebSessionManager) (past : List SessionMark)
    (event : SessionEvent) (next : WebSessionManager) : Prop where
  /-- Each number of a session is reserved at most once. -/
  reservedOnce : ∀ handle,
    ((reservationsOf handle (past ++ event.mark.toList)).map Prod.fst).Nodup
  oneOpen : ∀ handle, (openReservations handle (past ++ event.mark.toList)).length ≤ 1
  /-- An open reservation can be completed, whatever has become of its session. -/
  completable : ∀ handle reservation, reservation ∈ openReservations handle past →
    ∀ nowMs outcome, (manager.completeMutation handle nowMs reservation.1 reservation.2
      outcome).1 = true
  /-- Only an open reservation is completed, and it is open no longer. -/
  completedOnce : ∀ handle mutation, event.mark = some (.completed handle mutation) →
    mutation.key ∈ openReservations handle past ∧
      mutation.key ∉ openReservations handle (past ++ event.mark.toList)
  /-- A slot with an open reservation is not given to a new session. -/
  slotHeld : ∀ handle, event.mark = some (.opened handle) →
    ∀ older : WebSessionHandle, older.slot = handle.slot → openReservations older past = []
  /-- A repeated request gets the outcome that completed it. -/
  replayed : ∀ handle nowMs sequence digest reservation,
    event = .reserveMutation handle nowMs sequence digest reservation →
    reservation.status = .replayOutcome →
    ∃ mutation ∈ completionsOf handle past, mutation.key = (sequence, digest) ∧
      reservation.outcome = some (replayOutcome mutation.outcome) ∧
      ∀ other ∈ completionsOf handle past, other.sequence = sequence → other = mutation
  /-- A completed number is never reserved again. -/
  neverAgain : ∀ handle, ∀ mutation ∈ completionsOf handle past,
    ∀ digest, event.mark ≠ some (.reserved handle mutation.sequence digest)
  /-- A handle that a newer session of its slot has replaced is of no use. -/
  replaced : ∀ handle newer, event.handle = some handle → newer.slot = handle.slot →
    [.opened handle, .opened newer].Sublist past → next = manager ∧ event.Refused

namespace SlotLedger

variable {slot : ℕ} {session next : WebSession} {marks : List SessionMark}
variable {handle : WebSessionHandle}

theorem reservations_nodup (h : SlotLedger slot session marks) (hslot : handle.slot = slot) :
    ((reservationsOf handle marks).map Prod.fst).Nodup := by
  refine .of_map UInt64.toNat ?_
  have hnumbered := h.numbered handle hslot
  rw [List.map_map]
  exact hnumbered ▸ List.nodup_range'

/-- The session knows which reservation is open. -/
theorem openReservations_eq (h : SlotLedger slot session marks) (hslot : handle.slot = slot) :
    openReservations handle marks = session.openOf handle := by
  have hnodup := (h.reservations_nodup hslot).of_map
  rw [h.settled handle hslot] at hnodup
  have hdisjoint := List.disjoint_of_nodup_append hnodup
  rw [openReservations, h.settled handle hslot, List.filter_append, List.filter_eq_nil_iff.mpr,
    List.filter_eq_self.mpr, List.nil_append]
  · exact fun reservation hopen => decide_eq_true fun hdone => hdisjoint hdone hopen
  · exact fun reservation hdone => by simpa using hdone

/-- Completions of one number are one completion. -/
theorem completion_unique (h : SlotLedger slot session marks) (hslot : handle.slot = slot)
    {mutation other : CompletedMutation} (hmutation : mutation ∈ completionsOf handle marks)
    (hother : other ∈ completionsOf handle marks) (hsame : other.sequence = mutation.sequence) :
    other = mutation := by
  obtain ⟨place, hplace⟩ := List.mem_iff_getElem?.mp hmutation
  obtain ⟨otherPlace, hotherPlace⟩ := List.mem_iff_getElem?.mp hother
  have hsequence := h.completion_sequence hslot hplace
  have hotherSequence := h.completion_sequence hslot hotherPlace
  have : otherPlace = place := by
    rw [hsame] at hotherSequence
    omega
  rw [this, hplace] at hotherPlace
  exact (Option.some.inj hotherPlace).symm

/-- The number of a completion is not above the count of completions. -/
theorem completion_bounded (h : SlotLedger slot session marks) (hslot : handle.slot = slot)
    {mutation : CompletedMutation} (hmutation : mutation ∈ completionsOf handle marks) :
    mutation.sequence.toNat ≤ (completionsOf handle marks).length := by
  obtain ⟨place, hplace⟩ := List.mem_iff_getElem?.mp hmutation
  have hlt := (List.getElem?_eq_some_iff.mp hplace).1
  rw [h.completion_sequence hslot hplace]
  omega

/-- A replaced handle has an older generation than the session in its slot. -/
theorem replaced_generation (h : SlotLedger slot session marks) {newer : WebSessionHandle}
    (hslot : handle.slot = slot) (hnewer : newer.slot = slot)
    (hreplaced : [.opened handle, .opened newer].Sublist marks) :
    session.generation ≠ handle.generation := by
  have hopenings : [handle.generation, newer.generation].Sublist (openingsOf slot marks) := by
    have hfiltered : openingsOf slot [.opened handle, .opened newer] =
        [handle.generation, newer.generation] := by simp [openingsOf, hslot, hnewer]
    rw [← hfiltered]
    exact hreplaced.filterMap _
  have hnumbers := hopenings.map UInt64.toNat
  rw [h.opened] at hnumbers
  have hbelow : newer.generation.toNat ≤ session.generation.toNat := by
    have hmem := hnumbers.subset (List.mem_cons_of_mem _ List.mem_cons_self)
    rw [List.mem_range'_1] at hmem
    omega
  have hless : handle.generation.toNat < newer.generation.toNat := by
    have hpairs := (List.pairwise_lt_range' 1 (by decide)).sublist hnumbers
    exact List.rel_of_pairwise_cons hpairs List.mem_cons_self
  intro hsame
  rw [hsame] at hbelow
  omega

end SlotLedger

/-- An outcome that is replayed is one that the session remembers. -/
theorem reservation_replayed {session : WebSession} {sequence : UInt64} {digest : ReplayDigest}
    (h : (session.reservation sequence digest).status = .replayOutcome) :
    ∃ mutation ∈ session.completed.entries, mutation.key = (sequence, digest) ∧
      (session.reservation sequence digest).outcome = some (replayOutcome mutation.outcome) := by
  rw [WebSession.reservation] at h ⊢
  split at h
  · split at h
    · dsimp only at h
      split at h <;> cases h
    · cases h
  split at h
  · cases h
  rename_i hnew
  rw [if_neg hnew]
  split at h
  · rename_i mutation hfound
    split at h
    · rename_i hmatches
      refine ⟨mutation, List.mem_of_find?_eq_some hfound, ?_, ?_⟩
      · have hsequence : mutation.sequence = sequence := by
          simpa using List.find?_some hfound
        rw [CompletedMutation.key, hsequence, CompletedMutation.digestMatches_iff.mp hmatches]
      · rw [if_pos hmatches]
        rfl
    · cases h
  · split at h
    · cases h
    split at h
    · cases h
    split at h <;> cases h

/-- A session that is not in the table has no ledger. -/
theorem reservationsOf_outside {marks : List SessionMark} {handle : WebSessionHandle}
    (hinside : ∀ mark ∈ marks, SessionMark.slot mark < kMaximumWebSessions)
    (houtside : ¬handle.slot < kMaximumWebSessions) : reservationsOf handle marks = [] := by
  refine List.eq_nil_iff_forall_not_mem.mpr fun ⟨sequence, digest⟩ hreserved => ?_
  exact houtside (hinside _ (mem_reservationsOf.mp hreserved))

section Events

variable {manager next : WebSessionManager} {past : List SessionMark} {event : SessionEvent}

/-- The session that a mark was made in, and what it was. -/
theorem SessionStep.marked (hstep : SessionStep manager event next) {mark : SessionMark}
    (hmark : event.mark = some mark) :
    ∃ (slot : Fin kMaximumWebSessions) (after : WebSession), mark.handle.slot = slot ∧
      SlotStep slot (manager.sessions slot) (some mark) after := by
  have hchange := hstep.slotStep ⟨mark.slot, hstep.mark_slot hmark⟩
  rw [hmark] at hchange
  exact ⟨_, _, rfl, hchange⟩

/-- What one event shows, when ledger and table agree before and after it. -/
theorem executesOnce (hstep : SessionStep manager event next)
    (hledger : ∀ slot : Fin kMaximumWebSessions, SlotLedger slot (manager.sessions slot) past)
    (hlater : ∀ slot : Fin kMaximumWebSessions,
      SlotLedger slot (next.sessions slot) (past ++ event.mark.toList))
    (hinside : ∀ mark ∈ past ++ event.mark.toList, SessionMark.slot mark < kMaximumWebSessions) :
    ExecutesOnce manager past event next := by
  have hpast : ∀ mark ∈ past, SessionMark.slot mark < kMaximumWebSessions :=
    fun mark hmark => hinside mark (List.mem_append_left _ hmark)
  constructor
  case reservedOnce =>
    intro handle
    by_cases hslot : handle.slot < kMaximumWebSessions
    · exact (hlater ⟨handle.slot, hslot⟩).reservations_nodup rfl
    · rw [reservationsOf_outside hinside hslot]
      exact .nil
  case oneOpen =>
    intro handle
    by_cases hslot : handle.slot < kMaximumWebSessions
    · rw [(hlater ⟨handle.slot, hslot⟩).openReservations_eq rfl, WebSession.openOf]
      split
      · cases (next.sessions ⟨handle.slot, hslot⟩).inFlight <;> simp
      · exact Nat.zero_le _
    · rw [openReservations, reservationsOf_outside hinside hslot]
      exact Nat.zero_le _
  case completable =>
    intro handle reservation hreservation nowMs outcome
    by_cases hslot : handle.slot < kMaximumWebSessions
    · obtain ⟨slot, generation⟩ := handle
      rw [(hledger ⟨slot, hslot⟩).openReservations_eq rfl, WebSession.openOf] at hreservation
      split at hreservation
      · rename_i hgeneration
        rw [Option.mem_toList, Option.map_eq_some_iff] at hreservation
        obtain ⟨mutation, hopen, rfl⟩ := hreservation
        have hcurrent : generation = (manager.sessions ⟨slot, hslot⟩).generation := hgeneration
        rw [hcurrent]
        exact WebSessionManager.completeMutation_own hopen outcome
      · cases hreservation
    · rw [openReservations, reservationsOf_outside hpast hslot] at hreservation
      cases hreservation
  case completedOnce =>
    intro handle mutation hmark
    obtain ⟨slot, _, hslot, hchange⟩ := hstep.marked hmark
    rw [SessionMark.handle] at hslot
    have hwas : mutation.key ∈ (manager.sessions slot).openOf handle := by
      cases hchange with
      | quiet helsewhere _ => exact absurd hslot (helsewhere _ rfl)
      | closed hactive hopen =>
          rw [WebSession.openOf, if_pos rfl, hopen]
          exact List.mem_singleton_self _
      | abandoned hopen hgeneration hended hclosed =>
          rw [WebSession.openOf, if_pos rfl, hopen]
          exact List.mem_singleton_self _
    refine ⟨by rwa [(hledger slot).openReservations_eq hslot], fun hopen => ?_⟩
    rw [openReservations, List.mem_filter, decide_eq_true_iff] at hopen
    refine hopen.2 (List.mem_map_of_mem ?_)
    rw [mem_completionsOf, hmark]
    exact List.mem_append_right _ (List.mem_singleton_self _)
  case slotHeld =>
    intro handle hmark older holder
    obtain ⟨slot, _, hslot, hchange⟩ := hstep.marked hmark
    rw [SessionMark.handle] at hslot
    rw [(hledger slot).openReservations_eq (holder.trans hslot), WebSession.openOf]
    cases hchange with
    | quiet helsewhere _ => exact absurd hslot (helsewhere _ rfl)
    | opened hfree _ _ =>
        rw [hfree]
        split <;> rfl
  case replayed =>
    intro handle nowMs sequence digest reservation hevent hreplayed
    cases hstep with
    | reserveMutation handle nowMs sequence digest =>
        cases hevent
        obtain ⟨slot, hget, rfl, hactive, -⟩ | ⟨_, hget, -⟩ := manager.get_cases handle nowMs
        · have hanswer : (manager.reserveMutation ⟨slot, (manager.sessions slot).generation⟩ nowMs
              sequence digest).1 = (manager.sessions slot).reservation sequence digest := by
            by_cases hgranted :
                ((manager.sessions slot).reservation sequence digest).status = .reserved
            · rw [WebSessionManager.reserveMutation_granted hget hgranted]
            · rw [WebSessionManager.reserveMutation_answered hget hgranted]
          rw [hanswer] at hreplayed ⊢
          obtain ⟨mutation, hmem, hkey, houtcome⟩ := reservation_replayed hreplayed
          rw [((hledger slot).remembered hactive).2.1] at hmem
          refine ⟨mutation, List.mem_of_mem_drop hmem, hkey, houtcome, fun other hother hsame => ?_⟩
          refine (hledger slot).completion_unique rfl (List.mem_of_mem_drop hmem) hother ?_
          exact hsame.trans (congrArg Prod.fst hkey).symm
        · rw [WebSessionManager.reserveMutation_refused hget] at hreplayed
          cases hreplayed
    | _ => cases hevent
  case neverAgain =>
    intro handle mutation hmutation digest hmark
    obtain ⟨slot, _, hslot, hchange⟩ := hstep.marked hmark
    rw [SessionMark.handle] at hslot
    generalize hsame : mutation.sequence = sequence at hchange
    cases hchange with
    | quiet helsewhere _ => exact absurd hslot (helsewhere _ rfl)
    | reserved hactive hfree hsequence =>
        have hbounded := (hledger slot).completion_bounded hslot hmutation
        rw [hsame, hsequence, ((hledger slot).remembered hactive).1] at hbounded
        omega
  case replaced =>
    intro handle newer hhandle hnewer hreplaced
    exact hstep.stale hhandle fun slot hslot =>
      (hledger slot).replaced_generation hslot.symm (hnewer.trans hslot.symm) hreplaced

end Events

/-- In every run, at every place of it, no number of a session is carried out twice, as
long as no slot is opened so often that its generations repeat. -/
theorem mutations_execute_once {events : List SessionEvent} {manager next : WebSessionManager}
    {event : SessionEvent} (hrun : Steps SessionStep {} events manager)
    (hstep : SessionStep manager event next)
    (hroom : ∀ slot, (openingsOf slot (marksOf (events ++ [event]))).length < 2 ^ 64) :
    ExecutesOnce manager (marksOf events) event next := by
  have hlater := hrun.step hstep
  refine executesOnce hstep (ledger_of_run hrun fun slot => ?_) ?_ ?_
  · have hlength := hroom slot
    rw [marksOf_append, openingsOf_append, List.length_append] at hlength
    omega
  · rw [← marksOf_append]
    exact ledger_of_run hlater hroom
  · rw [← marksOf_append]
    exact fun mark => marks_inside hlater

/-! ## A retried mutation -/

section Retried

/-- The random source gives zeros. -/
def zeroDraws : WebSessionManager.SessionDraws where
  id := some (Vector.replicate _ 0)
  csrf := some (Vector.replicate _ 0)

def firstHandle : WebSessionHandle := ⟨0, 1⟩
def someDigest : ReplayDigest := Vector.replicate _ 7

def loggedIn : WebSessionManager := (({} : WebSessionManager).create zeroDraws 0).2
def reservedFirst : WebSessionManager := (loggedIn.reserveMutation firstHandle 0 1 someDigest).2
def completedFirst : WebSessionManager :=
  (reservedFirst.completeMutation firstHandle 0 1 someDigest .applied).2

/-- A session is created, and its first mutation is applied. -/
theorem firstMutation :
    Steps SessionStep {}
      [.create 0 (({} : WebSessionManager).create zeroDraws 0).1,
        .reserveMutation firstHandle 0 1 someDigest
          (loggedIn.reserveMutation firstHandle 0 1 someDigest).1,
        .completeMutation firstHandle 0 1 someDigest .applied
          (reservedFirst.completeMutation firstHandle 0 1 someDigest .applied).1]
      completedFirst :=
  .step (.step (.step .start (.create zeroDraws 0)) (.reserveMutation ..)) (.completeMutation ..)

theorem retry_replayed :
    (completedFirst.reserveMutation firstHandle 5 1 someDigest).1 =
        ⟨.replayOutcome, some 1, some (replayOutcome .applied)⟩ ∧
      ExecutesOnce completedFirst
        [.opened firstHandle, .reserved firstHandle 1 someDigest,
          .completed firstHandle ⟨1, someDigest, .applied⟩]
        (.reserveMutation firstHandle 5 1 someDigest
          (completedFirst.reserveMutation firstHandle 5 1 someDigest).1)
        (completedFirst.reserveMutation firstHandle 5 1 someDigest).2 :=
  ⟨by decide, mutations_execute_once firstMutation (.reserveMutation ..) fun slot =>
    (openingsOf_length_le slot _).trans_lt (by decide)⟩

end Retried

/-! ## A counter that wraps -/

section Wrapped

def firstSlot : Fin kMaximumWebSessions := ⟨0, by decide⟩

/-- The first slot was opened and given up; nothing else was. -/
def givenUp (generation : UInt64) : WebSessionManager :=
  ({} : WebSessionManager).put firstSlot { generation := generation }

/-- The first slot has a session that has not done anything. -/
def openedAt (generation : UInt64) : WebSessionManager :=
  ({} : WebSessionManager).put firstSlot { active := true, generation := generation }

theorem reclaim_givenUp (generation : UInt64) :
    (givenUp generation).reclaim 0 = givenUp generation := by
  rw [WebSessionManager.reclaim]
  refine congrArg WebSessionManager.mk (funext fun slot => ?_)
  rw [WebSession.retireIfExpired]
  by_cases hslot : slot = firstSlot
  · rw [hslot, givenUp, WebSessionManager.put_same]
    rfl
  · rw [givenUp, WebSessionManager.put_other hslot]
    exact (WebSessionManager.put_other hslot _).symm

theorem create_givenUp (generation : UInt64) :
    (givenUp generation).create zeroDraws 0 =
      ({ status := .created
         handle := some ⟨0, ({ generation := generation } : WebSession).nextGeneration⟩
         cookieValue := hex (Vector.replicate kWebSessionSecretBytes 0)
         csrfToken := hex (Vector.replicate kWebSessionSecretBytes 0) },
        openedAt ({ generation := generation } : WebSession).nextGeneration) := by
  have hfree : (givenUp generation).freeSlot = some firstSlot := rfl
  rw [WebSessionManager.create, reclaim_givenUp]
  dsimp only [zeroDraws]
  rw [hfree]
  dsimp only
  rw [givenUp, WebSessionManager.put_same, WebSessionManager.put_put]
  rfl

theorem revoke_openedAt (generation : UInt64) :
    (openedAt generation).revoke ⟨0, generation⟩ = givenUp generation := by
  have hslot : 0 < kMaximumWebSessions := by decide
  rw [WebSessionManager.revoke, dif_pos hslot]
  exact (if_pos rfl).trans (WebSessionManager.put_put ..)

/-- The slot is opened and given up again and again, once for each generation. -/
theorem runs_through_generations (count : ℕ) (hcount : 1 + count < 2 ^ 64) :
    ∃ events, Steps SessionStep (givenUp 1) events (givenUp (UInt64.ofNat (1 + count))) := by
  induction count with
  | zero => exact ⟨[], .start⟩
  | succ count ih =>
      obtain ⟨events, hrun⟩ := ih (by omega)
      have hnext : ({ generation := UInt64.ofNat (1 + count) } : WebSession).nextGeneration =
          UInt64.ofNat (1 + (count + 1)) := by
        have hvalue : (UInt64.ofNat (1 + count)).toNat = 1 + count :=
          UInt64.toNat_ofNat_of_lt' (Nat.lt_of_succ_lt hcount)
        refine UInt64.toNat_inj.mp ?_
        rw [SlotLedger.toNat_nextGeneration (by rw [hvalue]; omega), hvalue,
          UInt64.toNat_ofNat_of_lt' hcount, Nat.add_assoc]
      have hcreated := @SessionStep.create (givenUp (UInt64.ofNat (1 + count))) zeroDraws 0
      rw [create_givenUp, hnext] at hcreated
      have hrevoked := @SessionStep.revoke (openedAt (UInt64.ofNat (1 + (count + 1))))
        ⟨0, UInt64.ofNat (1 + (count + 1))⟩
      rw [revoke_openedAt] at hrevoked
      exact ⟨_, (hrun.step hcreated).step hrevoked⟩

theorem revoke_completedFirst : completedFirst.revoke firstHandle = givenUp 1 := by
  have hsessions : ∀ slot, (completedFirst.revoke firstHandle).sessions slot =
      (givenUp 1).sessions slot := by decide +kernel
  exact congrArg WebSessionManager.mk (funext hsessions)

/-- After the last generation comes the first one again, and its number one is reserved a
second time. -/
theorem repeated_generation_reserves_again :
    ¬∀ events manager event next, Steps SessionStep {} events manager →
      SessionStep manager event next → ExecutesOnce manager (marksOf events) event next := by
  intro hclaim
  have hrevoked := firstMutation.step (.revoke firstHandle)
  rw [revoke_completedFirst] at hrevoked
  obtain ⟨events, hrun⟩ := runs_through_generations (2 ^ 64 - 2) (by decide)
  have hcreated := @SessionStep.create (givenUp (UInt64.ofNat (1 + (2 ^ 64 - 2)))) zeroDraws 0
  have hwrapped : ({ generation := UInt64.ofNat (1 + (2 ^ 64 - 2)) } : WebSession).nextGeneration =
      1 := by decide
  rw [create_givenUp, hwrapped] at hcreated
  have honce := hclaim _ _ _ _ ((hrevoked.append hrun).step hcreated)
    (.reserveMutation firstHandle 0 1 someDigest)
  refine honce.neverAgain firstHandle ⟨1, someDigest, .applied⟩ ?_ someDigest (by decide)
  rw [mem_completionsOf, marksOf, List.mem_filterMap]
  refine ⟨.completeMutation firstHandle 0 1 someDigest .applied
    (reservedFirst.completeMutation firstHandle 0 1 someDigest .applied).1, ?_, by decide⟩
  simp

end Wrapped

end Fermentationsschrank

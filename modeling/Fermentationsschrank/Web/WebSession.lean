import Fermentationsschrank.Core.ConstantTime
import Fermentationsschrank.Core.Utf8
import Mathlib.Data.List.DropRight
import Mathlib.Logic.Function.Basic

/-!
# Web sessions

The table of browser sessions.  A session is found by its cookie and named by a slot
with the generation that the slot had when it was created.  It ends by its age, by
inactivity or by revocation, and age is looked at only when somebody asks.  Each
session numbers its mutations; a number is reserved, applied and completed, and the
last outcomes are kept so that a repeated request gets the same answer.
-/

namespace Fermentationsschrank

def kMaximumWebSessions : ℕ := 4
def kWebSessionIdleLimitMs : UInt64 := 30 * 60 * 1000
def kWebSessionAbsoluteLimitMs : UInt64 := 12 * 60 * 60 * 1000
def kMaximumCompletedMutationOutcomes : ℕ := 8
def kWebSessionSecretBytes : ℕ := 16
def kReplayDigestBytes : ℕ := 32

abbrev ReplayDigest := Vector Byte kReplayDigestBytes
abbrev SessionSecret := Vector Byte kWebSessionSecretBytes

structure WebSessionHandle where
  slot : ℕ := 0
  generation : UInt64 := 0
  deriving DecidableEq, Repr

inductive WebSessionStatus
  | created
  | found
  | missing
  | expired
  | capacity
  | randomUnavailable
  | invalid
  deriving DecidableEq, Repr

structure WebSessionResult where
  status : WebSessionStatus := .invalid
  handle : Option WebSessionHandle := none
  cookieValue : Bytes := []
  csrfToken : Bytes := []
  deriving DecidableEq, Repr

inductive MutationSequenceState
  | available
  | inFlight
  | exhausted
  deriving DecidableEq, Repr

inductive ReplayOutcomeCode
  | applied
  | unavailable
  | stale
  | rejected
  | busy
  | confirmationRequired
  | writeFailed
  | tooLarge
  deriving DecidableEq, Repr

structure MutationSequenceView where
  state : MutationSequenceState := .exhausted
  nextMutationSeq : UInt64 := 0
  inFlightMutationSeq : Option UInt64 := none
  deriving DecidableEq, Repr

def kJsonContentType : String := "application/json; charset=utf-8"

structure WebMutationOutcome where
  statusCode : UInt16 := 500
  contentType : String := kJsonContentType
  body : String := ""
  deriving DecidableEq, Repr

def replayOutcome : ReplayOutcomeCode → WebMutationOutcome
  | .applied => ⟨200, kJsonContentType, "\x7b\"outcome\":\"applied\"\x7d"⟩
  | .unavailable => ⟨503, kJsonContentType, "\x7b\"outcome\":\"unavailable\"\x7d"⟩
  | .stale => ⟨409, kJsonContentType, "\x7b\"outcome\":\"stale\"\x7d"⟩
  | .rejected => ⟨422, kJsonContentType, "\x7b\"outcome\":\"rejected\"\x7d"⟩
  | .busy => ⟨409, kJsonContentType, "\x7b\"outcome\":\"busy\"\x7d"⟩
  | .confirmationRequired =>
      ⟨409, kJsonContentType, "\x7b\"outcome\":\"confirmation-required\"\x7d"⟩
  | .writeFailed => ⟨500, kJsonContentType, "\x7b\"outcome\":\"write-failed\"\x7d"⟩
  | .tooLarge => ⟨413, kJsonContentType, "\x7b\"outcome\":\"too-large\"\x7d"⟩

inductive MutationReservationStatus
  | reserved
  | replayOutcome
  | inFlight
  | sequenceConflict
  | sequenceGap
  | replayExpired
  | sequenceReused
  | exhausted
  | invalidSession
  deriving DecidableEq, Repr

structure MutationReservation where
  status : MutationReservationStatus := .invalidSession
  sequence : Option UInt64 := none
  outcome : Option WebMutationOutcome := none
  deriving DecidableEq, Repr

/-! ## One session -/

structure CompletedMutation where
  sequence : UInt64 := 0
  digest : ReplayDigest := Vector.replicate _ 0
  outcome : ReplayOutcomeCode := .unavailable
  deriving DecidableEq

namespace CompletedMutation

def digestMatches (mutation : CompletedMutation) (digest : ReplayDigest) : Bool :=
  constantTimeEqual mutation.digest digest

def restoreOutcome (mutation : CompletedMutation) : WebMutationOutcome :=
  replayOutcome mutation.outcome

@[simp]
theorem digestMatches_iff {mutation : CompletedMutation} {digest : ReplayDigest} :
    mutation.digestMatches digest = true ↔ mutation.digest = digest :=
  constantTimeEqual_iff

end CompletedMutation

/-- The completed mutations that are remembered, the oldest first. -/
structure CompletedMutations where
  entries : List CompletedMutation
  fits : entries.length ≤ kMaximumCompletedMutationOutcomes
  deriving DecidableEq

namespace CompletedMutations

def empty : CompletedMutations := ⟨[], Nat.zero_le _⟩

/-- Room is made by forgetting the oldest one. -/
def push (completed : CompletedMutations) (mutation : CompletedMutation) : CompletedMutations :=
  if h : completed.entries.length < kMaximumCompletedMutationOutcomes then
    ⟨completed.entries ++ [mutation], by
      rw [List.length_append, List.length_singleton]
      exact h⟩
  else
    ⟨completed.entries.tail ++ [mutation], by
      have hfits := completed.fits
      have hroom : 0 < kMaximumCompletedMutationOutcomes := by decide
      rw [List.length_append, List.length_tail, List.length_singleton]
      omega⟩

variable {completed : CompletedMutations} {mutation : CompletedMutation}

theorem push_of_room (h : completed.entries.length < kMaximumCompletedMutationOutcomes) :
    (completed.push mutation).entries = completed.entries ++ [mutation] := by
  rw [push, dif_pos h]

theorem push_of_full (h : ¬completed.entries.length < kMaximumCompletedMutationOutcomes) :
    (completed.push mutation).entries = completed.entries.tail ++ [mutation] := by
  rw [push, dif_neg h]

end CompletedMutations

structure WebSession where
  active : Bool := false
  generation : UInt64 := 0
  id : SessionSecret := Vector.replicate _ 0
  csrf : SessionSecret := Vector.replicate _ 0
  createdAtMs : UInt64 := 0
  lastActivityMs : UInt64 := 0
  highWater : UInt64 := 0
  replayFloor : UInt64 := 0
  inFlight : Option CompletedMutation := none
  completed : CompletedMutations := .empty
  deriving DecidableEq

namespace WebSession

def clearMutationState (session : WebSession) : WebSession :=
  { session with inFlight := none, completed := .empty, highWater := 0, replayFloor := 0 }

/-- An open reservation outlives the session. -/
def retire (session : WebSession) : WebSession :=
  { session with active := false, completed := .empty, highWater := 0, replayFloor := 0 }

def expired (session : WebSession) (nowMs : UInt64) : Bool :=
  decide (nowMs < session.createdAtMs) ||
    decide (nowMs - session.createdAtMs ≥ kWebSessionAbsoluteLimitMs) ||
    decide (nowMs < session.lastActivityMs) ||
    decide (nowMs - session.lastActivityMs ≥ kWebSessionIdleLimitMs)

def retireIfExpired (session : WebSession) (nowMs : UInt64) : WebSession :=
  if session.active && session.expired nowMs then session.retire else session

/-- The generation after this one; the counter wraps and leaves zero out. -/
def nextGeneration (session : WebSession) : UInt64 :=
  if session.generation + 1 = 0 then session.generation + 2 else session.generation + 1

end WebSession

/-! ## Cookies -/

/-- The two digits of a byte, in lower case. -/
def hexDigits (byte : Byte) : Bytes :=
  let digit (nibble : Byte) : Byte := if nibble < 10 then nibble + 0x30 else nibble - 10 + 0x61
  [digit (byte >>> 4), digit (byte &&& 0x0F)]

def hex {length : ℕ} (bytes : Vector Byte length) : Bytes := bytes.toList.flatMap hexDigits

def nibble (digit : Byte) : Option Byte :=
  if 0x30 ≤ digit ∧ digit ≤ 0x39 then some (digit - 0x30)
  else if 0x61 ≤ digit ∧ digit ≤ 0x66 then some (digit - 0x61 + 10)
  else if 0x41 ≤ digit ∧ digit ≤ 0x46 then some (digit - 0x41 + 10)
  else none

def isBlank (byte : Byte) : Bool := byte == 0x20 || byte == 0x09

/-- A string without the spaces and tabs at either end. -/
def trimmed (text : Bytes) : Bytes := (text.dropWhile isBlank).rdropWhile isBlank

/-- One `name=value` pair of a cookie, without the blanks around it. -/
def cookiePair (pair : Bytes) : Option (Bytes × Bytes) :=
  let name := pair.takeWhile (· ≠ 0x3D)
  if name = [] ∨ name.length = pair.length then none
  else some (name, pair.drop (name.length + 1))

/-- The value of the session cookie among the pairs that are left.  Only the last pair
may be blank, and the session cookie is given once. -/
def sessionCookie : List Bytes → Option Bytes → Option (Option Bytes)
  | [], value => some value
  | pair :: rest, value =>
      if trimmed pair = [] then
        if rest = [] then some value else none
      else
        match cookiePair (trimmed pair) with
        | none => none
        | some (name, content) =>
            if name = literal "FSSESSION" then
              if value.isSome || content.isEmpty then none else sessionCookie rest (some content)
            else sessionCookie rest value

/-- Pairs of digits. -/
def decodeHex : Bytes → Option Bytes
  | [] => some []
  | [_] => none
  | high :: low :: rest =>
      match nibble high, nibble low with
      | some high, some low => (decodeHex rest).map ((high <<< 4 ||| low) :: ·)
      | _, _ => none

def decodeCookie (cookie : Bytes) : Option SessionSecret :=
  match sessionCookie (cookie.splitOn 0x3B) none with
  | some (some value) =>
      if value.length ≠ 2 * kWebSessionSecretBytes then none
      else (decodeHex value).bind fun bytes =>
        if h : bytes.length = kWebSessionSecretBytes then some ⟨bytes.toArray, h⟩ else none
  | _ => none

/-! ## The table -/

structure WebSessionManager where
  sessions : Fin kMaximumWebSessions → WebSession := fun _ => {}

namespace WebSessionManager

/-- Replaces the session in a slot. -/
def put (manager : WebSessionManager) (slot : Fin kMaximumWebSessions) (session : WebSession) :
    WebSessionManager :=
  ⟨Function.update manager.sessions slot session⟩

/-- The slot of a live session.  One that has expired is retired on the way. -/
def get (manager : WebSessionManager) (handle : WebSessionHandle) (nowMs : UInt64) :
    Option (Fin kMaximumWebSessions) × WebSessionManager :=
  if h : handle.slot < kMaximumWebSessions then
    let slot : Fin kMaximumWebSessions := ⟨handle.slot, h⟩
    let session := manager.sessions slot
    if session.active = false ∨ session.generation ≠ handle.generation then (none, manager)
    else if session.expired nowMs then (none, manager.put slot session.retire)
    else (some slot, manager)
  else (none, manager)

def reclaim (manager : WebSessionManager) (nowMs : UInt64) : WebSessionManager where
  sessions slot := (manager.sessions slot).retireIfExpired nowMs

/-- The first slot without a session and without an open reservation. -/
def freeSlot (manager : WebSessionManager) : Option (Fin kMaximumWebSessions) :=
  (List.finRange kMaximumWebSessions).find? fun slot =>
    !(manager.sessions slot).active && (manager.sessions slot).inFlight.isNone

/-- What the random source gives for the identifier and, if it gave one, for the token. -/
structure SessionDraws where
  id : Option SessionSecret
  csrf : Option SessionSecret

def create (manager : WebSessionManager) (draws : SessionDraws) (nowMs : UInt64) :
    WebSessionResult × WebSessionManager :=
  let manager := manager.reclaim nowMs
  match manager.freeSlot with
  | none => ({ status := .capacity }, manager)
  | some slot =>
      let target := manager.sessions slot
      match draws.id with
      | none => ({ status := .randomUnavailable }, manager)
      | some id =>
          match draws.csrf with
          | none => ({ status := .randomUnavailable }, manager.put slot { target with id := id })
          | some csrf =>
              let opened := WebSession.clearMutationState { target with
                id := id
                csrf := csrf
                active := true
                generation := target.nextGeneration
                createdAtMs := nowMs
                lastActivityMs := nowMs }
              ({ status := .created
                 handle := some ⟨slot, opened.generation⟩
                 cookieValue := hex id
                 csrfToken := hex csrf }, manager.put slot opened)

def find (manager : WebSessionManager) (cookie : Bytes) (nowMs : UInt64) :
    WebSessionResult × WebSessionManager :=
  match decodeCookie cookie with
  | none => ({ status := .missing }, manager)
  | some id =>
      match (List.finRange kMaximumWebSessions).find? fun slot =>
          (manager.sessions slot).active && constantTimeEqual (manager.sessions slot).id id with
      | none => ({ status := .missing }, manager)
      | some slot =>
          let session := manager.sessions slot
          let handle : WebSessionHandle := ⟨slot, session.generation⟩
          match manager.get handle nowMs with
          | (none, manager) => ({ status := .expired }, manager)
          | (some _, manager) =>
              ({ status := .found
                 handle := some handle
                 cookieValue := hex session.id
                 csrfToken := hex session.csrf }, manager)

/-- What a live session has under a handle. -/
def read {α : Type} (manager : WebSessionManager) (handle : WebSessionHandle) (nowMs : UInt64)
    (missing : α) (present : WebSession → α) : α × WebSessionManager :=
  match manager.get handle nowMs with
  | (none, manager) => (missing, manager)
  | (some slot, manager) => (present (manager.sessions slot), manager)

/-- Texts of one length are compared in constant time. -/
def textEqual (left right : Bytes) : Bool :=
  if left.length ≠ right.length then false else accumulatedDifference left right == 0

def validateCsrf (manager : WebSessionManager) (handle : WebSessionHandle) (token : Bytes)
    (nowMs : UInt64) : Bool × WebSessionManager :=
  manager.read handle nowMs false fun session => textEqual token (hex session.csrf)

def csrfToken (manager : WebSessionManager) (handle : WebSessionHandle) (nowMs : UInt64) :
    Option Bytes × WebSessionManager :=
  manager.read handle nowMs none fun session => some (hex session.csrf)

def cookieValue (manager : WebSessionManager) (handle : WebSessionHandle) (nowMs : UInt64) :
    Option Bytes × WebSessionManager :=
  manager.read handle nowMs none fun session => some (hex session.id)

def touch (manager : WebSessionManager) (handle : WebSessionHandle) (nowMs : UInt64) :
    Bool × WebSessionManager :=
  match manager.get handle nowMs with
  | (none, manager) => (false, manager)
  | (some slot, manager) =>
      (true, manager.put slot { manager.sessions slot with lastActivityMs := nowMs })

def revoke (manager : WebSessionManager) (handle : WebSessionHandle) : WebSessionManager :=
  if h : handle.slot < kMaximumWebSessions then
    let slot : Fin kMaximumWebSessions := ⟨handle.slot, h⟩
    if (manager.sessions slot).generation = handle.generation then
      manager.put slot (manager.sessions slot).retire
    else manager
  else manager

def revokeAll (manager : WebSessionManager) : WebSessionManager where
  sessions slot := (manager.sessions slot).retire

def mutationSequence (manager : WebSessionManager) (handle : WebSessionHandle) (nowMs : UInt64) :
    MutationSequenceView × WebSessionManager :=
  manager.read handle nowMs {} fun session =>
    match session.inFlight with
    | some mutation => ⟨.inFlight, 0, some mutation.sequence⟩
    | none =>
        if session.highWater = UInt64.ofNat (UInt64.size - 1) then ⟨.exhausted, 0, none⟩
        else ⟨.available, session.highWater + 1, none⟩

end WebSessionManager

/-- How a live session answers the request for a number. -/
def WebSession.reservation (session : WebSession) (sequence : UInt64) (digest : ReplayDigest) :
    MutationReservation :=
  match session.inFlight with
  | some mutation =>
      if sequence = mutation.sequence then
        ⟨if mutation.digestMatches digest then .inFlight else .sequenceReused, some sequence, none⟩
      else ⟨.sequenceConflict, none, none⟩
  | none =>
      if sequence ≤ session.replayFloor then ⟨.replayExpired, some sequence, none⟩
      else
        match session.completed.entries.find? (·.sequence == sequence) with
        | some completed =>
            if completed.digestMatches digest then
              ⟨.replayOutcome, some sequence, some completed.restoreOutcome⟩
            else ⟨.sequenceReused, some sequence, none⟩
        | none =>
            if session.highWater = UInt64.ofNat (UInt64.size - 1) then ⟨.exhausted, none, none⟩
            else if sequence > session.highWater + 1 then ⟨.sequenceGap, some sequence, none⟩
            else if sequence ≤ session.highWater then ⟨.replayExpired, some sequence, none⟩
            else ⟨.reserved, some sequence, none⟩

/-- An open reservation is closed with its outcome. -/
def WebSession.close (session : WebSession) (mutation : CompletedMutation)
    (outcome : ReplayOutcomeCode) : WebSession :=
  { session with
    highWater := mutation.sequence
    replayFloor :=
      if session.completed.entries.length < kMaximumCompletedMutationOutcomes then
        session.replayFloor
      else (session.completed.entries.headD {}).sequence
    completed := session.completed.push { mutation with outcome := outcome }
    inFlight := none }

/-- The outcome of a session that has ended is not kept. -/
def WebSession.complete (session : WebSession) (nowMs : UInt64) (mutation : CompletedMutation)
    (outcome : ReplayOutcomeCode) : WebSession :=
  let session := session.retireIfExpired nowMs
  if session.active = false then { session with inFlight := none }
  else session.close mutation outcome

namespace WebSessionManager

def reserveMutation (manager : WebSessionManager) (handle : WebSessionHandle) (nowMs : UInt64)
    (sequence : UInt64) (digest : ReplayDigest) : MutationReservation × WebSessionManager :=
  match manager.get handle nowMs with
  | (none, manager) => ({ status := .invalidSession }, manager)
  | (some slot, manager) =>
      let session := manager.sessions slot
      let reservation := session.reservation sequence digest
      if reservation.status = .reserved then
        (reservation, manager.put slot
          { session with inFlight := some { sequence := sequence, digest := digest } })
      else (reservation, manager)

/-- The reservation, not the life of the session, decides who may complete. -/
def completeMutation (manager : WebSessionManager) (handle : WebSessionHandle) (nowMs : UInt64)
    (sequence : UInt64) (digest : ReplayDigest) (outcome : ReplayOutcomeCode) :
    Bool × WebSessionManager :=
  if h : handle.slot < kMaximumWebSessions then
    let slot : Fin kMaximumWebSessions := ⟨handle.slot, h⟩
    let session := manager.sessions slot
    match session.inFlight with
    | none => (false, manager)
    | some mutation =>
        if session.generation ≠ handle.generation ∨ mutation.sequence ≠ sequence ∨
            mutation.digestMatches digest = false then (false, manager)
        else (true, manager.put slot (session.complete nowMs mutation outcome))
  else (false, manager)

end WebSessionManager

end Fermentationsschrank

import Fermentationsschrank.Reset.FactoryResetFlow

/-!
# Confirmation of a factory reset

A factory reset erases everything.  Whoever knows the calls of the flow and their answers
can tell from them that each step of the confirmation was taken, in its order, before the
reset was allowed.
-/

namespace Fermentationsschrank

/-! ## Histories -/

namespace FactoryResetEvent

def verified : FactoryResetEvent := ⟨.pinVerified, some true⟩

def acknowledged : FactoryResetEvent := ⟨.acknowledge, some true⟩

def begun (kind : FactoryResetKind) : FactoryResetEvent := ⟨.begin kind, some true⟩

variable (event : FactoryResetEvent)

/-- The event allows the reset. -/
def Fires : Prop := ∃ held nowMs, event = ⟨.updateHold held nowMs, some true⟩

/-- The event neither begins a flow, nor cancels it, nor allows the reset. -/
def Quiet : Prop :=
  (∀ kind, event ≠ begun kind) ∧ event.call ≠ .cancel ∧ ¬event.Fires

/-- Whether the contact is held at a time. -/
def touch : Option (Bool × UInt64) :=
  match event.call with
  | .updateHold held nowMs => some (held, nowMs)
  | _ => none

end FactoryResetEvent

open FactoryResetEvent

def touches (events : List FactoryResetEvent) : List (Bool × UInt64) :=
  events.filterMap FactoryResetEvent.touch

/-- The contact has been held since a time, and no time lies before that. -/
def HeldSince (startedMs : UInt64) (touched : List (Bool × UInt64)) : Prop :=
  ∃ before after, touched = before ++ (true, startedMs) :: after ∧
    ∀ touch ∈ after, touch.1 = true ∧ startedMs ≤ touch.2

/-- The PIN was verified where the kind of the reset asks for it. -/
def PinVerified (kind : FactoryResetKind) (events : List FactoryResetEvent) : Prop :=
  kind = .pinProtected → verified ∈ events

/-- The confirmation since a flow was begun: the PIN, the warning, the confirmation, and a
contact that is held for the whole duration until the last event. -/
def Confirmed (kind : FactoryResetKind) (holdMillis : UInt32)
    (since : List FactoryResetEvent) (held : Bool) (nowMs : UInt64) : Prop :=
  ∃ pin warning rest, since = pin ++ acknowledged :: (warning ++ acknowledged :: rest) ∧
    PinVerified kind pin ∧
    ∃ startedMs, HeldSince startedMs (touches rest ++ [(held, nowMs)]) ∧
      startedMs.toNat + holdMillis.toNat ≤ nowMs.toNat

/-! ## What the events tell of the flow -/

section Knowledge

variable {holdMillis : Option UInt32} {flow next : FactoryResetFlow}
  {past since : List FactoryResetEvent} {event : FactoryResetEvent}

/-- How far the confirmation has come. -/
def Advanced (flow : FactoryResetFlow) (since : List FactoryResetEvent) : Prop :=
  match flow.stage with
  | .pinRequired => True
  | .warning => PinVerified flow.kind since
  | .confirm => ∃ pin warning, since = pin ++ acknowledged :: warning ∧
      PinVerified flow.kind pin
  | .hold => ∃ pin warning rest,
      since = pin ++ acknowledged :: (warning ++ acknowledged :: rest) ∧
      PinVerified flow.kind pin ∧
      ∀ startedMs, flow.holdStartedMs = some startedMs → HeldSince startedMs (touches rest)
  | .idle | .executing | .finished => False

/-- The flow waits for a step of its confirmation. -/
def FactoryResetFlow.waiting (flow : FactoryResetFlow) : Prop :=
  flow.stage ≠ .idle ∧ flow.stage ≠ .executing ∧ flow.stage ≠ .finished

structure FlowKnown (holdMillis : Option UInt32) (flow : FactoryResetFlow)
    (past : List FactoryResetEvent) : Prop where
  bound : flow.holdMillis = holdMillis
  configured : flow.waiting → holdMillis.isSome = true
  begun : flow.waiting → ∃ before since, past = before ++ begun flow.kind :: since ∧
    (∀ event ∈ since, event.Quiet) ∧ Advanced flow since

/-- What an event that allows the reset says of the events before it. -/
def Allowed (holdMillis : Option UInt32) (past : List FactoryResetEvent)
    (event : FactoryResetEvent) : Prop :=
  ∀ held nowMs, event = ⟨.updateHold held nowMs, some true⟩ →
    ∃ before kind since hold, past = before ++ FactoryResetEvent.begun kind :: since ∧
      (∀ event ∈ since, event.Quiet) ∧ holdMillis = some hold ∧
      Confirmed kind hold since held nowMs

theorem touches_concat : touches (since ++ [event]) = touches since ++ event.touch.toList := by
  rw [touches, List.filterMap_append, touches]
  cases htouch : event.touch with
  | none => rw [List.filterMap_cons_none htouch]; rfl
  | some touch => rw [List.filterMap_cons_some htouch]; rfl

theorem HeldSince.concat {startedMs nowMs : UInt64} {touched : List (Bool × UInt64)}
    (h : HeldSince startedMs touched) (hlater : startedMs ≤ nowMs) :
    HeldSince startedMs (touched ++ [(true, nowMs)]) := by
  obtain ⟨before, after, rfl, hall⟩ := h
  refine ⟨before, after ++ [(true, nowMs)], by simp, fun touch htouch => ?_⟩
  rcases List.mem_append.mp htouch with hearlier | hlast
  · exact hall touch hearlier
  · rw [List.mem_singleton.mp hlast]
    exact ⟨rfl, hlater⟩

theorem heldSince_single {nowMs : UInt64} {touched : List (Bool × UInt64)} :
    HeldSince nowMs (touched ++ [(true, nowMs)]) := ⟨touched, [], rfl, nofun⟩

theorem PinVerified.concat {kind : FactoryResetKind} (h : PinVerified kind since) :
    PinVerified kind (since ++ [event]) := fun hkind => List.mem_append_left _ (h hkind)

/-- An event without a touch leaves the confirmation where it is. -/
theorem Advanced.concat (h : Advanced flow since)
    (htouch : event.touch = none ∨ flow.stage ≠ .hold) : Advanced flow (since ++ [event]) := by
  rw [Advanced] at h ⊢
  cases hstage : flow.stage with
  | idle | executing | finished =>
      rw [hstage] at h
      exact h.elim
  | pinRequired => trivial
  | warning =>
      rw [hstage] at h
      exact PinVerified.concat h
  | confirm =>
      rw [hstage] at h
      obtain ⟨pin, warning, rfl, hpin⟩ := h
      exact ⟨pin, warning ++ [event], by simp, hpin⟩
  | hold =>
      rw [hstage] at h
      obtain ⟨pin, warning, rest, rfl, hpin, hheld⟩ := h
      refine ⟨pin, warning, rest ++ [event], by simp, hpin, fun startedMs hstarted => ?_⟩
      rw [touches_concat, htouch.resolve_right (not_not.mpr hstage), Option.toList_none,
        List.append_nil]
      exact hheld startedMs hstarted

/-- A quiet event that goes on with the confirmation. -/
theorem FlowKnown.goesOn (h : FlowKnown holdMillis flow past)
    (hbound : next.holdMillis = flow.holdMillis)
    (hnext : next.waiting → flow.waiting ∧ next.kind = flow.kind ∧ event.Quiet ∧
      ∀ since, Advanced flow since → Advanced next (since ++ [event])) :
    FlowKnown holdMillis next (past ++ [event]) where
  bound := hbound.trans h.bound
  configured hwaiting := h.configured (hnext hwaiting).1
  begun hwaiting := by
    obtain ⟨hflow, hkind, hquiet, hadvances⟩ := hnext hwaiting
    obtain ⟨before, since, rfl, hall, hadvanced⟩ := h.begun hflow
    refine ⟨before, since ++ [event], by simp [hkind], fun found hfound => ?_,
      hadvances since hadvanced⟩
    rcases List.mem_append.mp hfound with hearlier | hlast
    · exact hall found hearlier
    · rwa [List.mem_singleton.mp hlast]

/-- A call that is refused. -/
theorem FlowKnown.refused (h : FlowKnown holdMillis flow past) (hquiet : event.Quiet)
    (htouch : event.touch = none ∨ flow.stage ≠ .hold) :
    FlowKnown holdMillis flow (past ++ [event]) :=
  h.goesOn rfl fun hwaiting => ⟨hwaiting, rfl, hquiet, fun _ hadvanced => hadvanced.concat htouch⟩

/-- A flow that waits for nothing. -/
theorem FlowKnown.rested (h : FlowKnown holdMillis flow past)
    (hbound : next.holdMillis = flow.holdMillis) (hrests : ¬next.waiting) :
    FlowKnown holdMillis next (past ++ [event]) :=
  h.goesOn hbound fun hwaiting => absurd hwaiting hrests

theorem quiet_of_refused {call : FactoryResetCall} (hcall : call ≠ .cancel) {answer : Option Bool}
    (hrefused : answer ≠ some true) : FactoryResetEvent.Quiet ⟨call, answer⟩ := by
  refine ⟨fun kind hbegun => ?_, hcall, fun ⟨held, nowMs, hfires⟩ => ?_⟩
  · exact hrefused (congrArg FactoryResetEvent.answer hbegun)
  · exact hrefused (congrArg FactoryResetEvent.answer hfires)

theorem FlowKnown.begin (h : FlowKnown holdMillis flow past) {kind : FactoryResetKind} :
    FlowKnown holdMillis (flow.begin kind).2 (past ++ [⟨.begin kind, some (flow.begin kind).1⟩]) := by
  have hrefused : FlowKnown holdMillis flow (past ++ [⟨.begin kind, some false⟩]) :=
    h.refused (quiet_of_refused (by nofun) (by nofun)) (.inl rfl)
  rw [FactoryResetFlow.begin]
  split
  · exact hrefused
  rename_i hconfigured
  split
  · exact hrefused
  · refine ⟨h.bound, fun _ => ?_, fun _ => ⟨past, [], rfl, nofun, ?_⟩⟩
    · have hconfigured : flow.configured = true := by simpa using hconfigured
      rw [← h.bound]
      exact hconfigured
    cases kind with
    | pinProtected => trivial
    | pinIndependent => exact nofun

theorem FlowKnown.pinVerified (h : FlowKnown holdMillis flow past) :
    FlowKnown holdMillis flow.pinVerified.2 (past ++ [⟨.pinVerified, some flow.pinVerified.1⟩]) := by
  rw [FactoryResetFlow.pinVerified]
  split
  · exact h.refused (quiet_of_refused (by nofun) (by nofun)) (.inl rfl)
  · rename_i hstage
    rw [not_or, not_not] at hstage
    refine h.goesOn rfl fun _ => ⟨?_, rfl, ⟨nofun, nofun, nofun⟩, fun since _ _ => ?_⟩
    · rw [FactoryResetFlow.waiting, hstage.1]
      exact ⟨nofun, nofun, nofun⟩
    · exact List.mem_append_right _ List.mem_cons_self

theorem FlowKnown.acknowledge (h : FlowKnown holdMillis flow past) :
    FlowKnown holdMillis flow.acknowledge.2 (past ++ [⟨.acknowledge, some flow.acknowledge.1⟩]) := by
  have hrefused : FlowKnown holdMillis flow (past ++ [⟨.acknowledge, some false⟩]) :=
    h.refused (quiet_of_refused (by nofun) (by nofun)) (.inl rfl)
  rw [FactoryResetFlow.acknowledge]
  cases hstage : flow.stage with
  | idle | pinRequired | hold | executing | finished => exact hrefused
  | warning =>
      refine h.goesOn rfl fun _ => ⟨?_, rfl, ⟨nofun, nofun, nofun⟩, fun since hadvanced => ?_⟩
      · rw [FactoryResetFlow.waiting, hstage]
        exact ⟨nofun, nofun, nofun⟩
      · rw [Advanced, hstage] at hadvanced
        exact ⟨since, [], rfl, hadvanced⟩
  | confirm =>
      refine h.goesOn rfl fun _ => ⟨?_, rfl, ⟨nofun, nofun, nofun⟩, fun since hadvanced => ?_⟩
      · rw [FactoryResetFlow.waiting, hstage]
        exact ⟨nofun, nofun, nofun⟩
      · rw [Advanced, hstage] at hadvanced
        obtain ⟨pin, warning, rfl, hpin⟩ := hadvanced
        exact ⟨pin, warning, [], by simp [acknowledged], hpin, nofun⟩

theorem FlowKnown.cancel (h : FlowKnown holdMillis flow past) :
    FlowKnown holdMillis flow.cancel (past ++ [⟨.cancel, none⟩]) := by
  rw [FactoryResetFlow.cancel]
  split
  · rename_i hstage
    refine h.rested rfl fun hwaiting => ?_
    rcases hstage with hstage | hstage
    · exact hwaiting.2.1 hstage
    · exact hwaiting.1 hstage
  · exact h.rested rfl fun hwaiting => hwaiting.1 rfl

theorem FlowKnown.finish (h : FlowKnown holdMillis flow past) {outcome : FactoryResetOutcome} :
    FlowKnown holdMillis (flow.finish outcome) (past ++ [⟨.finish outcome, none⟩]) := by
  rw [FactoryResetFlow.finish]
  split
  · exact h.refused (quiet_of_refused (by nofun) (by nofun)) (.inl rfl)
  · exact h.rested rfl fun hwaiting => hwaiting.2.2 rfl

theorem FlowKnown.dismiss (h : FlowKnown holdMillis flow past) :
    FlowKnown holdMillis flow.dismiss (past ++ [⟨.dismiss, none⟩]) := by
  rw [FactoryResetFlow.dismiss]
  split
  · exact h.refused (quiet_of_refused (by nofun) (by nofun)) (.inl rfl)
  · exact h.rested rfl fun hwaiting => hwaiting.1 rfl

/-- A touch that neither allows the reset nor ends the hold. -/
theorem FlowKnown.touched (h : FlowKnown holdMillis flow past) (hstage : flow.stage = .hold)
    {held : Bool} {nowMs : UInt64} {holdStartedMs : Option UInt64}
    (hheld : ∀ touched startedMs, (∀ earlier, flow.holdStartedMs = some earlier →
      HeldSince earlier touched) → holdStartedMs = some startedMs →
        HeldSince startedMs (touched ++ [(held, nowMs)])) :
    FlowKnown holdMillis { flow with holdStartedMs }
      (past ++ [⟨.updateHold held nowMs, some false⟩]) := by
  refine h.goesOn rfl fun _ => ⟨?_, rfl, quiet_of_refused (by nofun) (by nofun),
    fun since hadvanced => ?_⟩
  · rw [FactoryResetFlow.waiting, hstage]
    exact ⟨nofun, nofun, nofun⟩
  · simp only [Advanced, hstage] at hadvanced ⊢
    obtain ⟨pin, warning, rest, rfl, hpin, hsince⟩ := hadvanced
    refine ⟨pin, warning, rest ++ [⟨.updateHold held nowMs, some false⟩], by simp, hpin,
      fun startedMs hstarted => ?_⟩
    rw [touches_concat]
    exact hheld _ startedMs hsince hstarted

theorem FlowKnown.updateHold (h : FlowKnown holdMillis flow past) {held : Bool}
    {nowMs : UInt64} :
    Allowed holdMillis past ⟨.updateHold held nowMs, some (flow.updateHold held nowMs).1⟩ ∧
      FlowKnown holdMillis (flow.updateHold held nowMs).2
        (past ++ [⟨.updateHold held nowMs, some (flow.updateHold held nowMs).1⟩]) := by
  have hsilent : Allowed holdMillis past ⟨.updateHold held nowMs, some false⟩ := by
    rintro _ _ hfires
    cases hfires
  have hwaits : flow.stage = .hold → flow.waiting := fun hstage => by
    rw [FactoryResetFlow.waiting, hstage]
    exact ⟨nofun, nofun, nofun⟩
  rw [FactoryResetFlow.updateHold]
  split
  · rename_i hnone
    refine ⟨hsilent, h.refused (quiet_of_refused (by nofun) (by nofun)) (.inr fun hstage => ?_)⟩
    have hsome := h.configured (hwaits hstage)
    rw [← h.bound, hnone] at hsome
    cases hsome
  rename_i hold hhold
  split
  · rename_i hstage
    exact ⟨hsilent, h.refused (quiet_of_refused (by nofun) (by nofun)) (.inr hstage)⟩
  rename_i hstage
  rw [not_not] at hstage
  split
  · exact ⟨hsilent, h.touched hstage fun _ _ _ hstarted => nomatch hstarted⟩
  rename_i hheld
  obtain rfl : held = true := by simpa using hheld
  have hrestarted : FlowKnown holdMillis { flow with holdStartedMs := some nowMs }
      (past ++ [⟨.updateHold true nowMs, some false⟩]) :=
    h.touched hstage fun touched startedMs _ hstarted => by
      cases hstarted
      exact heldSince_single
  split
  · exact ⟨hsilent, hrestarted⟩
  rename_i startedMs hstarted
  split
  · exact ⟨hsilent, hrestarted⟩
  rename_i hlater
  have hlater := UInt64.not_lt.mp hlater
  split
  · have hkept : FlowKnown holdMillis { flow with holdStartedMs := flow.holdStartedMs }
        (past ++ [⟨.updateHold true nowMs, some false⟩]) :=
      h.touched hstage fun touched found hsince hfound => by
        cases hstarted.symm.trans hfound
        exact (hsince startedMs hstarted).concat hlater
    exact ⟨hsilent, hkept⟩
  · rename_i helapsed
    refine ⟨fun _ _ hfires => ?_, h.rested rfl fun hwaiting => hwaiting.2.1 rfl⟩
    cases hfires
    obtain ⟨before, since, hpast, hquiet, hadvanced⟩ := h.begun (hwaits hstage)
    rw [Advanced, hstage] at hadvanced
    obtain ⟨pin, warning, rest, hsince, hpin, hheldSince⟩ := hadvanced
    refine ⟨before, flow.kind, since, hold, hpast, hquiet, h.bound.symm.trans hhold, pin,
      warning, rest, hsince, hpin, startedMs, (hheldSince startedMs hstarted).concat hlater, ?_⟩
    have helapsed := UInt64.le_iff_toNat_le.mp (UInt64.not_lt.mp helapsed)
    have hlater := UInt64.le_iff_toNat_le.mp hlater
    rw [UInt64.toNat_sub_of_le _ _ (UInt64.le_iff_toNat_le.mpr hlater),
      UInt32.toNat_toUInt64] at helapsed
    omega

theorem FlowKnown.step (h : FlowKnown holdMillis flow past)
    (hstep : FactoryResetStep flow event next) :
    Allowed holdMillis past event ∧ FlowKnown holdMillis next (past ++ [event]) := by
  obtain @⟨call⟩ := hstep
  cases call with
  | begin kind => exact ⟨nofun, h.begin⟩
  | pinVerified => exact ⟨nofun, h.pinVerified⟩
  | acknowledge => exact ⟨nofun, h.acknowledge⟩
  | cancel => exact ⟨nofun, h.cancel⟩
  | updateHold held nowMs => exact h.updateHold
  | finish outcome => exact ⟨nofun, h.finish⟩
  | dismiss => exact ⟨nofun, h.dismiss⟩

end Knowledge

/-! ## Runs -/

/-- While the reset is executed, only its end leads on. -/
theorem executing_until_finished {flow : FactoryResetFlow} (hexecuting : flow.stage = .executing)
    {call : FactoryResetCall} (hcall : ∀ outcome, call ≠ .finish outcome) :
    (flow.perform call).2.stage = .executing := by
  cases call with
  | begin kind =>
      simp only [FactoryResetFlow.perform, FactoryResetFlow.begin, hexecuting]
      split <;> exact hexecuting
  | pinVerified =>
      simp [FactoryResetFlow.perform, FactoryResetFlow.pinVerified, hexecuting]
  | acknowledge =>
      simp [FactoryResetFlow.perform, FactoryResetFlow.acknowledge, hexecuting]
  | cancel =>
      simp [FactoryResetFlow.perform, FactoryResetFlow.cancel, hexecuting]
  | updateHold held nowMs =>
      simp only [FactoryResetFlow.perform, FactoryResetFlow.updateHold, hexecuting]
      split <;> exact hexecuting
  | finish outcome => exact absurd rfl (hcall outcome)
  | dismiss =>
      simp [FactoryResetFlow.perform, FactoryResetFlow.dismiss, hexecuting]

/-- In every sequence of calls a reset is allowed only once for each flow that was begun,
and only after its full confirmation; while it is executed, only its end leads on. -/
theorem reset_confirmed {holdMillis : Option UInt32} {events : List FactoryResetEvent}
    {last : FactoryResetFlow}
    (hrun : Steps FactoryResetStep (FactoryResetFlow.make holdMillis) events last) :
    (∀ earlier held nowMs later,
      events = earlier ++ ⟨.updateHold held nowMs, some true⟩ :: later →
      ∃ before kind since hold, earlier = before ++ begun kind :: since ∧
        (∀ event ∈ since, event.Quiet) ∧ holdMillis = some hold ∧
        Confirmed kind hold since held nowMs) ∧
    (last.stage = .executing → ∀ call, (∀ outcome, call ≠ .finish outcome) →
      (last.perform call).2.stage = .executing) := by
  have hfirst : FlowKnown (holdMillis.filter (0 < ·)) (FactoryResetFlow.make holdMillis) [] :=
    ⟨rfl, fun hwaiting => absurd rfl hwaiting.1, fun hwaiting => absurd rfl hwaiting.1⟩
  have hrecorded : FlowKnown (holdMillis.filter (0 < ·)) last events ∧
      ∀ earlier event later, events = earlier ++ event :: later →
        Allowed (holdMillis.filter (0 < ·)) earlier event :=
    hrun.recorded hfirst FlowKnown.step
  refine ⟨fun earlier held nowMs later hsplit => ?_,
    fun hexecuting call hcall => executing_until_finished hexecuting hcall⟩
  obtain ⟨before, kind, since, hold, hpast, hquiet, hhold, hconfirmed⟩ :=
    hrecorded.2 earlier _ later hsplit held nowMs rfl
  exact ⟨before, kind, since, hold, hpast, hquiet, (Option.filter_eq_some_iff.mp hhold).1,
    hconfirmed⟩

/-- A reset behind the PIN, with a contact held for one second. -/
theorem reset_after_one_second :
    ∃ before kind since hold,
      [begun .pinProtected, verified, acknowledged, acknowledged,
        ⟨.updateHold true 0, some false⟩] = before ++ begun kind :: since ∧
      (∀ event ∈ since, event.Quiet) ∧ some 1000 = some hold ∧
      Confirmed kind hold since true 1000 := by
  have hrun : ∃ last, Steps FactoryResetStep (FactoryResetFlow.make (some 1000))
      [begun .pinProtected, verified, acknowledged, acknowledged,
        ⟨.updateHold true 0, some false⟩, ⟨.updateHold true 1000, some true⟩] last :=
    ⟨_, .cons .perform (.cons .perform (.cons .perform (.cons .perform (.cons .perform
      (.cons .perform .start)))))⟩
  exact (reset_confirmed hrun.choose_spec).1 _ true 1000 [] rfl

end Fermentationsschrank

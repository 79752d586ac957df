import Fermentationsschrank.Control.PlannerFans
import Fermentationsschrank.Guarantees.SwitchingTimes

/-!
# Fans after the output

In every run the outer fan is on with the output and runs on after it, the inner fan with
the controlled phase and after it.  Each fan is on for no other reason.
-/

namespace Fermentationsschrank

variable {K : Type}

/-! ## What an observer sees of the fans -/

namespace PlannerEvent

variable (event : PlannerEvent K)

/-- The result the call reports. -/
def result [ControlNumber K] : Option ActuatorPlanTickResult :=
  match event.call with
  | .tick input => some (event.before.tick input).1
  | .forceStop now episode => some (event.before.forceStop now episode).1
  | _ => none

/-- Whether a call that updates the fans belongs to a controlled phase. -/
def phase : Option Bool :=
  match event.call with
  | .tick input => some input.temperatureControlledPhase
  | .forceStop _ _ => some false
  | _ => none

/-- The output is switched off. -/
def Deactivates : Prop := event.was ≠ .idle ∧ event.is ≠ event.was

/-- The phase of the last call that updated the fans. -/
def lastPhase (past : List (PlannerEvent K)) : Option Bool :=
  (past.filterMap phase).getLast?

/-- The first call outside of the controlled phase. -/
def Releases (past : List (PlannerEvent K)) : Prop :=
  lastPhase past = some true ∧ event.phase = some false

def outerDeadline : UInt64 :=
  saturatingDeadline event.now event.before.parameters.outerFanPostRunMillis

def innerDeadline : UInt64 :=
  saturatingDeadline event.now event.before.parameters.innerFanPostRunMillis

/-- Until when the switchings of the past ask the outer fan to run on. -/
def outerDeadlines (past : List (PlannerEvent K)) : Set ℕ :=
  {deadline | ∃ stop ∈ past, stop.Deactivates ∧ stop.outerDeadline.toNat = deadline}

def innerDeadlines (past : List (PlannerEvent K)) : Set ℕ :=
  {deadline | ∃ first stop later, past = first ++ stop :: later ∧ stop.Releases first ∧
    stop.innerDeadline.toNat = deadline}

variable {event} {past : List (PlannerEvent K)}

theorem lastPhase_concat :
    lastPhase (past ++ [event]) = event.phase.or (lastPhase past) := by
  rw [lastPhase, lastPhase, List.filterMap_append]
  cases hphase : event.phase with
  | none => simp [hphase]
  | some found => simp [hphase]

theorem outerDeadlines_deactivated (h : event.Deactivates) :
    outerDeadlines (past ++ [event]) = insert event.outerDeadline.toNat (outerDeadlines past) := by
  ext deadline
  constructor
  · rintro ⟨stop, hstop, hstops, rfl⟩
    rcases List.mem_append.mp hstop with hpast | hlast
    · exact .inr ⟨stop, hpast, hstops, rfl⟩
    · rw [List.mem_singleton.mp hlast]
      exact .inl rfl
  · rintro (rfl | ⟨stop, hstop, hstops, rfl⟩)
    · exact ⟨event, List.mem_append_right _ (List.mem_singleton_self _), h, rfl⟩
    · exact ⟨stop, List.mem_append_left _ hstop, hstops, rfl⟩

theorem outerDeadlines_kept (h : ¬event.Deactivates) :
    outerDeadlines (past ++ [event]) = outerDeadlines past := by
  ext deadline
  constructor
  · rintro ⟨stop, hstop, hstops, rfl⟩
    rcases List.mem_append.mp hstop with hpast | hlast
    · exact ⟨stop, hpast, hstops, rfl⟩
    · rw [List.mem_singleton.mp hlast] at hstops
      exact absurd hstops h
  · rintro ⟨stop, hstop, hstops, rfl⟩
    exact ⟨stop, List.mem_append_left _ hstop, hstops, rfl⟩

theorem mem_innerDeadlines_concat {deadline : ℕ} :
    deadline ∈ innerDeadlines (past ++ [event]) ↔
      (event.Releases past ∧ event.innerDeadline.toNat = deadline) ∨
        deadline ∈ innerDeadlines past := by
  constructor
  · rintro ⟨first, stop, later, hsplit, hreleases, rfl⟩
    rcases List.eq_nil_or_concat later with rfl | ⟨rest, final, rfl⟩
    · obtain ⟨rfl, hlast⟩ := List.append_inj' hsplit rfl
      cases hlast
      exact .inl ⟨hreleases, rfl⟩
    · rw [List.concat_eq_append, ← List.cons_append, ← List.append_assoc] at hsplit
      exact .inr ⟨first, stop, rest, (List.append_inj' hsplit rfl).1, hreleases, rfl⟩
  · rintro (⟨hreleases, rfl⟩ | ⟨first, stop, later, rfl, hreleases, rfl⟩)
    · exact ⟨past, event, [], rfl, hreleases, rfl⟩
    · exact ⟨first, stop, later ++ [event], by simp, hreleases, rfl⟩

theorem innerDeadlines_released (h : event.Releases past) :
    innerDeadlines (past ++ [event]) =
      insert event.innerDeadline.toNat (innerDeadlines past) := by
  ext deadline
  rw [mem_innerDeadlines_concat, Set.mem_insert_iff]
  simp [h, eq_comm]

theorem innerDeadlines_kept (h : ¬event.Releases past) :
    innerDeadlines (past ++ [event]) = innerDeadlines past := by
  ext deadline
  rw [mem_innerDeadlines_concat]
  simp [h]

end PlannerEvent

/-! ## What the observer knows -/

section Knowledge

variable [ControlNumber K] {device : ClockedPlanner K} {past : List (PlannerEvent K)}
  {event : PlannerEvent K}

open PlannerEvent

/-- Both fans cover the deadlines of the past. -/
structure FansKnown (clock : UInt64) (past : List (PlannerEvent K))
    (state : ActuatorPlannerRuntimeState K) : Prop where
  outer : state.fans.outer.Covers clock.toNat (outerDeadlines past)
  rests : state.lastAppliedDirection = .idle →
    state.fans.outer.active = true → state.fans.outer.asked = true
  inner : state.fans.inner.Covers clock.toNat (innerDeadlines past)
  phase : lastPhase past = some true ↔
    state.fans.inner.active = true ∧ state.fans.inner.asked = false

omit [ControlNumber K] in
/-- The outer fan after a call that updates the fans. -/
theorem FansKnown.outer_updated {clock : UInt64}
    (h : FansKnown clock past event.before.state) (hlater : clock ≤ event.now)
    (houter : event.after.state.fans.outer =
      ((event.before.state.drive.switch event.before.parameters event.is
        event.now).settled event.before.parameters event.now true).fans.outer) :
    event.after.state.fans.outer.Covers event.now.toNat (outerDeadlines (past ++ [event])) ∧
      (event.is = .idle → event.after.state.fans.outer.active = true →
        event.after.state.fans.outer.asked = true) ∧
      (event.after.state.fans.outer.active = true ↔ event.is ≠ .idle ∨
        ∃ deadline ∈ outerDeadlines (past ++ [event]), event.now.toNat < deadline) := by
  have hle := UInt64.le_iff_toNat_le.mp hlater
  have hwas : event.before.state.drive.direction = event.was := rfl
  have hfans : event.before.state.drive.fans = event.before.state.fans := rfl
  rw [FanDrive.outer_settled, FanDrive.direction_switch, FanDrive.outer_switch, hwas,
    hfans] at houter
  by_cases hidle : event.is = .idle
  · rw [if_neg (not_not_intro hidle), hidle] at houter
    by_cases hrested : event.was = .idle
    · rw [if_pos hrested] at houter
      have hkept : outerDeadlines (past ++ [event]) = outerDeadlines past :=
        outerDeadlines_kept fun hstops => hstops.1 hrested
      obtain ⟨hcovers, hactive⟩ := h.outer.expire hle (h.rests hrested)
      rw [houter, hkept]
      refine ⟨hcovers, fun _ hon => ?_, hactive.trans ?_⟩
      · rw [RunOn.asked_expire]
        exact h.rests hrested (RunOn.active_of_expire hon)
      · simp [hidle]
    · rw [if_neg hrested, if_neg hrested, if_pos rfl] at houter
      have hadded : outerDeadlines (past ++ [event]) = _ :=
        outerDeadlines_deactivated ⟨hrested, fun hsame => hrested (hsame.symm.trans hidle)⟩
      obtain ⟨hcovers, hactive⟩ := RunOn.Covers.expire (h.outer.ask : RunOn.Covers _ _
        (event.before.state.fans.outer.ask event.outerDeadline.toNat)) hle fun _ => rfl
      rw [hadded]
      have houter : event.after.state.fans.outer = (event.before.state.fans.outer.ask
        event.outerDeadline.toNat).expire event.now.toNat := houter
      rw [houter]
      refine ⟨hcovers, fun _ _ => RunOn.asked_expire, hactive.trans ?_⟩
      simp [hidle]
  · rw [if_pos hidle] at houter
    have hactive : event.after.state.fans.outer.active = true := by
      rw [houter]
      rfl
    refine ⟨?_, fun h => absurd h hidle, fun _ => .inl hidle, fun _ => hactive⟩
    rw [houter]
    apply RunOn.Covers.start
    by_cases hstops : event.Deactivates
    · rw [outerDeadlines_deactivated hstops, if_neg (Ne.symm hstops.2), if_neg hstops.1,
        if_neg hidle]
      exact ((h.outer.mono hle).ask).start
    · rw [outerDeadlines_kept hstops]
      by_cases hsame : event.was = event.is
      · rw [if_pos hsame]
        exact h.outer.mono hle
      · have hrested : event.was = .idle := by
          by_contra hon
          exact hstops ⟨hon, Ne.symm hsame⟩
        rw [if_neg hsame, if_pos hrested, if_neg hidle]
        exact (h.outer.mono hle).start

omit [ControlNumber K] in
/-- The inner fan after a call of a controlled phase. -/
theorem FansKnown.inner_controlled {clock : UInt64}
    (h : FansKnown clock past event.before.state) (hlater : clock ≤ event.now)
    (hphase : event.phase = some true)
    (hinner : event.after.state.fans.inner = event.before.state.fans.inner.start) :
    event.after.state.fans.inner.Covers event.now.toNat (innerDeadlines (past ++ [event])) ∧
      (lastPhase (past ++ [event]) = some true ↔ event.after.state.fans.inner.active = true ∧
        event.after.state.fans.inner.asked = false) ∧
      event.after.state.fans.inner.active = true := by
  have hkept : innerDeadlines (past ++ [event]) = innerDeadlines past :=
    innerDeadlines_kept fun hreleases => nomatch hphase.symm.trans hreleases.2
  rw [hkept, lastPhase_concat, hphase, hinner]
  exact ⟨(h.inner.mono (UInt64.le_iff_toNat_le.mp hlater)).start,
    ⟨fun _ => ⟨rfl, rfl⟩, fun _ => rfl⟩, rfl⟩

omit [ControlNumber K] in
/-- The inner fan after a call outside of a controlled phase. -/
theorem FansKnown.inner_released {clock : UInt64}
    (h : FansKnown clock past event.before.state) (hlater : clock ≤ event.now)
    (hphase : event.phase = some false)
    (hinner : event.after.state.fans.inner =
      (event.before.state.fans.requestInnerFanStop event.before.parameters
        event.now).inner.expire event.now.toNat) :
    event.after.state.fans.inner.Covers event.now.toNat (innerDeadlines (past ++ [event])) ∧
      (lastPhase (past ++ [event]) = some true ↔ event.after.state.fans.inner.active = true ∧
        event.after.state.fans.inner.asked = false) ∧
      (event.after.state.fans.inner.active = true ↔
        ∃ deadline ∈ innerDeadlines (past ++ [event]), event.now.toNat < deadline) := by
  have hle := UInt64.le_iff_toNat_le.mp hlater
  have hcovers : (event.before.state.fans.requestInnerFanStop event.before.parameters
      event.now).inner.Covers clock.toNat (innerDeadlines (past ++ [event])) := by
    rw [ActuatorFanState.inner_requestInnerFanStop]
    by_cases hstop : event.before.state.fans.inner.active = true ∧
        event.before.state.fans.inner.asked = false
    · rw [if_pos hstop, innerDeadlines_released ⟨h.phase.mpr hstop, hphase⟩]
      exact h.inner.ask
    · rw [if_neg hstop, innerDeadlines_kept fun hreleases =>
        hstop (h.phase.mp hreleases.1)]
      exact h.inner
  obtain ⟨hafter, hactive⟩ := hcovers.expire hle ActuatorFanState.inner_asked_of_request
  rw [hinner, lastPhase_concat, hphase]
  refine ⟨hafter, ⟨nofun, fun hruns => ?_⟩, hactive⟩
  rw [RunOn.asked_expire] at hruns
  exact nomatch (ActuatorFanState.inner_asked_of_request
    (RunOn.active_of_expire hruns.1)).symm.trans hruns.2

omit [ControlNumber K] in
/-- A call that leaves the output and the fans alone. -/
theorem FansKnown.untouched {clock : UInt64} (h : FansKnown clock past event.before.state)
    (hlater : clock ≤ event.now) (hphase : event.phase = none)
    (hdrive : event.after.state.drive = event.before.state.drive) :
    FansKnown event.now (past ++ [event]) event.after.state := by
  have hle := UInt64.le_iff_toNat_le.mp hlater
  have hsame : event.is = event.was := congrArg FanDrive.direction hdrive
  have hfans : event.after.state.fans = event.before.state.fans := congrArg FanDrive.fans hdrive
  have houter : outerDeadlines (past ++ [event]) = outerDeadlines past :=
    outerDeadlines_kept fun hstops => hstops.2 hsame
  have hinner : innerDeadlines (past ++ [event]) = innerDeadlines past :=
    innerDeadlines_kept fun hreleases => nomatch hphase.symm.trans hreleases.2
  refine ⟨?_, ?_, ?_, ?_⟩
  · rw [hfans, houter]
    exact h.outer.mono hle
  · rw [hfans]
    exact fun hidle => h.rests (hsame.symm.trans hidle)
  · rw [hfans, hinner]
    exact h.inner.mono hle
  · rw [hfans, lastPhase_concat, hphase, Option.none_or]
    exact h.phase

/-! ## Calls -/

/-- What the fans promise of a call that reports a result. -/
structure FansFollow (past : List (PlannerEvent K)) (event : PlannerEvent K)
    (result : ActuatorPlanTickResult) : Prop where
  outer : result.outerFanEnabled = true ↔ result.appliedDirection ≠ .idle ∨
    ∃ stop ∈ past ++ [event], stop.Deactivates ∧ event.now < stop.outerDeadline
  inner : result.innerFanEnabled = true ↔ event.phase = some true ∨
    ∃ first stop later, past ++ [event] = first ++ stop :: later ∧ stop.Releases first ∧
      event.now < stop.innerDeadline

omit [ControlNumber K] in
theorem exists_outerDeadline {now : UInt64} :
    (∃ deadline ∈ outerDeadlines past, now.toNat < deadline) ↔
      ∃ stop ∈ past, stop.Deactivates ∧ now < stop.outerDeadline := by
  constructor
  · rintro ⟨_, ⟨stop, hstop, hstops, rfl⟩, hbefore⟩
    exact ⟨stop, hstop, hstops, UInt64.lt_iff_toNat_lt.mpr hbefore⟩
  · rintro ⟨stop, hstop, hstops, hbefore⟩
    exact ⟨_, ⟨stop, hstop, hstops, rfl⟩, UInt64.lt_iff_toNat_lt.mp hbefore⟩

omit [ControlNumber K] in
theorem exists_innerDeadline {now : UInt64} :
    (∃ deadline ∈ innerDeadlines past, now.toNat < deadline) ↔
      ∃ first stop later, past = first ++ stop :: later ∧ stop.Releases first ∧
        now < stop.innerDeadline := by
  constructor
  · rintro ⟨_, ⟨first, stop, later, hsplit, hreleases, rfl⟩, hbefore⟩
    exact ⟨first, stop, later, hsplit, hreleases, UInt64.lt_iff_toNat_lt.mpr hbefore⟩
  · rintro ⟨first, stop, later, hsplit, hreleases, hbefore⟩
    exact ⟨_, ⟨first, stop, later, hsplit, hreleases, rfl⟩, UInt64.lt_iff_toNat_lt.mp hbefore⟩

omit [ControlNumber K] in
/-- A call that updates the fans leaves them as the past asks. -/
theorem FansKnown.updated {clock : UInt64} {phase : Bool} {fans : ActuatorFanState}
    {result : ActuatorPlanTickResult} (h : FansKnown clock past event.before.state)
    (hlater : clock ≤ event.now) (hphase : event.phase = some phase)
    (hdrive : event.after.state.drive =
      FanDrive.settled ⟨event.is, fans⟩ event.before.parameters event.now phase)
    (houter : fans.outer = (event.before.state.drive.switch event.before.parameters event.is
      event.now).fans.outer)
    (hcontrolled : phase = true → fans.inner = event.before.state.fans.inner)
    (hreleased : (fans.requestInnerFanStop event.before.parameters event.now).inner =
      (event.before.state.fans.requestInnerFanStop event.before.parameters event.now).inner)
    (hdirection : result.appliedDirection = event.is)
    (houterFan : result.outerFanEnabled = event.after.state.fans.outer.active)
    (hinnerFan : result.innerFanEnabled = event.after.state.fans.inner.active) :
    FansFollow past event result ∧ FansKnown event.now (past ++ [event]) event.after.state := by
  have hfans : event.after.state.fans = (FanDrive.settled ⟨event.is, fans⟩
      event.before.parameters event.now phase).fans := congrArg FanDrive.fans hdrive
  obtain ⟨houterCovers, hrests, houterOn⟩ := h.outer_updated hlater (by
    rw [hfans, FanDrive.outer_settled, FanDrive.outer_settled, FanDrive.direction_switch, houter])
  cases phase with
  | true =>
      obtain ⟨hcovers, hlast, hon⟩ := h.inner_controlled hlater hphase (by
        rw [hfans, FanDrive.inner_settled_controlled, hcontrolled rfl])
      refine ⟨⟨?_, ?_⟩, houterCovers, hrests, hcovers, hlast⟩
      · rw [houterFan, hdirection, houterOn, exists_outerDeadline]
      · rw [hinnerFan, hon, hphase]
        exact ⟨fun _ => .inl rfl, fun _ => rfl⟩
  | false =>
      obtain ⟨hcovers, hlast, hon⟩ := h.inner_released hlater hphase (by
        rw [hfans, FanDrive.inner_settled_released, hreleased])
      refine ⟨⟨?_, ?_⟩, houterCovers, hrests, hcovers, hlast⟩
      · rw [houterFan, hdirection, houterOn, exists_outerDeadline]
      · rw [hinnerFan, hon, hphase, exists_innerDeadline]
        simp

/-- A call that reports nothing. -/
theorem FansKnown.kept {clock : UInt64} (h : FansKnown clock past event.before.state)
    (hlater : clock ≤ event.now) (hphase : event.phase = none) (hresult : event.result = none)
    (hdrive : event.after.state.drive = event.before.state.drive) :
    (∀ result, event.result = some result → FansFollow past event result) ∧
      FansKnown event.now (past ++ [event]) event.after.state :=
  ⟨fun _ hsome => (nomatch hresult.symm.trans hsome), h.untouched hlater hphase hdrive⟩

theorem FansKnown.ticked {clock : UInt64} {input : ActuatorPlanTickInput K}
    (h : FansKnown clock past event.before.state) (hlater : clock ≤ event.now)
    (hcall : event.call = .tick input) (hnow : event.now = input.nowMonotonicMillis)
    (hafter : event.after.state = (event.before.state.tick event.before.parameters input).2)
    (hsound : event.before.state.output.Sound event.now)
    (hsettled : event.before.state.output.Settled) :
    (∀ result, event.result = some result → FansFollow past event result) ∧
      FansKnown event.now (past ++ [event]) event.after.state := by
  have hphase : event.phase = some input.temperatureControlledPhase := by
    rw [PlannerEvent.phase, hcall]
  have hresult : event.result = some (event.before.tick input).1 := by
    rw [PlannerEvent.result, hcall]
  have hdrive := @ActuatorPlannerRuntimeState.tick_drive K _ event.before.state
    event.before.parameters input (hnow ▸ hsound) hsettled
  rw [← hafter, ← hnow] at hdrive
  have hmoved : event.after.state.drive = FanDrive.settled ⟨event.is,
      (event.before.state.drive.switch event.before.parameters event.is event.now).fans⟩
        event.before.parameters event.now input.temperatureControlledPhase := by
    rw [hdrive]
    exact congrArg (FanDrive.settled ⟨·, _⟩ _ _ _) FanDrive.direction_switch
  have hfollows : FansFollow past event (event.before.tick input).1 ∧
      FansKnown event.now (past ++ [event]) event.after.state := by
    refine h.updated hlater hphase hmoved rfl (fun _ => FanDrive.inner_switch)
      (ActuatorFanState.inner_requestInnerFanStop_congr FanDrive.inner_switch) ?_ ?_ ?_
    · rw [PlannerEvent.is, hafter]
      exact ActuatorPlannerRuntimeState.tick_reported
    · rw [hafter]
      rfl
    · rw [hafter]
      rfl
  refine ⟨fun result hsome => ?_, hfollows.2⟩
  cases hresult.symm.trans hsome
  exact hfollows.1

theorem FansKnown.stopped {clock time : UInt64} {episode : ActuatorFeedbackEpisodeAtStop}
    (h : FansKnown clock past event.before.state) (hlater : clock ≤ event.now)
    (hcall : event.call = .forceStop time episode) (hnow : event.now = time)
    (hafter : event.after.state =
      (event.before.state.forceStop event.before.parameters time episode).2) :
    (∀ result, event.result = some result → FansFollow past event result) ∧
      FansKnown event.now (past ++ [event]) event.after.state := by
  have hphase : event.phase = some false := by
    rw [PlannerEvent.phase, hcall]
  have hresult : event.result = some (event.before.forceStop time episode).1 := by
    rw [PlannerEvent.result, hcall]
  have hdrive := @ActuatorPlannerRuntimeState.forceStop_drive K _ event.before.state
    event.before.parameters time episode
  rw [← hafter, ← hnow] at hdrive
  have his : event.is = .idle := congrArg FanDrive.direction hdrive
  rw [← his] at hdrive
  have hinner : ((event.before.state.drive.switch event.before.parameters event.is
      event.now).fans.requestInnerFanStop event.before.parameters event.now).inner =
        (event.before.state.fans.requestInnerFanStop event.before.parameters event.now).inner :=
    ActuatorFanState.inner_requestInnerFanStop_congr FanDrive.inner_switch
  have hfollows : FansFollow past event (event.before.forceStop time episode).1 ∧
      FansKnown event.now (past ++ [event]) event.after.state := by
    refine h.updated hlater hphase hdrive ActuatorFanState.outer_requestInnerFanStop nofun ?_ ?_
      ?_ ?_
    · rw [ActuatorFanState.inner_requestInnerFanStop_twice, hinner]
    · rw [PlannerEvent.is, hafter]
      rfl
    · rw [hafter]
      rfl
    · rw [hafter]
      rfl
  refine ⟨fun result hsome => ?_, hfollows.2⟩
  cases hresult.symm.trans hsome
  exact hfollows.1

theorem FansKnown.step {event : PlannerEvent K} {next : ClockedPlanner K}
    (h : FansKnown device.clock past device.planner.state)
    (hsound : device.planner.state.output.Sound device.clock)
    (hsettled : device.planner.state.output.Settled) (hstep : PlannerStep device event next) :
    (∀ result, event.result = some result → FansFollow past event result) ∧
      FansKnown next.clock (past ++ [event]) next.planner.state := by
  obtain @⟨call, now, hat, hlater⟩ := hstep
  have hsound := hsound.mono (UInt64.le_iff_toNat_le.mp hlater)
  cases call with
  | tick input => exact h.ticked hlater rfl hat.symm rfl hsound hsettled
  | forceStop time episode => exact h.stopped hlater rfl hat.symm rfl
  | beginRun parameters =>
      exact h.kept hlater rfl rfl (congrArg _ ActuatorPlanner.state_beginRun)
  | endRun => exact h.kept hlater rfl rfl rfl
  | closeFeedbackEpisodeForOutstandingEvaluation => exact h.kept hlater rfl rfl rfl
  | takeFeedbackUpdate =>
      obtain ⟨feedback, hfeedback⟩ := @ActuatorPlanner.state_takeFeedbackUpdate K device.planner
      refine h.kept hlater rfl rfl ?_
      exact congrArg (fun planner => planner.state.drive) hfeedback
  | applyExternalWatchdogFaultReset => exact h.kept hlater rfl rfl rfl

theorem FansKnown.first {planner : ActuatorPlanner K} (hfresh : planner.Fresh) {clock : UInt64} :
    FansKnown clock [] planner.state := by
  have hfans : planner.state.fans = {} := by
    rcases hfresh with rfl | ⟨parameters, rfl⟩ <;> rfl
  have hrest : ∀ drive : RunOn ℕ, drive = ⟨false, false, none⟩ →
      drive.Covers clock.toNat ∅ := by
    rintro _ rfl
    exact ⟨fun _ _ hnone => absurd hnone (Set.notMem_empty _),
      fun _ hnone => absurd hnone (Set.notMem_empty _), nofun, nofun⟩
  have houter : outerDeadlines ([] : List (PlannerEvent K)) = ∅ := by
    ext deadline
    simp [outerDeadlines]
  have hinner : innerDeadlines ([] : List (PlannerEvent K)) = ∅ := by
    ext deadline
    simp [innerDeadlines]
  refine ⟨?_, ?_, ?_, ?_⟩
  · rw [hfans, houter]
    exact hrest _ rfl
  · rw [hfans]
    exact fun _ => nofun
  · rw [hfans, hinner]
    exact hrest _ rfl
  · rw [hfans]
    exact ⟨nofun, nofun⟩

/-! ## Runs -/

/-- An observer of the switchings and of the fans. -/
def FansObserved (device : ClockedPlanner K) (past : List (PlannerEvent K)) : Prop :=
  ∃ record, SwitchRecord.Knows device record ∧
    FansKnown device.clock past device.planner.state

theorem FansObserved.step {next : ClockedPlanner K} (h : FansObserved device past)
    (hstep : PlannerStep device event next) :
    (∀ result, event.result = some result → FansFollow past event result) ∧
      FansObserved next (past ++ [event]) := by
  obtain ⟨record, hswitches, hfans⟩ := h
  obtain ⟨hfollows, hnext⟩ := hfans.step hswitches.sound hswitches.settled hstep
  exact ⟨hfollows, _, (hswitches.step hstep).2, hnext⟩

/-- In every run the outer fan is on exactly with the output and until the deadlines of its
switchings, the inner fan exactly in a controlled phase and until the deadlines of its
ends. -/
theorem fans_follow {planner : ActuatorPlanner K} (hfresh : planner.Fresh) {clock : UInt64}
    {events : List (PlannerEvent K)} {last : ClockedPlanner K}
    (hrun : Steps PlannerStep ⟨planner, clock⟩ events last)
    (earlier : List (PlannerEvent K)) (event : PlannerEvent K)
    (later : List (PlannerEvent K)) (hsplit : events = earlier ++ event :: later)
    (result : ActuatorPlanTickResult) (hresult : event.result = some result) :
    FansFollow earlier event result := by
  have hfirst : SwitchRecord.Knows ⟨planner, clock⟩ {} ∧
      FansKnown clock [] planner.state := ⟨SwitchRecord.Knows.first hfresh, FansKnown.first hfresh⟩
  have hfollows : FansObserved last events ∧ ∀ earlier event later,
      events = earlier ++ event :: later → ∀ result, event.result = some result →
        FansFollow earlier event result := hrun.recorded ⟨_, hfirst⟩ FansObserved.step
  exact hfollows.2 earlier event later hsplit result hresult

end Knowledge

/-! ## Runs with post-runs -/

section Rebound

/-- A tick without an evaluation. -/
def plainTick (now : UInt64) (temperatureControlledPhase : Bool) : PlannerCall ℚ :=
  .tick { nowMonotonicMillis := now, temperatureControlledPhase, safetyGate := .allowed }

/-- A pulse of 80 and the end of the controlled phase, with post-runs of 10 and 20. -/
def pulseCalls : List (PlannerCall ℚ × UInt64) :=
  [(.beginRun { windowedParameters 100 with innerFanPostRunMillis := 20 }, 0),
    (demandTick 0 1 (8 / 10), 0),
    (demandTick 80 2 (8 / 10), 80),
    (plainTick 85 false, 85),
    (plainTick 95 false, 95)]

def pulseEvents : List (PlannerEvent ℚ) :=
  (⟨.unconfigured, 0⟩ : ClockedPlanner ℚ).events pulseCalls

theorem pulse_run : Steps PlannerStep ⟨.unconfigured, 0⟩ pulseEvents
    ((⟨.unconfigured, 0⟩ : ClockedPlanner ℚ).after pulseCalls) :=
  ClockedPlanner.steps_events (by decide)

set_option maxRecDepth 1000000 in
/-- The pulse is switched on at 0 and off at 80; both fans run on at 85, at 95 the inner one. -/
theorem fan_runs_on :
    (∃ pulse, pulseEvents[1].result = some pulse ∧ pulse.appliedDirection = .heating ∧
      FansFollow (pulseEvents.take 1) pulseEvents[1] pulse) ∧
    (∃ result, pulseEvents[3].result = some result ∧ result.appliedDirection = .idle ∧
      result.outerFanEnabled = true ∧ result.innerFanEnabled = true ∧
      FansFollow (pulseEvents.take 3) pulseEvents[3] result) ∧
    ∃ result, pulseEvents[4].result = some result ∧
      result.outerFanEnabled = false ∧ result.innerFanEnabled = true ∧
      FansFollow (pulseEvents.take 4) pulseEvents[4] result :=
  ⟨⟨_, rfl, by decide +kernel, fans_follow (.inl rfl) pulse_run (pulseEvents.take 1) pulseEvents[1]
      (pulseEvents.drop 2) rfl _ rfl⟩,
    ⟨_, rfl, by decide +kernel, by decide +kernel, by decide +kernel, fans_follow (.inl rfl)
      pulse_run (pulseEvents.take 3) pulseEvents[3] (pulseEvents.drop 4) rfl _ rfl⟩,
    ⟨_, rfl, by decide +kernel, by decide +kernel, fans_follow (.inl rfl) pulse_run
      (pulseEvents.take 4) pulseEvents[4] (pulseEvents.drop 5) rfl _ rfl⟩⟩

/-! ## A run that is bound anew before its fans were asked to stop -/

/-- The controlled phase belongs to a run with a longer post-run than the run its end falls
into. -/
def fanCalls : List (PlannerCall ℚ × UInt64) :=
  [(.beginRun { windowedParameters 100 with innerFanPostRunMillis := 20 }, 0),
    (plainTick 0 true, 0),
    (.endRun, 0),
    (.beginRun (windowedParameters 100), 0),
    (plainTick 1 false, 1),
    (plainTick 15 false, 15)]

def fanEvents : List (PlannerEvent ℚ) :=
  (⟨.unconfigured, 0⟩ : ClockedPlanner ℚ).events fanCalls

theorem fan_run : Steps PlannerStep ⟨.unconfigured, 0⟩ fanEvents
    ((⟨.unconfigured, 0⟩ : ClockedPlanner ℚ).after fanCalls) :=
  ClockedPlanner.steps_events (by decide)

set_option maxRecDepth 1000000 in
/-- The last tick of the controlled phase is at 0 under a post-run of 20, and the inner fan
is off at 15. -/
theorem inner_fan_stops_under_another_run :
    Steps PlannerStep ⟨.unconfigured, 0⟩ fanEvents
      ((⟨.unconfigured, 0⟩ : ClockedPlanner ℚ).after fanCalls) ∧
    (fanEvents[1].phase = some true ∧ fanEvents[1].now = 0 ∧ fanEvents[1].innerDeadline = 20) ∧
    (∀ event ∈ fanEvents.drop 2, event.phase ≠ some true) ∧
    fanEvents[5].now = 15 ∧
    ∃ result, fanEvents[5].result = some result ∧ result.innerFanEnabled = false :=
  ⟨fan_run, by decide +kernel, by decide +kernel, rfl, _, rfl, by decide +kernel⟩

end Rebound

end Fermentationsschrank

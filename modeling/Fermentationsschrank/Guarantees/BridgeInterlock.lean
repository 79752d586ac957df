import Fermentationsschrank.Control.SharedEnableBridge
import Fermentationsschrank.Core.Histories
import Fermentationsschrank.Core.Runs

/-!
# The interlock of the bridge

Whatever is asked of the bridge, and whichever commands are refused: no leg is switched on
beside the other one or under a live enable, and a refused command is the last that
switched anything on.  The driver releases the Peltier element behind its fan alone.
-/

namespace Fermentationsschrank

namespace BridgeInterlock

open Program
open SharedEnableBridgeSink
open ActuatorPlanSinkDriver

/-! ## Histories of commands -/

inductive OutputEntry
  | requested (leg : BridgeLeg) (enabled : Bool)
  | commanded (output : BinaryOutput) (enabled accepted : Bool)
  deriving DecidableEq, Repr

abbrev OutputHistory := List OutputEntry

/-- The last command to an output, and whether it was accepted. -/
def lastCommand (history : OutputHistory) (output : BinaryOutput) : Option (Bool × Bool) :=
  history.foldl (fun last entry =>
    match entry with
    | .requested _ _ => last
    | .commanded commanded enabled accepted =>
        if commanded = output then some (enabled, accepted) else last) none

@[simp]
theorem lastCommand_requested (history : OutputHistory) (leg : BridgeLeg) (enabled : Bool)
    (output : BinaryOutput) :
    lastCommand (history ++ [.requested leg enabled]) output = lastCommand history output := by
  rw [lastCommand, List.foldl_append]
  rfl

@[simp]
theorem lastCommand_commanded (history : OutputHistory) (commanded output : BinaryOutput)
    (enabled accepted : Bool) :
    lastCommand (history ++ [.commanded commanded enabled accepted]) output =
      if commanded = output then some (enabled, accepted) else lastCommand history output := by
  rw [lastCommand, List.foldl_append]
  rfl

/-- The last command switched the output off, and was accepted. -/
def Off (history : OutputHistory) (output : BinaryOutput) : Prop :=
  lastCommand history output = some (false, true)

def On (history : OutputHistory) (output : BinaryOutput) : Prop :=
  lastCommand history output = some (true, true)

def OfBridge : BinaryOutput → Prop
  | .leg _ | .enable => True
  | .outerFan | .innerFan => False

/-- A refused command to the bridge, or a request for a leg while the other one is on. -/
def Faults (before : OutputHistory) : OutputEntry → Prop
  | .requested leg enabled => enabled = true ∧ On before (.leg leg.other)
  | .commanded output _ accepted => OfBridge output ∧ accepted = false

def Unfaulted (history : OutputHistory) : Prop :=
  Lawful (fun before entry => ¬Faults before entry) history

/-- What may be commanded after a history.  Where the enable is `backed`, it is switched
on behind the outer fan alone. -/
def Interlocked (backed : Prop) (before : OutputHistory) : OutputEntry → Prop
  | .commanded (.leg leg) true _ =>
      Unfaulted before ∧ Off before .enable ∧ Off before (.leg leg.other)
  | .commanded .enable true _ =>
      Unfaulted before ∧ (∃ leg, On before (.leg leg) ∧ Off before (.leg leg.other)) ∧
        (backed → On before .outerFan)
  | _ => True

/-! ## Commands and requests -/

/-- An output accepts or refuses a command as it likes. -/
def Answers : Environment (fun _ : OutputCommand => Bool) OutputHistory :=
  fun history command accepted next =>
    next = history ++ [.commanded command.output command.enabled accepted]

structure BridgeSystem where
  bridge : SharedEnableBridgeSink := {}
  history : OutputHistory := []

/-- The bridge serves a request for the Peltier element; a fan is an output itself. -/
inductive Serves : Environment SinkRequest.Reply BridgeSystem
  | peltier {before after : BridgeSystem} {leg : BridgeLeg} {enabled : Bool}
      (hrun : Finishes Answers (before.bridge.setLeg leg enabled)
        (before.history ++ [.requested leg enabled]) after.bridge after.history) :
      Serves before (.peltier leg enabled) () after
  | outerFan {before : BridgeSystem} {enabled accepted : Bool} :
      Serves before (.outerFan enabled) accepted
        { before with history := before.history ++ [.commanded .outerFan enabled accepted] }
  | innerFan {before : BridgeSystem} {enabled accepted : Bool} :
      Serves before (.innerFan enabled) accepted
        { before with history := before.history ++ [.commanded .innerFan enabled accepted] }

inductive BridgeCall
  | begin
  | apply (plan : ReceivedPlan)
  | setForward (enabled : Bool)
  | setReverse (enabled : Bool)

/-- The call reaches the Peltier element through the driver alone. -/
def BridgeCall.ThroughDriver : BridgeCall → Prop
  | .begin | .apply _ => True
  | .setForward _ | .setReverse _ => False

inductive BridgeStep : BridgeSystem → BridgeCall → BridgeSystem → Prop
  | begin {before after : BridgeSystem} {ready : Bool}
      (hrun : Finishes Answers before.bridge.begin before.history (ready, after.bridge)
        after.history) : BridgeStep before .begin after
  | apply {before after : BridgeSystem} {plan : ReceivedPlan}
      (hrun : Finishes Serves (apply plan) before () after) :
      BridgeStep before (.apply plan) after
  | setForward {before after : BridgeSystem} {enabled : Bool}
      (hserved : Serves before (.peltier .forward enabled) () after) :
      BridgeStep before (.setForward enabled) after
  | setReverse {before after : BridgeSystem} {enabled : Bool}
      (hserved : Serves before (.peltier .reverse enabled) () after) :
      BridgeStep before (.setReverse enabled) after

/-! ## What the bridge knows of its outputs -/

/-- The state of the bridge after a history. -/
inductive Mirrors : SharedEnableBridgeSink → OutputHistory → Prop
  | notStarted {history} (hunfaulted : Unfaulted history)
      (hquiet : ∀ output, OfBridge output → lastCommand history output = none) :
      Mirrors {} history
  | resting {history} (hunfaulted : Unfaulted history)
      (hoff : ∀ output, OfBridge output → Off history output) :
      Mirrors { state := .ready } history
  | driving {history} (leg : BridgeLeg) (hunfaulted : Unfaulted history)
      (hleg : On history (.leg leg)) (hother : Off history (.leg leg.other))
      (henable : On history .enable) :
      Mirrors (withLeg { state := .ready } leg true) history
  | faulted {history}
      (hoff : ∀ output, OfBridge output → ∃ accepted,
        lastCommand history output = some (false, accepted)) :
      Mirrors { state := .faulted } history

/-! ## One routine of the bridge -/

section

variable {backed : Prop} {history : OutputHistory} {output : BinaryOutput}
  {enabled : Bool}

theorem unfaulted_accepted (h : Unfaulted history) :
    Unfaulted (history ++ [.commanded output enabled true]) :=
  lawful_concat.mpr ⟨h, fun hfault => nomatch hfault.2⟩

theorem unfaulted_requested {leg : BridgeLeg} (h : Unfaulted history)
    (hother : enabled = true → ¬On history (.leg leg.other)) :
    Unfaulted (history ++ [.requested leg enabled]) :=
  lawful_concat.mpr ⟨h, fun hfault => hother hfault.1 hfault.2⟩

theorem not_on_of_off (h : Off history output) : ¬On history output :=
  fun hon => nomatch h.symm.trans hon

theorem interlocked_off {accepted : Bool} :
    Interlocked backed history (.commanded output false accepted) := by
  cases output <;> trivial

theorem interlocked_requested {leg : BridgeLeg} :
    Interlocked backed history (.requested leg enabled) := trivial

theorem ensures_setEnabled {post : Bool → OutputHistory → Prop}
    (hlawful : Lawful (Interlocked backed) history)
    (hallowed : ∀ accepted, Interlocked backed history (.commanded output enabled accepted))
    (hpost : ∀ accepted, Lawful (Interlocked backed)
        (history ++ [.commanded output enabled accepted]) →
      post accepted (history ++ [.commanded output enabled accepted])) :
    Ensures Answers (Lawful (Interlocked backed)) post (setEnabled output enabled)
      history := by
  refine ensures_call.mpr ⟨hlawful, fun accepted next hnext => ?_⟩
  cases hnext
  have hlonger := lawful_concat.mpr ⟨hlawful, hallowed accepted⟩
  exact ensures_done.mpr ⟨hlonger, hpost accepted hlonger⟩

/-- Every output of the bridge was last switched off. -/
def Darkened (history : OutputHistory) : Prop :=
  ∀ output, OfBridge output → ∃ accepted, lastCommand history output = some (false, accepted)

theorem ensures_allOff (hlawful : Lawful (Interlocked backed) history) :
    Ensures Answers (Lawful (Interlocked backed))
      (fun off after => Darkened after ∧
        (off = true → (∀ output, OfBridge output → Off after output) ∧
          (Unfaulted history → Unfaulted after)) ∧
        lastCommand after .outerFan = lastCommand history .outerFan) allOff history := by
  refine ensures_bind.mpr (ensures_setEnabled hlawful (fun _ => interlocked_off) ?_)
  intro enableOff hlawful
  refine ensures_bind.mpr (ensures_setEnabled hlawful (fun _ => interlocked_off) ?_)
  intro forwardOff hlawful
  refine ensures_bind.mpr (ensures_setEnabled hlawful (fun _ => interlocked_off) ?_)
  intro reverseOff hlawful
  refine ensures_done.mpr ⟨hlawful, fun output hbridge => ?_, fun hoff => ?_,
    by simp [-List.append_assoc]⟩
  · cases output with
    | leg leg => cases leg <;> simp [-List.append_assoc]
    | enable => simp [-List.append_assoc]
    | outerFan | innerFan => exact hbridge.elim
  · rw [Bool.and_eq_true, Bool.and_eq_true] at hoff
    obtain ⟨⟨rfl, rfl⟩, rfl⟩ := hoff
    refine ⟨fun output hbridge => ?_, fun hunfaulted => ?_⟩
    · cases output with
      | leg leg => cases leg <;> simp [Off, -List.append_assoc]
      | enable => simp [Off, -List.append_assoc]
      | outerFan | innerFan => exact hbridge.elim
    · exact unfaulted_accepted (unfaulted_accepted (unfaulted_accepted hunfaulted))

/-- The bridge mirrors its outputs and leaves the outer fan alone. -/
def Settles (before : OutputHistory) (bridge : SharedEnableBridgeSink)
    (after : OutputHistory) : Prop :=
  Mirrors bridge after ∧ lastCommand after .outerFan = lastCommand before .outerFan

theorem ensures_shutdown {before : OutputHistory}
    (hlawful : Lawful (Interlocked backed) history)
    (hfan : lastCommand history .outerFan = lastCommand before .outerFan) :
    Ensures Answers (Lawful (Interlocked backed))
      (fun bridge after => Settles before bridge after ∧
        bridge = ({ state := .faulted } : SharedEnableBridgeSink)) shutdown history := by
  refine ensures_bind.mpr ((ensures_allOff hlawful).mono (fun _ h => h) ?_)
  intro off after hlawful hafter
  obtain ⟨hdark, -, hsame⟩ := hafter
  exact ensures_done.mpr ⟨hlawful, ⟨.faulted hdark, hsame.trans hfan⟩, rfl⟩

theorem ensures_begin {bridge : SharedEnableBridgeSink}
    (hlawful : Lawful (Interlocked backed) history) (h : Mirrors bridge history) :
    Ensures Answers (Lawful (Interlocked backed))
      (fun result after => Settles history result.2 after ∧
        ((result.2 = bridge ∧ after = history) ∨ ∀ leg, result.2.legOn leg = false))
      bridge.begin history := by
  rw [SharedEnableBridgeSink.begin]
  by_cases hstate : bridge.state ≠ .notStarted
  · rw [if_pos hstate]
    exact ensures_done.mpr ⟨hlawful, ⟨h, rfl⟩, .inl ⟨rfl, rfl⟩⟩
  rw [if_neg hstate]
  cases h with
  | resting | faulted => exact (hstate nofun).elim
  | driving leg => exact (hstate (by rw [state_withLeg]; nofun)).elim
  | notStarted hunfaulted hquiet =>
      refine ensures_bind.mpr ((ensures_allOff hlawful).mono (fun _ h => h) ?_)
      intro off after hlawful hafter
      obtain ⟨hdark, hoff, hfan⟩ := hafter
      cases off with
      | true =>
          obtain ⟨hoff, hunfaulted'⟩ := hoff rfl
          refine ensures_done.mpr ⟨hlawful, ⟨.resting (hunfaulted' hunfaulted) hoff, hfan⟩,
            .inr fun leg => ?_⟩
          cases leg <;> rfl
      | false =>
          refine ensures_bind.mpr ((ensures_shutdown hlawful hfan).mono (fun _ h => h) ?_)
          intro faulted after hlawful hafter
          obtain ⟨hsettled, rfl⟩ := hafter
          refine ensures_done.mpr ⟨hlawful, hsettled, .inr fun leg => ?_⟩
          cases leg <;> rfl

end

/-! ## One request -/

/-- What a request to one leg leaves behind. -/
structure Answered (bridge : SharedEnableBridgeSink) (before : OutputHistory)
    (leg : BridgeLeg) (enabled : Bool) (result : SharedEnableBridgeSink)
    (after : OutputHistory) : Prop where
  settles : Settles before result after
  switchedOff : enabled = false → result.legOn leg = false
  othersOff : bridge.legOn leg.other = false → result.legOn leg.other = false

variable {backed : Prop} {history before : OutputHistory} {leg : BridgeLeg}
  {bridge : SharedEnableBridgeSink}

theorem ensures_shutdown_answered {enabled : Bool}
    (hlawful : Lawful (Interlocked backed) history)
    (hfan : lastCommand history .outerFan = lastCommand before .outerFan) :
    Ensures Answers (Lawful (Interlocked backed)) (Answered bridge before leg enabled) shutdown
      history := by
  refine (ensures_shutdown hlawful hfan).mono (fun _ h => h) ?_
  intro result after _ hafter
  obtain ⟨hsettled, rfl⟩ := hafter
  exact ⟨hsettled, fun _ => by cases leg <;> rfl, fun _ => by cases leg <;> rfl⟩

/-- Nothing is on: the leg is switched on, then the enable. -/
theorem ensures_switchLegOn_resting
    (hlawful : Lawful (Interlocked backed) history) (hunfaulted : Unfaulted history)
    (hoff : ∀ output, OfBridge output → Off history output)
    (hfan : lastCommand history .outerFan = lastCommand before .outerFan)
    (hbacked : backed → On history .outerFan) :
    Ensures Answers (Lawful (Interlocked backed))
      (Answered { state := .ready } before leg true)
      (switchLegOn { state := .ready } leg) history := by
  have hrest : ∀ found, legOn { state := .ready } found = false := fun found => by
    cases found <;> rfl
  rw [switchLegOn, hrest, hrest]
  refine ensures_bind.mpr (ensures_setEnabled hlawful ?_ ?_)
  · exact fun _ => ⟨hunfaulted, hoff .enable trivial, hoff (.leg leg.other) trivial⟩
  intro accepted hlawful
  cases accepted with
  | false =>
      apply ensures_shutdown_answered hlawful
      simpa using hfan
  | true =>
      have hleg : On (history ++ [.commanded (.leg leg) true true]) (.leg leg) := by
        simp [On]
      have hother : Off (history ++ [.commanded (.leg leg) true true]) (.leg leg.other) := by
        simpa [Off, leg.other_ne.symm] using hoff (.leg leg.other) trivial
      refine ensures_bind.mpr (ensures_setEnabled hlawful ?_ ?_)
      · refine fun _ => ⟨unfaulted_accepted hunfaulted, ⟨leg, hleg, hother⟩, fun h => ?_⟩
        simpa [On] using hbacked h
      intro accepted hlawful
      cases accepted with
      | false =>
          apply ensures_shutdown_answered hlawful
          simpa [-List.append_assoc] using hfan
      | true =>
          refine ensures_done.mpr ⟨hlawful, ⟨?_, by simpa [-List.append_assoc] using hfan⟩, nofun,
            fun _ => by rw [legOn_other_withLeg, hrest]⟩
          refine .driving leg (unfaulted_accepted (unfaulted_accepted hunfaulted)) ?_ ?_ ?_
          · simp [On, -List.append_assoc]
          · simpa [Off, -List.append_assoc] using hother
          · simp [On, -List.append_assoc]

/-- The leg is on: the enable is switched off, then the leg. -/
theorem ensures_switchLegOff_driving
    (hlawful : Lawful (Interlocked backed) history) (hunfaulted : Unfaulted history)
    (hother : Off history (.leg leg.other))
    (hfan : lastCommand history .outerFan = lastCommand before .outerFan) :
    Ensures Answers (Lawful (Interlocked backed))
      (Answered (withLeg { state := .ready } leg true) before leg false)
      (switchLegOff (withLeg { state := .ready } leg true) leg) history := by
  rw [switchLegOff, legOn_withLeg]
  refine ensures_bind.mpr (ensures_setEnabled hlawful (fun _ => interlocked_off) ?_)
  intro enableOff hlawful
  refine ensures_bind.mpr (ensures_setEnabled hlawful (fun _ => interlocked_off) ?_)
  intro legOff hlawful
  have hsame : lastCommand (history ++ [.commanded .enable false enableOff] ++
      [.commanded (.leg leg) false legOff]) .outerFan = lastCommand before .outerFan := by
    simpa [-List.append_assoc] using hfan
  by_cases hrefused : (!enableOff || !legOff) = true
  · rw [if_pos hrefused]
    exact ensures_shutdown_answered hlawful hsame
  · rw [if_neg hrefused, withLeg_withLeg]
    obtain ⟨rfl, rfl⟩ : enableOff = true ∧ legOff = true := by
      cases enableOff <;> cases legOff <;> simp_all
    have hrest : withLeg { state := .ready } leg false =
        ({ state := .ready } : SharedEnableBridgeSink) := by cases leg <;> rfl
    rw [hrest]
    refine ensures_done.mpr ⟨hlawful, ⟨.resting ?_ ?_, hsame⟩, fun _ => by cases leg <;> rfl,
      fun _ => by cases leg <;> rfl⟩
    · exact unfaulted_accepted (unfaulted_accepted hunfaulted)
    · intro output hbridge
      cases output with
      | leg found =>
          rcases found.eq_or_eq_other leg with rfl | rfl
          · simp [Off, -List.append_assoc]
          · simpa [Off, -List.append_assoc, leg.other_ne.symm] using hother
      | enable => simp [Off, -List.append_assoc]
      | outerFan | innerFan => exact hbridge.elim

theorem ensures_setLeg {enabled : Bool} (h : Mirrors bridge history)
    (hlawful : Lawful (Interlocked backed) history)
    (hbacked : enabled = true → backed → On history .outerFan) :
    Ensures Answers (Lawful (Interlocked backed)) (Answered bridge history leg enabled)
      (bridge.setLeg leg enabled) (history ++ [.requested leg enabled]) := by
  have hlawful' : Lawful (Interlocked backed) (history ++ [.requested leg enabled]) :=
    lawful_concat.mpr ⟨hlawful, interlocked_requested⟩
  have hfan : lastCommand (history ++ [.requested leg enabled]) .outerFan =
      lastCommand history .outerFan := lastCommand_requested ..
  cases h with
  | notStarted hunfaulted hquiet =>
      have hother : ¬On history (.leg leg.other) := by
        rw [On, hquiet (.leg leg.other) trivial]
        nofun
      refine ensures_done.mpr ⟨hlawful', ⟨.notStarted (unfaulted_requested hunfaulted
        fun _ => hother) ?_, hfan⟩, fun _ => by cases leg <;> rfl, fun h => h⟩
      intro output hbridge
      rw [lastCommand_requested, hquiet output hbridge]
  | resting hunfaulted hoff =>
      have hunfaulted' : Unfaulted (history ++ [.requested leg enabled]) :=
        unfaulted_requested hunfaulted fun _ => not_on_of_off (hoff (.leg leg.other) trivial)
      have hoff' : ∀ output, OfBridge output →
          Off (history ++ [.requested leg enabled]) output := fun output hbridge => by
        rw [Off, lastCommand_requested]
        exact hoff output hbridge
      cases enabled with
      | true =>
          apply ensures_switchLegOn_resting hlawful' hunfaulted' hoff' hfan
          intro h
          rw [On, lastCommand_requested]
          exact hbacked rfl h
      | false =>
          have hrest : legOn { state := .ready } leg = false := by cases leg <;> rfl
          rw [setLeg, switchLegOff, hrest]
          exact ensures_done.mpr ⟨hlawful', ⟨.resting hunfaulted' hoff', hfan⟩, fun _ => hrest,
            fun h => h⟩
  | driving driven hunfaulted hleg hother henable =>
      have hstays : (enabled = true → ¬On history (.leg leg.other)) →
          Mirrors (withLeg { state := .ready } driven true)
            (history ++ [.requested leg enabled]) := fun hfound => by
        refine .driving driven (unfaulted_requested hunfaulted hfound) ?_ ?_ ?_
        · rwa [On, lastCommand_requested]
        · rwa [Off, lastCommand_requested]
        · rwa [On, lastCommand_requested]
      rw [setLeg, state_withLeg]
      rcases leg.eq_or_eq_other driven with rfl | rfl
      · have hnot := not_on_of_off hother
        cases enabled with
        | true =>
            rw [if_pos rfl, switchLegOn, legOn_other_withLeg, legOn_withLeg]
            cases leg <;> exact ensures_done.mpr ⟨hlawful', ⟨hstays fun _ => hnot, hfan⟩, nofun,
              fun h => h⟩
        | false =>
            refine ensures_switchLegOff_driving hlawful'
              (unfaulted_requested hunfaulted fun _ => hnot) ?_ hfan
            rwa [Off, lastCommand_requested]
      · cases enabled with
        | true =>
            rw [if_pos rfl, switchLegOn, BridgeLeg.other_other, legOn_withLeg, if_pos rfl]
            exact ensures_shutdown_answered hlawful' hfan
        | false =>
            have hrest : legOn (withLeg { state := .ready } driven true) driven.other = false := by
              cases driven <;> rfl
            rw [if_neg Bool.false_ne_true, switchLegOff, hrest]
            exact ensures_done.mpr ⟨hlawful', ⟨hstays nofun, hfan⟩, fun _ => hrest, fun h => h⟩
  | faulted hdark =>
      have hdark' : Darkened (history ++ [.requested leg enabled]) := fun output hbridge => by
        rw [lastCommand_requested]
        exact hdark output hbridge
      cases enabled with
      | true =>
          exact ensures_done.mpr ⟨hlawful', ⟨.faulted hdark', hfan⟩, nofun, fun h => h⟩
      | false => exact ensures_shutdown_answered hlawful' hfan

/-! ## Requests of the driver -/

/-- The history keeps its law, and the bridge knows its outputs. -/
structure Sound (backed : Prop) (system : BridgeSystem) : Prop where
  lawful : Lawful (Interlocked backed) system.history
  mirrors : Mirrors system.bridge system.history

/-- The enable was last switched on behind an outer fan that is on. -/
def FanBehind (system : BridgeSystem) : Prop :=
  ∀ accepted, lastCommand system.history .enable = some (true, accepted) →
    On system.history .outerFan

/-- No leg is on. -/
def AtRest (system : BridgeSystem) : Prop :=
  ∀ leg, system.bridge.legOn leg = false

section

variable {system after : BridgeSystem}

theorem Sound.peltier {enabled : Bool} (h : Sound backed system)
    (hserved : Serves system (.peltier leg enabled) () after)
    (hbacked : enabled = true → backed → On system.history .outerFan) :
    Sound backed after ∧
      Answered system.bridge system.history leg enabled after.bridge after.history := by
  cases hserved with
  | peltier hrun =>
      have hanswered := (ensures_setLeg h.mirrors h.lawful hbacked).finishes hrun
      have hlawful := (ensures_setLeg h.mirrors h.lawful hbacked).crash_finishes hrun
      exact ⟨⟨hlawful, hanswered.settles.1⟩, hanswered⟩

/-- A command to a fan tells the bridge nothing. -/
theorem Mirrors.fan {output : BinaryOutput} {enabled accepted : Bool}
    (h : Mirrors bridge history) (hfan : ¬OfBridge output) :
    Mirrors bridge (history ++ [.commanded output enabled accepted]) := by
  have hsame : ∀ found, OfBridge found →
      lastCommand (history ++ [.commanded output enabled accepted]) found =
        lastCommand history found := fun found hfound => by
    rw [lastCommand_commanded, if_neg]
    rintro rfl
    exact hfan hfound
  have hclean : Unfaulted history →
      Unfaulted (history ++ [.commanded output enabled accepted]) := fun hunfaulted =>
    lawful_concat.mpr ⟨hunfaulted, fun hfault => hfan hfault.1⟩
  cases h with
  | notStarted hunfaulted hquiet =>
      exact .notStarted (hclean hunfaulted) fun found hfound =>
        (hsame found hfound).trans (hquiet found hfound)
  | resting hunfaulted hoff =>
      exact .resting (hclean hunfaulted) fun found hfound =>
        (hsame found hfound).trans (hoff found hfound)
  | driving driven hunfaulted hleg hother henable =>
      exact .driving driven (hclean hunfaulted) ((hsame (.leg driven) trivial).trans hleg)
        ((hsame (.leg driven.other) trivial).trans hother) ((hsame .enable trivial).trans henable)
  | faulted hdark =>
      refine .faulted fun found hfound => ?_
      rw [hsame found hfound]
      exact hdark found hfound

theorem Sound.fan {output : BinaryOutput} {enabled accepted : Bool} (h : Sound backed system)
    (hfan : ¬OfBridge output) :
    Sound backed
      { system with history := system.history ++ [.commanded output enabled accepted] } := by
  refine ⟨lawful_concat.mpr ⟨h.lawful, ?_⟩, h.mirrors.fan hfan⟩
  cases output with
  | leg | enable => exact (hfan trivial).elim
  | outerFan | innerFan => trivial

/-- Without a leg that is on the enable was not switched on last. -/
theorem Sound.enable_off (h : Sound backed system) (hrest : AtRest system) (accepted : Bool) :
    lastCommand system.history .enable ≠ some (true, accepted) := by
  obtain ⟨bridge, history⟩ := system
  have hmirrors := h.mirrors
  cases hmirrors with
  | notStarted _ hquiet => simp [hquiet .enable trivial]
  | resting _ hoff =>
      have henable : lastCommand history .enable = some (false, true) := hoff .enable trivial
      simp [henable]
  | driving driven => exact absurd ((legOn_withLeg _ driven true).symm.trans (hrest driven)) nofun
  | faulted hdark =>
      obtain ⟨found, hfound⟩ : ∃ found, lastCommand history .enable = some (false, found) :=
        hdark .enable trivial
      simp [hfound]

/-- Whatever the sinks answer, a routine of the driver ends in `post`. -/
abbrev Leads (post : BridgeSystem → Prop) (routine : SinkProgram Unit)
    (system : BridgeSystem) : Prop :=
  Ensures Serves (fun _ => True) (fun _ => post) routine system

variable {post : BridgeSystem → Prop}

theorem leads_setPeltier {enabled : Bool} {next : Unit → SinkProgram Unit}
    (h : Sound backed system)
    (hbacked : enabled = true → backed → On system.history .outerFan)
    (hnext : ∀ after, Sound backed after →
      Answered system.bridge system.history leg enabled after.bridge after.history →
        Leads post (next ()) after) :
    Leads post (setPeltier leg enabled >>= next) system := by
  refine ensures_call.mpr ⟨trivial, fun _ after hserved => ?_⟩
  obtain ⟨hsound, hanswered⟩ := h.peltier hserved hbacked
  exact hnext after hsound hanswered

theorem leads_setOuterFan {enabled : Bool} {next : Bool → SinkProgram Unit}
    (h : Sound backed system)
    (hnext : ∀ accepted after, Sound backed after → after.bridge = system.bridge →
      after.history = system.history ++ [.commanded .outerFan enabled accepted] →
        Leads post (next accepted) after) :
    Leads post (setOuterFan enabled >>= next) system := by
  refine ensures_call.mpr ⟨trivial, fun accepted after hserved => ?_⟩
  cases hserved
  exact hnext accepted _ (h.fan id) rfl rfl

/-- The inner fan comes last; the enable stays behind the outer fan. -/
theorem leads_setInnerFan {enabled : Bool} (h : Sound backed system)
    (hbehind : FanBehind system) :
    Leads (fun after => Sound backed after ∧ FanBehind after)
      (setInnerFan enabled >>= fun _ => pure ()) system := by
  refine ensures_call.mpr ⟨trivial, fun accepted after hserved => ?_⟩
  cases hserved
  refine ensures_done.mpr ⟨trivial, h.fan id, fun found hfound => ?_⟩
  rw [lastCommand_commanded, if_neg (by nofun)] at hfound
  rw [On, lastCommand_commanded, if_neg (by nofun)]
  exact hbehind found hfound

theorem leads_peltierOff {next : Unit → SinkProgram Unit} (h : Sound backed system)
    (hnext : ∀ after, Sound backed after → AtRest after → Leads post (next ()) after) :
    Leads post (peltierOff >>= next) system := by
  refine leads_setPeltier h ?_ fun middle hmiddle hforward => ?_
  · nofun
  refine leads_setPeltier hmiddle ?_ fun after hafter hreverse => ?_
  · nofun
  refine hnext after hafter fun leg => ?_
  cases leg with
  | forward => exact hreverse.othersOff (hforward.switchedOff rfl)
  | reverse => exact hreverse.switchedOff rfl

theorem Sound.fanBehind (h : Sound backed system) (hrest : AtRest system) : FanBehind system :=
  fun accepted haccepted => absurd haccepted (h.enable_off hrest accepted)

theorem leads_holdPeltier {outerFanEnabled innerFanEnabled : Bool} (h : Sound backed system) :
    Leads (fun after => Sound backed after ∧ FanBehind after)
      (holdPeltier outerFanEnabled innerFanEnabled) system := by
  apply leads_peltierOff h
  intro dark hdark hrest
  apply leads_setOuterFan hdark
  intro accepted after hafter hbridge _
  refine leads_setInnerFan hafter (hafter.fanBehind fun leg => ?_)
  rw [hbridge]
  exact hrest leg

theorem leads_releasePeltier {innerFanEnabled : Bool} (h : Sound backed system) :
    Leads (fun after => Sound backed after ∧ FanBehind after)
      (releasePeltier leg innerFanEnabled) system := by
  refine leads_setPeltier h ?_ fun stopped hstopped _ => ?_
  · nofun
  apply leads_setOuterFan hstopped
  intro accepted cooled hcooled _ hhistory
  cases accepted with
  | false =>
      apply leads_peltierOff hcooled
      intro dark hdark hrest
      exact leads_setInnerFan hdark (hdark.fanBehind hrest)
  | true =>
      have hfan : On cooled.history .outerFan := by
        rw [hhistory, On, lastCommand_commanded, if_pos rfl]
      apply leads_setPeltier hcooled fun _ _ => hfan
      intro driven hdriven hanswered
      exact leads_setInnerFan hdriven fun _ _ => hanswered.settles.2.trans hfan

theorem leads_apply {plan : ReceivedPlan} (h : Sound backed system) :
    Leads (fun after => Sound backed after ∧ FanBehind after) (apply plan) system := by
  rw [apply]
  split
  · exact leads_holdPeltier h
  · exact leads_releasePeltier h
  · exact leads_releasePeltier h
  · exact leads_holdPeltier h
  · exact leads_holdPeltier h

end

/-! ## Runs -/

section

variable {system after : BridgeSystem} {labels : List BridgeCall} {call : BridgeCall}

theorem sound_initial : Sound backed {} where
  lawful := lawful_nil
  mirrors := .notStarted lawful_nil fun _ _ => rfl

theorem Sound.begin {ready : Bool} (h : Sound backed system)
    (hrun : Finishes Answers system.bridge.begin system.history (ready, after.bridge)
      after.history) :
    Sound backed after ∧ (FanBehind system → FanBehind after) := by
  have hensures := ensures_begin h.lawful h.mirrors
  obtain ⟨⟨hmirrors, -⟩, hstill⟩ := hensures.finishes hrun
  have hsound : Sound backed after := ⟨hensures.crash_finishes hrun, hmirrors⟩
  refine ⟨hsound, fun hbehind => ?_⟩
  rcases hstill with ⟨-, hhistory⟩ | hrest
  · rwa [FanBehind, hhistory]
  · exact hsound.fanBehind hrest

theorem Sound.apply {plan : ReceivedPlan} (h : Sound backed system)
    (hrun : Finishes Serves (apply plan) system () after) :
    Sound backed after ∧ FanBehind after :=
  (leads_apply h).finishes hrun

/-- A call keeps the law of the interlock, whoever makes it. -/
theorem Sound.step (h : Sound False system) (hstep : BridgeStep system call after) :
    Sound False after := by
  cases hstep with
  | begin hrun => exact (h.begin hrun).1
  | apply hrun => exact (h.apply hrun).1
  | setForward hserved | setReverse hserved =>
      exact (h.peltier hserved fun _ hfalse => hfalse.elim).1

/-- Through the driver the enable stays behind the outer fan. -/
theorem Sound.driven (h : Sound True system) (hbehind : FanBehind system)
    (hstep : BridgeStep system call after) (hcall : call.ThroughDriver) :
    Sound True after ∧ FanBehind after := by
  cases hstep with
  | begin hrun =>
      obtain ⟨hsound, hkept⟩ := h.begin hrun
      exact ⟨hsound, hkept hbehind⟩
  | apply hrun => exact h.apply hrun
  | setForward | setReverse => exact hcall.elim

theorem sound_of_run (hrun : Steps BridgeStep {} labels system) : Sound False system :=
  hrun.invariant sound_initial Sound.step

theorem driven_of_run (hrun : Steps BridgeStep {} labels system)
    (hdriven : ∀ label ∈ labels, label.ThroughDriver) :
    Sound True system ∧ FanBehind system := by
  induction hrun with
  | start => exact ⟨sound_initial, nofun⟩
  | step _ hstep ih =>
      obtain ⟨hsound, hbehind⟩ := ih fun label hlabel =>
        hdriven label (List.mem_append_left _ hlabel)
      exact hsound.driven hbehind hstep
        (hdriven _ (List.mem_append_right _ (List.mem_singleton_self _)))

/-- In every run a leg is switched on while the enable and the other leg are off, the
enable while one leg alone is on; after a fault the bridge switches nothing on.  A plan
that was applied leaves the enable on behind the outer fan alone, and so does a run through
the driver. -/
theorem bridge_interlock (hrun : Steps BridgeStep {} labels system) :
    (∀ before leg accepted later,
      system.history = before ++ .commanded (.leg leg) true accepted :: later →
        Off before .enable ∧ Off before (.leg leg.other)) ∧
    (∀ before accepted later,
      system.history = before ++ .commanded .enable true accepted :: later →
        ∃ leg, On before (.leg leg) ∧ Off before (.leg leg.other)) ∧
    (∀ before entry later, system.history = before ++ entry :: later → Faults before entry →
      ∀ output accepted, OfBridge output → .commanded output true accepted ∉ later) ∧
    (∀ plan next, BridgeStep system (.apply plan) next → FanBehind next) ∧
    ((∀ label ∈ labels, label.ThroughDriver) → FanBehind system ∧
      ∀ before accepted later,
        system.history = before ++ .commanded .enable true accepted :: later →
          On before .outerFan) := by
  have hsound := sound_of_run hrun
  refine ⟨fun before leg accepted later hsplit => ?_, fun before accepted later hsplit => ?_,
    fun before entry later hsplit hfault output accepted hbridge hmem => ?_,
    fun plan next hstep => ?_, fun hdriven => ?_⟩
  · exact (hsound.lawful before _ later hsplit).2
  · exact (hsound.lawful before _ later hsplit).2.1
  · obtain ⟨between, hallowed⟩ := hsound.lawful.after hsplit hmem
    have hunfaulted : Unfaulted (before ++ entry :: between) := by
      cases output with
      | leg | enable => exact hallowed.1
      | outerFan | innerFan => exact hbridge.elim
    exact hunfaulted before entry between rfl hfault
  · cases hstep with
    | apply hrun => exact (hsound.apply hrun).2
  · obtain ⟨hsound, hbehind⟩ := driven_of_run hrun hdriven
    exact ⟨hbehind, fun before accepted later hsplit =>
      (hsound.lawful before _ later hsplit).2.2 trivial⟩

end

/-! ## A plan that heats -/

/-- Outputs whose answers depend on what was commanded before. -/
def answering (accepts : OutputHistory → BinaryOutput → Bool) (history : OutputHistory)
    (command : OutputCommand) : Bool × OutputHistory :=
  let accepted := accepts history command.output
  (accepted, history ++ [.commanded command.output command.enabled accepted])

theorem answering_answers (accepts : OutputHistory → BinaryOutput → Bool)
    (history : OutputHistory) (command : OutputCommand) :
    Answers history command (answering accepts history command).1
      (answering accepts history command).2 := rfl

def serving (accepts : OutputHistory → BinaryOutput → Bool) (system : BridgeSystem) :
    (request : SinkRequest) → request.Reply × BridgeSystem
  | .peltier leg enabled =>
      let (bridge, history) := (system.bridge.setLeg leg enabled).run (answering accepts)
        (system.history ++ [.requested leg enabled])
      ((), ⟨bridge, history⟩)
  | .outerFan enabled =>
      let accepted := accepts system.history .outerFan
      (accepted, { system with
        history := system.history ++ [.commanded .outerFan enabled accepted] })
  | .innerFan enabled =>
      let accepted := accepts system.history .innerFan
      (accepted, { system with
        history := system.history ++ [.commanded .innerFan enabled accepted] })

theorem serving_serves (accepts : OutputHistory → BinaryOutput → Bool)
    (system : BridgeSystem) (request : SinkRequest) :
    Serves system request (serving accepts system request).1
      (serving accepts system request).2 := by
  cases request with
  | peltier leg enabled => exact .peltier (finishes_run (answering_answers accepts) _ _)
  | outerFan => exact .outerFan
  | innerFan => exact .innerFan

def heatingPlan : ReceivedPlan where
  appliedDirection := some .heating
  outerFanEnabled := true
  innerFanEnabled := true

/-- The bridge has begun, and the plan was applied so often. -/
def heated (accepts : OutputHistory → BinaryOutput → Bool) : ℕ → BridgeSystem
  | 0 =>
      let (result, history) := (SharedEnableBridgeSink.begin {}).run (answering accepts) []
      ⟨result.2, history⟩
  | times + 1 => ((apply heatingPlan).run (serving accepts) (heated accepts times)).2

theorem heated_run (accepts : OutputHistory → BinaryOutput → Bool) (times : ℕ) :
    Steps BridgeStep {} (.begin :: List.replicate times (.apply heatingPlan))
      (heated accepts times) := by
  induction times with
  | zero =>
      exact .step .start (.begin (finishes_run (answering_answers accepts) _ _))
  | succ times ih =>
      rw [List.replicate_succ', ← List.cons_append]
      exact .step ih (.apply (finishes_run (serving_serves accepts) _ _))

theorem heated_interlock :
    Off ((heated (fun _ _ => true) 1).history.take 6) .enable ∧
      FanBehind (heated (fun _ _ => true) 1) := by
  have hinterlock := bridge_interlock (heated_run (fun _ _ => true) 1)
  refine ⟨(hinterlock.1 _ .forward true _ rfl).1, (hinterlock.2.2.2.2 ?_).1⟩
  intro label hlabel
  rcases List.mem_cons.mp hlabel with rfl | hplan
  · trivial
  · rw [(List.mem_replicate.mp hplan).2]
    trivial

/-- The outer fan refuses once, while the enable is on; it is asked again with the next
plan, and the enable follows it. -/
theorem refused_fan_is_asked_again :
    ∃ labels system, Steps BridgeStep {} labels system ∧
      (∀ label ∈ labels, label.ThroughDriver) ∧
      ∃ before later, system.history = before ++ .commanded .outerFan true false :: later ∧
        On (before ++ [.commanded .outerFan true false]) .enable ∧
        ¬On (before ++ [.commanded .outerFan true false]) .outerFan ∧
        .commanded .outerFan true true ∈ later ∧ .commanded .enable true true ∈ later := by
  let accepts (history : OutputHistory) (output : BinaryOutput) : Bool :=
    output ≠ .outerFan ∨ history.length ≠ 10
  refine ⟨_, heated accepts 3, heated_run accepts 3, ?_, (heated accepts 3).history.take 10,
    (heated accepts 3).history.drop 11, ?_, ?_, ?_, ?_, ?_⟩
  · intro label hlabel
    rcases List.mem_cons.mp hlabel with rfl | hplan
    · trivial
    · rw [(List.mem_replicate.mp hplan).2]
      trivial
  · decide +kernel
  · rw [On]
    decide +kernel
  · rw [On]
    decide +kernel
  · decide +kernel
  · decide +kernel

end BridgeInterlock

end Fermentationsschrank

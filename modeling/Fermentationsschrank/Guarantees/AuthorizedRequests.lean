import Fermentationsschrank.Control.PlannerAuthority
import Fermentationsschrank.Guarantees.SwitchingTimes

/-!
# Authorized requests

An observer notes the sequences that were observed, the requests that were new, in time
and of the current context when they arrived, and the times that keep the watchdog
quiet.  In every run the output is on for such a request only.
-/

namespace Fermentationsschrank

open ActuatorPlannerRuntimeState (wellFormed arrivesInTime commandOf isActiveDemand)

variable {K : Type} [ControlNumber K]

/-! ## The observer -/

/-- What an observer notes of the requests and of the watchdog. -/
structure RequestRecord (K : Type) where
  observed : List UInt64 := []
  authorized : List (AcceptedControlCommand K) := []
  admittedAt : Option UInt64 := none
  episodeSince : Option UInt64 := none
  tripped : Bool := false

namespace RequestRecord

variable {record : RequestRecord K} {parameters : ActuatorPlannerParameters}
variable {input : ActuatorPlanTickInput K}

/-- The evaluation is well formed, and its request, if it makes one, has a sequence above
every observed one and arrives in time. -/
def admits (record : RequestRecord K) (parameters : ActuatorPlannerParameters)
    (input : ActuatorPlanTickInput K) (evaluation : TemperatureControlResult K) : Bool :=
  wellFormed input evaluation && evaluation.controlRequest.all fun request =>
    record.observed.all (· < request.identity.sequence) &&
      arrivesInTime parameters input request

/-- The sequence a tick observes. -/
def observedSequence (input : ActuatorPlanTickInput K) : Option UInt64 :=
  (input.newEvaluation.filter (wellFormed input)).bind fun evaluation =>
    evaluation.controlRequest.map (·.identity.sequence)

/-- The command an evaluation asks for. -/
def requestedCommand (evaluation : TemperatureControlResult K) :
    Option (AcceptedControlCommand K) :=
  evaluation.controlRequest.map (commandOf · (classifyActuatorDemand evaluation))

def observeTick (record : RequestRecord K) (parameters : ActuatorPlannerParameters)
    (input : ActuatorPlanTickInput K) (tripped : Bool) : RequestRecord K :=
  let admitted := input.newEvaluation.filter (record.admits parameters input)
  { observed := (observedSequence input).toList ++ record.observed
    authorized := (admitted.bind requestedCommand).toList ++ record.authorized
    admittedAt := if admitted.isSome then some input.nowMonotonicMillis
      else record.admittedAt
    episodeSince := if input.temperatureControlledPhase then
        some (record.episodeSince.getD input.nowMonotonicMillis)
      else record.episodeSince
    tripped := record.tripped || tripped }

def observe (record : RequestRecord K) (event : PlannerEvent K) : RequestRecord K :=
  match event.call with
  | .tick input => record.observeTick event.before.parameters input
      (decide ((event.before.tick input).1.reason = .staleRequestWatchdog))
  | .forceStop _ _ => { record with admittedAt := none, episodeSince := none }
  | .applyExternalWatchdogFaultReset => { record with tripped := false }
  | _ => record

/-- The last admission, or the start of the episode before the first one. -/
def watchdogReference (record : RequestRecord K) : Option UInt64 :=
  record.episodeSince.map record.admittedAt.getD

end RequestRecord

/-- The time the watchdog of the planner counts from. -/
def ActuatorPlannerRuntimeState.watchdogReference (state : ActuatorPlannerRuntimeState K) :
    Option UInt64 :=
  state.watchdogEpisodeStartedAtMonotonicMillis.map
    state.lastNewRequestAcceptedAtMonotonicMillis.getD

/-- What a tick needs to leave the output on. -/
structure RequestRecord.Energizes (record : RequestRecord K)
    (parameters : ActuatorPlannerParameters) (input : ActuatorPlanTickInput K)
    (state : ActuatorPlannerRuntimeState K) : Prop where
  gate : input.safetyGate = .allowed
  configured : classifyActuatorPlannerParameters parameters = .valid
  unlatched : state.latchedWatchdogFault = none
  live : input.temperatureControlledPhase = true →
    ∃ reference, record.watchdogReference = some reference ∧
      input.nowMonotonicMillis.toNat <
        reference.toNat + parameters.requestWatchdogMillis.toNat
  authorized : ∃ command ∈ record.authorized, state.acceptedCommand = some command ∧
    command.contextAtAcceptance = input.currentCanonicalContext

/-- What the requests promise of an event. -/
structure PlannerEvent.Authorized (record : RequestRecord K) (event : PlannerEvent K) :
    Prop where
  energized : ∀ input, event.call = .tick input → event.is ≠ .idle →
    (record.observe event).Energizes event.before.parameters input event.after.state
  stopped : record.tripped = true → event.is = .idle
  unextended : ∀ input evaluation, event.call = .tick input →
    input.newEvaluation = some evaluation →
    record.admits event.before.parameters input evaluation = false →
    event.after.state.lastNewRequestAcceptedAtMonotonicMillis =
      event.before.state.lastNewRequestAcceptedAtMonotonicMillis ∧
    ∀ reference, event.before.state.watchdogReference = some reference →
      event.after.state.watchdogReference = some reference

namespace RequestRecord

variable {before record : RequestRecord K} {parameters : ActuatorPlannerParameters}
variable {input : ActuatorPlanTickInput K} {state : ActuatorPlannerRuntimeState K}

/-- The watermark is the largest observed sequence. -/
def Marks (observed : List UInt64) (watermark : Option UInt64) : Prop :=
  ∀ sequence, (∀ earlier ∈ observed, earlier < sequence) ↔
    ∀ mark ∈ watermark, mark < sequence

/-- What the observer knows of the planner. -/
structure Knows (state : ActuatorPlannerRuntimeState K) (record : RequestRecord K) :
    Prop where
  marks : Marks record.observed state.lastObservedSequenceHighWatermark
  admittedAt : state.lastNewRequestAcceptedAtMonotonicMillis = record.admittedAt
  episodeSince : state.watchdogEpisodeStartedAtMonotonicMillis = record.episodeSince
  latched : record.tripped = true → state.latchedWatchdogFault.isSome = true
  off : state.latchedWatchdogFault.isSome = true → state.lastAppliedDirection = .idle
  authorized : ∀ command, state.acceptedCommand = some command →
    command ∈ record.authorized
  commanded : state.acceptedCommand = none → state.lastAppliedDirection = .idle

/-- An old sequence leaves the watermark. -/
theorem Marks.replayed {observed : List UInt64} {watermark : Option UInt64}
    {sequence : UInt64} (h : Marks observed watermark)
    (hold : watermark.any (sequence ≤ ·) = true) :
    Marks (sequence :: observed) watermark := by
  intro other
  obtain ⟨mark, rfl, hmark⟩ := (Option.any_eq_true _ _).mp hold
  rw [List.forall_mem_cons, h other]
  refine ⟨fun hboth => hboth.2, fun habove => ⟨?_, habove⟩⟩
  exact UInt64.lt_of_le_of_lt (of_decide_eq_true hmark) (habove mark rfl)

theorem not_replayed_iff {watermark : Option UInt64} {sequence : UInt64} :
    watermark.any (sequence ≤ ·) = false ↔ ∀ mark ∈ watermark, mark < sequence := by
  cases watermark with
  | none => simp
  | some mark => simp [UInt64.not_le]

/-- A new sequence becomes the watermark. -/
theorem Marks.raised {observed : List UInt64} {watermark : Option UInt64}
    {sequence : UInt64} (h : Marks observed watermark)
    (hnew : watermark.any (sequence ≤ ·) = false) :
    Marks (sequence :: observed) (some sequence) := by
  intro other
  rw [List.forall_mem_cons, h other]
  refine ⟨?_, fun habove => ⟨habove sequence rfl, fun mark hmark => ?_⟩⟩
  · rintro ⟨habove, -⟩ _ ⟨⟩
    exact habove
  · exact UInt64.lt_trans (not_replayed_iff.mp hnew mark hmark) (habove sequence rfl)

theorem Marks.all_lt {observed : List UInt64} {watermark : Option UInt64}
    (h : Marks observed watermark) {sequence : UInt64} :
    observed.all (· < sequence) = !watermark.any (sequence ≤ ·) := by
  rw [Bool.eq_iff_iff, List.all_eq_true, Bool.not_eq_true', not_replayed_iff, ← h sequence]
  simp only [decide_eq_true_eq]

/-! ## Admission -/

theorem observedSequence_none (h : input.newEvaluation = none) :
    observedSequence input = none := by
  rw [observedSequence, h]
  rfl

theorem observedSequence_malformed {evaluation : TemperatureControlResult K}
    (hsome : input.newEvaluation = some evaluation)
    (hmalformed : wellFormed input evaluation = false) : observedSequence input = none := by
  rw [observedSequence, hsome, Option.filter_some, hmalformed]
  rfl

theorem observedSequence_wellFormed {evaluation : TemperatureControlResult K}
    (hsome : input.newEvaluation = some evaluation)
    (hwell : wellFormed input evaluation = true) :
    observedSequence input = evaluation.controlRequest.map (·.identity.sequence) := by
  rw [observedSequence, hsome, Option.filter_some, if_pos hwell]
  rfl

/-- What the observer knows once a tick has dealt with its evaluation. -/
structure KnowsAdmission (state : ActuatorPlannerRuntimeState K) (record : RequestRecord K)
    (input : ActuatorPlanTickInput K)
    (admitted : ActuatorPlannerRuntimeState.PhaseAOutcome K × ActuatorPlannerRuntimeState K) :
    Prop where
  marks : Marks record.observed admitted.2.lastObservedSequenceHighWatermark
  admittedAt : admitted.2.lastNewRequestAcceptedAtMonotonicMillis = record.admittedAt
  episodeSince : admitted.2.watchdogEpisodeStartedAtMonotonicMillis = record.episodeSince
  latched : admitted.2.latchedWatchdogFault = state.latchedWatchdogFault
  direction : admitted.2.lastAppliedDirection = state.lastAppliedDirection
  held : admitted.2.acceptedCommand = state.acceptedCommand
  kept : ∀ command, admitted.2.acceptedCommand = some command → command ∈ record.authorized
  opened : input.temperatureControlledPhase = true → record.episodeSince.isSome = true
  authorized : ∀ candidate, admitted.1.candidate = some candidate →
    candidate.demandClass ≠ .noValidRequest →
    candidate ∈ record.authorized ∧
      candidate.contextAtAcceptance = input.currentCanonicalContext

/-- A tick whose evaluation is not admitted. -/
theorem observeTick_unadmitted {tripped : Bool}
    (h : input.newEvaluation.filter (record.admits parameters input) = none) :
    record.observeTick parameters input tripped =
      { observed := (observedSequence input).toList ++ record.observed
        authorized := record.authorized
        admittedAt := record.admittedAt
        episodeSince := if input.temperatureControlledPhase then
            some (record.episodeSince.getD input.nowMonotonicMillis)
          else record.episodeSince
        tripped := record.tripped || tripped } := by
  rw [observeTick, h]
  rfl

theorem observeTick_admitted {tripped : Bool} {evaluation : TemperatureControlResult K}
    (h : input.newEvaluation.filter (record.admits parameters input) = some evaluation) :
    record.observeTick parameters input tripped =
      { observed := (observedSequence input).toList ++ record.observed
        authorized := (requestedCommand evaluation).toList ++ record.authorized
        admittedAt := some input.nowMonotonicMillis
        episodeSince := if input.temperatureControlledPhase then
            some (record.episodeSince.getD input.nowMonotonicMillis)
          else record.episodeSince
        tripped := record.tripped || tripped } := by
  rw [observeTick, h]
  rfl

theorem filter_admits {evaluation : TemperatureControlResult K}
    (hsome : input.newEvaluation = some evaluation) :
    input.newEvaluation.filter (record.admits parameters input) =
      if record.admits parameters input evaluation then some evaluation else none := by
  rw [hsome, Option.filter_some]

omit [ControlNumber K] in
theorem openWatchdogEpisode_eq : state.openWatchdogEpisode input =
    { state with
      watchdogEpisodeStartedAtMonotonicMillis := if input.temperatureControlledPhase then
          some (state.watchdogEpisodeStartedAtMonotonicMillis.getD input.nowMonotonicMillis)
        else state.watchdogEpisodeStartedAtMonotonicMillis } := by
  rw [ActuatorPlannerRuntimeState.openWatchdogEpisode]
  obtain ⟨_, _, _, _, _, _, _, _, _, _, episode, _, _, _⟩ := state
  cases input.temperatureControlledPhase <;> cases episode <;> rfl

theorem Knows.admission {tripped : Bool}
    {admitted : ActuatorPlannerRuntimeState.PhaseAOutcome K × ActuatorPlannerRuntimeState K}
    (h : Knows state record)
    (hadmission : (state.openWatchdogEpisode input).Admission parameters input admitted) :
    KnowsAdmission state (record.observeTick parameters input tripped) input admitted := by
  have hepisode : (state.openWatchdogEpisode input).watchdogEpisodeStartedAtMonotonicMillis =
      if input.temperatureControlledPhase then
        some (record.episodeSince.getD input.nowMonotonicMillis)
      else record.episodeSince := by
    rw [openWatchdogEpisode_eq, ← h.episodeSince]
  have hopened : input.temperatureControlledPhase = true →
      (if input.temperatureControlledPhase then
        some (record.episodeSince.getD input.nowMonotonicMillis)
      else record.episodeSince).isSome = true := fun hphase => by rw [if_pos hphase]; rfl
  rw [openWatchdogEpisode_eq] at hadmission hepisode
  cases hadmission with
  | noCandidate hnone =>
      rw [observeTick_unadmitted (by rw [hnone]; rfl), observedSequence_none hnone]
      exact ⟨h.marks, h.admittedAt, hepisode, rfl, rfl, rfl, h.authorized, hopened, nofun⟩
  | @malformed evaluation hsome hmalformed =>
      have hrefused : record.admits parameters input evaluation = false := by
        rw [admits, hmalformed, Bool.false_and]
      rw [observeTick_unadmitted (by rw [filter_admits hsome, hrefused]; rfl),
        observedSequence_malformed hsome hmalformed]
      exact ⟨h.marks, h.admittedAt, hepisode, rfl, rfl, rfl, h.authorized, hopened, nofun⟩
  | @requestless evaluation hsome hwell hrequest =>
      have hadmits : record.admits parameters input evaluation = true := by
        rw [admits, hwell, hrequest]
        rfl
      rw [observeTick_admitted (by rw [filter_admits hsome, if_pos hadmits]),
        observedSequence_wellFormed hsome hwell, requestedCommand, hrequest]
      refine ⟨h.marks, rfl, hepisode, rfl, rfl, rfl, h.authorized, hopened, ?_⟩
      rintro _ ⟨⟩ hclass
      exact absurd rfl hclass
  | @replayed evaluation request hsome hwell hrequest hold =>
      have hrefused : record.admits parameters input evaluation = false := by
        rw [admits, hrequest, Option.all_some, h.marks.all_lt, hold]
        simp
      rw [observeTick_unadmitted (by rw [filter_admits hsome, hrefused]; rfl),
        observedSequence_wellFormed hsome hwell, hrequest]
      exact ⟨h.marks.replayed hold, h.admittedAt, hepisode, rfl, rfl, rfl, h.authorized, hopened, nofun⟩
  | @stale evaluation request outcome hsome hwell hrequest hnew hstale _ =>
      have hrefused : record.admits parameters input evaluation = false := by
        rw [admits, hrequest, Option.all_some, hstale]
        simp
      rw [observeTick_unadmitted (by rw [filter_admits hsome, hrefused]; rfl),
        observedSequence_wellFormed hsome hwell, hrequest]
      exact ⟨h.marks.raised hnew, h.admittedAt, hepisode, rfl, rfl, rfl, h.authorized, hopened, nofun⟩
  | @fresh evaluation request hsome hwell hrequest hnew hintime =>
      have hadmits : record.admits parameters input evaluation = true := by
        rw [admits, hwell, hrequest, Option.all_some, h.marks.all_lt, hnew, hintime]
        rfl
      rw [observeTick_admitted (by rw [filter_admits hsome, if_pos hadmits]),
        observedSequence_wellFormed hsome hwell, requestedCommand, hrequest]
      refine ⟨h.marks.raised hnew, rfl, hepisode, rfl, rfl, rfl, fun command hcommand =>
        List.mem_cons_of_mem _ (h.authorized command hcommand), hopened, ?_⟩
      rintro _ ⟨⟩ -
      refine ⟨List.mem_cons_self, ?_⟩
      rw [arrivesInTime, Bool.and_eq_true] at hintime
      exact of_decide_eq_true hintime.2

/-! ## Decision -/

/-- What is known of a tick that is not rejected. -/
theorem KnowsAdmission.passed
    {admitted : ActuatorPlannerRuntimeState.PhaseAOutcome K × ActuatorPlannerRuntimeState K}
    (h : KnowsAdmission state record input admitted)
    (hpassed : admitted.2.rejection parameters input admitted.1 = none) :
    input.safetyGate = .allowed ∧ classifyActuatorPlannerParameters parameters = .valid ∧
    admitted.2.latchedWatchdogFault = none ∧
    (input.temperatureControlledPhase = true →
      ∃ reference, record.watchdogReference = some reference ∧
        input.nowMonotonicMillis.toNat <
          reference.toNat + parameters.requestWatchdogMillis.toNat) ∧
    ∀ command, (admitted.2.planned admitted.1).acceptedCommand = some command →
      command ∈ record.authorized ∧
        command.contextAtAcceptance = input.currentCanonicalContext := by
  rcases @ActuatorPlannerRuntimeState.rejection_cases K admitted.2 parameters input
    admitted.1 with ⟨_, _, hrejected, -⟩ |
      ⟨-, -, -, hvalid, hgate, hlatched, hquiet, hcandidates, hcontext⟩
  · rw [hpassed] at hrejected
    cases hrejected
  refine ⟨hgate, hvalid, hlatched, fun hphase => ?_, fun command hcommand => ?_⟩
  · obtain ⟨started, hstarted⟩ := Option.isSome_iff_exists.mp (h.opened hphase)
    refine ⟨record.admittedAt.getD started, by rw [watchdogReference, hstarted]; rfl, ?_⟩
    rw [ActuatorPlannerRuntimeState.runningWatchdogTripped, hphase, h.episodeSince,
      hstarted, h.admittedAt, Bool.true_and, Option.any_some] at hquiet
    rw [← not_le, ← deadlineReached_iff, hquiet]
    exact Bool.false_ne_true
  · rw [ActuatorPlannerRuntimeState.planned] at hcommand
    cases hcandidate : admitted.1.candidate with
    | some candidate =>
        rw [hcandidate] at hcommand
        cases hcommand
        exact h.authorized command hcandidate (hcandidates command hcandidate)
    | none =>
        rw [hcandidate] at hcommand
        refine ⟨h.kept command hcommand, ?_⟩
        rw [ActuatorPlannerRuntimeState.heldContextStale, hcandidate] at hcontext
        simp only at hcommand
        simpa [hcommand] using hcontext

omit [ControlNumber K] in
/-- What the observer knows depends on the authority and the direction alone. -/
theorem Knows.of_authority {authority : RequestAuthority K}
    (hauthority : state.authority = authority)
    (marks : Marks record.observed authority.lastObservedSequenceHighWatermark)
    (admittedAt : authority.lastNewRequestAcceptedAtMonotonicMillis = record.admittedAt)
    (episodeSince : authority.watchdogEpisodeStartedAtMonotonicMillis = record.episodeSince)
    (latched : record.tripped = true → authority.latchedWatchdogFault.isSome = true)
    (off : authority.latchedWatchdogFault.isSome = true → state.lastAppliedDirection = .idle)
    (authorized : ∀ command, authority.acceptedCommand = some command →
      command ∈ record.authorized)
    (commanded : authority.acceptedCommand = none → state.lastAppliedDirection = .idle) :
    Knows state record := by
  subst hauthority
  exact ⟨marks, admittedAt, episodeSince, latched, off, authorized, commanded⟩

section Decided

variable {outcome : ActuatorPlannerRuntimeState.TickOutcome K}
variable {admitted : ActuatorPlannerRuntimeState.PhaseAOutcome K ×
  ActuatorPlannerRuntimeState K}

/-- A tick that is not rejected keeps the command it plans with, unless it ends idle. -/
theorem KnowsAdmission.planned {feedback : FeedbackEpisode}
    (h : KnowsAdmission state record input admitted)
    (hpassed : admitted.2.rejection parameters input admitted.1 = none)
    (htripped : record.tripped = true → admitted.2.latchedWatchdogFault.isSome = true)
    (hauthority : outcome.2.authority =
      { (admitted.2.planned admitted.1).authority with feedback })
    (hcommanded : (admitted.2.planned admitted.1).acceptedCommand = none →
      outcome.2.lastAppliedDirection = .idle) :
    Knows outcome.2 record := by
  obtain ⟨-, -, hlatched, -, hcommand⟩ := h.passed hpassed
  have haccepted : (admitted.2.planned admitted.1).acceptedCommand =
      admitted.1.candidate.or admitted.2.acceptedCommand :=
    congrArg RequestAuthority.acceptedCommand ActuatorPlannerRuntimeState.authority_planned
  rw [ActuatorPlannerRuntimeState.authority_planned] at hauthority
  rw [haccepted] at hcommand hcommanded
  refine .of_authority hauthority h.marks h.admittedAt h.episodeSince htripped
    (fun hsome => ?_) (fun command hsome => (hcommand command hsome).1) hcommanded
  simp only at hsome
  rw [show admitted.2.authority.latchedWatchdogFault = none from hlatched] at hsome
  cases hsome

/-- The decision of a tick keeps what the observer knows. -/
theorem KnowsAdmission.decision (h : KnowsAdmission state record input admitted)
    (hbefore : Knows state before)
    (hdecision : admitted.2.Decision parameters input admitted.1 outcome)
    (htripped : record.tripped =
      (before.tripped || decide (outcome.1.reason = .staleRequestWatchdog))) :
    Knows outcome.2 record := by
  have hlatched (hearlier : before.tripped = true) :
      admitted.2.latchedWatchdogFault.isSome = true := by
    rw [h.latched]
    exact hbefore.latched hearlier
  have hanswers (hanswered : outcome.1.reason.rejects = false)
      (hlater : record.tripped = true) :
      admitted.2.latchedWatchdogFault.isSome = true := by
    rw [htripped, Bool.or_eq_true, decide_eq_true_eq] at hlater
    rcases hlater with hearlier | hreason
    · exact hlatched hearlier
    · rw [hreason] at hanswered
      cases hanswered
  cases hdecision with
  | rejected hrejection hidle hauthority =>
      rw [ActuatorPlannerRuntimeState.authority_latchTrippedWatchdog] at hauthority
      refine .of_authority hauthority h.marks h.admittedAt h.episodeSince (fun hlater => ?_)
        (fun _ => hidle) nofun (fun _ => hidle)
      simp only
      split
      · rfl
      · rename_i hother
        rw [htripped, Bool.or_eq_true, decide_eq_true_eq] at hlater
        exact hlatched (hlater.resolve_right hother)
  | tornDown hpassed hanswered hidle hauthority =>
      rw [ActuatorPlannerRuntimeState.authority_planned] at hauthority
      exact .of_authority hauthority h.marks h.admittedAt h.episodeSince
        (hanswers hanswered) (fun _ => hidle) nofun (fun _ => hidle)
  | held hpassed hanswered hdirection hauthority =>
      refine h.planned hpassed (hanswers hanswered) hauthority fun hnone => ?_
      have hplanned : (admitted.2.planned admitted.1).authority = _ :=
        ActuatorPlannerRuntimeState.authority_planned
      have haccepted := congrArg RequestAuthority.acceptedCommand hplanned
      have hheld := (Option.or_eq_none_iff.mp (haccepted.symm.trans hnone)).2
      rw [hdirection, h.direction]
      exact hbefore.commanded (h.held ▸ hheld)
  | served hpassed hdemand hserves =>
      obtain ⟨feedback, hauthority⟩ : ∃ feedback, outcome.2.authority =
          { (admitted.2.planned admitted.1).authority with feedback } := by
        rcases hserves.authority with hsame | ⟨reason, hmerged⟩
        · exact ⟨_, hsame⟩
        · exact ⟨_, hmerged⟩
      refine h.planned hpassed (hanswers hserves.answered) hauthority fun hnone => ?_
      rw [ActuatorPlannerRuntimeState.demand, hnone] at hdemand
      cases hdemand

/-- A tick that leaves the output on has a request for it. -/
theorem KnowsAdmission.energized (h : KnowsAdmission state record input admitted)
    (hafter : Knows outcome.2 record)
    (hdecision : admitted.2.Decision parameters input admitted.1 outcome)
    (hon : outcome.2.lastAppliedDirection ≠ .idle) :
    record.Energizes parameters input outcome.2 := by
  have hquiet : outcome.2.latchedWatchdogFault = none :=
    Option.not_isSome_iff_eq_none.mp fun hlatched => hon (hafter.off hlatched)
  obtain ⟨command, hcommand⟩ := Option.ne_none_iff_exists'.mp fun hnone =>
    hon (hafter.commanded hnone)
  have hplans (hpassed : admitted.2.rejection parameters input admitted.1 = none)
      (haccepted : outcome.2.acceptedCommand =
        (admitted.2.planned admitted.1).acceptedCommand) :
      record.Energizes parameters input outcome.2 := by
    obtain ⟨hgate, hvalid, -, hlive, hauthorized⟩ := h.passed hpassed
    obtain ⟨hknown, hcontext⟩ := hauthorized command (haccepted.symm.trans hcommand)
    exact ⟨hgate, hvalid, hquiet, hlive, command, hknown, hcommand, hcontext⟩
  cases hdecision with
  | rejected _ hidle _ => exact absurd hidle hon
  | tornDown _ _ hidle _ => exact absurd hidle hon
  | held hpassed _ _ hauthority =>
      exact hplans hpassed (congrArg RequestAuthority.acceptedCommand hauthority)
  | served hpassed _ hserves =>
      refine hplans hpassed ?_
      rcases hserves.authority with hsame | ⟨reason, hmerged⟩
      · exact congrArg RequestAuthority.acceptedCommand hsame
      · exact congrArg RequestAuthority.acceptedCommand hmerged

end Decided

/-! ## The calls -/

/-- An evaluation that is not admitted leaves the times of the watchdog. -/
theorem Knows.unextended {next : ActuatorPlannerRuntimeState K} {tripped : Bool}
    {evaluation : TemperatureControlResult K} (h : Knows state record)
    (hnext : Knows next (record.observeTick parameters input tripped))
    (hsome : input.newEvaluation = some evaluation)
    (hrefused : record.admits parameters input evaluation = false) :
    next.lastNewRequestAcceptedAtMonotonicMillis =
      state.lastNewRequestAcceptedAtMonotonicMillis ∧
    ∀ reference, state.watchdogReference = some reference →
      next.watchdogReference = some reference := by
  have hnothing : input.newEvaluation.filter (record.admits parameters input) = none := by
    rw [filter_admits hsome, hrefused]
    rfl
  rw [observeTick_unadmitted hnothing] at hnext
  have hlast : next.lastNewRequestAcceptedAtMonotonicMillis =
      state.lastNewRequestAcceptedAtMonotonicMillis := hnext.admittedAt.trans h.admittedAt.symm
  refine ⟨hlast, fun reference hreference => ?_⟩
  rw [ActuatorPlannerRuntimeState.watchdogReference, h.episodeSince,
    Option.map_eq_some_iff] at hreference
  obtain ⟨started, hstarted, rfl⟩ := hreference
  have hepisode := hnext.episodeSince
  simp only [hstarted, Option.getD_some, ite_self] at hepisode
  rw [ActuatorPlannerRuntimeState.watchdogReference, hepisode, hlast]
  rfl

/-- A call without a request, which at most stops the output. -/
theorem Knows.quiet {event : PlannerEvent K} (h : Knows state record)
    (hbefore : event.before.state = state) (hcall : ∀ input, event.call ≠ .tick input)
    (hidle : event.is = event.was ∨ event.is = .idle) : event.Authorized record := by
  refine ⟨fun input htick => absurd htick (hcall input), fun htripped => ?_,
    fun input _ htick => absurd htick (hcall input)⟩
  rcases hidle with hsame | hidle
  · have hwas : event.was = .idle := by
      rw [PlannerEvent.was, hbefore]
      exact h.off (h.latched htripped)
    exact hsame.trans hwas
  · exact hidle

theorem Knows.tick {tripped : Bool} (h : Knows state record)
    (htripped : tripped = decide
      ((state.tick parameters input).1.reason = .staleRequestWatchdog)) :
    Knows (state.tick parameters input).2 (record.observeTick parameters input tripped) ∧
    ((state.tick parameters input).2.lastAppliedDirection ≠ .idle →
      (record.observeTick parameters input tripped).Energizes parameters input
        (state.tick parameters input).2) := by
  obtain ⟨admitted, hadmission, hdecision⟩ :=
    @ActuatorPlannerRuntimeState.tick_decision K _ state parameters input
  have hadmitted : KnowsAdmission state (record.observeTick parameters input tripped) input
      admitted := h.admission hadmission
  have hafter : Knows (state.tick parameters input).2
      (record.observeTick parameters input tripped) :=
    hadmitted.decision h hdecision (by rw [htripped]; rfl)
  exact ⟨hafter, hadmitted.energized hafter hdecision⟩

theorem Knows.tickEvent {event : PlannerEvent K} (h : Knows event.before.state record)
    (hcall : event.call = .tick input)
    (hafter : event.after.state = (event.before.state.tick event.before.parameters input).2) :
    event.Authorized record ∧ Knows event.after.state (record.observe event) := by
  have hobserve : record.observe event = record.observeTick event.before.parameters input
      (decide ((event.before.state.tick event.before.parameters input).1.reason =
        .staleRequestWatchdog)) := by
    rw [observe, hcall]
    rfl
  obtain ⟨hknows, henergized⟩ := @Knows.tick K _ record _ input _ _ h rfl
  rw [← hafter, ← hobserve] at hknows henergized
  refine ⟨⟨fun other hother => ?_, fun htripped => ?_, fun other evaluation hother => ?_⟩,
    hknows⟩
  · rw [hcall] at hother
    cases hother
    exact henergized
  · refine hknows.off (hknows.latched ?_)
    rw [hobserve]
    exact Bool.or_eq_true_iff.mpr (.inl htripped)
  · rw [hcall] at hother
    cases hother
    rw [hobserve] at hknows
    exact h.unextended hknows

/-- Every call keeps what the observer knows, and the output is on for a request only. -/
theorem Knows.step {device next : ClockedPlanner K} {event : PlannerEvent K}
    (h : Knows device.planner.state record) (hstep : PlannerStep device event next) :
    event.Authorized record ∧ Knows next.planner.state (record.observe event) := by
  obtain @⟨call, now, hat, -⟩ := hstep
  cases call with
  | tick input => exact Knows.tickEvent h rfl rfl
  | forceStop time episode =>
      have hidle : (device.planner.state.forceStop device.planner.parameters time
          episode).2.lastAppliedDirection = .idle :=
        ActuatorPlannerRuntimeState.direction_forceStop
      refine ⟨h.quiet rfl (by rintro _ ⟨⟩) (.inr hidle), ?_⟩
      exact Knows.of_authority ActuatorPlannerRuntimeState.authority_forceStop h.marks rfl rfl
        h.latched (fun _ => hidle) (by rintro _ ⟨⟩) (fun _ => hidle)
  | beginRun parameters =>
      have hsame : (device.planner.beginRun parameters).2.state = device.planner.state :=
        ActuatorPlanner.state_beginRun
      refine ⟨h.quiet rfl (by rintro _ ⟨⟩) (.inl ?_), ?_⟩
      · exact congrArg ActuatorPlannerRuntimeState.lastAppliedDirection hsame
      · exact (hsame ▸ h : Knows (device.planner.beginRun parameters).2.state record)
  | endRun => exact ⟨h.quiet rfl (by rintro _ ⟨⟩) (.inl rfl), h⟩
  | closeFeedbackEpisodeForOutstandingEvaluation =>
      exact ⟨h.quiet rfl (by rintro _ ⟨⟩) (.inl rfl), ⟨h.marks, h.admittedAt, h.episodeSince, h.latched,
        h.off, h.authorized, h.commanded⟩⟩
  | takeFeedbackUpdate =>
      obtain ⟨feedback, htaken⟩ := @ActuatorPlanner.state_takeFeedbackUpdate K device.planner
      rw [ActuatorPlanner.perform, htaken]
      exact ⟨h.quiet rfl (by rintro _ ⟨⟩) (.inl rfl), ⟨h.marks, h.admittedAt, h.episodeSince,
        h.latched, h.off, h.authorized, h.commanded⟩⟩
  | applyExternalWatchdogFaultReset =>
      exact ⟨h.quiet rfl (by rintro _ ⟨⟩) (.inl rfl), ⟨h.marks, h.admittedAt, h.episodeSince,
        by rintro ⟨⟩, by rintro ⟨⟩, h.authorized, h.commanded⟩⟩

/-- Nothing was observed before the first call. -/
theorem Knows.first {planner : ActuatorPlanner K} (hfresh : planner.Fresh) :
    Knows planner.state {} := by
  have hstate : planner.state =
      { accumulator := ActuatorPlannerRuntimeState.emptyAccumulator } := by
    rcases hfresh with rfl | ⟨parameters, rfl⟩ <;> rfl
  rw [hstate]
  refine ⟨fun sequence => ?_, rfl, rfl, nofun, nofun, nofun, fun _ => rfl⟩
  exact ⟨fun _ => nofun, fun _ => nofun⟩

end RequestRecord

/-! ## Runs -/

/-- In every run of the planner the output is on for an authorized request only. -/
theorem requests_authorized {planner : ActuatorPlanner K} (hfresh : planner.Fresh)
    {clock : UInt64} {events : List (PlannerEvent K)} {last : ClockedPlanner K}
    (hrun : Steps PlannerStep ⟨planner, clock⟩ events last)
    (earlier : List (PlannerEvent K)) (event : PlannerEvent K)
    (later : List (PlannerEvent K)) (hsplit : events = earlier ++ event :: later) :
    event.Authorized (earlier.foldl RequestRecord.observe {}) :=
  (@Steps.observed _ _ _ _ _ _ _ RequestRecord.observe
    (fun device => RequestRecord.Knows device.planner.state)
    (fun record event => event.Authorized record) {} hrun
    (RequestRecord.Knows.first hfresh) fun h hstep => h.step hstep).2
    earlier event later hsplit

set_option maxRecDepth 1000000 in
theorem first_pulse_authorized :
    (reboundEvents[2].was = .idle ∧ reboundEvents[2].is = .heating) ∧
    reboundEvents[2].Authorized ((reboundEvents.take 2).foldl RequestRecord.observe {}) :=
  ⟨by decide +kernel, requests_authorized (.inl rfl) rebound_run (reboundEvents.take 2)
    reboundEvents[2] (reboundEvents.drop 3) rfl⟩

end Fermentationsschrank

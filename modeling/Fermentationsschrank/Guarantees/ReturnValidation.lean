import Fermentationsschrank.Core.Balances
import Fermentationsschrank.Guarantees.SensorSelectionConsistency
import Fermentationsschrank.Run.SensorSelectionReturns

/-!
# Validations of a return

A return that was tried is tried again only for a reason: the product has failed since, or
the thermal profile is another one.  Without a reason the automatic decisions of a run
write no more than one aborted validation.
-/

namespace Fermentationsschrank

/-! ## Events -/

/-- A decision of a run, with the selection it was taken on. -/
structure SelectionEvent where
  call : SensorSelectionCall
  before : SensorSelectionStateView

namespace SelectionEvent

variable (event : SelectionEvent)

def mutation : SensorSelectionStateMutation := event.call.mutation event.before

def after : SensorSelectionStateView := event.before.after event.mutation

def revision : UInt32 := event.call.plausibility.thermalCompatibility.profileRevision

/-- The profile revision of the last validation. -/
def recorded : Option UInt32 := event.after.runtime.marks.observed

def productUsable : Bool := usable event.call.plausibility.product

/-- A validation begins. -/
def Enters : Prop := event.before.runtime.phase ≠ .returnValidationPending ∧
  event.after.runtime.phase = .returnValidationPending

/-- The product is evaluated as invalid, which changes the selection. -/
def SeesFailure : Prop := event.productUsable = false ∧ event.after ≠ event.before

end SelectionEvent

/-- A decision without an action of the user. -/
def AutomaticStep (current : SensorSelectionStateView) (event : SelectionEvent)
    (next : SensorSelectionStateView) : Prop :=
  event.before = current ∧ event.call.userAction = none ∧ next = event.after

/-! ## Entries -/

section Entry

variable {current : SensorSelectionStateView} {decision : SensorSelectionDecision}
  {now : UInt64} {proposal : SensorSelectionProposal} {event : SelectionEvent}

/-- An automatic validation begins with a usable product only. -/
theorem usable_of_validating (huser : decision.userAction = none)
    (hphase : current.runtime.phase = .airFallbackActive)
    (h : evaluatePhase current decision now = .ok proposal)
    (hvalidating : proposal.runtime.phase = .returnValidationPending) :
    usable decision.plausibility.product = true := by
  rw [evaluatePhase, hphase] at h
  simp only [evaluateAirFallbackActive, huser] at h
  split at h
  · cases h
    cases hvalidating
  by_contra hproduct
  rw [Bool.not_eq_true] at hproduct
  simp only [evaluateAirFallbackAutomatic, hproduct, Bool.not_false, if_true] at h
  cases h
  cases hphase.symm.trans hvalidating

/-- A validation is entered from the fallback to air. -/
theorem fallback_of_validating (hvalid : validRuntimeCombination current.runtime = true)
    (h : evaluatePhase current decision now = .ok proposal)
    (hbefore : current.runtime.phase ≠ .returnValidationPending)
    (hvalidating : proposal.runtime.phase = .returnValidationPending) :
    current.runtime.phase = .airFallbackActive := by
  have hproposes := evaluatePhase_proposes hvalid h
  cases hproposes with
  | kept => exact absurd hvalidating hbefore
  | blocked _ _ => exact absurd hvalidating hbefore
  | released _ _ _ => exact absurd hvalidating hbefore
  | rearmed hphase _ => exact hphase
  | validating _ hphase _ _ _ => exact hphase
  | locked | failed | asked | recovered | continued | fellBack | returned | validated |
    aborted => cases hvalidating

theorem SelectionEvent.Enters.usable (h : event.Enters) (huser : event.call.userAction = none) :
    event.productUsable = true := by
  rcases @mutation_cases event.before event.call with ⟨status, hunchanged⟩ |
    ⟨proposal, hvalid, hphase, hmarks, -⟩
  · refine absurd ?_ h.1
    have hsame : event.after.runtime.phase = event.before.runtime.phase := by
      rw [SelectionEvent.after, SelectionEvent.mutation, hunchanged]
      rfl
    rw [← hsame]
    exact h.2
  · have hvalidating : proposal.runtime.phase = .returnValidationPending :=
      (congrArg ReturnMarks.phase hmarks).symm.trans h.2
    have hfallback := fallback_of_validating hvalid hphase h.1 hvalidating
    exact usable_of_validating huser hfallback hphase hvalidating

/-- An event with a usable product moves the marks. -/
theorem SelectionEvent.moves (huser : event.call.userAction = none)
    (hproduct : event.productUsable = true) :
    ∃ aborted, ReturnMove event.revision event.before.runtime.marks aborted
        event.after.runtime.marks ∧ (event.mutation.aborts = true → aborted = true) :=
  mutation_moves hproduct huser

end Entry

/-! ## Between two entries -/

/-- The return was last tried under a revision, and nothing has armed it since. -/
def Watched (revision : UInt32) (marks : ReturnMarks) : Prop :=
  (marks.armed = false ∧ marks.observed = some revision) ∨
    (marks.phase ≠ .airFallbackActive ∧ marks.phase ≠ .returnValidationPending)

section Watch

variable {revision current : UInt32} {before after : ReturnMarks} {aborted : Bool}

/-- A return stays watched until a validation begins. -/
theorem Watched.move (h : Watched revision before)
    (hmove : ReturnMove current before aborted after)
    (hnone : ¬(before.phase ≠ .returnValidationPending ∧
      after.phase = .returnValidationPending)) : Watched revision after := by
  cases hmove with
  | stays => exact h
  | leaves hphase => exact .inr hphase
  | opens hphase => exact absurd ⟨by rw [hphase]; nofun, rfl⟩ hnone
  | aborts hphase =>
      rcases h with ⟨-, hobserved⟩ | ⟨-, hother⟩
      · exact .inl ⟨rfl, hobserved⟩
      · exact absurd hphase hother

/-- A validation that begins while the return is watched has another revision. -/
theorem Watched.reentered (h : Watched revision before)
    (hmove : ReturnMove current before aborted after)
    (hbefore : before.phase ≠ .returnValidationPending)
    (hafter : after.phase = .returnValidationPending) : revision ≠ current := by
  cases hmove with
  | stays => exact absurd hafter hbefore
  | leaves hphase => exact absurd hafter hphase.2
  | opens hphase hdue =>
      rintro rfl
      rcases h with ⟨hunarmed, hobserved⟩ | ⟨hother, -⟩
      · rcases hdue with hchanged | harmed
        · exact hchanged hobserved
        · exact absurd (harmed.symm.trans hunarmed) nofun
      · exact hother hphase
  | aborts hphase => exact absurd hphase hbefore

/-- A validation that has begun is watched under its revision. -/
theorem watched_of_entered (hmove : ReturnMove current before aborted after)
    (hbefore : before.phase ≠ .returnValidationPending)
    (hafter : after.phase = .returnValidationPending) :
    after.observed = some current ∧ Watched current after := by
  cases hmove with
  | stays => exact absurd hafter hbefore
  | leaves hphase => exact absurd hafter hphase.2
  | opens => exact ⟨rfl, .inl ⟨rfl, rfl⟩⟩
  | aborts hphase => exact absurd hphase hbefore

end Watch

section Run

variable {start last : SensorSelectionStateView} {events : List SelectionEvent}

/-- What an event keeps watched, as long as it neither begins a validation nor sees a
failure of the product. -/
theorem watched_step {revision : UInt32} {current next : SensorSelectionStateView}
    {event : SelectionEvent} (h : Watched revision current.runtime.marks)
    (hstep : (¬event.Enters ∧ ¬event.SeesFailure) ∧ AutomaticStep current event next) :
    Watched revision next.runtime.marks := by
  obtain ⟨⟨henters, hfailure⟩, rfl, huser, rfl⟩ := hstep
  cases hproduct : event.productUsable with
  | false =>
      have hsame : event.after = event.before := by
        by_contra hchanged
        exact hfailure ⟨hproduct, hchanged⟩
      rw [hsame]
      exact h
  | true =>
      obtain ⟨aborted, hmove, -⟩ := event.moves huser hproduct
      exact h.move hmove henters

/-- Between two entries the product fails or the profile revision changes. -/
theorem entries_apart (hrun : Steps AutomaticStep start events last)
    {earlier between later : List SelectionEvent} {first second : SelectionEvent}
    (hsplit : events = earlier ++ first :: (between ++ second :: later))
    (hfirst : first.Enters) (hsecond : second.Enters)
    (hnone : ∀ event ∈ between, ¬event.Enters) :
    (∃ event ∈ between, event.SeesFailure) ∨ first.recorded ≠ some second.revision := by
  rw [or_iff_not_imp_left]
  intro hnever
  rw [hsplit] at hrun
  obtain ⟨-, entered, -, ⟨rfl, hfirstAutomatic, rfl⟩, hrun⟩ := hrun.cut
  obtain ⟨-, -, hbetween, ⟨rfl, hsecondAutomatic, rfl⟩, -⟩ := hrun.cut
  obtain ⟨_, hfirstMove, -⟩ := first.moves hfirstAutomatic (hfirst.usable hfirstAutomatic)
  obtain ⟨_, hsecondMove, -⟩ := second.moves hsecondAutomatic (hsecond.usable hsecondAutomatic)
  obtain ⟨hrecorded, hentered⟩ := watched_of_entered hfirstMove hfirst.1 hfirst.2
  have hwatched : Watched first.revision second.before.runtime.marks := by
    have hallowed : ∀ event ∈ between, ¬event.Enters ∧ ¬event.SeesFailure :=
      fun event hevent => ⟨hnone event hevent, fun hseen => hnever ⟨event, hevent, hseen⟩⟩
    exact @Steps.invariant _ _ _ _ _ _ (fun current => Watched first.revision
      current.runtime.marks) (hbetween.restrict hallowed) hentered watched_step
  intro hsame
  exact hwatched.reentered hsecondMove hsecond.1 hsecond.2 (Option.some.inj (hrecorded.symm.trans hsame))

/-- How often a validation can still be aborted under a revision. -/
def attempts (revision : UInt32) (marks : ReturnMarks) : ℕ :=
  match marks.phase with
  | .airFallbackActive => if marks.observed = some revision ∧ marks.armed = false then 0 else 1
  | .returnValidationPending => if marks.observed = some revision then 1 else 2
  | _ => 0

theorem attempts_eq_zero {revision : UInt32} {marks : ReturnMarks}
    (h : marks.phase ≠ .airFallbackActive ∧ marks.phase ≠ .returnValidationPending) :
    attempts revision marks = 0 := by
  rw [attempts]
  cases hphase : marks.phase with
  | airFallbackActive => exact absurd hphase h.1
  | returnValidationPending => exact absurd hphase h.2
  | _ => rfl

theorem attempts_le_one {revision : UInt32} {marks : ReturnMarks}
    (h : marks.phase = .returnValidationPending → marks.observed = some revision) :
    attempts revision marks ≤ 1 := by
  rw [attempts]
  split
  · split <;> omega
  · rename_i hphase
    rw [if_pos (h hphase)]
  · exact Nat.zero_le 1

/-- An aborted validation is one attempt less. -/
theorem attempts_of_move {revision : UInt32} {before after : ReturnMarks} {aborted : Bool}
    (hmove : ReturnMove revision before aborted after) :
    aborted.toNat + attempts revision after ≤ attempts revision before := by
  cases hmove with
  | stays => exact (Nat.zero_add _).le
  | leaves hphase =>
      rw [attempts_eq_zero hphase]
      exact Nat.zero_le _
  | opens hphase hdue =>
      have hdue : ¬(before.observed = some revision ∧ before.armed = false) := by
        rintro ⟨hobserved, hunarmed⟩
        rcases hdue with hchanged | harmed
        · exact hchanged hobserved
        · exact absurd (harmed.symm.trans hunarmed) nofun
      simp [attempts, hphase, hdue]
  | aborts hphase hunarmed =>
      by_cases hobserved : before.observed = some revision
      · simp [attempts, hphase, hobserved]
      · simp [attempts, hphase, hobserved]

/-- Under one revision and with a usable product a validation is aborted once. -/
theorem aborts_once (hrun : Steps AutomaticStep start events last) {revision : UInt32}
    (hsteady : ∀ event ∈ events, event.productUsable = true ∧ event.revision = revision)
    (hstart : start.runtime.phase = .returnValidationPending →
      start.runtime.marks.observed = some revision) :
    events.countP (·.mutation.aborts) ≤ 1 := by
  have hstep : ∀ {current : SensorSelectionStateView} {event : SelectionEvent}
      {next : SensorSelectionStateView},
      (event.productUsable = true ∧ event.revision = revision) →
      AutomaticStep current event next →
      event.mutation.aborts.toNat + attempts revision next.runtime.marks ≤
        attempts revision current.runtime.marks := by
    rintro current event next ⟨hproduct, rfl⟩ ⟨rfl, huser, rfl⟩
    obtain ⟨aborted, hmove, haborted⟩ := event.moves huser hproduct
    have hcount : event.mutation.aborts.toNat ≤ aborted.toNat := by
      cases haborts : event.mutation.aborts with
      | false => exact Nat.zero_le _
      | true => rw [haborted haborts]
    exact (Nat.add_le_add_right hcount _).trans (attempts_of_move hmove)
  have hbalanced := hrun.balanced_count hsteady hstep
  exact (Nat.le_add_right _ _).trans (hbalanced.trans (attempts_le_one hstart))

/-- The automatic decisions of a run begin a validation anew only after a failure of the
product or under another profile revision, and else they abort one validation at most. -/
theorem validation_never_loops (hrun : Steps AutomaticStep start events last) :
    (∀ earlier first between second later,
      events = earlier ++ first :: (between ++ second :: later) →
      first.Enters → second.Enters → (∀ event ∈ between, ¬event.Enters) →
      (∃ event ∈ between, event.SeesFailure) ∨ first.recorded ≠ some second.revision) ∧
    ∀ revision : UInt32,
      (∀ event ∈ events, event.productUsable = true ∧ event.revision = revision) →
      (start.runtime.phase = .returnValidationPending →
        start.runtime.returnValidation.lastObservedProfileRevision = some revision) →
      events.countP (·.mutation.aborts) ≤ 1 :=
  ⟨fun _ _ _ _ _ hsplit hfirst hsecond hnone => entries_apart hrun hsplit hfirst hsecond hnone,
    fun _ hsteady hstart => aborts_once hrun hsteady hstart⟩

end Run

/-! ## A validation that is aborted -/

/-- Back on air after a restart. -/
def fallbackSelection : SensorSelectionStateView :=
  restartedSelection [49] { provenance := .fallbackActive } .air
    returningProgram.program.sensorSelectionContext (sensorEvidence .valid .valid) 7

/-- An automatic decision with all sensors usable, and the thermal evidence about them. -/
def evidenceCall (status : ThermalCompatibility) (now : UInt64) : SensorSelectionCall where
  program := returningProgram.program.sensorSelectionContext
  plausibility := { sensorEvidence .valid .valid with
    thermalCompatibility := { status, profileRevision := 1 } }
  nowMonotonicMillis := now

/-- The selection after some calls, and their events. -/
def eventsOf (start : SensorSelectionStateView) : List SensorSelectionCall → List SelectionEvent
  | [] => []
  | call :: rest => ⟨call, start⟩ :: eventsOf (start.after (call.mutation start)) rest

theorem steps_eventsOf {start : SensorSelectionStateView} {calls : List SensorSelectionCall}
    (huser : ∀ call ∈ calls, call.userAction = none) :
    ∃ last, Steps AutomaticStep start (eventsOf start calls) last := by
  induction calls generalizing start with
  | nil => exact ⟨start, .start⟩
  | cons call rest ih =>
      obtain ⟨last, hrest⟩ := ih fun call hcall => huser call (List.mem_cons_of_mem _ hcall)
      exact ⟨last, .cons ⟨rfl, huser call List.mem_cons_self, rfl⟩ hrest⟩

/-- A validation is entered, aborted, and not entered again. -/
def abortedCalls : List SensorSelectionCall :=
  [evidenceCall .unavailable 10, evidenceCall .incompatible 20, evidenceCall .incompatible 30]

theorem aborted_validation_once :
    (eventsOf fallbackSelection abortedCalls).countP (·.mutation.aborts) = 1 ∧
    (eventsOf fallbackSelection abortedCalls).countP (·.mutation.aborts) ≤ 1 := by
  obtain ⟨last, hrun⟩ := @steps_eventsOf fallbackSelection abortedCalls (by decide)
  exact ⟨by decide +kernel, (validation_never_loops hrun).2 1 (by decide +kernel) nofun⟩

end Fermentationsschrank

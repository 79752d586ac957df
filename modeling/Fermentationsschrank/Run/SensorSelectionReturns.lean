import Fermentationsschrank.Core.Runs
import Fermentationsschrank.Run.SensorSelectionRuns

/-!
# Returns of the sensor selection

An automatic return from air to the product is validated first.  While the product stays
usable, the phase, the profile revision of the last validation and the mark of a product
failure move by a few rules of their own.
-/

namespace Fermentationsschrank

open SensorSelectionProposal

/-- What the next validation depends on. -/
structure ReturnMarks where
  phase : SensorSelectionPhase
  observed : Option UInt32
  armed : Bool

def SensorSelectionRuntimeState.marks (runtime : SensorSelectionRuntimeState) : ReturnMarks :=
  ⟨runtime.phase, runtime.returnValidation.lastObservedProfileRevision,
    runtime.productReArmPending⟩

/-- How the marks move while the product is usable, and whether a validation is aborted. -/
inductive ReturnMove (revision : UInt32) (before : ReturnMarks) : Bool → ReturnMarks → Prop
  | stays : ReturnMove revision before false before
  | leaves {after : ReturnMarks} (hphase : after.phase ≠ .airFallbackActive ∧
      after.phase ≠ .returnValidationPending) : ReturnMove revision before false after
  | opens (hphase : before.phase = .airFallbackActive)
      (hdue : before.observed ≠ some revision ∨ before.armed = true) :
      ReturnMove revision before false ⟨.returnValidationPending, some revision, false⟩
  | aborts (hphase : before.phase = .returnValidationPending)
      (hunarmed : before.armed = false) :
      ReturnMove revision before true ⟨.airFallbackActive, before.observed, false⟩

/-! ## Evaluations -/

section Evaluation

variable {current : SensorSelectionStateView} {decision : SensorSelectionDecision}
  {now : UInt64} {proposal : SensorSelectionProposal}

/-- The move of a proposal. -/
def ReturnMoves (current : SensorSelectionStateView) (decision : SensorSelectionDecision)
    (proposal : SensorSelectionProposal) : Prop :=
  ReturnMove decision.plausibility.thermalCompatibility.profileRevision current.runtime.marks
    (decide (proposal.cause = .returnValidationAborted)) proposal.runtime.marks

theorem evaluateNormalProduct_moves (hproduct : usable decision.plausibility.product = true)
    (hphase : current.runtime.phase = .normalProduct)
    (h : evaluateNormalProduct current decision now = .ok proposal) :
    ReturnMoves current decision proposal := by
  simp only [evaluateNormalProduct, bind_eq_ok, require_eq_ok] at h
  obtain ⟨_, -, h⟩ := h
  split at h
  · cases h
    exact .leaves ⟨by rintro ⟨⟩, by rintro ⟨⟩⟩
  rw [hproduct] at h
  simp only [Bool.not_true, Bool.false_eq_true, if_false] at h
  have hleaves : current.runtime.phase ≠ .airFallbackActive ∧
      current.runtime.phase ≠ .returnValidationPending := by
    rw [hphase]
    exact ⟨by rintro ⟨⟩, by rintro ⟨⟩⟩
  split at h
  · split at h <;> cases h <;> exact .leaves hleaves
  · split at h <;> cases h <;> exact .leaves hleaves

theorem evaluateNormalAir_moves
    (hphase : current.runtime.phase = .normalAir)
    (h : evaluateNormalAir current decision = .ok proposal) :
    ReturnMoves current decision proposal := by
  have hleaves : current.runtime.phase ≠ .airFallbackActive ∧
      current.runtime.phase ≠ .returnValidationPending := by
    rw [hphase]
    exact ⟨nofun, nofun⟩
  simp only [evaluateNormalAir, bind_eq_ok, require_eq_ok] at h
  obtain ⟨_, -, h⟩ := h
  cases h
  split <;> exact .leaves hleaves

theorem evaluateProductFailureDetected_moves
    (hproduct : usable decision.plausibility.product = true)
    (huser : decision.userAction = none)
    (h : evaluateProductFailureDetected current decision now = .ok proposal) :
    ReturnMoves current decision proposal := by
  simp only [evaluateProductFailureDetected, huser, hproduct, if_true] at h
  split at h
  · cases h
    exact .leaves ⟨by rintro ⟨⟩, by rintro ⟨⟩⟩
  · cases h
    rw [returnFromProductFailure]
    split
    · exact .leaves ⟨by rintro ⟨⟩, by rintro ⟨⟩⟩
    · exact .stays

theorem evaluateUserDecisionRequired_moves (huser : decision.userAction = none)
    (h : evaluateUserDecisionRequired current decision = .ok proposal) :
    ReturnMoves current decision proposal := by
  simp only [evaluateUserDecisionRequired, huser] at h
  split at h
  · cases h
    exact .leaves ⟨by rintro ⟨⟩, by rintro ⟨⟩⟩
  · cases h
    split
    · exact .leaves ⟨by rintro ⟨⟩, by rintro ⟨⟩⟩
    · exact .stays

/-- Only another profile revision or the mark of a failure opens a validation. -/
theorem evaluateAirFallbackActive_moves
    (hproduct : usable decision.plausibility.product = true)
    (huser : decision.userAction = none)
    (hphase : current.runtime.phase = .airFallbackActive)
    (h : evaluateAirFallbackActive current decision now = .ok proposal) :
    ReturnMoves current decision proposal := by
  simp only [evaluateAirFallbackActive, huser] at h
  split at h
  · cases h
    exact .leaves ⟨by rintro ⟨⟩, by rintro ⟨⟩⟩
  simp only [evaluateAirFallbackAutomatic, hproduct, Bool.not_true, Bool.false_eq_true,
    if_false] at h
  split at h
  · rename_i hdue
    simp only [bind_eq_ok, require_eq_ok] at h
    obtain ⟨_, -, h⟩ := h
    cases h
    exact .opens hphase hdue.2
  · cases h
    exact .stays

theorem evaluateReturnValidationPending_moves
    (hproduct : usable decision.plausibility.product = true)
    (hunarmed : current.runtime.productReArmPending = false)
    (hphase : current.runtime.phase = .returnValidationPending)
    (h : evaluateReturnValidationPending current decision = .ok proposal) :
    ReturnMoves current decision proposal := by
  simp only [evaluateReturnValidationPending, bind_eq_ok, require_eq_ok, hproduct] at h
  obtain ⟨_, -, h⟩ := h
  split at h
  · cases h
    exact .leaves ⟨by rintro ⟨⟩, by rintro ⟨⟩⟩
  split at h
  · cases h
    have hkept : (current.runtime.productReArmPending || !true) = false := by
      rw [hunarmed]
      rfl
    rw [ReturnMoves, abortReturnValidation]
    simp only [SensorSelectionRuntimeState.marks, keep, hkept]
    exact .aborts hphase hunarmed
  simp only [bind_eq_ok, require_eq_ok] at h
  obtain ⟨_, -, h⟩ := h
  split at h
  · cases h
    exact .leaves ⟨by rintro ⟨⟩, by rintro ⟨⟩⟩
  · cases h
    exact .stays

theorem evaluatePhase_moves (hvalid : validRuntimeCombination current.runtime = true)
    (hproduct : usable decision.plausibility.product = true)
    (huser : decision.userAction = none)
    (h : evaluatePhase current decision now = .ok proposal) :
    ReturnMoves current decision proposal := by
  rw [evaluatePhase] at h
  cases hphase : current.runtime.phase with
  | normalProduct =>
      rw [hphase] at h
      exact evaluateNormalProduct_moves hproduct hphase h
  | normalAir =>
      rw [hphase] at h
      exact evaluateNormalAir_moves hphase h
  | productFailureDetected =>
      rw [hphase] at h
      exact evaluateProductFailureDetected_moves hproduct huser h
  | userDecisionRequired =>
      rw [hphase] at h
      exact evaluateUserDecisionRequired_moves huser h
  | airFallbackActive =>
      rw [hphase] at h
      exact evaluateAirFallbackActive_moves hproduct huser hphase h
  | returnValidationPending =>
      rw [hphase] at h
      have hunarmed : current.runtime.productReArmPending = false := by
        obtain ⟨-, -, -, -, harmed⟩ := (validRuntimeCombination_iff
          (by rw [hphase]; rintro ⟨⟩)).mp hvalid
        rw [hphase] at harmed
        exact Bool.eq_false_iff.mpr fun hpending => absurd (harmed hpending) (by rintro ⟨⟩)
      exact evaluateReturnValidationPending_moves hproduct hunarmed hphase h
  | safeLocked =>
      rw [hphase, huser] at h
      cases h
      exact .stays
  | noActiveRun =>
      rw [hphase] at h
      cases h
  | restartRevalidationPending =>
      rw [hphase] at h
      cases h

end Evaluation

/-! ## Calls -/

/-- The mutation records an aborted validation in the store, and announces it. -/
def SensorSelectionStateMutation.aborts (mutation : SensorSelectionStateMutation) : Bool :=
  decide (mutation.status = .appliedPersistentCandidate) &&
    mutation.notice.any (·.cause = .returnValidationAborted)

section Call

variable {current : SensorSelectionStateView} {call : SensorSelectionCall}

/-- A mutation leaves the selection, or it is the proposal of the phase. -/
theorem mutation_cases : (∃ status, call.mutation current = sensorSelectionUnchanged current status) ∨
    ∃ proposal, validRuntimeCombination current.runtime = true ∧
      evaluatePhase current (call.decision current) call.nowMonotonicMillis = .ok proposal ∧
      (call.mutation current).runtime.marks = proposal.runtime.marks ∧
      ((call.mutation current).aborts = true → proposal.cause = .returnValidationAborted) := by
  rw [SensorSelectionCall.mutation, applySensorSelectionDecision]
  cases hdecide : decideSensorSelectionMutation current (call.decision current)
      call.nowMonotonicMillis with
  | error status => exact .inl ⟨status, rfl⟩
  | ok mutation =>
      simp only [decideSensorSelectionMutation, bind_eq_ok, require_eq_ok] at hdecide
      obtain ⟨_, -, _, hvalid, _, -, proposal, hphase, hdecide⟩ := hdecide
      split at hdecide
      · cases hdecide
        exact .inl ⟨_, rfl⟩
      split at hdecide
      · cases hdecide
        exact .inr ⟨proposal, hvalid, hphase, rfl, by rintro ⟨⟩⟩
      · refine .inr ⟨proposal, hvalid, hphase, ?_⟩
        simp only [persistentCandidate, bind_eq_ok, require_eq_ok] at hdecide
        obtain ⟨_, -, hdecide⟩ := hdecide
        split at hdecide
        · cases hdecide
          exact ⟨rfl, fun haborts => by
            simpa [SensorSelectionStateMutation.aborts] using haborts⟩
        · simp only [bind_eq_ok] at hdecide
          obtain ⟨_, -, _, -, hdecide⟩ := hdecide
          cases hdecide
          exact ⟨rfl, by rintro ⟨⟩⟩

/-- An automatic decision about a usable product moves the marks. -/
theorem mutation_moves (hproduct : usable call.plausibility.product = true)
    (huser : call.userAction = none) :
    ∃ aborted, ReturnMove call.plausibility.thermalCompatibility.profileRevision
        current.runtime.marks aborted (call.mutation current).runtime.marks ∧
      ((call.mutation current).aborts = true → aborted = true) := by
  rcases @mutation_cases current call with ⟨status, hunchanged⟩ |
    ⟨proposal, hvalid, hphase, hmarks, haborts⟩
  · rw [hunchanged]
    exact ⟨false, .stays, fun habsent => by simp [sensorSelectionUnchanged,
      SensorSelectionStateMutation.aborts] at habsent⟩
  · have hmoves : ReturnMoves current (call.decision current) proposal :=
      evaluatePhase_moves hvalid hproduct huser hphase
    rw [hmarks]
    exact ⟨_, hmoves, fun haborted => decide_eq_true (haborts haborted)⟩

end Call

end Fermentationsschrank

import Mathlib.Algebra.BigOperators.Group.List.Basic
import Mathlib.Data.List.Induction

/-!
# Runs of a transition system

A system moves from state to state, and each step carries a label that says
what happened.  A run is a finite sequence of steps.  Two rules lead from one
step to a whole run: what every step keeps is kept, and what every step books adds
up.
-/

namespace Fermentationsschrank

variable {State Label : Type}

/-- A run from the first state, with the labels of its steps in their order. -/
inductive Steps (Step : State → Label → State → Prop) (first : State) :
    List Label → State → Prop
  | start : Steps Step first [] first
  | step {labels middle label last} (hrun : Steps Step first labels middle)
      (hstep : Step middle label last) : Steps Step first (labels ++ [label]) last

namespace Steps

variable {Step : State → Label → State → Prop} {first last : State} {labels : List Label}

/-- What holds at first and is kept by every step holds at last. -/
theorem invariant {holds : State → Prop} (hrun : Steps Step first labels last)
    (hfirst : holds first)
    (hkept : ∀ {state label next}, holds state → Step state label next → holds next) :
    holds last := by
  induction hrun with
  | start => exact hfirst
  | step _ hstep ih => exact hkept ih hstep

/-- A step before a run. -/
theorem cons {label : Label} {second : State} (hstep : Step first label second)
    (hrun : Steps Step second labels last) : Steps Step first (label :: labels) last := by
  induction hrun with
  | start => exact .step .start hstep
  | step _ hlast ih => exact .step ih hlast

/-- A run after a run. -/
theorem append {middle : State} {later : List Label} (hrun : Steps Step first labels middle)
    (hlater : Steps Step middle later last) : Steps Step first (labels ++ later) last := by
  induction hlater with
  | start => rwa [List.append_nil]
  | step _ hstep ih =>
      rw [← List.append_assoc]
      exact .step ih hstep

/-- What every step says of its label holds of every label of the run. -/
theorem forall_label {holds : State → Prop} {good : Label → Prop}
    (hrun : Steps Step first labels last) (hfirst : holds first)
    (hkept : ∀ {state label next}, holds state → Step state label next → holds next)
    (hgood : ∀ {state label next}, holds state → Step state label next → good label) :
    ∀ label ∈ labels, good label := by
  induction hrun with
  | start => simp
  | step hrun hstep ih =>
      intro label hlabel
      rw [List.mem_append, List.mem_singleton] at hlabel
      rcases hlabel with hearlier | rfl
      · exact ih label hearlier
      · exact hgood (hrun.invariant hfirst hkept) hstep

/-- An amount that every step books by its label is what the labels book in their order. -/
theorem ledger {Amount : Type} {amount : State → Amount} {book : Amount → Label → Amount}
    {holds : State → Prop} {allowed : Label → Prop} (hrun : Steps Step first labels last)
    (hfirst : holds first) (hallowed : ∀ label ∈ labels, allowed label)
    (hbooks : ∀ {state label next}, holds state → allowed label → Step state label next →
      amount next = book (amount state) label ∧ holds next) :
    amount last = labels.foldl book (amount first) ∧ holds last := by
  induction hrun with
  | start => exact ⟨rfl, hfirst⟩
  | @step earlier middle label last hrun hstep ih =>
      obtain ⟨hamount, hmiddle⟩ := ih fun label hlabel =>
        hallowed label (List.mem_append_left _ hlabel)
      obtain ⟨hbooked, hlast⟩ := hbooks hmiddle
        (hallowed label (List.mem_append_right _ List.mem_cons_self)) hstep
      refine ⟨?_, hlast⟩
      rw [hbooked, hamount, List.foldl_append, List.foldl_cons, List.foldl_nil]

/-- A quantity that grows by one with every marked step counts the marked steps. -/
theorem count {measure : State → ℕ} {marked : Label → Bool} {holds : State → Prop}
    (hrun : Steps Step first labels last) (hfirst : holds first)
    (hkept : ∀ {state label next}, holds state → Step state label next → holds next)
    (hcount : ∀ {state label next}, holds state → Step state label next →
      measure next = measure state + (marked label).toNat) :
    measure last = measure first + labels.countP marked := by
  induction hrun with
  | start => rfl
  | step hrun hstep ih =>
      have hmiddle := hrun.invariant hfirst hkept
      rw [hcount hmiddle hstep, ih, List.countP_append, List.countP_singleton, Nat.add_assoc]
      cases marked _ <;> rfl

/-- An observer keeps a record of the labels.  What every step says of the record before
it and of its label holds at every place of the run. -/
theorem observed {Record : Type} {observe : Record → Label → Record}
    {knows : State → Record → Prop} {good : Record → Label → Prop} {record : Record}
    (hrun : Steps Step first labels last) (hfirst : knows first record)
    (hstep : ∀ {state record label next}, knows state record → Step state label next →
      good record label ∧ knows next (observe record label)) :
    knows last (labels.foldl observe record) ∧
      ∀ earlier label later, labels = earlier ++ label :: later →
        good (earlier.foldl observe record) label := by
  induction hrun with
  | start => exact ⟨hfirst, fun earlier _ _ h => by simp at h⟩
  | @step before middle current last hrun hlast ih =>
      obtain ⟨hmiddle, hearlier⟩ := ih
      obtain ⟨hgood, hknows⟩ := hstep hmiddle hlast
      refine ⟨by rw [List.foldl_append]; exact hknows, fun earlier label later hsplit => ?_⟩
      rcases List.eq_nil_or_concat later with rfl | ⟨rest, final, rfl⟩
      · obtain ⟨rfl, hlabel⟩ := List.append_inj' hsplit rfl
        cases hlabel
        exact hgood
      · rw [List.concat_eq_append, ← List.cons_append, ← List.append_assoc] at hsplit
        exact hearlier earlier label rest (List.append_inj' hsplit rfl).1

/-- An observer who forgets nothing. -/
theorem recorded {knows : State → List Label → Prop} {good : List Label → Label → Prop}
    (hrun : Steps Step first labels last) (hfirst : knows first [])
    (hstep : ∀ {state past label next}, knows state past → Step state label next →
      good past label ∧ knows next (past ++ [label])) :
    knows last labels ∧
      ∀ earlier label later, labels = earlier ++ label :: later → good earlier label := by
  have hpast : ∀ past labels : List Label,
      labels.foldl (fun past label => past ++ [label]) past = past ++ labels := by
    intro past labels
    induction labels generalizing past with
    | nil => exact (List.append_nil past).symm
    | cons label rest ih =>
        rw [List.foldl_cons, ih, List.append_assoc, List.singleton_append]
  obtain ⟨hknows, hgood⟩ := hrun.observed hfirst hstep
  rw [hpast, List.nil_append] at hknows
  refine ⟨hknows, fun earlier label later hsplit => ?_⟩
  have hsaid := hgood earlier label later hsplit
  rwa [hpast, List.nil_append] at hsaid

/-- A run can be cut at every place. -/
theorem split {earlier later : List Label}
    (hrun : Steps Step first (earlier ++ later) last) :
    ∃ middle, Steps Step first earlier middle ∧ Steps Step middle later last := by
  induction later using List.reverseRecOn generalizing last with
  | nil =>
      rw [List.append_nil] at hrun
      exact ⟨last, hrun, .start⟩
  | append_singleton rest label ih =>
      rw [← List.append_assoc] at hrun
      generalize hlabels : earlier ++ rest ++ [label] = labels at hrun
      cases hrun with
      | start => simp at hlabels
      | step hrun hlast =>
          obtain ⟨rfl, hlabel⟩ := List.append_inj' hlabels rfl
          cases hlabel
          obtain ⟨middle, hearlier, hlater⟩ := ih hrun
          exact ⟨middle, hearlier, .step hlater hlast⟩

/-- The step that a label of a run stands for. -/
theorem cut {earlier later : List Label} {label : Label}
    (hrun : Steps Step first (earlier ++ label :: later) last) :
    ∃ before after, Steps Step first earlier before ∧ Step before label after ∧
      Steps Step after later last := by
  rw [← List.singleton_append] at hrun
  obtain ⟨before, hearlier, hrun⟩ := hrun.split
  obtain ⟨after, hstep, hlater⟩ := hrun.split
  generalize hlabels : [label] = labels at hstep
  cases hstep with
  | start => cases hlabels
  | @step empty _ found _ hempty hstep =>
      obtain ⟨rfl, hlabel⟩ := List.append_inj' (show [] ++ [label] = _ from hlabels) rfl
      cases hlabel
      generalize hnone : ([] : List Label) = labels at hempty
      cases hempty with
      | start => exact ⟨_, after, hearlier, hstep, hlater⟩
      | step => simp at hnone

/-- A run whose labels are all allowed takes allowed steps only. -/
theorem restrict {allowed : Label → Prop} (hrun : Steps Step first labels last)
    (hallowed : ∀ label ∈ labels, allowed label) :
    Steps (fun state label next => allowed label ∧ Step state label next) first labels last := by
  induction hrun with
  | start => exact .start
  | step _ hstep ih =>
      have hlabel := hallowed _ (List.mem_append_right _ List.mem_cons_self)
      exact .step (ih fun label hlabel => hallowed label (List.mem_append_left _ hlabel))
        ⟨hlabel, hstep⟩

end Steps

end Fermentationsschrank

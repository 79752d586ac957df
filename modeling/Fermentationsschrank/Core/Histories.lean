import Mathlib.Data.List.Basic

/-!
# Laws of a history

A history lists what has happened, the oldest entry first.  A law says of every entry
what must have happened before it.
-/

namespace Fermentationsschrank

variable {Entry : Type} {allowed : List Entry → Entry → Prop}

/-- Every entry of the history is allowed by the entries before it. -/
def Lawful (allowed : List Entry → Entry → Prop) (history : List Entry) : Prop :=
  ∀ before entry after, history = before ++ entry :: after → allowed before entry

theorem lawful_nil : Lawful allowed [] :=
  fun _ _ _ h => absurd h.symm (List.append_ne_nil_of_right_ne_nil _ (List.cons_ne_nil _ _))

/-- The law of a longer history is the law of the shorter one and of its last entry. -/
theorem lawful_concat {history : List Entry} {entry : Entry} :
    Lawful allowed (history ++ [entry]) ↔ Lawful allowed history ∧ allowed history entry := by
  constructor
  · intro h
    refine ⟨fun before found after hsplit => ?_, h history entry [] rfl⟩
    apply h before found (after ++ [entry])
    rw [hsplit, List.append_assoc, List.cons_append]
  · intro ⟨hlawful, hentry⟩ before found after hsplit
    rcases List.eq_nil_or_concat after with rfl | ⟨rest, final, rfl⟩
    · obtain ⟨rfl, hlast⟩ := List.append_inj' hsplit rfl
      cases hlast
      exact hentry
    · rw [List.concat_eq_append, ← List.cons_append, ← List.append_assoc] at hsplit
      exact hlawful before found rest (List.append_inj' hsplit rfl).1

/-- The law at an entry that stands somewhere after a given place. -/
theorem Lawful.after {history before after : List Entry} {entry later : Entry}
    (h : Lawful allowed history) (hsplit : history = before ++ entry :: after)
    (hlater : later ∈ after) :
    ∃ between, allowed (before ++ entry :: between) later := by
  obtain ⟨between, rest, rfl⟩ := List.append_of_mem hlater
  refine ⟨between, h _ later rest ?_⟩
  rw [hsplit, List.append_assoc, List.cons_append]

end Fermentationsschrank

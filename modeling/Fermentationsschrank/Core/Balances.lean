import Fermentationsschrank.Core.Runs
import Mathlib.Algebra.Order.BigOperators.Group.List
import Mathlib.Algebra.Order.Field.Basic
import Mathlib.Tactic.Linarith

/-!
# Balances over runs

A bank takes deposits of any size and pays them out in units, so that it never pays more
than it took.  Over a run, what every step keeps within its balance adds up.
-/

namespace Fermentationsschrank

/-! ## Runs -/

section Runs

variable {State Label Amount : Type} {Step : State → Label → State → Prop}
variable [AddCommMonoid Amount] [PartialOrder Amount] [IsOrderedAddMonoid Amount]

/-- When no allowed step spends more than it gains and takes from the reserve, neither does
a run of them. -/
theorem Steps.balanced {first last : State} {labels : List Label} {reserve : State → Amount}
    {gain spend : Label → Amount} {holds : State → Prop} {allowed : Label → Prop}
    (hrun : Steps Step first labels last) (hfirst : holds first)
    (hallowed : ∀ label ∈ labels, allowed label)
    (hkept : ∀ {state label next}, holds state → Step state label next → holds next)
    (hstep : ∀ {state label next}, holds state → allowed label → Step state label next →
      spend label + reserve next ≤ reserve state + gain label) :
    (labels.map spend).sum + reserve last ≤ reserve first + (labels.map gain).sum := by
  induction hrun with
  | start => simp
  | @step labels middle label last hrun hlast ih =>
      have hmiddle := hrun.invariant hfirst hkept
      have hearlier := ih fun label hlabel => hallowed label (List.mem_append_left _ hlabel)
      have hlabel := hallowed label (List.mem_append_right _ List.mem_cons_self)
      simp only [List.map_append, List.sum_append, List.map_singleton, List.sum_singleton]
      calc (labels.map spend).sum + spend label + reserve last
          = (labels.map spend).sum + (spend label + reserve last) := add_assoc ..
        _ ≤ (labels.map spend).sum + (reserve middle + gain label) :=
            add_le_add_right (hstep hmiddle hlabel hlast) _
        _ = (labels.map spend).sum + reserve middle + gain label := (add_assoc ..).symm
        _ ≤ reserve first + (labels.map gain).sum + gain label := add_le_add_left hearlier _
        _ = reserve first + ((labels.map gain).sum + gain label) := add_assoc ..

/-- When every marked step takes from the reserve, there are no more of them than it has. -/
theorem Steps.balanced_count {first last : State} {labels : List Label} {reserve : State → ℕ}
    {marked : Label → Bool} {allowed : Label → Prop} (hrun : Steps Step first labels last)
    (hallowed : ∀ label ∈ labels, allowed label)
    (hstep : ∀ {state label next}, allowed label → Step state label next →
      (marked label).toNat + reserve next ≤ reserve state) :
    labels.countP marked + reserve last ≤ reserve first := by
  induction hrun with
  | start => exact (Nat.zero_add _).le
  | @step labels middle label last hrun hlast ih =>
      have hearlier := ih fun label hlabel => hallowed label (List.mem_append_left _ hlabel)
      have hlabel := hstep (hallowed label (List.mem_append_right _ List.mem_cons_self)) hlast
      have hmarked : (marked label).toNat = if marked label then 1 else 0 := by
        cases marked label <;> rfl
      rw [List.countP_append, List.countP_singleton, ← hmarked]
      omega

end Runs

/-! ## Banks -/

/-- A bank that pays in units and holds no more than its cap. -/
structure Bank (Amount : Type) [Zero Amount] [LE Amount] [LT Amount] where
  unit : Amount
  cap : Amount
  unit_pos : 0 < unit
  unit_le_cap : unit ≤ cap

namespace Bank

variable {Amount : Type} [Field Amount] [LinearOrder Amount]

def credit (bank : Bank Amount) (balance amount : Amount) : Amount :=
  min (balance + amount) bank.cap

/-- What a deposit pays out, and the balance it leaves. -/
def deposit (bank : Bank Amount) (balance amount : Amount) : Amount × Amount :=
  if bank.unit ≤ bank.credit balance amount then
    (bank.unit, bank.credit balance amount - bank.unit)
  else (0, bank.credit balance amount)

/-- Less than a unit is held back. -/
def Sound (bank : Bank Amount) (balance : Amount) : Prop := 0 ≤ balance ∧ balance < bank.unit

variable {bank : Bank Amount} {balance amount : Amount}

theorem sound_zero : bank.Sound 0 := ⟨le_rfl, bank.unit_pos⟩

theorem Sound.lt_cap (h : bank.Sound balance) : balance < bank.cap :=
  h.2.trans_le bank.unit_le_cap

theorem deposit_of_paid (h : bank.unit ≤ bank.credit balance amount) :
    bank.deposit balance amount = (bank.unit, bank.credit balance amount - bank.unit) :=
  if_pos h

theorem deposit_of_held (h : ¬bank.unit ≤ bank.credit balance amount) :
    bank.deposit balance amount = (0, bank.credit balance amount) := if_neg h

/-- A deposit is paid out, kept or lost to the cap. -/
theorem deposit_le : (bank.deposit balance amount).1 + (bank.deposit balance amount).2 ≤
    balance + amount := by
  have hcredit : bank.credit balance amount ≤ balance + amount := min_le_left _ _
  rw [deposit]
  split
  · rwa [add_sub_cancel]
  · rwa [zero_add]

variable [IsStrictOrderedRing Amount]

theorem sound_deposit (h : bank.Sound balance) (hamount : 0 ≤ amount)
    (hsmall : amount < bank.unit) : bank.Sound (bank.deposit balance amount).2 := by
  rw [deposit]
  split
  · rename_i hpaid
    have hcredit : bank.credit balance amount ≤ balance + amount := min_le_left _ _
    have hbalance := h.2
    exact ⟨sub_nonneg.mpr hpaid, by linarith⟩
  · rename_i hheld
    have hcap : 0 ≤ bank.cap := bank.unit_pos.le.trans bank.unit_le_cap
    exact ⟨le_min (add_nonneg h.1 hamount) hcap, not_le.mp hheld⟩

end Bank

end Fermentationsschrank

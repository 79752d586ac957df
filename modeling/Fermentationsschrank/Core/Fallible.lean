import Mathlib.Tactic.TypeStar

/-!
# Checked steps

Decoders and validators are chains of checks, each with the status it reports.
These are the chain's links and the lemmas that take a chain apart again.
-/

namespace Fermentationsschrank

variable {ε α β : Type}

/-- Continue only when the condition holds. -/
def require (condition : Bool) (failure : ε) : Except ε Unit :=
  if condition then .ok () else .error failure

/-- Continue with the value, report `failure` when there is none. -/
def orFail (value : Option α) (failure : ε) : Except ε α :=
  match value with
  | some found => .ok found
  | none => .error failure

@[simp]
theorem require_eq_ok {condition : Bool} {failure : ε} {result : Unit} :
    require condition failure = .ok result ↔ condition = true := by
  cases condition <;> simp [require]

@[simp]
theorem orFail_eq_ok {value : Option α} {failure : ε} {result : α} :
    orFail value failure = .ok result ↔ value = some result := by
  cases value <;> simp [orFail]

@[simp]
theorem require_true (failure : ε) : require true failure = .ok () := rfl

@[simp]
theorem orFail_some (found : α) (failure : ε) :
    orFail (some found) failure = .ok found := rfl

@[simp]
theorem bind_eq_ok {first : Except ε α} {next : α → Except ε β} {result : β} :
    first >>= next = .ok result ↔
      ∃ middle, first = .ok middle ∧ next middle = .ok result := by
  cases first with
  | error failure => exact ⟨fun h => (nomatch h), fun ⟨_, h, _⟩ => (nomatch h)⟩
  | ok found =>
      constructor
      · intro h
        exact ⟨found, rfl, h⟩
      · rintro ⟨middle, hmiddle, h⟩
        cases hmiddle
        exact h

@[simp]
theorem ok_bind (found : α) (next : α → Except ε β) :
    (Except.ok found : Except ε α) >>= next = next found := rfl

theorem toOption_eq_some {result : Except ε α} {value : α} :
    result.toOption = some value ↔ result = .ok value := by
  cases result <;> simp [Except.toOption]

/-! ## What a chain may fail with -/

/-- Every failure of the chain is of one kind. -/
def FailsWith (kind : ε → Prop) (checked : Except ε α) : Prop :=
  ∀ failure, checked = .error failure → kind failure

variable {kind : ε → Prop}

theorem failsWith_ok (value : α) : FailsWith kind (.ok value) := by
  intro failure h
  cases h

theorem failsWith_error {failure : ε} (h : kind failure) :
    FailsWith (α := α) kind (.error failure) := by
  intro found hfound
  cases hfound
  exact h

theorem failsWith_require {condition : Bool} {failure : ε} (h : kind failure) :
    FailsWith kind (require condition failure) := by
  cases condition with
  | true => exact failsWith_ok ()
  | false => exact failsWith_error h

theorem failsWith_orFail {value : Option α} {failure : ε} (h : kind failure) :
    FailsWith kind (orFail value failure) := by
  cases value with
  | some found => exact failsWith_ok found
  | none => exact failsWith_error h

theorem failsWith_bind {first : Except ε α} {next : α → Except ε β}
    (hfirst : FailsWith kind first) (hnext : ∀ value, FailsWith kind (next value)) :
    FailsWith kind (first >>= next) := by
  cases first with
  | error failure => exact failsWith_error (hfirst failure rfl)
  | ok value => exact hnext value

end Fermentationsschrank

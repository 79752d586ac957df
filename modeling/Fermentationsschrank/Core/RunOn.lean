import Mathlib.Data.Set.Insert
import Mathlib.Order.MinMax

/-!
# Running on

A drive that is switched off keeps running until a deadline.  It may be asked to stop more
than once, and it may be started again meanwhile; it keeps the latest of its deadlines until
it has stopped.
-/

namespace Fermentationsschrank

variable {Time : Type} [LinearOrder Time]

structure RunOn (Time : Type) where
  active : Bool
  asked : Bool
  deadline : Option Time

namespace RunOn

variable (drive : RunOn Time)

def start : RunOn Time :=
  { drive with active := true, asked := false }

/-- The drive is asked to stop at a deadline, and keeps the later of two. -/
def ask (deadline : Time) : RunOn Time where
  active := true
  asked := true
  deadline := some (drive.deadline.elim deadline (max · deadline))

/-- The drive stops once its deadline is reached. -/
def expire (now : Time) : RunOn Time :=
  if drive.active ∧ drive.asked ∧ drive.deadline.any (· ≤ now) then
    { drive with active := false, deadline := none }
  else drive

variable {drive} {clock now : Time} {deadlines : Set Time}

@[simp]
theorem asked_expire : (drive.expire now).asked = drive.asked := by
  rw [expire]
  split <;> rfl

theorem active_of_expire (h : (drive.expire now).active = true) : drive.active = true := by
  rw [expire] at h
  split at h
  · cases h
  · exact h

/-- The drive covers the deadlines it was ever asked to keep, as far as they lie ahead. -/
structure Covers (clock : Time) (deadlines : Set Time) (drive : RunOn Time) : Prop where
  off : drive.active = false → ∀ deadline ∈ deadlines, deadline ≤ clock
  ahead : ∀ deadline ∈ deadlines, clock < deadline →
    ∃ latest, drive.deadline = some latest ∧ deadline ≤ latest
  kept : ∀ latest, drive.deadline = some latest → latest ∈ deadlines
  armed : drive.active = true → drive.asked = true → drive.deadline.isSome = true

theorem Covers.mono (h : Covers clock deadlines drive) (hle : clock ≤ now) :
    Covers now deadlines drive where
  off hoff deadline hdeadline := (h.off hoff deadline hdeadline).trans hle
  ahead deadline hdeadline hahead := h.ahead deadline hdeadline (hle.trans_lt hahead)
  kept := h.kept
  armed := h.armed

theorem Covers.start (h : Covers clock deadlines drive) :
    Covers clock deadlines drive.start where
  off := nofun
  ahead := h.ahead
  kept := h.kept
  armed _ := nofun

theorem Covers.ask {deadline : Time} (h : Covers clock deadlines drive) :
    Covers clock (insert deadline deadlines) (drive.ask deadline) where
  off := nofun
  ahead found hfound hahead := by
    refine ⟨_, rfl, ?_⟩
    rcases hfound with rfl | hfound
    · cases drive.deadline with
      | none => exact le_rfl
      | some latest => exact le_max_right latest found
    · obtain ⟨latest, hlatest, hle⟩ := h.ahead found hfound hahead
      rw [hlatest]
      exact hle.trans (le_max_left latest deadline)
  kept latest hlatest := by
    cases hdeadline : drive.deadline with
    | none =>
        rw [RunOn.ask, hdeadline] at hlatest
        exact .inl (Option.some.inj hlatest).symm
    | some earlier =>
        rw [RunOn.ask, hdeadline] at hlatest
        have hmax : max earlier deadline = latest := Option.some.inj hlatest
        rcases max_choice earlier deadline with hchoice | hchoice
        · rw [← hmax, hchoice]
          exact .inr (h.kept earlier hdeadline)
        · exact .inl (hmax.symm.trans hchoice)
  armed _ _ := rfl

/-- A drive that was asked to stop runs exactly as long as a deadline lies ahead. -/
theorem Covers.expire (h : Covers clock deadlines drive) (hle : clock ≤ now)
    (hasked : drive.active = true → drive.asked = true) :
    Covers now deadlines (drive.expire now) ∧
      ((drive.expire now).active = true ↔ ∃ deadline ∈ deadlines, now < deadline) := by
  have hlater := h.mono hle
  cases hactive : drive.active with
  | false =>
      have hkept : drive.expire now = drive := by
        rw [RunOn.expire, if_neg]
        exact fun hexpired => nomatch hactive.symm.trans hexpired.1
      rw [hkept, hactive]
      refine ⟨hlater, nofun, fun ⟨deadline, hdeadline, hahead⟩ => ?_⟩
      exact absurd (hlater.off hactive deadline hdeadline) (not_le_of_gt hahead)
  | true =>
      obtain ⟨latest, hlatest⟩ := Option.isSome_iff_exists.mp (h.armed hactive (hasked hactive))
      by_cases hreached : latest ≤ now
      · have hstopped : drive.expire now = { drive with active := false, deadline := none } := by
          rw [RunOn.expire, if_pos ⟨hactive, hasked hactive, by simpa [hlatest] using hreached⟩]
        have hpassed : ∀ deadline ∈ deadlines, deadline ≤ now := fun deadline hdeadline => by
          by_contra hahead
          obtain ⟨found, hfound, hbound⟩ := hlater.ahead deadline hdeadline (not_le.mp hahead)
          cases hlatest.symm.trans hfound
          exact hahead (hbound.trans hreached)
        rw [hstopped]
        refine ⟨⟨fun _ => hpassed, fun deadline hdeadline hahead => ?_, nofun, nofun⟩, nofun,
          fun ⟨deadline, hdeadline, hahead⟩ => ?_⟩
        · exact absurd (hpassed deadline hdeadline) (not_le_of_gt hahead)
        · exact absurd (hpassed deadline hdeadline) (not_le_of_gt hahead)
      · have hkept : drive.expire now = drive := by
          rw [RunOn.expire, if_neg]
          exact fun hexpired => hreached (by simpa [hlatest] using hexpired.2.2)
        rw [hkept, hactive]
        exact ⟨hlater, fun _ => ⟨latest, h.kept latest hlatest, not_le.mp hreached⟩,
          fun _ => rfl⟩

end RunOn

end Fermentationsschrank

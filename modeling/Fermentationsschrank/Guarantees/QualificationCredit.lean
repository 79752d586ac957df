import Fermentationsschrank.Control.TargetQualification
import Fermentationsschrank.Core.Runs
import Fermentationsschrank.Run.RecoveryArithmetic
import Mathlib.Data.List.Chain

/-!
# Credit of a qualification

A target counts as qualified for the time that the applied samples spent within its band,
one sample after the other.  Whatever interrupts them starts the count anew.
-/

namespace Fermentationsschrank

/-! ## Samples -/

namespace TargetQualificationInput

variable (input : TargetQualificationInput)

/-- What the sensor of the phase reads. -/
def reading : Option Binary64 :=
  input.phase.bind fun phase =>
    match readControlSensorValue (input.selectedSnapshot phase) with
    | .valid celsius => some celsius
    | .unavailable | .invalid => none

/-- The sample lies within the band of its target. -/
def Within (K : Type) [ControlNumber K] : Prop := input.reading.any (input.inBand K) = true

instance (K : Type) [ControlNumber K] : Decidable (input.Within K) :=
  inferInstanceAs (Decidable (_ = true))

/-- The parameters of the sample are valid, and the permitted times are known. -/
structure InForce : Prop where
  configured : input.configured = true
  grace : input.effectiveGraceMillis.isSome = true
  gap : ∃ maximumGap, input.maximumAcceptedSampleGapMillis = some maximumGap ∧ maximumGap ≠ 0

/-- The sample can be judged: it has a reading, and its parameters are in force. -/
structure Usable : Prop extends InForce input where
  reading : input.reading.isSome = true

def time : ℕ := input.sampleTimestampMonotonicMillis.toNat

def grace : ℕ := (input.effectiveGraceMillis.getD 0).toNat

def gap : ℕ := (input.maximumAcceptedSampleGapMillis.getD 0).toNat

/-- A sample follows another one in time, and soon enough. -/
def Follows (next earlier : TargetQualificationInput) : Prop :=
  earlier.time ≤ next.time ∧ next.time - earlier.time ≤ next.gap

/-- The same target, band, role and phase. -/
def Alike (left right : TargetQualificationInput) : Prop :=
  left.phase = right.phase ∧ left.context = right.context

end TargetQualificationInput

namespace Qualification

open TargetQualificationInput TargetQualificationRuntimeState

section

variable (K : Type) [ControlNumber K]

/-- The time between neighbours that both lie within the band. -/
def inBandMillis : List TargetQualificationInput → ℕ
  | first :: second :: rest =>
      (if first.Within K ∧ second.Within K then second.time - first.time else 0) +
        inBandMillis (second :: rest)
  | [_] | [] => 0

/-- Nothing interrupts the samples: neither a change of target, band, role or phase, nor a
sample that cannot be judged, comes too late or runs backwards, nor a grace that expires. -/
structure Uninterrupted (samples : List TargetQualificationInput) : Prop where
  usable : ∀ sample ∈ samples, sample.Usable
  alike : ∀ left ∈ samples, ∀ right ∈ samples, left.Alike right
  stepped : samples.IsChain fun earlier next => next.Follows earlier
  permitted : ∀ sample ∈ samples, ¬sample.Within K → 0 < sample.grace
  graced : ∀ before out between next later,
    samples = before ++ out :: between ++ next :: later →
      (∀ sample ∈ out :: between, ¬sample.Within K) → next.time - out.time < next.grace

variable {K} {samples run : List TargetQualificationInput}
  {first last next : TargetQualificationInput}

theorem inBandMillis_concat (hlast : last.Within K) (hnext : next.Within K) :
    inBandMillis K (run ++ [last] ++ [next]) =
      inBandMillis K (run ++ [last]) + (next.time - last.time) := by
  induction run with
  | nil => simp [inBandMillis, hlast, hnext]
  | cons head rest ih =>
      cases rest with
      | nil =>
          simp only [List.nil_append, List.cons_append, inBandMillis] at ih ⊢
          simp only [hlast, hnext, and_self, if_true, Nat.add_zero]
      | cons second rest =>
          simp only [List.cons_append, inBandMillis] at ih ⊢
          rw [ih, Nat.add_assoc]

theorem inBandMillis_le_concat :
    inBandMillis K samples ≤ inBandMillis K (samples ++ [next]) := by
  induction samples with
  | nil => exact Nat.zero_le _
  | cons head rest ih =>
      cases rest with
      | nil => exact Nat.zero_le _
      | cons second rest =>
          simp only [List.cons_append, inBandMillis] at ih ⊢
          exact Nat.add_le_add_left ih _

theorem uninterrupted_single (h : next.Usable) (hwithin : next.Within K) :
    Uninterrupted K [next] where
  usable sample hsample := by
    rw [List.mem_singleton.mp hsample]
    exact h
  alike left hleft right hright := by
    rw [List.mem_singleton.mp hleft, List.mem_singleton.mp hright]
    exact ⟨rfl, rfl⟩
  stepped := .singleton next
  permitted sample hsample hout := by
    rw [List.mem_singleton.mp hsample] at hout
    exact absurd hwithin hout
  graced before out between found later hsplit := by
    have hlength := congrArg List.length hsplit
    simp only [List.length_append, List.length_cons, List.length_nil] at hlength
    omega

/-- One more sample that does not interrupt. -/
theorem Uninterrupted.concat (h : Uninterrupted K (run ++ [last])) (husable : next.Usable)
    (halike : last.Alike next) (hfollows : next.Follows last)
    (hpermitted : ¬next.Within K → 0 < next.grace)
    (hgraced : ∀ before out between, run ++ [last] = before ++ out :: between →
      (∀ sample ∈ out :: between, ¬sample.Within K) → next.time - out.time < next.grace) :
    Uninterrupted K (run ++ [last] ++ [next]) where
  usable sample hsample := by
    rcases List.mem_append.mp hsample with hearlier | hnext
    · exact h.usable sample hearlier
    · rw [List.mem_singleton.mp hnext]
      exact husable
  alike left hleft right hright := by
    have hsame : ∀ sample ∈ run ++ [last] ++ [next], sample.Alike next := by
      intro sample hsample
      rcases List.mem_append.mp hsample with hearlier | hnext
      · have hlast := h.alike sample hearlier last (by simp)
        exact ⟨hlast.1.trans halike.1, hlast.2.trans halike.2⟩
      · rw [List.mem_singleton.mp hnext]
        exact ⟨rfl, rfl⟩
    obtain ⟨hleftPhase, hleftContext⟩ := hsame left hleft
    obtain ⟨hrightPhase, hrightContext⟩ := hsame right hright
    exact ⟨hleftPhase.trans hrightPhase.symm, hleftContext.trans hrightContext.symm⟩
  stepped := by
    refine List.isChain_append.mpr ⟨h.stepped, .singleton next, fun found hfound other hother => ?_⟩
    rw [List.getLast?_concat] at hfound
    cases hfound
    cases hother
    exact hfollows
  permitted sample hsample := by
    rcases List.mem_append.mp hsample with hearlier | hnext
    · exact h.permitted sample hearlier
    · rw [List.mem_singleton.mp hnext]
      exact hpermitted
  graced before out between found later hsplit hout := by
    rcases List.eq_nil_or_concat later with rfl | ⟨rest, final, rfl⟩
    · obtain ⟨hrun, hfound⟩ := List.append_inj' hsplit rfl
      cases hfound
      exact hgraced before out between hrun hout
    · rw [List.concat_eq_append, ← List.cons_append, ← List.append_assoc] at hsplit
      exact h.graced before out between found rest (List.append_inj' hsplit rfl).1 hout

/-! ## Out of the band -/

/-- The samples end out of the band, where they have been since a given time. -/
def Trails (K : Type) [ControlNumber K] (started : ℕ)
    (samples : List TargetQualificationInput) : Prop :=
  ∃ earlier home out between, samples = earlier ++ [home] ++ out :: between ∧
    home.Within K ∧ out.time = started ∧ ∀ sample ∈ out :: between, ¬sample.Within K

theorem Trails.concat {started : ℕ} (h : Trails K started samples) (hout : ¬next.Within K) :
    Trails K started (samples ++ [next]) := by
  obtain ⟨earlier, home, out, between, rfl, hhome, htime, hall⟩ := h
  refine ⟨earlier, home, out, between ++ [next], by simp, hhome, htime, fun sample hsample => ?_⟩
  rw [← List.cons_append, List.mem_append, List.mem_singleton] at hsample
  rcases hsample with hearlier | rfl
  · exact hall sample hearlier
  · exact hout

/-- Whatever samples at the end are out of the band, they come after the first of them. -/
theorem Trails.started_le {started : ℕ} {before between : List TargetQualificationInput}
    {out : TargetQualificationInput} (h : Trails K started samples)
    (hstepped : samples.IsChain fun earlier next => next.Follows earlier)
    (hsplit : samples = before ++ out :: between)
    (hout : ∀ sample ∈ out :: between, ¬sample.Within K) : started ≤ out.time := by
  obtain ⟨earlier, home, firstOut, rest, rfl, hhome, rfl, -⟩ := h
  have hordered : (earlier ++ [home] ++ firstOut :: rest).Pairwise
      fun left right => left.time ≤ right.time := by
    rw [← List.isChain_iff_pairwise]
    exact hstepped.imp fun left right hfollows => hfollows.1
  rcases List.append_eq_append_iff.mp hsplit with ⟨middle, hbefore, htail⟩ | ⟨middle, hhead, htail⟩
  · cases middle with
    | nil =>
        cases htail
        exact le_rfl
    | cons head middle =>
        cases htail
        have htrailing := (List.pairwise_append.mp hordered).2.1
        exact (List.pairwise_cons.mp htrailing).1 out (by simp)
  · -- The samples out of the band cannot reach back beyond the last one within it.
    rcases List.eq_nil_or_concat middle with rfl | ⟨start, final, rfl⟩
    · cases htail
      exact le_rfl
    · rw [List.concat_eq_append, ← List.append_assoc] at hhead
      have hfinal : home = final := by
        have hlast := (List.append_inj' hhead rfl).2
        exact List.cons.inj hlast |>.1
      refine absurd (hfinal ▸ hhome) (hout final ?_)
      rw [htail]
      simp

/-! ## What the evaluator knows of the samples -/

/-- No episode is under way. -/
structure Idle (state : TargetQualificationRuntimeState) : Prop where
  inactive : state.episodeActive = false
  uncredited : state.creditedInBandMillis = 0
  untimed : state.lastUsableTimestampMillis = none
  inside : state.graceStartedAtMillis = none

/-- The episode of the state is the run of samples that ends with the last one. -/
structure Tracks (K : Type) [ControlNumber K] (state : TargetQualificationRuntimeState)
    (run : List TargetQualificationInput) (last : TargetQualificationInput) : Prop where
  active : state.episodeActive = true
  uninterrupted : Uninterrupted K (run ++ [last])
  phase : last.phase = some state.phase
  context : state.context = some last.context
  timed : state.lastUsableTimestampMillis = some last.sampleTimestampMonotonicMillis
  credited : state.creditedInBandMillis.toNat ≤ inBandMillis K (run ++ [last])
  inside : state.graceStartedAtMillis = none → last.Within K
  outside : ∀ started, state.graceStartedAtMillis = some started →
    Trails K started.toNat (run ++ [last])

/-- The state of an evaluator whose applied samples are given. -/
def Known (K : Type) [ControlNumber K] (state : TargetQualificationRuntimeState)
    (samples : List TargetQualificationInput) : Prop :=
  Idle state ∨ ∃ run last, run ++ [last] <:+ samples ∧ Tracks K state run last

theorem idle_clearEpisode {state : TargetQualificationRuntimeState} :
    Idle state.clearEpisode := ⟨rfl, rfl, rfl, rfl⟩

theorem Known.cleared {state : TargetQualificationRuntimeState} :
    Known K state.clearEpisode samples := .inl idle_clearEpisode

theorem Known.committed {state : TargetQualificationRuntimeState}
    {commitContext : Option TargetQualificationCommitContext} (h : Known K state samples) :
    Known K { state with commitContext } samples := by
  rcases h with hidle | ⟨run, last, hsuffix, htracks⟩
  · exact .inl ⟨hidle.inactive, hidle.uncredited, hidle.untimed, hidle.inside⟩
  · exact .inr ⟨run, last, hsuffix, htracks.active, htracks.uninterrupted, htracks.phase,
      htracks.context, htracks.timed, htracks.credited, htracks.inside, htracks.outside⟩

/-! ## An evaluation -/

/-- What an evaluation proposes: a state that knows its sample as well, and a completion only
for the time its samples spent within the band. -/
structure Proposes (K : Type) [ControlNumber K] (samples : List TargetQualificationInput)
    (input : TargetQualificationInput)
    (proposal : QualificationProgress × TargetQualificationRuntimeState) : Prop where
  known : Known K proposal.2 (samples ++ [input])
  complete : proposal.1 = .complete → ∃ run, run <:+ samples ∧
    Uninterrupted K (run ++ [input]) ∧
      input.qualificationDurationMillis.toNat ≤ inBandMillis K (run ++ [input])

theorem proposes_cleared {state : TargetQualificationRuntimeState}
    {progress : QualificationProgress} (hprogress : progress ≠ .complete) :
    Proposes K samples next (progress, state.clearEpisode) :=
  ⟨.cleared, fun hcomplete => absurd hcomplete hprogress⟩

/-- A sample whose parameters and context are in force, and its reading. -/
structure Prepared (state : TargetQualificationRuntimeState) (input : TargetQualificationInput)
    (measured : Binary64) : Prop where
  usable : input.Usable
  phase : input.phase = some state.phase
  context : state.context = some input.context
  reading : input.reading = some measured

namespace Prepared

variable {state : TargetQualificationRuntimeState} {input : TargetQualificationInput}
  {measured : Binary64}

theorem within_iff (h : Prepared state input measured) :
    input.Within K ↔ input.inBand K measured = true := by
  rw [Within, h.reading, Option.any_some]

/-- A sample within the band begins an episode. -/
theorem begins (h : Prepared state input measured) (hwithin : input.inBand K measured = true)
    (hinside : state.graceStartedAtMillis = none) :
    Proposes K samples input (.inBand, state.beginEpisode input) where
  known := by
    have hwithin := h.within_iff.mpr hwithin
    refine .inr ⟨[], input, List.suffix_append samples [input], rfl,
      uninterrupted_single h.usable hwithin, h.phase, h.context, rfl, Nat.zero_le _,
      fun _ => hwithin, fun started hstarted => ?_⟩
    cases hinside.symm.trans hstarted
  complete := nofun

/-- The sample goes on with the episode. -/
theorem extends_run {candidate : TargetQualificationRuntimeState}
    {progress : QualificationProgress} (h : Prepared state input measured)
    (htracks : Tracks K state run last) (hsuffix : run ++ [last] <:+ samples)
    (hfollows : input.Follows last) (hpermitted : ¬input.Within K → 0 < input.grace)
    (hgraced : ∀ started, state.graceStartedAtMillis = some started →
      input.time - started.toNat < input.grace)
    (hactive : candidate.episodeActive = true) (hphase : candidate.phase = state.phase)
    (hcontext : candidate.context = state.context)
    (htimed : candidate.lastUsableTimestampMillis = some input.sampleTimestampMonotonicMillis)
    (hcredited : candidate.creditedInBandMillis.toNat ≤
      inBandMillis K (run ++ [last] ++ [input]))
    (hinside : candidate.graceStartedAtMillis = none → input.Within K)
    (houtside : ∀ started, candidate.graceStartedAtMillis = some started →
      Trails K started.toNat (run ++ [last] ++ [input]))
    (hcomplete : progress = .complete → input.qualificationDurationMillis.toNat ≤
      inBandMillis K (run ++ [last] ++ [input])) :
    Proposes K samples input (progress, candidate) := by
  have halike : last.Alike input := by
    refine ⟨htracks.phase.trans h.phase.symm, Option.some.inj ?_⟩
    rw [← htracks.context, h.context]
  have huninterrupted : Uninterrupted K (run ++ [last] ++ [input]) := by
    refine htracks.uninterrupted.concat h.usable halike hfollows hpermitted ?_
    intro before out between hsplit hout
    cases hgrace : state.graceStartedAtMillis with
    | none =>
        have hlast : last ∈ out :: between := by
          have hfinal := congrArg List.getLast? hsplit
          rw [List.getLast?_concat, List.getLast?_append_of_ne_nil _ (List.cons_ne_nil _ _)]
            at hfinal
          exact List.mem_of_getLast? hfinal.symm
        exact absurd (htracks.inside hgrace) (hout last hlast)
    | some started =>
        have hstarted := (htracks.outside started hgrace).started_le
          htracks.uninterrupted.stepped hsplit hout
        have := hgraced started hgrace
        omega
  refine ⟨.inr ⟨run ++ [last], input, ?_, hactive, huninterrupted, ?_, ?_, htimed, hcredited,
    hinside, houtside⟩, fun h => ⟨run ++ [last], hsuffix, huninterrupted, hcomplete h⟩⟩
  · obtain ⟨earlier, rfl⟩ := hsuffix
    exact ⟨earlier, by simp⟩
  · rw [h.phase, hphase]
  · rw [hcontext, h.context]

variable {grace maximumGap : UInt64}

theorem evaluateGrace_proposes {started : UInt64} (h : Prepared state input measured)
    (htracks : Tracks K state run last) (hsuffix : run ++ [last] <:+ samples)
    (hfollows : input.Follows last) (hgrace : input.effectiveGraceMillis = some grace)
    (hstarted : state.graceStartedAtMillis = some started) :
    Proposes K samples input (state.evaluateGrace K input grace started measured) := by
  have hallowed : input.grace = grace.toNat := by
    rw [TargetQualificationInput.grace, hgrace, Option.getD_some]
  rw [evaluateGrace]
  split
  · exact proposes_cleared nofun
  rename_i hafter
  have hafter := UInt64.le_iff_toNat_le.mp (UInt64.not_lt.mp hafter)
  split
  · split
    · exact proposes_cleared nofun
    · rename_i hwithin
      have hprepared : Prepared state.clearEpisode input measured :=
        ⟨h.usable, h.phase, h.context, h.reading⟩
      exact hprepared.begins (by simpa using hwithin) rfl
  rename_i hrunning
  have hrunning : input.time - started.toNat < input.grace := by
    rw [UInt64.le_iff_toNat_le, UInt64.toNat_sub_of_le _ _ (UInt64.le_iff_toNat_le.mpr hafter)]
      at hrunning
    rw [hallowed, TargetQualificationInput.time]
    omega
  have hgraced : ∀ found, state.graceStartedAtMillis = some found →
      input.time - found.toNat < input.grace := fun found hfound => by
    cases hstarted.symm.trans hfound
    exact hrunning
  have hcredited : state.creditedInBandMillis.toNat ≤ inBandMillis K (run ++ [last] ++ [input]) :=
    htracks.credited.trans inBandMillis_le_concat
  split
  · rename_i hwithin
    exact h.extends_run htracks hsuffix hfollows (fun _ => by omega) hgraced htracks.active rfl
      rfl rfl hcredited (fun _ => h.within_iff.mpr hwithin) nofun nofun
  · rename_i hwithin
    have hout : ¬input.Within K := fun hin => hwithin (h.within_iff.mp hin)
    refine h.extends_run htracks hsuffix hfollows (fun _ => by omega) hgraced htracks.active rfl
      rfl rfl hcredited (fun hnone => ?_) (fun found hfound => ?_) nofun
    · cases hstarted.symm.trans hnone
    · exact (htracks.outside found hfound).concat hout

theorem creditEpisode_proposes (h : Prepared state input measured)
    (htracks : Tracks K state run last) (hsuffix : run ++ [last] <:+ samples)
    (hfollows : input.Follows last) (hinside : state.graceStartedAtMillis = none)
    (hwithin : input.Within K) :
    Proposes K samples input (state.creditEpisode input) := by
  rw [creditEpisode, htracks.timed, Option.getD_some]
  simp only
  cases hsum : checkedAdd state.creditedInBandMillis (input.sampleTimestampMonotonicMillis -
      last.sampleTimestampMonotonicMillis) with
  | none => exact proposes_cleared nofun
  | some credited =>
      rw [checkedAdd_eq_some_iff, UInt64.toNat_sub_of_le _ _
        (UInt64.le_iff_toNat_le.mpr hfollows.1)] at hsum
      have hmillis := @inBandMillis_concat K _ run last input (htracks.inside hinside) hwithin
      have hbound : credited.toNat ≤ inBandMillis K (run ++ [last] ++ [input]) := by
        have hcredited := htracks.credited
        rw [hmillis, TargetQualificationInput.time, TargetQualificationInput.time]
        omega
      have hgraced : ∀ found, state.graceStartedAtMillis = some found →
          input.time - found.toNat < input.grace := fun found hfound => by
        cases hinside.symm.trans hfound
      have hnone : ∀ started, state.graceStartedAtMillis = some started →
          Trails K started.toNat (run ++ [last] ++ [input]) := fun found hfound => by
        cases hinside.symm.trans hfound
      by_cases hdone : input.qualificationDurationMillis ≤ credited
      · have hdone' := UInt64.le_iff_toNat_le.mp hdone
        simp only [if_pos hdone]
        exact h.extends_run htracks hsuffix hfollows (fun hout => absurd hwithin hout) hgraced
          htracks.active rfl rfl rfl (hdone'.trans hbound) (fun _ => hwithin) hnone
          fun _ => hdone'.trans hbound
      · simp only [if_neg hdone]
        exact h.extends_run htracks hsuffix hfollows (fun hout => absurd hwithin hout) hgraced
          htracks.active rfl rfl rfl hbound (fun _ => hwithin) hnone nofun

theorem evaluateBand_proposes (h : Prepared state input measured)
    (hgrace : input.effectiveGraceMillis = some grace)
    (hinside : state.graceStartedAtMillis = none)
    (hknown : Idle state ∨ ∃ run last, run ++ [last] <:+ samples ∧ Tracks K state run last ∧
      input.Follows last) :
    Proposes K samples input (state.evaluateBand K input grace measured) := by
  rw [evaluateBand]
  split
  · exact proposes_cleared nofun
  split
  · rename_i hwithin
    split
    · exact proposes_cleared nofun
    · rename_i hleaves
      obtain ⟨hactive, hpermitted⟩ := not_or.mp hleaves
      rcases hknown with hidle | ⟨run, last, hsuffix, htracks, hfollows⟩
      · rw [hidle.inactive] at hactive
        exact absurd rfl hactive
      have hout : ¬input.Within K := fun hin => by
        rw [h.within_iff.mp hin] at hwithin
        cases hwithin
      have hpositive : 0 < input.grace := by
        rw [TargetQualificationInput.grace, hgrace, Option.getD_some]
        exact Nat.pos_of_ne_zero fun hzero => hpermitted (UInt64.toNat_inj.mp hzero)
      refine h.extends_run htracks hsuffix hfollows (fun _ => hpositive) ?_ htracks.active rfl
        rfl rfl (htracks.credited.trans inBandMillis_le_concat) nofun ?_ nofun
      · intro found hfound
        cases hinside.symm.trans hfound
      · rintro _ ⟨⟩
        exact ⟨run, last, input, [], rfl, htracks.inside hinside, rfl, fun sample hsample => by
          rw [List.mem_singleton.mp hsample]
          exact hout⟩
  · rename_i hwithin
    have hwithin : input.inBand K measured = true := by simpa using hwithin
    split
    · exact h.begins hwithin hinside
    · rename_i hactive
      rcases hknown with hidle | ⟨run, last, hsuffix, htracks, hfollows⟩
      · rw [hidle.inactive] at hactive
        exact absurd rfl hactive
      · exact h.creditEpisode_proposes htracks hsuffix hfollows hinside
          (h.within_iff.mpr hwithin)

theorem evaluateSample_proposes (h : Prepared state input measured)
    (hknown : Known K state samples) (hgrace : input.effectiveGraceMillis = some grace)
    (hgap : input.maximumAcceptedSampleGapMillis = some maximumGap) :
    Proposes K samples input (state.evaluateSample K input grace maximumGap measured) := by
  rw [evaluateSample]
  split
  · exact proposes_cleared nofun
  rename_i hstep
  have hknown : Idle state ∨ ∃ run last, run ++ [last] <:+ samples ∧ Tracks K state run last ∧
      input.Follows last := by
    refine hknown.imp id fun ⟨run, last, hsuffix, htracks⟩ => ⟨run, last, hsuffix, htracks, ?_⟩
    rw [outOfStep, htracks.timed, Option.any_some, decide_eq_true_eq, not_or] at hstep
    obtain ⟨hafter, hsoon⟩ := hstep
    have hafter := UInt64.le_iff_toNat_le.mp (UInt64.not_lt.mp hafter)
    have hsoon := UInt64.le_iff_toNat_le.mp (UInt64.not_lt.mp hsoon)
    rw [UInt64.toNat_sub_of_le _ _ (UInt64.le_iff_toNat_le.mpr hafter)] at hsoon
    refine ⟨hafter, ?_⟩
    rw [TargetQualificationInput.gap, hgap, Option.getD_some]
    exact hsoon
  cases hstarted : state.graceStartedAtMillis with
  | none => exact h.evaluateBand_proposes hgrace hstarted hknown
  | some started =>
      rcases hknown with hidle | ⟨run, last, hsuffix, htracks, hfollows⟩
      · cases hidle.inside.symm.trans hstarted
      · exact h.evaluateGrace_proposes htracks hsuffix hfollows hgrace hstarted

end Prepared

section

variable {state : TargetQualificationRuntimeState} {input : TargetQualificationInput}

theorem Known.enterPhase {phase : QualificationPhase} (h : Known K state samples) :
    Known K (state.enterPhase phase) samples ∧ (state.enterPhase phase).phase = phase := by
  rw [TargetQualificationRuntimeState.enterPhase]
  split
  · exact ⟨.inl ⟨rfl, rfl, rfl, rfl⟩, rfl⟩
  · rename_i hsame
    exact ⟨h, (not_not.mp hsame).symm⟩

theorem Known.enterContext (h : Known K state samples) :
    Known K (state.enterContext input) samples ∧
      (state.enterContext input).phase = state.phase ∧
      (state.enterContext input).context = some input.context := by
  cases hcontext : state.context with
  | none =>
      rw [TargetQualificationRuntimeState.enterContext, hcontext]
      exact ⟨.inl ⟨rfl, rfl, rfl, rfl⟩, rfl, rfl⟩
  | some context =>
      rw [TargetQualificationRuntimeState.enterContext, hcontext, Option.any_some]
      by_cases hsame : context.same input.context = true
      · rw [TargetQualificationContext.eq_of_same hsame] at hcontext
        rw [if_pos hsame]
        exact ⟨h.committed, rfl, hcontext⟩
      · rw [if_neg hsame]
        exact ⟨.inl ⟨rfl, rfl, rfl, rfl⟩, rfl, rfl⟩

theorem propose_proposes {phase : QualificationPhase} (h : Known K state samples)
    (hphase : input.phase = some phase) :
    Proposes K samples input (state.propose K input phase) := by
  obtain ⟨hentered, hsame⟩ := @Known.enterPhase K _ samples state phase h
  simp only [TargetQualificationRuntimeState.propose]
  split
  · exact proposes_cleared nofun
  rename_i hconfigured
  cases hgrace : input.effectiveGraceMillis with
  | none => exact proposes_cleared nofun
  | some grace =>
      cases hgap : input.maximumAcceptedSampleGapMillis with
      | none => exact proposes_cleared nofun
      | some maximumGap =>
          simp only
          split
          · exact proposes_cleared nofun
          rename_i hpositive
          obtain ⟨hknown, hstays, hcontext⟩ := @Known.enterContext K _ samples _ input hentered
          cases hread : readControlSensorValue (input.selectedSnapshot phase) with
          | unavailable => exact proposes_cleared nofun
          | invalid => exact proposes_cleared nofun
          | valid measured =>
              have hreading : input.reading = some measured := by
                rw [TargetQualificationInput.reading, hphase, Option.bind_some, hread]
              have hprepared : Prepared ((state.enterPhase phase).enterContext input) input
                  measured := by
                refine ⟨⟨⟨by simpa using hconfigured, ?_, ⟨maximumGap, hgap, hpositive⟩⟩, ?_⟩,
                  ?_, hcontext, hreading⟩
                · rw [hgrace]
                  rfl
                · rw [hreading]
                  rfl
                · rw [hphase, hstays, hsame]
              exact hprepared.evaluateSample_proposes hknown hgrace hgap

end

end

/-! ## Decisions -/

/-- How a decision is applied, and in which context. -/
inductive ApplyCall
  | ramOnly (currentContext : TargetQualificationCommitContext)
  | afterPersisted (expectedBeforeContext committedContext : TargetQualificationCommitContext)

def ApplyCall.context : ApplyCall → TargetQualificationCommitContext
  | .ramOnly currentContext => currentContext
  | .afterPersisted expectedBeforeContext _ => expectedBeforeContext

def ApplyCall.perform (call : ApplyCall) (decision : TargetQualificationResult)
    (state : TargetQualificationRuntimeState) : TargetQualificationResult.Application :=
  match call with
  | .ramOnly currentContext => decision.applyRamOnly state currentContext
  | .afterPersisted expectedBeforeContext committedContext =>
      decision.applyAfterPersistedProcessApply state expectedBeforeContext committedContext

/-- An evaluator, and every decision it has handed out, with the input it was asked for. -/
structure QualificationDevice where
  state : TargetQualificationRuntimeState := {}
  decisions : List (TargetQualificationInput × TargetQualificationResult) := []

inductive QualificationEvent
  | evaluated (input : TargetQualificationInput) (decision : TargetQualificationResult)
  | applied (index : ℕ) (input : TargetQualificationInput)
      (decision : TargetQualificationResult) (call : ApplyCall)
      (state : TargetQualificationRuntimeState)
  | refused (index : ℕ)
  | discarded (index : ℕ)
  | reset

inductive QualificationStep (K : Type) [ControlNumber K] (device : QualificationDevice) :
    QualificationEvent → QualificationDevice → Prop
  | evaluate {input : TargetQualificationInput} :
      QualificationStep K device (.evaluated input (device.state.evaluate K input))
        { device with
          decisions := device.decisions ++ [(input, device.state.evaluate K input)] }
  | apply {index : ℕ} {input : TargetQualificationInput} {call : ApplyCall}
      {decision after : TargetQualificationResult} {state : TargetQualificationRuntimeState}
      (hfound : device.decisions[index]? = some (input, decision))
      (happlied : call.perform decision device.state = (true, after, state)) :
      QualificationStep K device (.applied index input decision call device.state)
        { state, decisions := device.decisions.set index (input, after) }
  | refuse {index : ℕ} {input : TargetQualificationInput} {call : ApplyCall}
      {decision after : TargetQualificationResult} {state : TargetQualificationRuntimeState}
      (hfound : device.decisions[index]? = some (input, decision))
      (hrefused : call.perform decision device.state = (false, after, state)) :
      QualificationStep K device (.refused index)
        { state, decisions := device.decisions.set index (input, after) }
  | discard {index : ℕ} {input : TargetQualificationInput}
      {decision : TargetQualificationResult}
      (hfound : device.decisions[index]? = some (input, decision)) :
      QualificationStep K device (.discarded index)
        { device with decisions := device.decisions.set index (input, decision.discard) }
  | reset : QualificationStep K device .reset { device with state := device.state.reset }

/-- The samples of the decisions that were applied since the last reset, in their order. -/
def appliedSamples (past : List QualificationEvent) : List TargetQualificationInput :=
  past.foldl (fun samples event =>
    match event with
    | .applied _ input _ _ _ => samples ++ [input]
    | .reset => []
    | .evaluated _ _ | .refused _ | .discarded _ => samples) []

/-- The decisions of the past in their order. -/
def evaluations (past : List QualificationEvent) :
    List (TargetQualificationInput × TargetQualificationResult) :=
  past.filterMap fun event =>
    match event with
    | .evaluated input decision => some (input, decision)
    | .applied .. | .refused _ | .discarded _ | .reset => none

/-- An application takes effect once, on the state and in the context of its decision. -/
theorem applied_of_perform {call : ApplyCall} {decision after : TargetQualificationResult}
    {before state : TargetQualificationRuntimeState}
    (h : call.perform decision before = (true, after, state)) :
    decision.lifecycle = .pending ∧ decision.candidateApplicable = true ∧
      before = decision.expectedEvaluatorState ∧
      decision.candidateEvaluatorState.commitContext = some call.context ∧
      after = { decision with lifecycle := .applied } ∧
      ∃ commitContext, state = { decision.candidateEvaluatorState with commitContext } := by
  have hfits : ∀ context, decision.fits before context = true →
      before = decision.expectedEvaluatorState ∧
        decision.candidateEvaluatorState.commitContext = some context := fun context hfits => by
    rw [TargetQualificationResult.fits, Bool.and_eq_true] at hfits
    refine ⟨eq_of_sameState hfits.1, ?_⟩
    cases hcommit : decision.candidateEvaluatorState.commitContext with
    | none =>
        rw [hcommit] at hfits
        cases hfits.2
    | some found =>
        rw [hcommit, Option.any_some] at hfits
        rw [TargetQualificationCommitContext.eq_of_same hfits.2]
  have hpending : decision.applicable = true →
      decision.lifecycle = .pending ∧ decision.candidateApplicable = true := fun happlicable => by
    simpa [TargetQualificationResult.applicable] using happlicable
  cases call with
  | ramOnly context =>
      simp only [ApplyCall.perform, TargetQualificationResult.applyRamOnly] at h
      split at h
      · cases h
      rename_i happlicable
      split at h
      · cases h
      rename_i hsame
      cases h
      obtain ⟨hbefore, hcommit⟩ := hfits context (by simpa using hsame)
      obtain ⟨hlifecycle, hcandidate⟩ := hpending (by simpa using happlicable)
      exact ⟨hlifecycle, hcandidate, hbefore, hcommit, rfl, _, rfl⟩
  | afterPersisted context committed =>
      simp only [ApplyCall.perform,
        TargetQualificationResult.applyAfterPersistedProcessApply] at h
      split at h
      · cases h
      rename_i happlicable
      split at h
      · cases h
      rename_i hsame
      cases h
      rw [Bool.or_eq_true, not_or] at hsame
      obtain ⟨hbefore, hcommit⟩ := hfits context (by simpa using hsame.1)
      obtain ⟨hlifecycle, hcandidate⟩ := hpending (by simpa using happlicable)
      exact ⟨hlifecycle, hcandidate, hbefore, hcommit, rfl, _, rfl⟩

/-- A refused application leaves the state and settles the decision, or leaves both. -/
theorem refused_of_perform {call : ApplyCall} {decision after : TargetQualificationResult}
    {before state : TargetQualificationRuntimeState}
    (h : call.perform decision before = (false, after, state)) :
    state = before ∧ (after = decision ∨ after = { decision with lifecycle := .discarded }) := by
  cases call with
  | ramOnly context =>
      simp only [ApplyCall.perform, TargetQualificationResult.applyRamOnly] at h
      split at h
      · cases h
        exact ⟨rfl, .inl rfl⟩
      split at h
      · cases h
        exact ⟨rfl, .inr rfl⟩
      · cases h
  | afterPersisted context committed =>
      simp only [ApplyCall.perform,
        TargetQualificationResult.applyAfterPersistedProcessApply] at h
      split at h
      · cases h
        exact ⟨rfl, .inl rfl⟩
      split at h
      · cases h
        exact ⟨rfl, .inr rfl⟩
      · cases h

/-! ## The context of a decision -/

section

variable {state : TargetQualificationRuntimeState} {input : TargetQualificationInput}

theorem commitContext_enterPhase {phase : QualificationPhase} :
    (state.enterPhase phase).commitContext = state.commitContext := by
  rw [TargetQualificationRuntimeState.enterPhase]
  split <;> rfl

variable {K : Type} [ControlNumber K]

theorem commitContext_evaluateSample {grace maximumGap : UInt64} {measured : Binary64} :
    (state.evaluateSample K input grace maximumGap measured).2.commitContext =
      state.commitContext := by
  rw [TargetQualificationRuntimeState.evaluateSample]
  split
  · rfl
  split
  · rw [TargetQualificationRuntimeState.evaluateGrace]
    split_ifs <;> rfl
  · rw [TargetQualificationRuntimeState.evaluateBand]
    split_ifs
    iterate 4 rfl
    · rw [TargetQualificationRuntimeState.creditEpisode]
      split <;> rfl

/-- A candidate carries the context of its input where the parameters are in force, and
else the context of the state before. -/
theorem commitContext_propose {phase : QualificationPhase} :
    (input.InForce ∧
      (state.propose K input phase).2.commitContext = some input.commitContext) ∨
    (¬input.InForce ∧ (state.propose K input phase).2.commitContext = state.commitContext) := by
  simp only [TargetQualificationRuntimeState.propose]
  split
  · rename_i hconfigured
    refine .inr ⟨fun hforce => ?_, commitContext_enterPhase⟩
    simp [hforce.configured] at hconfigured
  rename_i hconfigured
  cases hgrace : input.effectiveGraceMillis with
  | none =>
      refine .inr ⟨fun hforce => ?_, commitContext_enterPhase⟩
      simpa [hgrace] using hforce.grace
  | some grace =>
      cases hgap : input.maximumAcceptedSampleGapMillis with
      | none =>
          refine .inr ⟨fun hforce => ?_, commitContext_enterPhase⟩
          obtain ⟨maximumGap, hfound, -⟩ := hforce.gap
          cases hgap.symm.trans hfound
      | some maximumGap =>
          simp only
          split
          · rename_i hzero
            refine .inr ⟨fun hforce => ?_, commitContext_enterPhase⟩
            obtain ⟨found, hfound, hpositive⟩ := hforce.gap
            cases hgap.symm.trans hfound
            exact hpositive hzero
          rename_i hpositive
          refine .inl ⟨⟨by simpa using hconfigured, ?_, maximumGap, hgap, hpositive⟩, ?_⟩
          · rw [hgrace]
            rfl
          · cases readControlSensorValue (input.selectedSnapshot phase) with
            | unavailable => rfl
            | invalid => rfl
            | valid measured => exact commitContext_evaluateSample

end

/-! ## Runs -/

/-- The decision as it was handed out. -/
def pristine (entry : TargetQualificationInput × TargetQualificationResult) :
    TargetQualificationInput × TargetQualificationResult :=
  (entry.1, { entry.2 with lifecycle := .pending })

def QualificationEvent.applies (index : ℕ) : QualificationEvent → Prop
  | .applied found _ _ _ _ => found = index
  | .evaluated .. | .refused _ | .discarded _ | .reset => False

/-- What an observer of the events knows of the evaluator and of its decisions. -/
structure QualificationKnown (K : Type) [ControlNumber K] (device : QualificationDevice)
    (past : List QualificationEvent) : Prop where
  known : Known K device.state (appliedSamples past)
  listed : device.decisions.map pristine = evaluations past
  computed : ∀ entry ∈ evaluations past,
    entry.2 = entry.2.expectedEvaluatorState.evaluate K entry.1
  spent : ∀ index, (∃ event ∈ past, event.applies index) →
    ∃ entry, device.decisions[index]? = some entry ∧ entry.2.lifecycle ≠ .pending

/-- What an event says of the events before it. -/
def Accounted (K : Type) [ControlNumber K] (past : List QualificationEvent) :
    QualificationEvent → Prop
  | .evaluated input decision =>
      decision.progress = .complete → ∃ run, run <:+ appliedSamples past ∧
        Uninterrupted K (run ++ [input]) ∧
          input.qualificationDurationMillis.toNat ≤ inBandMillis K (run ++ [input])
  | .applied index input decision call state =>
      (∀ event ∈ past, ¬event.applies index) ∧
        (evaluations past)[index]? = some (input, decision) ∧
        decision = state.evaluate K input ∧
        ((input.InForce ∧ call.context = input.commitContext) ∨
          (¬input.InForce ∧ state.commitContext = some call.context))
  | .refused _ | .discarded _ | .reset => True

section

variable {K : Type} [ControlNumber K]
variable {device next : QualificationDevice} {past : List QualificationEvent}
  {event : QualificationEvent}

theorem appliedSamples_concat : appliedSamples (past ++ [event]) =
    match event with
    | .applied _ input _ _ _ => appliedSamples past ++ [input]
    | .reset => []
    | .evaluated _ _ | .refused _ | .discarded _ => appliedSamples past := by
  rw [appliedSamples, List.foldl_append, List.foldl_cons, List.foldl_nil, appliedSamples]

theorem evaluations_concat : evaluations (past ++ [event]) =
    evaluations past ++ evaluations [event] := List.filterMap_append

theorem evaluations_unchanged (h : evaluations [event] = []) :
    evaluations (past ++ [event]) = evaluations past := by
  rw [evaluations_concat, h, List.append_nil]

/-- A decision changes only its lifecycle, and no settled one becomes pending again. -/
structure Settles (decision after : TargetQualificationResult) : Prop where
  same : { after with lifecycle := .pending } = { decision with lifecycle := .pending }
  settled : decision.lifecycle ≠ .pending → after.lifecycle ≠ .pending

theorem map_pristine_set {decisions : List (TargetQualificationInput × TargetQualificationResult)}
    {index : ℕ} {input : TargetQualificationInput} {decision after : TargetQualificationResult}
    (hfound : decisions[index]? = some (input, decision)) (h : Settles decision after) :
    (decisions.set index (input, after)).map pristine = decisions.map pristine := by
  have hpristine : (decisions.map pristine)[index]? =
      some (input, { decision with lifecycle := .pending }) := by
    rw [List.getElem?_map, hfound]
    rfl
  obtain ⟨_, hentry⟩ := List.getElem?_eq_some_iff.mp hpristine
  rw [List.map_set, pristine, h.same, ← hentry, List.set_getElem_self]

namespace QualificationKnown

theorem spent_set (h : QualificationKnown K device past) {index : ℕ}
    {input : TargetQualificationInput} {decision after : TargetQualificationResult}
    (hfound : device.decisions[index]? = some (input, decision)) (hsettles : Settles decision after)
    {found : ℕ} (happlied : ∃ event ∈ past, event.applies found) :
    ∃ entry, (device.decisions.set index (input, after))[found]? = some entry ∧
      entry.2.lifecycle ≠ .pending := by
  obtain ⟨entry, hentry, hspent⟩ := h.spent found happlied
  by_cases hsame : index = found
  · rw [hsame] at hfound ⊢
    cases hentry.symm.trans hfound
    have hindex := (List.getElem?_eq_some_iff.mp hfound).1
    exact ⟨_, List.getElem?_set_self hindex, hsettles.settled hspent⟩
  · exact ⟨entry, by rwa [List.getElem?_set_ne hsame], hspent⟩

/-- An event that leaves the evaluator alone and settles a decision. -/
theorem replaced (h : QualificationKnown K device past) {index : ℕ}
    {input : TargetQualificationInput} {decision after : TargetQualificationResult}
    (hfound : device.decisions[index]? = some (input, decision)) (hsettles : Settles decision after)
    (hsamples : appliedSamples (past ++ [event]) = appliedSamples past)
    (hevaluations : evaluations [event] = []) (hevent : ∀ index, ¬event.applies index) :
    QualificationKnown K { device with decisions := device.decisions.set index (input, after) }
      (past ++ [event]) where
  known := by
    rw [hsamples]
    exact h.known
  listed := by
    rw [evaluations_unchanged hevaluations, map_pristine_set hfound hsettles, h.listed]
  computed := by
    rw [evaluations_unchanged hevaluations]
    exact h.computed
  spent found happlied := by
    obtain ⟨other, hother, happlies⟩ := happlied
    rcases List.mem_append.mp hother with hearlier | hlast
    · exact h.spent_set hfound hsettles ⟨other, hearlier, happlies⟩
    · rw [List.mem_singleton.mp hlast] at happlies
      exact absurd happlies (hevent found)

theorem evaluated (h : QualificationKnown K device past) {input : TargetQualificationInput} :
    Accounted K past (.evaluated input (device.state.evaluate K input)) ∧
      QualificationKnown K
        { device with decisions := device.decisions ++ [(input, device.state.evaluate K input)] }
        (past ++ [.evaluated input (device.state.evaluate K input)]) := by
  have hpending : (device.state.evaluate K input).lifecycle = .pending ∧
      (device.state.evaluate K input).expectedEvaluatorState = device.state := by
    cases hphase : input.phase <;> simp [TargetQualificationRuntimeState.evaluate, hphase]
  refine ⟨fun hcomplete => ?_, ⟨?_, ?_, ?_, ?_⟩⟩
  · cases hphase : input.phase with
    | none => simp [TargetQualificationRuntimeState.evaluate, hphase] at hcomplete
    | some phase =>
        have hproposes := propose_proposes h.known hphase
        rw [TargetQualificationRuntimeState.evaluate, hphase] at hcomplete
        exact hproposes.complete hcomplete
  · rw [appliedSamples_concat]
    exact h.known
  · rw [List.map_append, h.listed, evaluations_concat, List.map_singleton, pristine,
      ← hpending.1]
    rfl
  · intro entry hentry
    rw [evaluations_concat] at hentry
    rcases List.mem_append.mp hentry with hearlier | hlast
    · exact h.computed entry hearlier
    · rw [List.mem_singleton.mp hlast, hpending.2]
  · rintro found ⟨other, hother, happlies⟩
    rcases List.mem_append.mp hother with hearlier | hlast
    · obtain ⟨entry, hentry, hspent⟩ := h.spent found ⟨other, hearlier, happlies⟩
      refine ⟨entry, ?_, hspent⟩
      rwa [List.getElem?_append_left (List.getElem?_eq_some_iff.mp hentry).1]
    · rw [List.mem_singleton.mp hlast] at happlies
      exact happlies.elim

theorem applied (h : QualificationKnown K device past) {index : ℕ}
    {input : TargetQualificationInput} {call : ApplyCall}
    {decision after : TargetQualificationResult} {state : TargetQualificationRuntimeState}
    (hfound : device.decisions[index]? = some (input, decision))
    (happlied : call.perform decision device.state = (true, after, state)) :
    Accounted K past (.applied index input decision call device.state) ∧
      QualificationKnown K { state, decisions := device.decisions.set index (input, after) }
        (past ++ [.applied index input decision call device.state]) := by
  obtain ⟨hpending, happlicable, hstate, hcontext, rfl, commitContext, rfl⟩ :=
    applied_of_perform happlied
  have hlisted : (evaluations past)[index]? = some (input, decision) := by
    rw [← h.listed, List.getElem?_map, hfound, Option.map_some, pristine, ← hpending]
  have hcomputed : decision = decision.expectedEvaluatorState.evaluate K input :=
    h.computed _ (List.mem_of_getElem? hlisted)
  rw [← hstate] at hcomputed
  obtain ⟨phase, hphase⟩ : ∃ phase, input.phase = some phase := by
    cases hphase : input.phase with
    | none =>
        rw [hcomputed, TargetQualificationRuntimeState.evaluate, hphase] at happlicable
        cases happlicable
    | some phase => exact ⟨phase, rfl⟩
  have hcandidate : decision.candidateEvaluatorState = (device.state.propose K input phase).2 := by
    rw [hcomputed, TargetQualificationRuntimeState.evaluate, hphase]
  have hsettles : Settles decision { decision with lifecycle := .applied } := ⟨rfl, nofun⟩
  refine ⟨⟨fun event hevent happlies => ?_, hlisted, hcomputed, ?_⟩, ⟨?_, ?_, ?_, ?_⟩⟩
  · obtain ⟨entry, hentry, hspent⟩ := h.spent index ⟨event, hevent, happlies⟩
    cases hentry.symm.trans hfound
    exact hspent hpending
  · rw [hcandidate] at hcontext
    refine (@commitContext_propose device.state input K _ phase).imp ?_ ?_
    · rintro ⟨hforce, hcommit⟩
      exact ⟨hforce, Option.some.inj (hcontext.symm.trans hcommit)⟩
    · rintro ⟨hforce, hcommit⟩
      exact ⟨hforce, hcommit.symm.trans hcontext⟩
  · rw [appliedSamples_concat, hcandidate]
    exact (propose_proposes h.known hphase).known.committed
  · rw [evaluations_unchanged rfl, map_pristine_set hfound hsettles, h.listed]
  · rw [evaluations_unchanged rfl]
    exact h.computed
  · rintro found ⟨other, hother, happlies⟩
    rcases List.mem_append.mp hother with hearlier | hlast
    · exact h.spent_set hfound hsettles ⟨other, hearlier, happlies⟩
    · rw [List.mem_singleton.mp hlast] at happlies
      cases happlies
      have hindex := (List.getElem?_eq_some_iff.mp hfound).1
      exact ⟨_, List.getElem?_set_self hindex, nofun⟩

theorem step (h : QualificationKnown K device past)
    (hstep : QualificationStep K device event next) :
    Accounted K past event ∧ QualificationKnown K next (past ++ [event]) := by
  cases hstep with
  | evaluate => exact h.evaluated
  | apply hfound happlied => exact h.applied hfound happlied
  | refuse hfound hrefused =>
      obtain ⟨rfl, hafter⟩ := refused_of_perform hrefused
      refine ⟨trivial, h.replaced hfound ?_ appliedSamples_concat rfl fun _ => id⟩
      rcases hafter with rfl | rfl
      · exact ⟨rfl, id⟩
      · exact ⟨rfl, nofun⟩
  | discard hfound =>
      refine ⟨trivial, h.replaced hfound ?_ appliedSamples_concat rfl fun _ => id⟩
      rw [TargetQualificationResult.discard]
      split
      · exact ⟨rfl, nofun⟩
      · exact ⟨rfl, id⟩
  | reset =>
      refine ⟨trivial, .inl ⟨rfl, rfl, rfl, rfl⟩, ?_, ?_, ?_⟩
      · rw [evaluations_unchanged rfl, h.listed]
      · rw [evaluations_unchanged rfl]
        exact h.computed
      · rintro found ⟨other, hother, happlies⟩
        rcases List.mem_append.mp hother with hearlier | hlast
        · exact h.spent found ⟨other, hearlier, happlies⟩
        · rw [List.mem_singleton.mp hlast] at happlies
          exact happlies.elim

theorem first : QualificationKnown K {} [] where
  known := .inl ⟨rfl, rfl, rfl, rfl⟩
  listed := rfl
  computed entry hentry := nomatch (hentry : entry ∈ [])
  spent index happlied := by
    obtain ⟨event, hevent, -⟩ := happlied
    cases hevent

end QualificationKnown

/-- What the evaluator of any run has credited is time within the band, it reports a
completion only for enough of it, and it applies a decision once, on the state and in the
context that the decision was computed from. -/
theorem qualification_accounted {events : List QualificationEvent} {last : QualificationDevice}
    (hrun : Steps (QualificationStep K) {} events last) :
    (∀ earlier event later, events = earlier ++ event :: later → Accounted K earlier event) ∧
      (last.state.creditedInBandMillis = 0 ∨
        ∃ run, run <:+ appliedSamples events ∧ Uninterrupted K run ∧
          last.state.creditedInBandMillis.toNat ≤ inBandMillis K run) := by
  have hrecorded : QualificationKnown K last events ∧ ∀ earlier event later,
      events = earlier ++ event :: later → Accounted K earlier event :=
    hrun.recorded QualificationKnown.first QualificationKnown.step
  refine ⟨hrecorded.2, hrecorded.1.known.imp (fun hidle => hidle.uncredited) ?_⟩
  rintro ⟨run, sample, hsuffix, htracks⟩
  exact ⟨run ++ [sample], hsuffix, htracks.uninterrupted, htracks.credited⟩

end

/-! ## Samples that are judged and applied in turn -/

namespace QualificationDevice

def decided (device : QualificationDevice) (input : TargetQualificationInput) :
    TargetQualificationResult := device.state.evaluate ℚ input

def performed (device : QualificationDevice) (input : TargetQualificationInput) :
    TargetQualificationResult.Application :=
  (ApplyCall.ramOnly input.commitContext).perform (device.decided input) device.state

def sampled (device : QualificationDevice) (input : TargetQualificationInput) :
    QualificationDevice where
  state := (device.performed input).2.2
  decisions := device.decisions ++ [(input, (device.performed input).2.1)]

def after (device : QualificationDevice) (inputs : List TargetQualificationInput) :
    QualificationDevice := inputs.foldl sampled device

def sampledEvents (device : QualificationDevice) :
    List TargetQualificationInput → List QualificationEvent
  | [] => []
  | input :: inputs =>
      .evaluated input (device.decided input) ::
        .applied device.decisions.length input (device.decided input)
          (.ramOnly input.commitContext) device.state ::
        (device.sampled input).sampledEvents inputs

def accepts (device : QualificationDevice) : List TargetQualificationInput → Bool
  | [] => true
  | input :: inputs => (device.performed input).1 && (device.sampled input).accepts inputs

variable {device : QualificationDevice}

theorem apply_sampled {input : TargetQualificationInput} (h : (device.performed input).1 = true) :
    QualificationStep ℚ
      { device with decisions := device.decisions ++ [(input, device.decided input)] }
      (.applied device.decisions.length input (device.decided input)
        (.ramOnly input.commitContext) device.state) (device.sampled input) := by
  have hperformed : (ApplyCall.ramOnly input.commitContext).perform (device.decided input)
      device.state = (true, (device.performed input).2) := by
    rw [← h]
    rfl
  have hstep := @QualificationStep.apply ℚ _
    { device with decisions := device.decisions ++ [(input, device.decided input)] } _ _ _ _ _ _
    List.getElem?_concat_length hperformed
  rwa [List.set_append_right _ _ le_rfl, Nat.sub_self, List.set_cons_zero] at hstep

theorem steps_sampledEvents {inputs : List TargetQualificationInput}
    (h : device.accepts inputs = true) :
    Steps (QualificationStep ℚ) device (device.sampledEvents inputs) (device.after inputs) := by
  induction inputs generalizing device with
  | nil => exact .start
  | cons input inputs ih =>
      rw [accepts, Bool.and_eq_true] at h
      exact .cons .evaluate (.cons (apply_sampled h.1) (ih h.2))

end QualificationDevice

/-! ## Seconds within the band -/

/-- The air at its target of 3 °C, within a band of 1 °C. -/
def heldSample (now : UInt64) : TargetQualificationInput where
  sampleTimestampMonotonicMillis := now
  targetCelsius := .ofBits 0x4008000000000000
  bandCelsius := .ofBits 0x3ff0000000000000
  qualificationDurationMillis := 1000
  effectiveGraceMillis := some 0
  maximumAcceptedSampleGapMillis := some 1000
  air := { quality := .valid, filteredCelsius := some (.ofBits 0x4008000000000000) }

/-- A sample of a qualification of two seconds that lets the air leave the band for 800. -/
def gracedSample (now celsius : UInt64) : TargetQualificationInput :=
  { heldSample now with
    qualificationDurationMillis := 2000
    effectiveGraceMillis := some 800
    air := { quality := .valid, filteredCelsius := some (.ofBits celsius) } }

/-- At 900 the air is at 5 °C and out of the band, at the other times at its target. -/
def gracedSamples : List TargetQualificationInput :=
  [gracedSample 0 0x4008000000000000, gracedSample 600 0x4008000000000000,
    gracedSample 900 0x4014000000000000, gracedSample 1200 0x4008000000000000,
    gracedSample 1500 0x4008000000000000]

def gracedDevice : QualificationDevice := ({} : QualificationDevice).after gracedSamples

def gracedEvents : List QualificationEvent :=
  ({} : QualificationDevice).sampledEvents gracedSamples

set_option maxRecDepth 1000000 in
theorem graced_run : Steps (QualificationStep ℚ) {} gracedEvents gracedDevice :=
  QualificationDevice.steps_sampledEvents (by decide +kernel)

set_option maxRecDepth 1000000 in
/-- Two spans within the band are credited, and nothing of the grace between them. -/
theorem graced_samples_are_accounted :
    (∀ earlier event later, gracedEvents = earlier ++ event :: later →
      Accounted ℚ earlier event) ∧
      gracedDevice.state.creditedInBandMillis = 900 ∧
      ∃ run, run <:+ appliedSamples gracedEvents ∧ Uninterrupted ℚ run ∧
        900 ≤ inBandMillis ℚ run := by
  have hcredited : gracedDevice.state.creditedInBandMillis = 900 := by decide +kernel
  obtain ⟨haccounted, hcredit⟩ := qualification_accounted graced_run
  refine ⟨haccounted, hcredited, ?_⟩
  rw [hcredited] at hcredit
  exact hcredit.resolve_left (by decide)

def heldDecision : TargetQualificationResult :=
  ({} : TargetQualificationRuntimeState).evaluate ℚ (heldSample 0)

def completedDecision : TargetQualificationResult :=
  heldDecision.candidateEvaluatorState.evaluate ℚ (heldSample 1000)

def heldEvents : List QualificationEvent :=
  [.evaluated (heldSample 0) heldDecision,
    .applied 0 (heldSample 0) heldDecision (.ramOnly (heldSample 0).commitContext) {},
    .evaluated (heldSample 1000) completedDecision]

def heldDevice : QualificationDevice where
  state := heldDecision.candidateEvaluatorState
  decisions := [(heldSample 0, { heldDecision with lifecycle := .applied }),
    (heldSample 1000, completedDecision)]

set_option maxRecDepth 1000000 in
theorem held_run : Steps (QualificationStep ℚ) {} heldEvents heldDevice := by
  have happlied : (ApplyCall.ramOnly (heldSample 0).commitContext).perform heldDecision {} =
      (true, { heldDecision with lifecycle := .applied },
        heldDecision.candidateEvaluatorState) := by
    decide +kernel
  exact .cons .evaluate (.cons (.apply rfl happlied) (.cons .evaluate .start))

set_option maxRecDepth 1000000 in
/-- The completing sample counts before its decision is applied. -/
theorem completion_precedes_application :
    Steps (QualificationStep ℚ) {} heldEvents heldDevice ∧
      QualificationEvent.evaluated (heldSample 1000) completedDecision ∈ heldEvents ∧
      completedDecision.progress = .complete ∧
      appliedSamples heldEvents = [heldSample 0] ∧
      inBandMillis ℚ (appliedSamples heldEvents) <
        (heldSample 1000).qualificationDurationMillis.toNat :=
  ⟨held_run, by simp [heldEvents], by decide +kernel, rfl, by decide +kernel⟩

end Qualification

end Fermentationsschrank

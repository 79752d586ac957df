import Fermentationsschrank.Sensors.FilterContents

/-!
# One probe in the filters

The filters of a pipeline never mix two probes whose readings all name them, and they hold
nothing from before the age or count limit was last exceeded.
-/

namespace Fermentationsschrank.DevicePlatform

variable {Value : Type} [Field Value] [LinearOrder Value]

/-- Two readings that both name their probe name the same one. -/
def SameProbe (left right : TemperatureReading Value) : Prop :=
  ∀ first ∈ left.identity, ∀ second ∈ right.identity, first = second

omit [Field Value] [LinearOrder Value] in
/-- In a series of readings that all name a probe, it is the one of the last of them. -/
theorem identity_eq_last {readings : List (TemperatureReading Value)}
    {last : TemperatureReading Value} (hchain : (readings ++ [last]).IsChain SameProbe)
    (hnamed : ∀ reading ∈ readings ++ [last], reading.identity.isSome) :
    ∀ reading ∈ readings ++ [last], reading.identity = last.identity := by
  induction readings using List.reverseRecOn generalizing last with
  | nil =>
      intro reading hmem
      rw [List.mem_singleton.mp hmem]
  | append_singleton before previous ih =>
      intro reading hmem
      obtain ⟨hbefore, -, hjoint⟩ := List.isChain_append.mp hchain
      have hprevious : previous.identity = last.identity := by
        have hsame := hjoint previous (by simp) last (by simp)
        obtain ⟨first, hfirst⟩ := Option.isSome_iff_exists.mp (hnamed previous (by simp))
        obtain ⟨second, hsecond⟩ := Option.isSome_iff_exists.mp (hnamed last (by simp))
        rw [hfirst, hsecond, hsame first hfirst second hsecond]
      rcases List.mem_append.mp hmem with hmem | hmem
      · rw [← hprevious]
        exact ih hbefore
          (fun found hfound => hnamed found (List.mem_append_left _ hfound)) reading hmem
      · rw [List.mem_singleton.mp hmem]

namespace TrackedPipeline

variable {tracked : TrackedPipeline Value} {sample : TemperatureReading Value}
variable {decay : Decay Value} {nowMonotonicMs : ℕ} {celsius : Value}
variable {reason : SensorFaultReason}

/-- Neighbours since the last reset agree on their probe, and the pipeline names it. -/
structure ProbesKnown (tracked : TrackedPipeline Value) : Prop where
  chain : tracked.sinceReset.IsChain SameProbe
  last : ∀ reading ∈ tracked.sinceReset.getLast?, tracked.pipeline.lastAccepted = some reading
  known : ∀ reading, tracked.pipeline.lastAccepted = some reading →
    reading.identity.isSome → tracked.pipeline.lastKnownIdentity = reading.identity
  among : ∀ contribution ∈ tracked.contributing, contribution.sample ∈ tracked.sinceReset

/-- A sample that shows no change of the probe goes on with the one before it. -/
theorem ProbesKnown.chain_concat (h : ProbesKnown tracked)
    (hsame : tracked.pipeline.identityMismatch sample = false) :
    (tracked.sinceReset ++ [sample]).IsChain SameProbe := by
  refine List.isChain_append.mpr ⟨h.chain, List.isChain_singleton _, ?_⟩
  intro reading hreading _ hsample first hfirst second hsecond
  cases hsample
  rw [SensorQualityPipeline.identityMismatch, h.last reading hreading, Option.bind_some, hfirst,
    hsecond] at hsame
  exact not_not.mp (of_decide_eq_false hsame)

theorem ProbesKnown.expire (h : ProbesKnown tracked) :
    ProbesKnown (tracked.expire nowMonotonicMs) := by
  by_cases hfailure : tracked.pipeline.rawFailure nowMonotonicMs = true
  · rw [TrackedPipeline.expire, if_pos hfailure]
    refine ⟨List.isChain_nil, fun _ h => absurd h (Option.not_mem_none _), ?_,
      fun _ h => absurd h List.not_mem_nil⟩
    intro reading hreading hnamed
    rw [SensorQualityPipeline.lastKnownIdentity_expire]
    rw [SensorQualityPipeline.lastAccepted_expire] at hreading
    exact h.known reading hreading hnamed
  · rw [TrackedPipeline.expire, if_neg hfailure]
    exact h

theorem ProbesKnown.reject (h : ProbesKnown tracked)
    (hjudge : (tracked.pipeline.expire nowMonotonicMs).judge sample = .error reason) :
    ProbesKnown (tracked.reject sample reason nowMonotonicMs) := by
  have hlast : (tracked.reject sample reason nowMonotonicMs).pipeline.lastAccepted =
      some sample := by
    rw [TrackedPipeline.reject, SensorQualityPipeline.lastAccepted_recordInvalidSample,
      SensorQualityPipeline.lastAccepted_noted]
  have hknown : ∀ reading,
      (tracked.reject sample reason nowMonotonicMs).pipeline.lastAccepted = some reading →
      reading.identity.isSome →
      (tracked.reject sample reason nowMonotonicMs).pipeline.lastKnownIdentity =
        reading.identity := by
    intro reading hreading hnamed
    cases hlast.symm.trans hreading
    rw [TrackedPipeline.reject, SensorQualityPipeline.lastKnownIdentity_recordInvalidSample,
      SensorQualityPipeline.lastKnownIdentity_noted, Option.or_of_isSome hnamed]
  cases hdiscards :
      (tracked.pipeline.noted sample nowMonotonicMs).countInvalid.discardsFilters reason with
  | true =>
      refine ⟨?_, ?_, hknown, ?_⟩
      all_goals simp only [TrackedPipeline.reject, hdiscards, if_true]
      · exact List.isChain_nil
      · exact fun _ h => absurd h (Option.not_mem_none _)
      · exact fun _ h => absurd h List.not_mem_nil
  | false =>
      have hsame : tracked.pipeline.identityMismatch sample = false := by
        refine Bool.eq_false_iff.mpr fun hmismatch => ?_
        cases hjudge.symm.trans (SensorQualityPipeline.judge_of_mismatch hmismatch)
        rw [SensorQualityPipeline.discardsFilters, decide_eq_true rfl, Bool.or_true] at hdiscards
        cases hdiscards
      refine ⟨?_, ?_, hknown, ?_⟩
      · simp only [TrackedPipeline.reject, hdiscards, Bool.false_eq_true, if_false]
        exact h.chain_concat hsame
      · simp only [TrackedPipeline.reject, hdiscards, Bool.false_eq_true, if_false,
          List.getLast?_concat]
        rintro _ ⟨⟩
        exact hlast
      · simp only [TrackedPipeline.reject, hdiscards, Bool.false_eq_true, if_false]
        exact fun contribution hmem => List.mem_append_left _ (h.among contribution hmem)

theorem ProbesKnown.accept (h : ProbesKnown tracked)
    (hjudge : (tracked.pipeline.expire nowMonotonicMs).judge sample = .ok celsius) :
    ProbesKnown (tracked.accept sample decay celsius nowMonotonicMs) := by
  have hexpired := @h.expire _ _ _ _ nowMonotonicMs
  have hsame : (tracked.expire nowMonotonicMs).pipeline.identityMismatch sample = false := by
    rw [pipeline_expire, SensorQualityPipeline.identityMismatch_expire]
    refine Bool.eq_false_iff.mpr fun hmismatch => ?_
    cases hjudge.symm.trans (SensorQualityPipeline.judge_of_mismatch hmismatch)
  have hlast : (tracked.accept sample decay celsius nowMonotonicMs).pipeline.lastAccepted =
      some sample := by
    rw [TrackedPipeline.accept, SensorQualityPipeline.lastAccepted_contribute]
    rfl
  refine ⟨hexpired.chain_concat hsame, ?_, ?_, ?_⟩
  · intro reading hreading
    rw [TrackedPipeline.accept, List.getLast?_concat] at hreading
    cases hreading
    exact hlast
  · intro reading hreading hnamed
    cases hlast.symm.trans hreading
    rw [TrackedPipeline.accept, SensorQualityPipeline.lastKnownIdentity_contribute]
    exact (@SensorQualityPipeline.lastKnownIdentity_noted _ _ _ tracked.pipeline sample
      nowMonotonicMs).trans (Option.or_of_isSome hnamed)
  · intro contribution hmem
    rcases List.mem_append.mp hmem with hmem | hmem
    · exact List.mem_append_left _ (hexpired.among contribution hmem)
    · rw [List.mem_singleton.mp hmem]
      exact List.mem_append_right _ (List.mem_singleton_self _)

theorem probesKnown_run (config : SensorQualityConfig Value) (calls : List (SensorCall Value)) :
    ProbesKnown ((create config).run decay calls) :=
  run_keeps (fun _ _ h => ⟨h.chain, h.last, h.known, h.among⟩)
    (fun _ _ _ _ h _ _ hjudge => h.reject hjudge)
    (fun _ _ _ _ h _ _ hjudge => h.accept hjudge) (fun _ _ _ _ => Nat.zero_le _)
    ⟨List.isChain_nil, nofun, nofun, nofun⟩

/-- Where every reading since the last reset names its probe, the contributing ones come from
the reported one. -/
theorem ProbesKnown.reported (h : ProbesKnown tracked)
    (hnamed : ∀ reading ∈ tracked.sinceReset, reading.identity.isSome)
    {contribution : Contribution Value} (hmem : contribution ∈ tracked.contributing) :
    contribution.sample.identity.isSome ∧
      contribution.sample.identity = (tracked.pipeline.snapshot nowMonotonicMs).identity := by
  have hsample := h.among contribution hmem
  refine ⟨hnamed _ hsample, ?_⟩
  rcases List.eq_nil_or_concat tracked.sinceReset with hnil | ⟨before, last, hsplit⟩
  · rw [hnil] at hsample
    cases hsample
  · rw [List.concat_eq_append] at hsplit
    have hchain := h.chain
    rw [hsplit] at hchain hsample hnamed
    have hlast := h.last last (by rw [hsplit, List.getLast?_concat]; rfl)
    calc
      contribution.sample.identity = last.identity :=
        identity_eq_last hchain hnamed _ hsample
      _ = tracked.pipeline.lastKnownIdentity :=
        (h.known last hlast
          (hnamed last (List.mem_append_right _ (List.mem_singleton_self _)))).symm

/-! ## After a failure -/

/-- Only samples accepted since some state contribute, or the limit it exceeded is exceeded
still. -/
def OnlyFresh (atMs : ℕ) (history : List (TemperatureReading Value))
    (tracked : TrackedPipeline Value) : Prop :=
  ∃ fresh, tracked.history = history ++ fresh ∧
    ((∀ timeMs, atMs ≤ timeMs → tracked.pipeline.rawFailure timeMs = true) ∨
      ∀ contribution ∈ tracked.contributing, contribution.sample ∈ fresh)

variable {atMs : ℕ} {history : List (TemperatureReading Value)}

theorem OnlyFresh.reject (h : OnlyFresh atMs history tracked) (hle : atMs ≤ nowMonotonicMs) :
    OnlyFresh atMs history (tracked.reject sample reason nowMonotonicMs) := by
  obtain ⟨fresh, hhistory, hfresh⟩ := h
  refine ⟨fresh ++ [sample], ?_, Or.inr ?_⟩
  · rw [TrackedPipeline.reject, hhistory, List.append_assoc]
  · rcases hfresh with hfailure | hfresh
    · have hdiscards := @SensorQualityPipeline.discardsFilters_of_failure _ _ _ _ sample _ reason
        (hfailure nowMonotonicMs hle)
      simp only [TrackedPipeline.reject, hdiscards, if_true]
      exact fun _ h => absurd h List.not_mem_nil
    · intro contribution hmem
      rw [TrackedPipeline.reject] at hmem
      dsimp only at hmem
      split at hmem
      · cases hmem
      · exact List.mem_append_left _ (hfresh contribution hmem)

theorem OnlyFresh.accept (h : OnlyFresh atMs history tracked) (hle : atMs ≤ nowMonotonicMs) :
    OnlyFresh atMs history (tracked.accept sample decay celsius nowMonotonicMs) := by
  obtain ⟨fresh, hhistory, hfresh⟩ := h
  refine ⟨fresh ++ [sample], ?_, Or.inr ?_⟩
  · rw [TrackedPipeline.accept, hhistory, List.append_assoc]
  · intro contribution hmem
    rcases List.mem_append.mp hmem with hmem | hmem
    · rw [TrackedPipeline.expire] at hmem
      split at hmem
      · cases hmem
      · next hsound =>
          rcases hfresh with hfailure | hfresh
          · exact absurd (hfailure nowMonotonicMs hle) hsound
          · exact List.mem_append_left _ (hfresh contribution hmem)
    · rw [List.mem_singleton.mp hmem]
      exact List.mem_append_right _ (List.mem_singleton_self _)

theorem onlyFresh_run {calls : List (SensorCall Value)}
    (hlater : ∀ call ∈ calls, ∀ timeMs ∈ call.time, atMs ≤ timeMs)
    (hfailure : tracked.pipeline.rawFailure atMs = true) :
    OnlyFresh atMs tracked.history (tracked.run decay calls) :=
  run_keeps (fun _ _ h => h) (fun _ _ _ _ h hle _ _ => h.reject hle)
    (fun _ _ _ _ h hle _ _ => h.accept hle) hlater
    ⟨[], (List.append_nil _).symm, Or.inl fun _ hle =>
      SensorQualityPipeline.rawFailure_mono hle hfailure⟩

end TrackedPipeline

/-- What is exposed to a reader: a corrected or a filtered temperature. -/
def SensorQualitySnapshot.exposes (snapshot : SensorQualitySnapshot Value) : Bool :=
  snapshot.correctedCelsius.isSome || snapshot.filteredCelsius.isSome

/-- A sensor that fails now exposes nothing. -/
theorem not_exposes_of_failure {pipeline : SensorQualityPipeline Value} {nowMonotonicMs : ℕ}
    (h : pipeline.rawFailure nowMonotonicMs = true) :
    (pipeline.snapshot nowMonotonicMs).exposes = false := by
  have hquality : pipeline.quality nowMonotonicMs = .failed := by
    rw [SensorQualityPipeline.quality, if_pos h]
  simp [SensorQualitySnapshot.exposes, SensorQualityPipeline.snapshot, hquality]

/-- The median filter holds the last contributing values, and the low pass is what those
values make of it.  Neighbouring readings since the filters were reset that both name their
probe name the same one; if all of them name one, every contributing sample comes from the
probe that is reported.  Of a sensor that exceeded its age or count limit at some time, only
samples accepted after that contribute to what is exposed later. -/
theorem filters_hold_one_probe (decay : Decay Value) (config : SensorQualityConfig Value)
    (calls : List (SensorCall Value)) :
    ((TrackedPipeline.create config).run decay calls).pipeline =
      calls.foldl (SensorCall.perform decay) (SensorQualityPipeline.create config) ∧
    (((TrackedPipeline.create config).run decay calls).pipeline.medianFilter.contents.Perm
      ((((TrackedPipeline.create config).run decay calls).contributing.map
        (·.celsius)).rtake config.medianWindowSize)) ∧
    (((TrackedPipeline.create config).run decay calls).contributing = [] →
      ((TrackedPipeline.create config).run decay calls).pipeline.lowPassFilter.filteredValue =
        none) ∧
    (∀ before last,
      ((TrackedPipeline.create config).run decay calls).contributing = before ++ [last] →
      ∃ filtered,
        smoothed decay config.lowPassTauSeconds (before ++ [last]) =
          some (filtered, last.sample.monotonicTimestampMs) ∧
        ((TrackedPipeline.create config).run decay calls).pipeline.lowPassFilter.filteredValue =
          some (filtered + last.offset)) ∧
    (∀ contribution ∈ ((TrackedPipeline.create config).run decay calls).contributing,
      contribution.sample ∈ ((TrackedPipeline.create config).run decay calls).sinceReset) ∧
    ((TrackedPipeline.create config).run decay calls).sinceReset.IsChain SameProbe ∧
    ((∀ reading ∈ ((TrackedPipeline.create config).run decay calls).sinceReset,
        reading.identity.isSome) →
      ∀ contribution ∈ ((TrackedPipeline.create config).run decay calls).contributing,
        ∀ nowMonotonicMs, contribution.sample.identity.isSome ∧
          contribution.sample.identity =
            (((TrackedPipeline.create config).run decay calls).pipeline.snapshot
              nowMonotonicMs).identity) ∧
    ∀ before after atMs nowMonotonicMs, calls = before ++ after →
      ((TrackedPipeline.create config).run decay before).pipeline.rawFailure atMs = true →
      (∀ call ∈ after, ∀ timeMs ∈ call.time, atMs ≤ timeMs) → atMs ≤ nowMonotonicMs →
      (((TrackedPipeline.create config).run decay calls).pipeline.snapshot
        nowMonotonicMs).exposes = true →
      ∃ fresh, ((TrackedPipeline.create config).run decay calls).history =
          ((TrackedPipeline.create config).run decay before).history ++ fresh ∧
        ∀ contribution ∈ ((TrackedPipeline.create config).run decay calls).contributing,
          contribution.sample ∈ fresh := by
  have hfilters := @TrackedPipeline.filtersKnown_run _ _ _ decay config calls
  have hprobes := @TrackedPipeline.probesKnown_run _ _ _ decay config calls
  have hconfig : ((TrackedPipeline.create config).run decay calls).pipeline.config = config :=
    TrackedPipeline.config_run
  refine ⟨TrackedPipeline.pipeline_run calls, ?_, fun hnone => (hfilters.empty hnone).1,
    fun before last hsplit => ?_, hprobes.among, hprobes.chain, ?_, ?_⟩
  · have hcapacity := hfilters.window
    rw [hconfig] at hcapacity
    rw [← hcapacity, ← hfilters.holds]
    exact RingBuffer.perm_inOrder.symm
  · obtain ⟨filtered, hsmooths⟩ := hfilters.filled before last hsplit
    have hsmoothed := hsmooths.smoothed
    rw [hconfig, hsplit] at hsmoothed
    exact ⟨filtered, hsmoothed, hsmooths.filteredValue⟩
  · exact fun hnamed contribution hmem _ => hprobes.reported hnamed hmem
  · rintro before after atMs nowMonotonicMs rfl hfailure hlater hle hexposes
    rw [TrackedPipeline.run_append] at hexposes ⊢
    obtain ⟨fresh, hhistory, hfresh⟩ :=
      TrackedPipeline.onlyFresh_run hlater hfailure
    rcases hfresh with hstill | hfresh
    · rw [not_exposes_of_failure (hstill nowMonotonicMs hle)] at hexposes
      cases hexposes
    · exact ⟨fresh, hhistory, hfresh⟩

/-- Two samples of one probe. -/
theorem filters_hold_first_probe :
    ∀ contribution ∈ ((TrackedPipeline.create Bench.config).run Bench.decay
        [Bench.sampled (some Bench.firstProbe) 1000 20,
          Bench.sampled (some Bench.firstProbe) 2000 21]).contributing,
      contribution.sample.identity.isSome ∧ contribution.sample.identity =
        (((TrackedPipeline.create Bench.config).run Bench.decay
          [Bench.sampled (some Bench.firstProbe) 1000 20,
            Bench.sampled (some Bench.firstProbe) 2000 21]).pipeline.snapshot 2000).identity :=
  fun contribution hmem =>
    (filters_hold_one_probe Bench.decay Bench.config _).2.2.2.2.2.2.1 (by decide +kernel)
      contribution hmem 2000

/-- A fault of the bus between two samples hides that the probe was exchanged, and the first
sample of a recovery is in the filters while a failure is still reported. -/
theorem exchange_behind_fault :
    (¬∀ (calls : List (SensorCall ℚ)) (nowMonotonicMs : ℕ),
      (((TrackedPipeline.create Bench.config).run Bench.decay calls).pipeline.snapshot
        nowMonotonicMs).exposes = true →
      ∀ contribution ∈ ((TrackedPipeline.create Bench.config).run Bench.decay calls).contributing,
        contribution.sample.identity.isSome ∧ contribution.sample.identity =
          (((TrackedPipeline.create Bench.config).run Bench.decay calls).pipeline.snapshot
            nowMonotonicMs).identity) ∧
    ¬∀ (before after : List (SensorCall ℚ)) (atMs nowMonotonicMs : ℕ),
      (((TrackedPipeline.create Bench.config).run Bench.decay before).pipeline.snapshot
        atMs).quality = .failed →
      (((TrackedPipeline.create Bench.config).run Bench.decay (before ++ after)).pipeline.snapshot
        nowMonotonicMs).exposes = true →
      ∀ contribution ∈ ((TrackedPipeline.create Bench.config).run Bench.decay
        (before ++ after)).contributing,
        contribution.sample ∉ ((TrackedPipeline.create Bench.config).run Bench.decay
          before).history := by
  constructor
  · intro h
    have hmixed := h [Bench.sampled (some Bench.firstProbe) 1000 20, Bench.busFault 2000,
      Bench.sampled (some Bench.secondProbe) 3000 21] 3000 (by decide +kernel)
    revert hmixed
    decide +kernel
  · intro h
    have hrecovered := h [Bench.busFault 1000, Bench.busFault 2000, Bench.busFault 3000,
      Bench.sampled (some Bench.firstProbe) 4000 20] [Bench.sampled (some Bench.firstProbe) 5000 20]
      4000 5000 (by decide +kernel) (by decide +kernel)
    revert hrecovered
    decide +kernel

end Fermentationsschrank.DevicePlatform

import Fermentationsschrank.Core.Fallible
import Fermentationsschrank.Run.RunSnapshot

/-!
# The chain of adjustments

A run records its adjustments.  Each links to the one before it, and the chain is
validated as a whole when the run is restored.  The run only checks its newest
adjustment against the last one, which keeps the whole chain valid.
-/

namespace Fermentationsschrank

/-! ## The walk over a chain -/

section

variable {snapshot : RunProgramSnapshot} {index : ℕ} {previous : Option RunRevision}
variable {current values : EffectiveRunValues} {latest : Option Int64}
variable {revisions : List RunRevision} {revision : RunRevision}

theorem latestUnixTimeSeconds_cons :
    latestUnixTimeSeconds (revision :: revisions) =
      (latestUnixTimeSeconds revisions).or revision.timestamp.unixTimeSeconds := by
  rw [latestUnixTimeSeconds, latestUnixTimeSeconds, List.reverse_cons,
    List.findSome?_append]
  cases hunix : revision.timestamp.unixTimeSeconds with
  | none => rw [List.findSome?_singleton, hunix]
  | some seconds => rw [List.findSome?_singleton, hunix]

/-- What the walk requires of the next revision. -/
structure RunRevision.Admitted (snapshot : RunProgramSnapshot) (index : ℕ)
    (previous : Option RunRevision) (current : EffectiveRunValues) (latest : Option Int64)
    (revision : RunRevision) : Prop where
  sequence : revision.sequence.toNat = index + 1
  epoch : validMonotonicEpoch previous revision = true
  stage : revision.stageIndex.toNat < sourceStageCount snapshot.source
  before : equalValues revision.before current = true
  metadata : validRevisionMetadata revision = true
  target : validTargetTemperature snapshot revision.stageIndex
    revision.after.targetTemperatureCelsius = true
  duration : validRemainingDuration snapshot revision.stageIndex
    revision.after.remainingDurationMinutes = true
  monotonic : (previous.all fun previous =>
    !monotonicTimestampWentBackwards revision.timestamp revision.monotonicEpoch
      previous.timestamp previous.monotonicEpoch) = true
  unix : ¬ unixTimestampWentBackwards revision.timestamp latest = true

theorem validateRevisions_cons :
    validateRevisions snapshot index previous current latest (revision :: revisions) =
        some values ↔
      revision.Admitted snapshot index previous current latest ∧
        validateRevisions snapshot (index + 1) (some revision) revision.after
          (revision.timestamp.unixTimeSeconds.or latest) revisions = some values := by
  rw [validateRevisions]
  constructor
  · intro h
    split at h
    · rename_i hchecks
      obtain ⟨hsequence, hepoch, hstage, hbefore, hmetadata, htarget, hduration, hmonotonic,
        hunix⟩ := hchecks
      exact ⟨⟨hsequence, hepoch, hstage, hbefore, hmetadata, htarget, hduration, hmonotonic,
        hunix⟩, h⟩
    · cases h
  · rintro ⟨hadmitted, h⟩
    rwa [if_pos ⟨hadmitted.sequence, hadmitted.epoch, hadmitted.stage, hadmitted.before,
      hadmitted.metadata, hadmitted.target, hadmitted.duration, hadmitted.monotonic,
      hadmitted.unix⟩]

/-- A chain that ends with a revision is valid up to it, and admits it there. -/
theorem validateRevisions_concat {last : EffectiveRunValues} :
    validateRevisions snapshot index previous current latest (revisions ++ [revision]) =
        some last ↔
      ∃ values, validateRevisions snapshot index previous current latest revisions =
          some values ∧
        revision.Admitted snapshot (index + revisions.length)
          (revisions.getLast?.or previous) values
          ((latestUnixTimeSeconds revisions).or latest) ∧
        last = revision.after := by
  induction revisions generalizing index previous current latest with
  | nil =>
      rw [List.nil_append, validateRevisions_cons, validateRevisions]
      constructor
      · rintro ⟨hadmitted, hlast⟩
        exact ⟨current, rfl, hadmitted, (Option.some.inj hlast).symm⟩
      · rintro ⟨values, hvalues, hadmitted, rfl⟩
        cases hvalues
        exact ⟨hadmitted, rfl⟩
  | cons earlier revisions ih =>
      have hlatest : (latestUnixTimeSeconds (earlier :: revisions)).or latest =
          (latestUnixTimeSeconds revisions).or
            (earlier.timestamp.unixTimeSeconds.or latest) := by
        rw [latestUnixTimeSeconds_cons, Option.or_assoc]
      have hprevious : (earlier :: revisions).getLast?.or previous =
          revisions.getLast?.or (some earlier) := by
        cases hrest : revisions.getLast? with
        | none =>
            rw [List.getLast?_eq_none_iff.mp hrest]
            rfl
        | some final =>
            rw [List.getLast?_cons, hrest]
            rfl
      have hindex : index + 1 + revisions.length =
          index + (earlier :: revisions).length := by
        rw [List.length_cons]
        omega
      rw [List.cons_append, validateRevisions_cons, ih, hlatest, hprevious, hindex]
      simp only [validateRevisions_cons]
      constructor
      · rintro ⟨hearlier, values, hvalues, hadmitted, hlast⟩
        exact ⟨values, ⟨hearlier, hvalues⟩, hadmitted, hlast⟩
      · rintro ⟨values, ⟨hearlier, hvalues⟩, hadmitted, hlast⟩
        exact ⟨hearlier, values, hvalues, hadmitted, hlast⟩

/-- One adjustment goes on where the other ended. -/
def RunRevision.Follows (earlier later : RunRevision) : Prop :=
  later.before = earlier.after ∧ earlier.monotonicEpoch ≤ later.monotonicEpoch

theorem epoch_le_of_validMonotonicEpoch {earlier later : RunRevision}
    (h : validMonotonicEpoch (some earlier) later = true) :
    earlier.monotonicEpoch ≤ later.monotonicEpoch := by
  rw [validMonotonicEpoch, decide_eq_true_eq] at h
  rcases h with hsame | ⟨hgrown, -⟩
  · rw [hsame]
    exact UInt32.le_refl _
  · exact UInt32.le_of_lt hgrown

theorem eq_of_equalValues {left right : EffectiveRunValues}
    (h : equalValues left right = true) : left = right := by
  rw [equalValues, Bool.and_eq_true, decide_eq_true_eq] at h
  obtain ⟨htarget, hduration⟩ := h
  cases left
  cases right
  rw [EffectiveRunValues.mk.injEq]
  exact ⟨Binary64.eq_of_eq htarget, hduration⟩

/-- A valid chain starts at the given values, and every revision follows its
predecessor. -/
theorem chain_of_validateRevisions
    (h : validateRevisions snapshot index previous current latest revisions =
      some values) :
    (∀ first ∈ revisions.head?, first.before = current) ∧
      revisions.IsChain RunRevision.Follows := by
  induction revisions generalizing index previous current latest with
  | nil => exact ⟨fun _ hnone => (nomatch hnone), .nil⟩
  | cons revision revisions ih =>
      obtain ⟨hadmitted, hrest⟩ := validateRevisions_cons.mp h
      obtain ⟨hhead, hchain⟩ := ih hrest
      refine ⟨fun first hfirst => ?_, ?_⟩
      · cases hfirst
        exact eq_of_equalValues hadmitted.before
      · cases revisions with
        | nil => exact .singleton revision
        | cons next rest =>
            obtain ⟨hnext, -⟩ := validateRevisions_cons.mp hrest
            exact .cons_cons ⟨hhead next rfl, epoch_le_of_validMonotonicEpoch hnext.epoch⟩
              hchain

/-- Epochs are counted from zero, and grow by one at most. -/
theorem epoch_lt_of_validateRevisions
    (hprevious : ∀ earlier ∈ previous, earlier.monotonicEpoch.toNat < index)
    (h : validateRevisions snapshot index previous current latest revisions =
      some values) :
    ∀ revision ∈ revisions, revision.monotonicEpoch.toNat < index + revisions.length := by
  induction revisions generalizing index previous current latest with
  | nil => simp
  | cons revision revisions ih =>
      obtain ⟨hadmitted, hrest⟩ := validateRevisions_cons.mp h
      have hepoch : revision.monotonicEpoch.toNat < index + 1 := by
        have hvalid := hadmitted.epoch
        cases previous with
        | none =>
            rw [validMonotonicEpoch, decide_eq_true_eq] at hvalid
            rw [hvalid]
            exact Nat.succ_pos _
        | some earlier =>
            have hearlier := hprevious earlier rfl
            rw [validMonotonicEpoch, decide_eq_true_eq] at hvalid
            rcases hvalid with hsame | ⟨hgrown, hone⟩
            · rw [hsame]
              omega
            · have hdifference := congrArg UInt32.toNat hone
              rw [UInt32.toNat_sub_of_le _ _ (UInt32.le_of_lt hgrown)] at hdifference
              have hnat : (1 : UInt32).toNat = 1 := rfl
              omega
      have hlater := ih (fun earlier hearlier => by cases hearlier; exact hepoch) hrest
      intro found hfound
      rw [List.length_cons]
      rcases List.mem_cons.mp hfound with rfl | hfound
      · omega
      · have hbound := hlater found hfound
        omega

end

/-! ## A run whose chain is valid -/

namespace ActiveRun

variable {run adjusted : ActiveRun}

/-- The epoch a run goes on in after it has been restored. -/
def nextEpoch (revisions : List RunRevision) : UInt32 :=
  match revisions.getLast? with
  | some last => last.monotonicEpoch + 1
  | none => 0

/-- The run passes the validation of its restore with the values it shows, and its epoch
is the one of its last adjustment, or the next one. -/
structure Chained (run : ActiveRun) : Prop where
  valid : validateRunProgramSnapshotInto run.snapshot run.revisions =
    some run.effectiveValues
  epoch : run.monotonicEpoch = nextEpoch run.revisions ∨
    ∃ last, run.revisions.getLast? = some last ∧ run.monotonicEpoch = last.monotonicEpoch

theorem validate_eq_some {snapshot : RunProgramSnapshot} {revisions : List RunRevision}
    {values : EffectiveRunValues} :
    validateRunProgramSnapshotInto snapshot revisions = some values ↔
      snapshot.sourceKind = programSourceKind snapshot.source ∧
        revisions.length ≤ kMaximumRunRevisions ∧
        ∃ initial, makeInitialEffectiveRunValues snapshot.source
            snapshot.sourceProgramRevision = some initial ∧
          validateRevisions snapshot 0 none initial none revisions = some values := by
  simp only [validateRunProgramSnapshotInto, Option.bind_eq_bind,
    Option.ite_none_right_eq_some, Option.bind_eq_some_iff, and_assoc]

/-- The last epoch of a valid chain has a successor. -/
theorem Chained.epoch_lt {last : RunRevision} (h : run.Chained)
    (hlast : run.revisions.getLast? = some last) :
    last.monotonicEpoch < nextEpoch run.revisions := by
  obtain ⟨-, hroom, initial, -, hchain⟩ := validate_eq_some.mp h.valid
  have hsmall := epoch_lt_of_validateRevisions (by simp) hchain last
    (List.mem_of_getLast? hlast)
  have hcapacity : kMaximumRunRevisions = 32 := rfl
  have hone : (1 : UInt32).toNat = 1 := rfl
  rw [nextEpoch, hlast, UInt32.lt_iff_toNat_lt, UInt32.toNat_add]
  omega

theorem chained_start {source : ProgramRunSource} {revision : Option UInt64}
    (h : ActiveRun.start source revision = some run) : run.Chained := by
  simp only [ActiveRun.start, Option.pure_def, Option.bind_eq_bind, Option.bind_eq_some_iff,
    Option.some.injEq] at h
  obtain ⟨initial, hinitial, rfl⟩ := h
  exact ⟨validate_eq_some.mpr ⟨rfl, Nat.zero_le _, initial, hinitial, rfl⟩, .inl rfl⟩

theorem chained_restore {snapshot : RunProgramSnapshot} {revisions : List RunRevision}
    (h : ActiveRun.restore snapshot revisions = some run) : run.Chained := by
  obtain ⟨hvalid, rfl, rfl, hepoch⟩ := restore_eq_some.mp h
  exact ⟨hvalid, .inl hepoch⟩

/-- A chained run can be restored, in its next epoch. -/
theorem Chained.restore (h : run.Chained) :
    ActiveRun.restore run.snapshot run.revisions =
      some { run with monotonicEpoch := nextEpoch run.revisions } :=
  restore_eq_some.mpr ⟨h.valid, rfl, rfl, rfl⟩

/-! ### Adjusting -/

/-- What the run has checked of an adjustment it accepts. -/
theorem applyAdjustment_eq_ok {decision : RunAdjustmentDecision}
    {effect : RunAdjustmentEffect}
    (h : run.applyAdjustment decision = .ok (adjusted, effect)) :
    ∃ revision, decision.revision = some revision ∧
      decision.expectedRevisionCount = run.revisions.length ∧
      run.revisions.length < kMaximumRunRevisions ∧
      revision.sequence.toNat = run.revisions.length + 1 ∧
      revision.monotonicEpoch = run.monotonicEpoch ∧
      equalValues revision.before run.effectiveValues = true ∧
      validRevisionMetadata revision = true ∧
      validTargetTemperature run.snapshot revision.stageIndex
        revision.after.targetTemperatureCelsius = true ∧
      validRemainingDuration run.snapshot revision.stageIndex
        revision.after.remainingDurationMinutes = true ∧
      run.timestampInvalid revision.timestamp revision.monotonicEpoch = false ∧
      adjusted = { run with
        revisions := run.revisions ++ [revision]
        effectiveValues := revision.after } := by
  simp only [applyAdjustment, bind_eq_ok, require_eq_ok, orFail_eq_ok,
    decide_eq_true_eq] at h
  obtain ⟨_, -, revision, hrevision, _, ⟨hcount, -, hroom⟩, _, ⟨hsequence, hepoch, hbefore,
    hmetadata, htarget, hduration, htimestamp⟩, hadjusted⟩ := h
  cases hadjusted
  exact ⟨revision, hrevision, hcount, hroom, hsequence, hepoch, hbefore, hmetadata, htarget,
    hduration, Bool.eq_false_iff.mpr htimestamp, rfl⟩

/-- The walk of a restore admits the adjustment a chained run has accepted. -/
theorem Chained.admitted {revision : RunRevision} (h : run.Chained)
    (hsequence : revision.sequence.toNat = run.revisions.length + 1)
    (hepoch : revision.monotonicEpoch = run.monotonicEpoch)
    (hbefore : equalValues revision.before run.effectiveValues = true)
    (hmetadata : validRevisionMetadata revision = true)
    (htarget : validTargetTemperature run.snapshot revision.stageIndex
      revision.after.targetTemperatureCelsius = true)
    (hduration : validRemainingDuration run.snapshot revision.stageIndex
      revision.after.remainingDurationMinutes = true)
    (htimestamp : run.timestampInvalid revision.timestamp revision.monotonicEpoch = false) :
    revision.Admitted run.snapshot (0 + run.revisions.length)
      (run.revisions.getLast?.or none) run.effectiveValues
      ((latestUnixTimeSeconds run.revisions).or none) := by
  rw [Option.or_none, Option.or_none, Nat.zero_add]
  have hstage : revision.stageIndex.toNat < sourceStageCount run.snapshot.source := by
    rw [validTargetTemperature, decide_eq_true_eq] at htarget
    exact htarget.1
  cases hlast : run.revisions.getLast? with
  | none =>
      have hempty := List.getLast?_eq_none_iff.mp hlast
      refine ⟨hsequence, ?_, hstage, hbefore, hmetadata, htarget, hduration, rfl, ?_⟩
      · rcases h.epoch with hnext | ⟨last, hsome, -⟩
        · rw [validMonotonicEpoch, hepoch, hnext, nextEpoch, hlast]
          rfl
        · rw [hlast] at hsome
          cases hsome
      · intro hbackwards
        have hnothing : latestUnixTimeSeconds run.revisions = none := by
          rw [hempty]
          rfl
        simp [unixTimestampWentBackwards, hnothing] at hbackwards
  | some last =>
      rw [timestampInvalid, hlast, Option.any_some, Bool.or_eq_false_iff] at htimestamp
      refine ⟨hsequence, ?_, hstage, hbefore, hmetadata, htarget, hduration, ?_, ?_⟩
      · rw [validMonotonicEpoch, decide_eq_true_eq, hepoch]
        rcases h.epoch with hnext | ⟨found, hsome, hsame⟩
        · have hgrown := h.epoch_lt hlast
          rw [← hnext] at hgrown
          refine .inr ⟨hgrown, ?_⟩
          rw [hnext, nextEpoch, hlast]
          show last.monotonicEpoch + 1 - last.monotonicEpoch = 1
          rw [UInt32.add_comm, UInt32.add_sub_cancel]
        · rw [hlast] at hsome
          cases hsome
          exact .inl hsame
      · rw [Option.all_some, htimestamp.1]
        rfl
      · rw [htimestamp.2]
        exact Bool.false_ne_true

/-- An accepted adjustment extends the chain; the epoch stays. -/
theorem Chained.applyAdjustment {decision : RunAdjustmentDecision}
    {effect : RunAdjustmentEffect} (h : run.Chained)
    (happlied : run.applyAdjustment decision = .ok (adjusted, effect)) :
    adjusted.Chained := by
  obtain ⟨revision, -, -, hroom, hsequence, hepoch, hbefore, hmetadata, htarget, hduration,
    htimestamp, rfl⟩ := applyAdjustment_eq_ok happlied
  obtain ⟨hkind, -, initial, hinitial, hchain⟩ := validate_eq_some.mp h.valid
  have hadmitted := h.admitted hsequence hepoch hbefore hmetadata htarget hduration
    htimestamp
  refine ⟨validate_eq_some.mpr ⟨hkind, ?_, initial, hinitial, ?_⟩, .inr ⟨revision, ?_, ?_⟩⟩
  · rw [List.length_append, List.length_singleton]
    exact hroom
  · exact validateRevisions_concat.mpr ⟨run.effectiveValues, hchain, hadmitted, rfl⟩
  · exact List.getLast?_concat
  · exact hepoch.symm

end ActiveRun

end Fermentationsschrank

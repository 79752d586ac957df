import Fermentationsschrank.Core.Runs
import Fermentationsschrank.Run.AdjustmentChain

/-!
# Adjustments of a run

A run is adjusted and restored from what it has recorded, in any order.  Its chain of
adjustments stays one that the next restore accepts.
-/

namespace Fermentationsschrank

open ActiveRun

/-! ## Steps -/

/-- A run as it is started, or restored from a validated program with its adjustments. -/
def ActiveRun.Begun (run : ActiveRun) : Prop :=
  (∃ source revision, ActiveRun.start source revision = some run) ∨
    ∃ snapshot revisions, ActiveRun.restore snapshot revisions = some run

/-- A step of the run, with the adjustment it accepted, if any. -/
structure AdjustmentEvent where
  before : ActiveRun
  accepted : Option RunRevision
  restored : Bool
  after : ActiveRun

/-- A decision may have been made on any earlier run, or be made up. -/
inductive AdjustmentStep (run : ActiveRun) : AdjustmentEvent → ActiveRun → Prop
  | adjusted {decision adjusted effect}
      (happlied : run.applyAdjustment decision = .ok (adjusted, effect)) :
      AdjustmentStep run ⟨run, decision.revision, false, adjusted⟩ adjusted
  | refused {decision status} (hrefused : run.applyAdjustment decision = .error status) :
      AdjustmentStep run ⟨run, none, false, run⟩ run
  | restored {restored}
      (hrestored : ActiveRun.restore run.snapshot run.revisions = some restored) :
      AdjustmentStep run ⟨run, none, true, restored⟩ restored

/-- The adjustments that were accepted, in their order. -/
def acceptedAdjustments (events : List AdjustmentEvent) : List RunRevision :=
  events.filterMap (·.accepted)

section

variable {first last run next : ActiveRun} {events : List AdjustmentEvent}
variable {event : AdjustmentEvent}

theorem ActiveRun.Begun.chained (h : run.Begun) : run.Chained := by
  rcases h with ⟨source, revision, hstart⟩ | ⟨snapshot, revisions, hrestore⟩
  · exact chained_start hstart
  · exact chained_restore hrestore

namespace AdjustmentStep

theorem chained (hstep : AdjustmentStep run event next) (h : run.Chained) :
    next.Chained := by
  cases hstep with
  | adjusted happlied => exact h.applyAdjustment happlied
  | refused hrefused => exact h
  | restored hrestored => exact chained_restore hrestored

/-- The program stays, and the accepted adjustment is recorded. -/
theorem recorded (hstep : AdjustmentStep run event next) :
    next.snapshot = run.snapshot ∧
      next.revisions = run.revisions ++ acceptedAdjustments [event] := by
  cases hstep with
  | @adjusted decision adjusted effect happlied =>
      obtain ⟨revision, hrevision, -, -, -, -, -, -, -, -, -, rfl⟩ :=
        applyAdjustment_eq_ok happlied
      refine ⟨rfl, ?_⟩
      rw [acceptedAdjustments, hrevision]
      rfl
  | refused hrefused => exact ⟨rfl, (List.append_nil _).symm⟩
  | restored hrestored =>
      obtain ⟨-, hsnapshot, hrevisions, -⟩ := restore_eq_some.mp hrestored
      refine ⟨hsnapshot, ?_⟩
      rw [hrevisions]
      exact (List.append_nil _).symm

end AdjustmentStep

theorem chained_of_run (hrun : Steps AdjustmentStep first events last)
    (hfirst : first.Chained) : last.Chained :=
  hrun.invariant hfirst fun h hstep => hstep.chained h

theorem recorded_of_run (hrun : Steps AdjustmentStep first events last) :
    last.snapshot = first.snapshot ∧
      last.revisions = first.revisions ++ acceptedAdjustments events := by
  induction hrun with
  | start => exact ⟨rfl, (List.append_nil _).symm⟩
  | step hrun hstep ih =>
      obtain ⟨hsnapshot, hrevisions⟩ := hstep.recorded
      refine ⟨hsnapshot.trans ih.1, ?_⟩
      rw [hrevisions, ih.2, acceptedAdjustments, acceptedAdjustments, acceptedAdjustments,
        List.filterMap_append, List.append_assoc]

/-! ## Epochs -/

/-- No adjustment of a chain has a later epoch than the last one. -/
theorem epoch_le_getLast {revisions : List RunRevision} {final : RunRevision}
    (hchain : revisions.IsChain RunRevision.Follows)
    (hfinal : revisions.getLast? = some final) :
    ∀ revision ∈ revisions, revision.monotonicEpoch ≤ final.monotonicEpoch := by
  induction revisions with
  | nil => cases hfinal
  | cons revision rest ih =>
      cases rest with
      | nil =>
          cases hfinal
          intro found hfound
          rw [List.mem_singleton.mp hfound]
          exact UInt32.le_refl _
      | cons next rest =>
          rw [List.isChain_cons_cons] at hchain
          rw [List.getLast?_cons_cons] at hfinal
          have hlater := ih hchain.2 hfinal
          intro found hfound
          rcases List.mem_cons.mp hfound with rfl | hfound
          · exact UInt32.le_trans hchain.1.2 (hlater next List.mem_cons_self)
          · exact hlater found hfound

/-- A chained run has the chain of its program. -/
theorem ActiveRun.Chained.chain (h : run.Chained) :
    ∃ base, makeInitialEffectiveRunValues run.snapshot.source
        run.snapshot.sourceProgramRevision = some base ∧
      (∀ adjustment ∈ run.revisions.head?, adjustment.before = base) ∧
      run.revisions.IsChain RunRevision.Follows ∧
      run.effectiveValues = (run.revisions.getLast?.map (·.after)).getD base := by
  obtain ⟨-, -, base, hbase, hvalid⟩ := validate_eq_some.mp h.valid
  obtain ⟨hhead, hchain⟩ := chain_of_validateRevisions hvalid
  refine ⟨base, hbase, hhead, hchain, ?_⟩
  rcases List.eq_nil_or_concat run.revisions with hnil | ⟨rest, final, hconcat⟩
  · rw [hnil] at hvalid ⊢
    exact (Option.some.inj hvalid).symm
  · rw [List.concat_eq_append] at hconcat
    rw [hconcat] at hvalid ⊢
    obtain ⟨values, -, -, hafter⟩ := validateRevisions_concat.mp hvalid
    rw [List.getLast?_concat, hafter]
    rfl

/-- A restore leaves every recorded epoch behind. -/
theorem ActiveRun.Chained.epoch_lt_next (h : run.Chained) :
    ∀ adjustment ∈ run.revisions, adjustment.monotonicEpoch < nextEpoch run.revisions := by
  intro adjustment hadjustment
  obtain ⟨base, -, -, hchain, -⟩ := h.chain
  cases hlast : run.revisions.getLast? with
  | none =>
      rw [List.getLast?_eq_none_iff.mp hlast] at hadjustment
      cases hadjustment
  | some final =>
      exact UInt32.lt_of_le_of_lt (epoch_le_getLast hchain hlast adjustment hadjustment)
        (h.epoch_lt hlast)

theorem ActiveRun.Chained.epoch_le_next (h : run.Chained) :
    run.monotonicEpoch ≤ nextEpoch run.revisions := by
  rcases h.epoch with hnext | ⟨final, hfinal, hsame⟩
  · rw [hnext]
    exact UInt32.le_refl _
  · rw [hsame]
    exact UInt32.le_of_lt (h.epoch_lt hfinal)

/-- What a step does to the epoch, and what it leaves alone. -/
structure AdjustmentEvent.Orderly (event : AdjustmentEvent) : Prop where
  grows : event.before.monotonicEpoch ≤ event.after.monotonicEpoch
  kept : event.restored = false →
    event.after.monotonicEpoch = event.before.monotonicEpoch
  recorded : ∀ adjustment ∈ event.accepted,
    adjustment.monotonicEpoch = event.before.monotonicEpoch
  restored : event.restored = true →
    event.after = { event.before with
      monotonicEpoch := nextEpoch event.before.revisions } ∧
    ∀ adjustment ∈ event.before.revisions,
      adjustment.monotonicEpoch < event.after.monotonicEpoch
  rejected : event.restored = false → event.accepted = none → event.after = event.before

theorem AdjustmentStep.orderly (hstep : AdjustmentStep run event next) (h : run.Chained) :
    event.Orderly := by
  cases hstep with
  | @adjusted decision adjusted effect happlied =>
      obtain ⟨revision, hrevision, -, -, -, hepoch, -, -, -, -, -, rfl⟩ :=
        applyAdjustment_eq_ok happlied
      refine ⟨UInt32.le_refl _, fun _ => rfl, fun found hfound => ?_,
        fun hrestored => (nomatch hrestored), fun _ hnone => ?_⟩
      · rw [hrevision] at hfound
        cases hfound
        exact hepoch
      · rw [hrevision] at hnone
        cases hnone
  | refused hrefused =>
      exact ⟨UInt32.le_refl _, fun _ => rfl, fun _ hnone => (nomatch hnone),
        fun hrestored => (nomatch hrestored), fun _ _ => rfl⟩
  | @restored restored hrestored =>
      have hafter := h.restore
      rw [hrestored] at hafter
      cases hafter
      exact ⟨h.epoch_le_next, fun hfalse => (nomatch hfalse), fun _ hnone => (nomatch hnone),
        fun _ => ⟨rfl, h.epoch_lt_next⟩, fun hfalse => (nomatch hfalse)⟩

/-- A decision of a run that has since accepted an adjustment is refused. -/
theorem refused_of_stale {request : RunAdjustmentRequest} {context : RunAdjustmentContext}
    (h : first.revisions.length < last.revisions.length) :
    last.applyAdjustment (first.decideAdjustment request context) = .error .noChange := by
  have hcount : (first.decideAdjustment request context).expectedRevisionCount =
      first.revisions.length := by
    rw [decideAdjustment]
    split <;> rfl
  cases happlied : last.applyAdjustment (first.decideAdjustment request context) with
  | ok result =>
      obtain ⟨revision, -, hexpected, -⟩ := applyAdjustment_eq_ok happlied
      omega
  | error status =>
      have hstale : ¬ (first.decideAdjustment request context).expectedRevisionCount =
          last.revisions.length := by omega
      rw [applyAdjustment] at happlied
      cases hproposed :
          decide ((first.decideAdjustment request context).status = .proposed) with
      | false =>
          rw [hproposed] at happlied
          exact happlied.symm
      | true =>
          rw [hproposed] at happlied
          cases hrevision : (first.decideAdjustment request context).revision with
          | none =>
              rw [hrevision] at happlied
              exact happlied.symm
          | some revision =>
              rw [hrevision] at happlied
              simp only [hstale, false_and, decide_false] at happlied
              exact happlied.symm

/-- Over every run of adjustments and restores the chain stays the one of the program,
and the next restore accepts it. -/
theorem adjustments_stay_chained (hfirst : first.Begun)
    (hrun : Steps AdjustmentStep first events last) :
    (last.snapshot = first.snapshot ∧
      last.revisions = first.revisions ++ acceptedAdjustments events) ∧
    validateRunProgramSnapshotInto last.snapshot last.revisions =
      some last.effectiveValues ∧
    ActiveRun.restore last.snapshot last.revisions =
      some { last with monotonicEpoch := nextEpoch last.revisions } ∧
    (∃ base, makeInitialEffectiveRunValues first.snapshot.source
        first.snapshot.sourceProgramRevision = some base ∧
      (∀ adjustment ∈ last.revisions.head?, adjustment.before = base) ∧
      last.revisions.IsChain RunRevision.Follows ∧
      last.effectiveValues = (last.revisions.getLast?.map (·.after)).getD base) ∧
    (∀ event ∈ events, event.Orderly) ∧
    ∀ earlier middle later, Steps AdjustmentStep first earlier middle →
      Steps AdjustmentStep middle later last → acceptedAdjustments later ≠ [] →
      ∀ request context, last.applyAdjustment (middle.decideAdjustment request context) =
        .error .noChange := by
  have hchained := chained_of_run hrun hfirst.chained
  have hrecorded := recorded_of_run hrun
  refine ⟨hrecorded, hchained.valid, hchained.restore, ?_, ?_, ?_⟩
  · have hchain := hchained.chain
    rwa [hrecorded.1] at hchain
  · exact hrun.forall_label hfirst.chained (fun h hstep => hstep.chained h)
      fun h hstep => hstep.orderly h
  · intro earlier middle later hearlier hlater haccepted request context
    apply refused_of_stale
    rw [(recorded_of_run hlater).2, List.length_append]
    have hpositive := List.length_pos_iff.mpr haccepted
    omega

end

/-! ### A short fermentation -/

/-- Four hours at twenty degrees. -/
def shortFermentation : ManualTimedRunSource where
  stage := {
    targetTemperatureCelsius := some (.ofBits 0x4034000000000000)
    durationMinutes := some 240 }
  targetQualification := {
    bandCelsius := some (.ofBits 0x3FE0000000000000)
    durationMinutes := some 10 }
  maximumTargetReachMinutes := some 60

def shortRun : ActiveRun where
  snapshot := ⟨.manualTimed shortFermentation, .manualTimed, none⟩
  effectiveValues := ⟨.ofBits 0x4034000000000000, 240⟩
  revisions := []
  monotonicEpoch := 0

theorem begun_shortRun : shortRun.Begun :=
  .inl ⟨.manualTimed shortFermentation, none, by decide +kernel⟩

/-- Two hours are taken away. -/
def shortened : RunAdjustmentDecision :=
  shortRun.decideAdjustment { remainingDurationMinutes := some 120, confirmed := true } {}

def shortenedRun : ActiveRun :=
  (shortRun.applyAdjustment shortened).toOption.elim shortRun (·.1)

theorem adjustmentStep_shortened :
    AdjustmentStep shortRun ⟨shortRun, shortened.revision, false, shortenedRun⟩
      shortenedRun := by
  have happlied : shortRun.applyAdjustment shortened = .ok (shortenedRun, .none) := by
    decide +kernel
  exact .adjusted happlied

/-- One adjustment is recorded, and the decision it was cannot be applied again. -/
theorem shortened_stays_chained :
    validateRunProgramSnapshotInto shortenedRun.snapshot shortenedRun.revisions =
        some shortenedRun.effectiveValues ∧
      shortenedRun.effectiveValues.remainingDurationMinutes = 120 ∧
      shortenedRun.applyAdjustment shortened = .error .noChange := by
  have hrun := Steps.step .start adjustmentStep_shortened
  obtain ⟨-, hvalid, -, -, -, hstale⟩ := adjustments_stay_chained begun_shortRun hrun
  refine ⟨hvalid, by decide +kernel, ?_⟩
  exact hstale [] shortRun _ .start hrun (by decide +kernel) _ _

/-- A run without adjustments is restored in the epoch it was in. -/
theorem epoch_stays_without_adjustments :
    ¬ ∀ run restored : ActiveRun, run.Begun →
      ActiveRun.restore run.snapshot run.revisions = some restored →
      run.monotonicEpoch < restored.monotonicEpoch := by
  intro hgrows
  have hrestored : ActiveRun.restore shortRun.snapshot shortRun.revisions =
      some shortRun := by decide +kernel
  exact UInt32.lt_irrefl _ (hgrows shortRun shortRun begun_shortRun hrestored)

end Fermentationsschrank

import Fermentationsschrank.Guarantees.ObservedTime
import Fermentationsschrank.Recovery.WeightedSegments
import Fermentationsschrank.Run.RecoveryArithmetic

/-!
# Booked progress

The weighted progress of a run is a ledger of its segments.  An application of a
weighting result books the open segment, at most once; a superseded segment only makes
the upper total unknown; a record that a boot restores has the ledger of the state it
was made of.
-/

namespace Fermentationsschrank

open CommandDecision RunPersistenceCoordinator

/-! ## The ledger -/

/-- A segment that is booked, with the contribution the model has found for it. -/
structure SegmentBooking where
  segment : UInt32
  contribution : WeightedProgressContribution
  deriving DecidableEq, Repr

namespace SegmentBooking

variable (booking : SegmentBooking)

def lowerSeconds : ℕ := booking.contribution.delta.lowerBoundSeconds.toNat

def upperSeconds : ℕ := (booking.contribution.delta.upperBoundSeconds.getD 0).toNat

/-- What is checked of a contribution before it is booked. -/
structure Sound : Prop where
  segment : booking.segment ≠ 0
  modelRevision : booking.contribution.modelRevision ≠ 0
  confidence : booking.contribution.confidence =
    expectedConfidence booking.contribution.sourceRole
  upper : booking.contribution.delta.upperBoundSeconds.isSome = true
  bounds : booking.lowerSeconds ≤ booking.upperSeconds

end SegmentBooking

/-- The least confidence of all bookings. -/
def confidenceOf (bookings : List SegmentBooking) : WeightedProgressConfidence :=
  if ∃ booking ∈ bookings, booking.contribution.confidence = .airReduced then .airReduced
  else .productPreferred

def provenanceOf (bookings : List SegmentBooking) : Option WeightedProgressProvenance :=
  bookings.getLast?.map fun last => {
    lastSourceRole := last.contribution.sourceRole
    confidence := confidenceOf bookings
    modelRevision := last.contribution.modelRevision
    lastAppliedSegmentId := last.segment }

def lowerTotal (bookings : List SegmentBooking) : ℕ :=
  (bookings.map (·.lowerSeconds)).sum

def upperTotal (bookings : List SegmentBooking) : ℕ :=
  (bookings.map (·.upperSeconds)).sum

/-- The upper total is known as long as no segment has been superseded. -/
def CoveredBy (bookings : List SegmentBooking) (state : WeightedProgressState) : Prop :=
  match state.coverage with
  | .complete => bookings ≠ [] ∧
      state.cumulative.upperBoundSeconds.map (·.toNat) = some (upperTotal bookings)
  | .partialUnknown => state.cumulative.upperBoundSeconds = none

structure TotalsOf (bookings : List SegmentBooking) (state : WeightedProgressState) :
    Prop where
  lower : state.cumulative.lowerBoundSeconds.toNat = lowerTotal bookings
  upper : CoveredBy bookings state
  lastApplied : state.lastApplied = provenanceOf bookings

/-- The progress of a run is what its bookings add up to. -/
def BookedBy (bookings : List SegmentBooking) : Option WeightedProgressState → Prop
  | none => bookings = []
  | some state => TotalsOf bookings state

section

variable {bookings : List SegmentBooking} {booking : SegmentBooking}

theorem lowerTotal_append :
    lowerTotal (bookings ++ [booking]) = lowerTotal bookings + booking.lowerSeconds := by
  rw [lowerTotal, lowerTotal, List.map_append, List.sum_append]
  simp

theorem upperTotal_append :
    upperTotal (bookings ++ [booking]) = upperTotal bookings + booking.upperSeconds := by
  rw [upperTotal, upperTotal, List.map_append, List.sum_append]
  simp

theorem confidenceOf_append :
    confidenceOf (bookings ++ [booking]) =
      combineWeightedProgressConfidence (confidenceOf bookings)
        booking.contribution.confidence := by
  rw [combineWeightedProgressConfidence]
  by_cases hearlier : ∃ earlier ∈ bookings, earlier.contribution.confidence = .airReduced
  · have hbefore : confidenceOf bookings = .airReduced := if_pos hearlier
    obtain ⟨earlier, hmem, hair⟩ := hearlier
    rw [if_pos (.inl hbefore)]
    exact if_pos ⟨earlier, List.mem_append_left _ hmem, hair⟩
  · have hbefore : confidenceOf bookings = .productPreferred := if_neg hearlier
    by_cases hair : booking.contribution.confidence = .airReduced
    · rw [if_pos (.inr hair)]
      exact if_pos ⟨booking, by simp, hair⟩
    · have hproduct : ¬ (WeightedProgressConfidence.productPreferred = .airReduced ∨
          booking.contribution.confidence = .airReduced) := by
        rintro (h | h)
        · cases h
        · exact hair h
      rw [hbefore, if_neg hproduct]
      refine if_neg ?_
      rintro ⟨found, hmem, hfound⟩
      rcases List.mem_append.mp hmem with hmem | hmem
      · exact hearlier ⟨found, hmem, hfound⟩
      · rw [List.mem_singleton.mp hmem] at hfound
        exact hair hfound

theorem combine_confidenceOf_nil {confidence : WeightedProgressConfidence} :
    combineWeightedProgressConfidence (confidenceOf []) confidence = confidence := by
  have hnil : confidenceOf [] = .productPreferred := if_neg (by simp)
  rw [hnil]
  cases confidence with
  | productPreferred => rfl
  | airReduced => rfl

theorem provenanceOf_append :
    provenanceOf (bookings ++ [booking]) = some {
      lastSourceRole := booking.contribution.sourceRole
      confidence := combineWeightedProgressConfidence (confidenceOf bookings)
        booking.contribution.confidence
      modelRevision := booking.contribution.modelRevision
      lastAppliedSegmentId := booking.segment } := by
  rw [provenanceOf, List.getLast?_append, confidenceOf_append]
  rfl

theorem provenanceOf_eq_none : provenanceOf bookings = none ↔ bookings = [] := by
  rw [provenanceOf, Option.map_eq_none_iff, List.getLast?_eq_none_iff]

theorem lowerTotal_le_upperTotal (hsound : ∀ booking ∈ bookings, booking.Sound) :
    lowerTotal bookings ≤ upperTotal bookings := by
  rw [lowerTotal, upperTotal]
  exact List.sum_le_sum fun booking hmem => (hsound booking hmem).bounds

theorem provenanceOf_eq_some {provenance : WeightedProgressProvenance}
    (h : provenanceOf bookings = some provenance) :
    ∃ last ∈ bookings, provenance.lastSourceRole = last.contribution.sourceRole ∧
      provenance.confidence = confidenceOf bookings ∧
      provenance.modelRevision = last.contribution.modelRevision ∧
      provenance.lastAppliedSegmentId = last.segment := by
  obtain ⟨last, hlast, rfl⟩ := Option.map_eq_some_iff.mp h
  exact ⟨last, List.mem_of_getLast? hlast, rfl, rfl, rfl, rfl⟩

theorem confidenceOf_air {last : SegmentBooking} (hmem : last ∈ bookings)
    (hsound : last.Sound) (hair : last.contribution.sourceRole = .air) :
    confidenceOf bookings = .airReduced := by
  refine if_pos ⟨last, hmem, ?_⟩
  rw [hsound.confidence, hair]
  rfl

/-- Whatever the bookings, their progress passes its own check. -/
theorem TotalsOf.valid {state : WeightedProgressState} (h : TotalsOf bookings state)
    (hsound : ∀ booking ∈ bookings, booking.Sound) :
    validWeightedProgressState state = true := by
  have hlast : (state.lastApplied.all fun last =>
      last.modelRevision ≠ 0 ∧ last.lastAppliedSegmentId ≠ 0 ∧
        validWeightedProgressRoleConfidence last) = true := by
    cases hprovenance : state.lastApplied with
    | none => rfl
    | some provenance =>
        rw [h.lastApplied] at hprovenance
        obtain ⟨last, hmem, hrole, hconfidence, hmodel, hsegment⟩ :=
          provenanceOf_eq_some hprovenance
        have hfacts := hsound last hmem
        rw [Option.all_some, decide_eq_true_eq, hmodel, hsegment]
        refine ⟨hfacts.modelRevision, hfacts.segment, ?_⟩
        rw [validWeightedProgressRoleConfidence, decide_eq_true_eq, hrole, hconfidence]
        cases hsource : last.contribution.sourceRole with
        | product => exact .inl rfl
        | air => exact .inr (confidenceOf_air hmem hfacts hsource)
  have hupper := h.upper
  have hlower := h.lower
  rw [validWeightedProgressState, hlast, Bool.true_and]
  rw [CoveredBy] at hupper
  cases hcoverage : state.coverage with
  | complete =>
      rw [hcoverage] at hupper
      obtain ⟨hbooked, hsum⟩ := hupper
      obtain ⟨upper, hsome, hupper⟩ := Option.map_eq_some_iff.mp hsum
      have hprovenance : state.lastApplied ≠ none := by
        rw [h.lastApplied]
        exact fun hnone => hbooked (provenanceOf_eq_none.mp hnone)
      simp only [hsome, Option.any_some, Bool.and_eq_true, decide_eq_true_eq,
        Option.isSome_iff_ne_none]
      refine ⟨hprovenance, ?_⟩
      rw [UInt64.le_iff_toNat_le, hupper, hlower]
      exact lowerTotal_le_upperTotal hsound
  | partialUnknown =>
      rw [hcoverage] at hupper
      simp only [hupper, Option.isNone_none, Bool.true_and, Bool.or_eq_true,
        decide_eq_true_eq]
      by_cases hnone : bookings = []
      · subst hnone
        exact .inr (UInt64.toNat.inj hlower)
      · refine .inl (Option.isSome_iff_ne_none.mpr ?_)
        rw [h.lastApplied]
        exact fun h => hnone (provenanceOf_eq_none.mp h)

theorem BookedBy.provenance {booked : Option WeightedProgressState}
    (h : BookedBy bookings booked) :
    booked.bind (·.lastApplied) = provenanceOf bookings := by
  cases booked with
  | none =>
      cases h
      rfl
  | some state => exact h.lastApplied

/-- A superseded segment takes the upper total, and nothing else. -/
theorem BookedBy.superseded {booked : Option WeightedProgressState}
    {segment : Option UInt32} (h : BookedBy bookings booked) :
    BookedBy bookings (supersededProgress booked segment) := by
  rw [supersededProgress, supersedeUnbookedWeightedSegment]
  simp only
  split
  · exact h
  · cases booked with
    | none =>
        cases h
        exact ⟨rfl, rfl, rfl⟩
    | some state => exact ⟨h.lower, rfl, h.lastApplied⟩

end

/-! ## One booking -/

/-- The application of a weighting result, as the recovery is asked for it. -/
structure WeightingRequest where
  expectedRunRevision : UInt32
  expectedRecoveryEpisodeRevision : UInt32
  weightedProgressSegmentId : UInt32
  time : RunCheckpointTime
  input : RecoveryProgressWeightingInput
  model : RecoveryProgressWeightingModel

namespace WeightingRequest

variable (request : WeightingRequest)

def candidate (current : RunCommandState) :
    Except RunPersistenceResultStatus RunCommandState :=
  weightedCandidate current request.expectedRunRevision
    request.expectedRecoveryEpisodeRevision request.weightedProgressSegmentId request.input
    request.model

def perform (coordinator : RunPersistenceCoordinator) (current : RunCommandState) :
    RunStoreProgram RunPersistenceOutcome :=
  applyRecoveryProgressWeighting coordinator current request.expectedRunRevision
    request.expectedRecoveryEpisodeRevision request.weightedProgressSegmentId request.time
    request.input request.model

/-- What an accepted application books: the contribution for the evidence of the run. -/
def booking (current : RunCommandState) : Option SegmentBooking := do
  let evidence ← current.lastRecoveryEpisodeEvidence
  let contribution ← request.model { request.input with
    phase := current.processState.state
    episodeEvidence := evidence }
  some ⟨request.weightedProgressSegmentId, contribution⟩

end WeightingRequest

section

variable {bookings : List SegmentBooking} {booking : SegmentBooking}
variable {current candidate : RunCommandState}

theorem bookContribution_totals {booked : Option WeightedProgressState}
    {state : WeightedProgressState} (h : BookedBy bookings booked) (hsound : booking.Sound)
    (hbooked : bookContribution booked booking.contribution.delta = some state) :
    state.cumulative.lowerBoundSeconds.toNat = lowerTotal (bookings ++ [booking]) ∧
      CoveredBy (bookings ++ [booking]) state := by
  obtain ⟨added, hadded⟩ := Option.isSome_iff_exists.mp hsound.upper
  have hupper : booking.upperSeconds = added.toNat := by
    rw [SegmentBooking.upperSeconds, hadded]
    rfl
  rw [lowerTotal_append]
  cases booked with
  | none =>
      cases h
      cases hbooked
      refine ⟨(Nat.zero_add _).symm, by simp, ?_⟩
      rw [upperTotal_append, hadded, hupper]
      exact congrArg some (Nat.zero_add _).symm
  | some before =>
      simp only [bookContribution, Option.bind_eq_bind, Option.bind_eq_some_iff] at hbooked
      obtain ⟨lower, hlower, hbooked⟩ := hbooked
      have hlower := checkedAdd_eq_some_iff.mp hlower
      have hcovered := h.upper
      rw [CoveredBy] at hcovered
      split at hbooked
      · rename_i hnothing
        cases hbooked
        refine ⟨?_, ?_⟩
        · show lower.toNat = _
          rw [hlower, h.lower]
          rfl
        · rw [CoveredBy]
          simp only [hnothing]
      · rename_i hcoverage
        simp only [Option.bind_eq_some_iff, Option.some.injEq] at hbooked
        obtain ⟨earlier, hearlier, later, hlater, upper, hsum, rfl⟩ := hbooked
        have hsum := checkedAdd_eq_some_iff.mp hsum
        have hcomplete : before.coverage = .complete := by
          cases hcase : before.coverage with
          | complete => rfl
          | partialUnknown => exact absurd hcase hcoverage
        rw [hcomplete] at hcovered
        obtain ⟨-, htotal⟩ := hcovered
        rw [hearlier, Option.map_some, Option.some.injEq] at htotal
        cases hadded.symm.trans hlater
        refine ⟨?_, ?_⟩
        · show lower.toNat = _
          rw [hlower, h.lower]
          rfl
        · rw [CoveredBy]
          simp only [hcomplete]
          refine ⟨by simp, ?_⟩
          rw [Option.map_some, hsum, htotal, upperTotal_append, hupper]

theorem sound_of_valid {input : RecoveryProgressWeightingInput}
    {contribution : WeightedProgressContribution} {segment : UInt32} (hsegment : segment ≠ 0)
    (h : isValidWeightedProgressContribution input contribution = true) :
    SegmentBooking.Sound ⟨segment, contribution⟩ := by
  rw [isValidWeightedProgressContribution, Bool.and_eq_true, Bool.and_eq_true,
    decide_eq_true_eq, Option.any_eq_true] at h
  obtain ⟨⟨-, -, hmodel, hconfidence⟩, upper, hupper, hbounds⟩ := h
  refine ⟨hsegment, hmodel, hconfidence, by rw [hupper]; rfl, ?_⟩
  rw [SegmentBooking.lowerSeconds, SegmentBooking.upperSeconds, hupper]
  exact UInt64.le_iff_toNat_le.mp (decide_eq_true_eq.mp hbounds)

/-- The progress after a contribution has been added. -/
def bookedProgress (booked : Option WeightedProgressState) (booking : SegmentBooking)
    (state : WeightedProgressState) : WeightedProgressState :=
  { state with
    lastApplied := some {
      lastSourceRole := booking.contribution.sourceRole
      confidence :=
        match booked.bind (·.lastApplied) with
        | some last => combineWeightedProgressConfidence last.confidence
            booking.contribution.confidence
        | none => booking.contribution.confidence
      modelRevision := booking.contribution.modelRevision
      lastAppliedSegmentId := booking.segment } }

/-- An accepted application books the open segment, which is not the last one booked. -/
structure Books (current : RunCommandState) (booking : SegmentBooking)
    (candidate : RunCommandState) : Prop where
  sound : booking.Sound
  isOpen : current.segments.openSegment = some booking.segment
  fresh : ∀ last ∈ current.segments.booked.bind (·.lastApplied),
    last.lastAppliedSegmentId ≠ booking.segment
  booked : ∃ state,
    bookContribution current.segments.booked booking.contribution.delta = some state ∧
      candidate.segments = { current.segments with
        booked := some (bookedProgress current.segments.booked booking state) }

theorem books_of_candidate {request : WeightingRequest}
    (h : request.candidate current = .ok candidate) :
    ∃ booking, request.booking current = some booking ∧ Books current booking candidate := by
  simp only [WeightingRequest.candidate, weightedCandidate, bind_eq_ok, require_eq_ok,
    orFail_eq_ok] at h
  obtain ⟨-, -, evidence, hevidence, -, -, contribution, hcontribution, -, hfresh, -, -,
    state, hstate, -, -, hcandidate⟩ := h
  cases hcandidate
  obtain ⟨hevidence, hsegment⟩ := Option.filter_eq_some_iff.mp hevidence
  obtain ⟨hcontribution, hvalid⟩ := Option.filter_eq_some_iff.mp hcontribution
  rw [decide_eq_true_eq] at hsegment
  refine ⟨⟨request.weightedProgressSegmentId, contribution⟩, ?_, ?_⟩
  · rw [WeightingRequest.booking, hevidence]
    simp only [Option.bind_eq_bind, Option.bind_some, hcontribution]
  refine ⟨sound_of_valid hsegment.1 hvalid, ?_, ?_, state, hstate, rfl⟩
  · rw [RunCommandState.segments, hevidence]
    exact hsegment.2
  · intro last hlast
    rw [Option.mem_def] at hlast
    change current.runProgress.weightedProgress.bind (·.lastApplied) = some last at hlast
    rw [hlast] at hfresh
    simpa using hfresh

theorem bookedProgress_totals {booked : Option WeightedProgressState}
    {state : WeightedProgressState} (h : BookedBy bookings booked) (hsound : booking.Sound)
    (hbooked : bookContribution booked booking.contribution.delta = some state) :
    TotalsOf (bookings ++ [booking]) (bookedProgress booked booking state) := by
  obtain ⟨hlower, hupper⟩ := bookContribution_totals h hsound hbooked
  refine ⟨hlower, hupper, ?_⟩
  rw [provenanceOf_append]
  rw [bookedProgress, h.provenance]
  cases hprovenance : provenanceOf bookings with
  | none =>
      -- The first booking alone decides the confidence.
      cases provenanceOf_eq_none.mp hprovenance
      simp only [combine_confidenceOf_nil]
  | some provenance =>
      obtain ⟨last, -, -, hconfidence, -, -⟩ := provenanceOf_eq_some hprovenance
      simp only [hconfidence]

end

/-! ## The history of a run -/

/-- What a step does to the segments: it opens one, books one or ends the run. -/
structure SegmentEvent where
  opened : Option UInt32
  booked : Option SegmentBooking
  ended : Bool
  deriving DecidableEq, Repr

def SegmentEvent.of (endsRun : Bool) (booked : Option SegmentBooking)
    (before after : RunCommandState) : SegmentEvent where
  opened :=
    if after.segments.openSegment = before.segments.openSegment then none
    else after.segments.openSegment
  booked
  ended := before.hasActiveRun && !after.hasActiveRun || endsRun && decide (after ≠ before)

/-- The segments that have been opened, and the bookings of the run that is active. -/
structure SegmentHistory where
  openings : List UInt32 := []
  bookings : List SegmentBooking := []
  deriving DecidableEq, Repr

def SegmentHistory.continued (history : SegmentHistory) (event : SegmentEvent) :
    SegmentHistory where
  openings := history.openings ++ event.opened.toList
  bookings := if event.ended then [] else history.bookings ++ event.booked.toList

def historyOf (events : List SegmentEvent) : SegmentHistory :=
  events.foldl SegmentHistory.continued {}

/-- A step of a run: an operation on its live state, whatever the store does; or a boot
that restores the record an operation has written, whether or not it was acknowledged. -/
inductive SegmentStep (environment : RunStoreEnvironment) (current : RunCommandState) :
    SegmentEvent → RunCommandState → Prop
  | operate {operation : RunOperation} {coordinator store outcome after}
      (hdecided : operation.DecidedOn current) (hunbooked : operation.Unbooked)
      (hrun : Program.Finishes environment (operation.perform coordinator current) store
        outcome after) :
      SegmentStep environment current
        (.of operation.endsRun none current outcome.current) outcome.current
  | command {request : CommandRequest} {after}
      (hunrecorded : isPersistedRunCommand (request.decide current).kind = false)
      (happlied : applyRunCommand current (request.decide current) (.exact current) =
        (.applied, after)) :
      SegmentStep environment current (.of false none current after) after
  | reevaluate {coordinator store time live} {outcome : RunPersistenceOutcome} {after}
      (hrun : Program.Finishes environment
        (reevaluateRecoveryTime coordinator current time live) store outcome after) :
      SegmentStep environment current (.of false none current outcome.current)
        outcome.current
  | apply {coordinator store} {outcome : RunPersistenceOutcome} {after}
      (request : WeightingRequest)
      (hrun : Program.Finishes environment (request.perform coordinator current) store
        outcome after) :
      SegmentStep environment current
        (.of false (if outcome.current = current then none else request.booking current)
          current outcome.current) outcome.current
  | restart {operation : RunOperation} {coordinator planned next}
      (hdecided : operation.DecidedOn current) (hunbooked : operation.Unbooked)
      (hplans : operation.Plans coordinator current planned)
      (hrestored : restoreRunPersistenceSnapshot planned.write.snapshot = some next) :
      SegmentStep environment current (.of operation.endsRun none current next) next
  | restartReevaluated {coordinator : RunPersistenceCoordinator}
      {time planned candidate next}
      (hcandidate : reevaluatedCandidate current time = .ok candidate)
      (hplans : coordinator.planRecoveryCandidate current candidate time {} = .ok planned)
      (hrestored : restoreRunPersistenceSnapshot planned.write.snapshot = some next) :
      SegmentStep environment current (.of false none current next) next
  | restartBooked {coordinator : RunPersistenceCoordinator} {planned candidate next}
      (request : WeightingRequest)
      (hcandidate : request.candidate current = .ok candidate)
      (hplans : coordinator.planRecoveryCandidate current candidate request.time {} =
        .ok planned)
      (hrestored : restoreRunPersistenceSnapshot planned.write.snapshot = some next) :
      SegmentStep environment current (.of false (request.booking current) current next)
        next

/-! ## The ledger of a history -/

/-- What the segments of a state say about the history that has led to them. -/
structure SegmentLedger (history : SegmentHistory) (view : SegmentView) : Prop where
  openings_increase : history.openings.Pairwise (· < ·)
  openings_bounded : ∀ segment ∈ history.openings, segment ≤ view.episode
  bookings_increase : (history.bookings.map (·.segment)).Pairwise (· < ·)
  bookings_opened : ∀ booking ∈ history.bookings, booking.segment ∈ history.openings
  bookings_sound : ∀ booking ∈ history.bookings, booking.Sound
  open_opened : ∀ segment ∈ view.openSegment, segment ∈ history.openings
  open_latest : ∀ segment ∈ view.openSegment, ∀ booking ∈ history.bookings,
    booking.segment ≤ segment
  totals : BookedBy history.bookings view.booked
  idle : view.active = false →
    view.hasProcess = false ∧ view.booked = none ∧ view.openSegment = none

namespace SegmentLedger

variable {history : SegmentHistory} {current next : RunCommandState}

theorem le_last {last : SegmentBooking}
    (hincrease : (history.bookings.map (·.segment)).Pairwise (· < ·))
    (hlast : history.bookings.getLast? = some last) :
    ∀ booking ∈ history.bookings, booking.segment ≤ last.segment := by
  intro booking hmem
  obtain ⟨earlier, hsplit⟩ := List.getLast?_eq_some_iff.mp hlast
  rw [hsplit, List.map_append] at hincrease
  rw [hsplit] at hmem
  rcases List.mem_append.mp hmem with hmem | hmem
  · apply UInt32.le_of_lt
    exact (List.pairwise_append.mp hincrease).2.2 _ (List.mem_map_of_mem hmem) _ (by simp)
  · rw [List.mem_singleton.mp hmem]
    exact UInt32.le_refl _

theorem idle_bookings {view : SegmentView} (h : SegmentLedger history view)
    (hidle : view.active = false) : history.bookings = [] := by
  have htotals := h.totals
  rw [(h.idle hidle).2.1] at htotals
  exact htotals

/-- No segment of a run is the one the next episode opens. -/
theorem not_opened {view : SegmentView} (h : SegmentLedger history view)
    (hroom : view.episode ≠ maxUInt32) :
    ∀ segment ∈ history.openings, segment < view.episode + 1 := by
  intro segment hmem
  have hbounded := UInt32.le_iff_toNat_le.mp (h.openings_bounded segment hmem)
  have hmaximum : maxUInt32.toNat = 4294967295 := rfl
  have hfits : view.episode.toNat ≠ maxUInt32.toNat := fun heq => hroom (UInt32.toNat.inj heq)
  have hsize := view.episode.toNat_lt
  have hone : (1 : UInt32).toNat = 1 := rfl
  rw [UInt32.lt_iff_toNat_lt, UInt32.toNat_add]
  omega

/-- A step that opens, books and ends nothing adds nothing to the history. -/
theorem continued_of_quiet {event : SegmentEvent} (hopened : event.opened = none)
    (hbooked : event.booked = none) (hended : event.ended = false) :
    history.continued event = history := by
  rw [SegmentHistory.continued, hopened, hbooked, hended]
  simp

theorem event_opened_of_same {endsRun : Bool} {booked : Option SegmentBooking}
    (h : next.segments.openSegment = current.segments.openSegment) :
    (SegmentEvent.of endsRun booked current next).opened = none := if_pos h

theorem event_opened_of_none {endsRun : Bool} {booked : Option SegmentBooking}
    (h : next.segments.openSegment = none) :
    (SegmentEvent.of endsRun booked current next).opened = none := by
  rw [SegmentEvent.of]
  simp only
  split
  · rfl
  · exact h

theorem event_not_ended {booked : Option SegmentBooking}
    (h : current.segments.active = true → next.segments.active = true) :
    (SegmentEvent.of false booked current next).ended = false := by
  show (current.segments.active && !next.segments.active || false && _) = false
  cases hactive : current.segments.active with
  | false => rfl
  | true =>
      rw [h hactive]
      rfl

/-- A step that goes on with the run keeps its ledger. -/
theorem moved (h : SegmentLedger history current.segments)
    (hmove : SegmentMove current.segments next.segments) :
    SegmentLedger (history.continued (.of false none current next)) next.segments := by
  generalize hview : next.segments = view at hmove
  cases hmove with
  | kept =>
      rw [continued_of_quiet (event_opened_of_same (by rw [hview])) rfl
        (event_not_ended (by rw [hview]; exact id))]
      exact h
  | started hidle =>
      rw [continued_of_quiet (event_opened_of_same (by rw [hview]; rfl)) rfl
        (event_not_ended (by rw [hview]; exact fun _ => rfl))]
      exact { h with idle := fun hactive => nomatch hactive }
  | closed =>
      rw [continued_of_quiet (event_opened_of_none (by rw [hview]; rfl)) rfl
        (event_not_ended (by rw [hview]; exact id))]
      exact { h with
        open_opened := fun _ hopen => nomatch hopen
        open_latest := fun _ hopen => nomatch hopen
        totals := h.totals.superseded
        idle := fun hidle => by
          obtain ⟨hprocess, hbooked, hopen⟩ := h.idle hidle
          refine ⟨hprocess, ?_, rfl⟩
          show supersededProgress current.segments.booked current.segments.openSegment = none
          rw [hbooked, hopen, supersededProgress_none] }
  | refreshed hroom =>
      rw [continued_of_quiet (event_opened_of_same (by rw [hview]; rfl)) rfl
        (event_not_ended (by rw [hview]; exact id))]
      exact { h with
        openings_bounded := fun segment hmem =>
          UInt32.le_trans (h.openings_bounded segment hmem)
            (UInt32.le_add_one_of_ne hroom) }
  | opened hprocess hroom =>
      have hnew := h.not_opened hroom
      have hopened : (SegmentEvent.of false none current next).opened =
          some (current.segments.episode + 1) := by
        rw [SegmentEvent.of]
        simp only [hview]
        refine if_neg fun hsame => ?_
        have hold := h.open_opened _ hsame.symm
        exact absurd (hnew _ hold) (by simp)
      have hactive : current.segments.active = true := by
        by_contra hidle
        rw [Bool.not_eq_true] at hidle
        rw [(h.idle hidle).1] at hprocess
        cases hprocess
      rw [SegmentHistory.continued, hopened, event_not_ended (by rw [hview]; exact id)]
      simp only [Option.toList_some, Bool.false_eq_true, if_false]
      show SegmentLedger ⟨history.openings ++ [current.segments.episode + 1],
        history.bookings ++ []⟩ _
      rw [List.append_nil]
      exact {
        openings_increase := List.pairwise_append.mpr ⟨h.openings_increase, by simp,
          fun earlier hearlier later hlater => by
            rw [List.mem_singleton.mp hlater]
            exact hnew earlier hearlier⟩
        openings_bounded := fun segment hmem => by
          rcases List.mem_append.mp hmem with hmem | hmem
          · exact UInt32.le_trans (h.openings_bounded segment hmem)
              (UInt32.le_add_one_of_ne hroom)
          · rw [List.mem_singleton.mp hmem]
            exact UInt32.le_refl _
        bookings_increase := h.bookings_increase
        bookings_opened := fun booking hmem =>
          List.mem_append_left _ (h.bookings_opened booking hmem)
        bookings_sound := h.bookings_sound
        open_opened := fun segment hopen => by
          cases hopen
          exact List.mem_append_right _ (List.mem_singleton.mpr rfl)
        open_latest := fun segment hopen booking hmem => by
          cases hopen
          exact UInt32.le_of_lt (hnew _ (h.bookings_opened booking hmem))
        totals := h.totals.superseded
        idle := fun hidle => by
          have hsame : current.segments.opened.active = current.segments.active := rfl
          rw [hsame, hactive] at hidle
          cases hidle }

/-- The end of a run leaves no progress, and nothing is booked any more. -/
theorem ended {endsRun : Bool} (h : SegmentLedger history current.segments)
    (hends : endsRun = true ∨ next.segments.active = false)
    (hbooked : next.segments.booked = none) (hopen : next.segments.openSegment = none)
    (hepisode : current.segments.episode ≤ next.segments.episode)
    (hprocess : next.segments.active = false → next.segments.hasProcess = false) :
    SegmentLedger (history.continued (.of endsRun none current next)) next.segments := by
  have hnothing : (history.continued (.of endsRun none current next)).bookings = [] := by
    rw [SegmentHistory.continued]
    show (if (SegmentEvent.of endsRun none current next).ended then []
      else history.bookings ++ []) = []
    split
    · rfl
    · rename_i hstays
      rw [List.append_nil]
      have hkept : next = current ∨ current.segments.active = false := by
        by_contra hmoved
        rw [not_or, Bool.not_eq_false] at hmoved
        refine hstays ?_
        show (current.segments.active && !next.segments.active ||
          endsRun && decide (next ≠ current)) = true
        rw [hmoved.2]
        rcases hends with hends | hidle
        · rw [hends, decide_eq_true hmoved.1]
          simp
        · rw [hidle]
          rfl
      rcases hkept with rfl | hidle
      · have htotals := h.totals
        rw [hbooked] at htotals
        exact htotals
      · exact h.idle_bookings hidle
  have hopenings : (history.continued (.of endsRun none current next)).openings =
      history.openings := by
    rw [SegmentHistory.continued, event_opened_of_none hopen]
    simp
  generalize history.continued (.of endsRun none current next) = later at hnothing hopenings
  obtain ⟨openings, bookings⟩ := later
  cases hnothing
  cases hopenings
  exact {
    openings_increase := h.openings_increase
    openings_bounded := fun segment hmem =>
      UInt32.le_trans (h.openings_bounded segment hmem) hepisode
    bookings_increase := List.Pairwise.nil
    bookings_opened := fun booking hmem => nomatch hmem
    bookings_sound := fun booking hmem => nomatch hmem
    open_opened := fun segment hmem => by
      rw [hopen] at hmem
      cases hmem
    open_latest := fun segment _ booking hmem => nomatch hmem
    totals := by
      rw [hbooked]
      rfl
    idle := fun hidle => ⟨hprocess hidle, hbooked, hopen⟩ }

theorem segmentsMoved {endsRun : Bool} (h : SegmentLedger history current.segments)
    (hmoved : SegmentsMoved endsRun current next.segments) :
    SegmentLedger (history.continued (.of endsRun none current next)) next.segments := by
  cases hmoved with
  | moved hends hmove =>
      subst hends
      exact h.moved hmove
  | ended hends hbooked hopen hepisode hprocess =>
      exact h.ended hends hbooked hopen hepisode hprocess

/-- A booking takes the open segment, which is later than all that are booked. -/
theorem books {booking : SegmentBooking} {candidate : RunCommandState}
    (h : SegmentLedger history current.segments) (hbooks : Books current booking candidate)
    (hnext : next.segments = candidate.segments) :
    SegmentLedger (history.continued (.of false (some booking) current next))
      next.segments := by
  obtain ⟨state, hstate, hcandidate⟩ := hbooks.booked
  rw [hcandidate] at hnext
  have hquiet : history.continued (.of false (some booking) current next) =
      { history with bookings := history.bookings ++ [booking] } := by
    rw [SegmentHistory.continued, event_opened_of_same (by rw [hnext]),
      event_not_ended (by rw [hnext]; exact id)]
    show SegmentHistory.mk (history.openings ++ []) (history.bookings ++ [booking]) = _
    rw [List.append_nil]
  have hlatest : ∀ earlier ∈ history.bookings, earlier.segment < booking.segment := by
    intro earlier hmem
    have hle := h.open_latest _ hbooks.isOpen earlier hmem
    refine UInt32.lt_of_le_of_ne hle fun hsame => ?_
    -- The last booking is the latest, so the open segment would be the last booked one.
    cases hlast : history.bookings.getLast? with
    | none =>
        rw [List.getLast?_eq_none_iff.mp hlast] at hmem
        cases hmem
    | some last =>
        have hbefore := le_last h.bookings_increase hlast earlier hmem
        have hafter := h.open_latest _ hbooks.isOpen last (List.mem_of_getLast? hlast)
        rw [hsame] at hbefore
        have hprovenance := h.totals.provenance
        rw [provenanceOf, hlast] at hprovenance
        exact hbooks.fresh _ hprovenance (UInt32.le_antisymm hafter hbefore)
  have hlast : booking.segment ∈ history.openings := h.open_opened _ hbooks.isOpen
  rw [hquiet, hnext]
  exact {
    openings_increase := h.openings_increase
    openings_bounded := h.openings_bounded
    bookings_increase := by
      rw [List.map_append]
      refine List.pairwise_append.mpr ⟨h.bookings_increase, by simp, ?_⟩
      intro earlier hearlier later hlater
      obtain ⟨found, hmem, rfl⟩ := List.mem_map.mp hearlier
      rw [List.map_singleton, List.mem_singleton] at hlater
      rw [hlater]
      exact hlatest found hmem
    bookings_opened := fun found hmem => by
      rcases List.mem_append.mp hmem with hmem | hmem
      · exact h.bookings_opened found hmem
      · rw [List.mem_singleton.mp hmem]
        exact hlast
    bookings_sound := fun found hmem => by
      rcases List.mem_append.mp hmem with hmem | hmem
      · exact h.bookings_sound found hmem
      · rw [List.mem_singleton.mp hmem]
        exact hbooks.sound
    open_opened := h.open_opened
    open_latest := fun segment hopen found hmem => by
      rcases List.mem_append.mp hmem with hmem | hmem
      · exact h.open_latest segment hopen found hmem
      · rw [List.mem_singleton.mp hmem]
        have hsame := Option.some.inj (hbooks.isOpen.symm.trans hopen)
        rw [hsame]
        exact UInt32.le_refl _
    totals := bookedProgress_totals h.totals hbooks.sound hstate
    idle := fun hidle => by
      have hopen := hbooks.isOpen
      rw [(h.idle hidle).2.2] at hopen
      cases hopen }

end SegmentLedger

/-! ## One step -/

section

variable {history : SegmentHistory} {current next candidate : RunCommandState}
variable {coordinator : RunPersistenceCoordinator} {operation : RunOperation}

theorem SegmentLedger.unchanged {endsRun : Bool}
    (h : SegmentLedger history current.segments) :
    SegmentLedger (history.continued (.of endsRun none current current))
      current.segments := by
  have hended : (SegmentEvent.of endsRun none current current).ended = false := by
    show (current.hasActiveRun && !current.hasActiveRun ||
      endsRun && decide (current ≠ current)) = false
    simp
  rw [SegmentLedger.continued_of_quiet (SegmentLedger.event_opened_of_same rfl) rfl hended]
  exact h

/-- A boot finds the segments the record was made with, or none with no run. -/
theorem segments_restored {snapshot : RunPersistenceSnapshot}
    (hrecord : RecordOf snapshot candidate)
    (hrestored : restoreRunPersistenceSnapshot snapshot = some next) :
    next.segments = candidate.segments ∨
      candidate.segments.active = false ∧ next.segments = candidate.segments.cleared := by
  obtain ⟨ids, trigger, time, intervalMinutes, hmake⟩ := hrecord
  rw [makeRunPersistenceSnapshot] at hmake
  split at hmake
  · cases hmake
    rw [restoreRunPersistenceSnapshot] at hrestored
    split at hrestored
    · cases hrestored
    · simp only at hrestored
      cases hactive : candidate.hasActiveRun with
      | false =>
          simp only [projectRunPersistenceSnapshot, hactive, Bool.false_eq_true, if_false]
            at hrestored
          cases hrestored
          exact .inr ⟨hactive, rfl⟩
      | true =>
          refine .inl ?_
          simp only [projectRunPersistenceSnapshot, hactive, if_true] at hrestored
          cases hprogram : candidate.activeProgramRun with
          | some run =>
              simp only [hprogram, Option.isSome_some, if_true, Option.bind_eq_bind,
                Option.bind_eq_some_iff, Option.some.injEq] at hrestored
              obtain ⟨_, -, _, -, rfl⟩ := hrestored
              rw [RunCommandState.segments, RunCommandState.segments, hactive]
              rfl
          | none =>
              simp only [hprogram, Option.isSome_none, Bool.false_eq_true, if_false,
                Option.some.injEq] at hrestored
              cases hrestored
              have hmanual : candidate.activeManualRun.isSome = true := by
                rw [RunCommandState.hasActiveRun, hprogram] at hactive
                simpa using hactive
              rw [RunCommandState.segments, RunCommandState.segments, hactive]
              rw [RunCommandState.hasActiveRun, hmanual]
              rfl
  · cases hmake

theorem SegmentsMoved.episode_le {endsRun : Bool} {view : SegmentView}
    (h : SegmentsMoved endsRun current view) : current.segments.episode ≤ view.episode := by
  cases h with
  | moved hends hmove =>
      cases hmove with
      | refreshed hroom => exact UInt32.le_add_one_of_ne hroom
      | opened hprocess hroom => exact UInt32.le_add_one_of_ne hroom
      | _ => exact UInt32.le_refl _
  | ended hends hbooked hopen hepisode hprocess => exact hepisode

/-- The record of a step makes of the segments what the step has made of them. -/
theorem SegmentsMoved.restored {endsRun : Bool} {snapshot : RunPersistenceSnapshot}
    (h : SegmentsMoved endsRun current candidate.segments)
    (hrecord : RecordOf snapshot candidate)
    (hrestored : restoreRunPersistenceSnapshot snapshot = some next) :
    SegmentsMoved endsRun current next.segments := by
  rcases segments_restored hrecord hrestored with hsame | ⟨hidle, hcleared⟩
  · rw [hsame]
    exact h
  · rw [hcleared]
    exact .ended (.inr rfl) rfl rfl h.episode_le fun _ => rfl

/-- What an operation that books nothing leaves of the segments. -/
theorem moved_of_liveEnds (hdecided : operation.DecidedOn current)
    (hunbooked : operation.Unbooked) (h : LiveEnds operation coordinator current next) :
    next = current ∨ SegmentsMoved operation.endsRun current next.segments := by
  cases h with
  | kept => exact .inl rfl
  | @acted decision live guard provenance after hcommand hadmitted haction happlied =>
      refine .inr ?_
      obtain ⟨hproposed, -⟩ := time_of_admitCommand hadmitted
      obtain ⟨request, rfl⟩ := decided_of_command hdecided hcommand
      have hafter : after = (request.decide current).after := by
        rw [applyRunCommand, Prod.mk.injEq] at happlied
        rw [← happlied.2, if_pos happlied.1]
      rw [endsRun_of_command hcommand, segments_withLiveEvidence, hafter]
      exact moved_accepted hproposed
  | restored hcommand hloaded hcompleted =>
      refine .inr (.of_eq ?_ rfl)
      rw [RunOperation.endsRun, hcommand]
      rfl
  | wrote hplans happlied =>
      exact .inr ((planMoves_of_plans hdecided hunbooked hplans).finished _ _)

/-- What is left of a candidate of the recovery that is to be written. -/
def WritesCandidate (current : RunCommandState)
    (decided : Except RunPersistenceResultStatus RunCommandState)
    (outcome : RunPersistenceOutcome) : Prop :=
  outcome.current = current ∨
    decided = .ok outcome.current ∧ outcome.result.status = .applied

theorem writesCandidate_persistRecovered {time : RunCheckpointTime}
    {decided : Except RunPersistenceResultStatus RunCommandState} :
    (persistRecovered coordinator current time decided).Yields
      (WritesCandidate current decided) := by
  cases decided with
  | error status => exact .inl rfl
  | ok candidate =>
      show (coordinator.persistRecoveryCandidate current candidate time).Yields _
      rw [persistRecoveryCandidate, unlessBorrowed]
      split
      · exact .inl rfl
      · cases hplan : coordinator.planRecoveryCandidate current candidate time {} with
        | error refused => exact .inl rfl
        | ok planned =>
            refine Program.yields_bind.mpr (Program.yields_of_forall (fun ended => ?_) _)
            show WritesCandidate current (.ok candidate) (planned.settle current ended)
            obtain ⟨snapshot, -, -, -, -, rfl⟩ := planRecoveryCandidate_eq_ok hplan
            rw [PlannedWrite.settle]
            split
            · rename_i happlied
              exact .inr ⟨rfl, happlied⟩
            · exact .inl rfl

theorem segments_reevaluatedCandidate {time : RunCheckpointTime}
    (h : reevaluatedCandidate current time = .ok candidate) :
    candidate.segments = current.segments := by
  simp only [reevaluatedCandidate, bind_eq_ok] at h
  obtain ⟨_, -, _, -, _, -, _, -, _, -, _, -, _, -, _, -, h⟩ := h
  cases h
  split <;> rfl

/-- Every step keeps the ledger. -/
theorem SegmentStep.ledger {environment : RunStoreEnvironment} {event : SegmentEvent}
    (hstep : SegmentStep environment current event next)
    (h : SegmentLedger history current.segments) :
    SegmentLedger (history.continued event) next.segments := by
  cases hstep with
  | operate hdecided hunbooked hrun =>
      have hends := (leavesLive_perform _).finishes hrun
      rcases moved_of_liveEnds hdecided hunbooked hends with hsame | hmoved
      · rw [hsame]
        exact h.unchanged
      · exact h.segmentsMoved hmoved
  | @command request _ hunrecorded happlied =>
      have hafter : next = (request.decide current).after ∧
          (request.decide current).proposed = true := by
        rw [applyRunCommand, Prod.mk.injEq] at happlied
        refine ⟨by rw [← happlied.2, if_pos happlied.1], ?_⟩
        exact (validateRunCommand_eq_applied.mp happlied.1).2.2.1
      have hends : endingKind (request.decide current).kind = false := by
        by_contra hending
        rw [Bool.not_eq_false] at hending
        rw [recorded_of_endingKind hending] at hunrecorded
        cases hunrecorded
      have hmoved := moved_accepted hafter.2
      rw [hends, ← hafter.1] at hmoved
      exact h.segmentsMoved hmoved
  | @reevaluate coordinator store time live outcome after hrun =>
      rw [reevaluateRecoveryTime] at hrun
      split at hrun
      · have hends := (@leavesLive_perform coordinator current
          (.reevaluateRecoveryEvaluation time live)).finishes hrun
        have hdecided :
            RunOperation.DecidedOn (.reevaluateRecoveryEvaluation time live) current := trivial
        have hunbooked : RunOperation.Unbooked (.reevaluateRecoveryEvaluation time live) :=
          fun _ _ _ h => by cases h
        rcases moved_of_liveEnds hdecided hunbooked hends with hsame | hmoved
        · rw [hsame]
          exact h.unchanged
        · exact h.segmentsMoved hmoved
      · rcases writesCandidate_persistRecovered.finishes hrun with hsame | ⟨hdecided, -⟩
        · rw [hsame]
          exact h.unchanged
        · exact h.segmentsMoved (.of_eq rfl (segments_reevaluatedCandidate hdecided))
  | @apply coordinator store outcome after request hrun =>
      have hwrites : WritesCandidate current (request.candidate current) outcome :=
        writesCandidate_persistRecovered.finishes hrun
      by_cases hsame : outcome.current = current
      · rw [if_pos hsame, hsame]
        exact h.unchanged
      · rw [if_neg hsame]
        obtain ⟨hdecided, -⟩ := hwrites.resolve_left hsame
        obtain ⟨booking, hbooking, hbooks⟩ := books_of_candidate hdecided
        rw [hbooking]
        exact h.books hbooks rfl
  | restart hdecided hunbooked hplans hrestored =>
      obtain ⟨candidate, hrecord, hmoved⟩ :=
        (planMoves_of_plans hdecided hunbooked hplans).recorded
      exact h.segmentsMoved (hmoved.restored hrecord hrestored)
  | restartReevaluated hcandidate hplans hrestored =>
      have hmoved := SegmentsMoved.of_eq rfl (segments_reevaluatedCandidate hcandidate)
      obtain ⟨candidate, hrecord, hmoved⟩ :=
        (planMoves_recoveryCandidate hmoved hplans).recorded
      exact h.segmentsMoved (hmoved.restored hrecord hrestored)
  | restartBooked request hcandidate hplans hrestored =>
      obtain ⟨booking, hbooking, hbooks⟩ := books_of_candidate hcandidate
      obtain ⟨snapshot, -, -, -, hsnapshot, rfl⟩ := planRecoveryCandidate_eq_ok hplans
      rw [hbooking]
      refine h.books hbooks ?_
      rcases segments_restored ⟨_, _, _, _, hsnapshot⟩ hrestored with hsame | ⟨hidle, -⟩
      · exact hsame
      · obtain ⟨state, -, hsegments⟩ := hbooks.booked
        rw [hsegments] at hidle
        have hopen := hbooks.isOpen
        rw [(h.idle hidle).2.2] at hopen
        cases hopen

end

/-! ## Weighted progress over a whole run -/

/-- A run that has begun, or none: no progress has been booked and no segment is open. -/
structure RunCommandState.Unweighted (state : RunCommandState) : Prop where
  booked : state.runProgress.weightedProgress = none
  isOpen : state.segments.openSegment = none
  idle : state.hasActiveRun = false → state.processRunSnapshot = none

theorem RunCommandState.Unweighted.ledger {state : RunCommandState} (h : state.Unweighted) :
    SegmentLedger {} state.segments where
  openings_increase := List.Pairwise.nil
  openings_bounded _ hmem := nomatch hmem
  bookings_increase := List.Pairwise.nil
  bookings_opened _ hmem := nomatch hmem
  bookings_sound _ hmem := nomatch hmem
  open_opened segment hmem := by
    rw [h.isOpen] at hmem
    cases hmem
  open_latest _ _ _ hmem := nomatch hmem
  totals := by
    show BookedBy [] state.runProgress.weightedProgress
    rw [h.booked]
    rfl
  idle hidle := by
    refine ⟨?_, h.booked, h.isOpen⟩
    show state.processRunSnapshot.isSome = false
    rw [h.idle hidle]
    rfl

/-- The confidence in the progress of a run. -/
def RunCommandState.progressConfidence (state : RunCommandState) :
    Option WeightedProgressConfidence :=
  (state.runProgress.weightedProgress.bind (·.lastApplied)).map (·.confidence)

/-- What holds of the weighted progress after a history. -/
structure WeightedProgressBooked (environment : RunStoreEnvironment)
    (events : List SegmentEvent) (last : RunCommandState) : Prop where
  segments_increase : (historyOf events).openings.Pairwise (· < ·)
  booked_once : ((historyOf events).bookings.map (·.segment)).Pairwise (· < ·)
  booked_opened : ∀ booking ∈ (historyOf events).bookings,
    booking.segment ∈ (historyOf events).openings
  totals : BookedBy (historyOf events).bookings last.runProgress.weightedProgress
  valid : ∀ state ∈ last.runProgress.weightedProgress,
    validWeightedProgressState state = true
  confidence : ∀ event next, SegmentStep environment last event next →
    event.ended = false → last.progressConfidence = some .airReduced →
      next.progressConfidence = some .airReduced
  rejected : ∀ (request : WeightingRequest) coordinator store outcome after,
    Program.Finishes environment (request.perform coordinator last) store outcome after →
      outcome.result.status ≠ .applied → outcome.current = last

theorem SegmentLedger.confidence {history : SegmentHistory} {state : RunCommandState}
    (h : SegmentLedger history state.segments) :
    state.progressConfidence = some .airReduced ↔
      ∃ booking ∈ history.bookings, booking.contribution.confidence = .airReduced := by
  have hprovenance := h.totals.provenance
  change state.runProgress.weightedProgress.bind (·.lastApplied) = _ at hprovenance
  rw [RunCommandState.progressConfidence, hprovenance, provenanceOf, Option.map_map]
  constructor
  · intro hreduced
    obtain ⟨last, -, hconfidence⟩ := Option.map_eq_some_iff.mp hreduced
    by_contra hnone
    have hproduct : confidenceOf history.bookings = .productPreferred := if_neg hnone
    change confidenceOf history.bookings = .airReduced at hconfidence
    rw [hproduct] at hconfidence
    cases hconfidence
  · intro hair
    have hreduced : confidenceOf history.bookings = .airReduced := if_pos hair
    cases hlast : history.bookings.getLast? with
    | none =>
        obtain ⟨booking, hmem, -⟩ := hair
        rw [List.getLast?_eq_none_iff.mp hlast] at hmem
        cases hmem
    | some last => exact congrArg some hreduced

/-- Whatever happens to a run, each of its segments is booked at most once and the
booked progress is the sum of them, in which no confidence is ever regained. -/
theorem weightedProgress_booked_once {environment : RunStoreEnvironment}
    {first last : RunCommandState} {events : List SegmentEvent} (hfirst : first.Unweighted)
    (hrun : Steps (SegmentStep environment) first events last) :
    WeightedProgressBooked environment events last := by
  have hledger : SegmentLedger (historyOf events) last.segments :=
    (@Steps.observed _ _ _ _ _ _ _ SegmentHistory.continued
      (fun (state : RunCommandState) history => SegmentLedger history state.segments)
      (fun _ _ => True) {} hrun hfirst.ledger
      fun h hstep => ⟨trivial, hstep.ledger h⟩).1
  refine ⟨hledger.openings_increase, hledger.bookings_increase, hledger.bookings_opened,
    hledger.totals, ?_, ?_, ?_⟩
  · intro state hstate
    have htotals := hledger.totals
    change BookedBy _ last.runProgress.weightedProgress at htotals
    rw [Option.mem_def.mp hstate] at htotals
    exact TotalsOf.valid htotals hledger.bookings_sound
  · intro event next hstep hended hreduced
    have hnext := hstep.ledger hledger
    rw [SegmentLedger.confidence hledger] at hreduced
    rw [SegmentLedger.confidence hnext, SegmentHistory.continued, hended]
    obtain ⟨booking, hmem, hair⟩ := hreduced
    exact ⟨booking, List.mem_append_left _ hmem, hair⟩
  · intro request coordinator store outcome after hperformed hrejected
    rcases writesCandidate_persistRecovered.finishes hperformed with hsame | ⟨-, happlied⟩
    · exact hsame
    · exact absurd happlied hrejected

/-! ### An hour that is interrupted -/

def twentyDegrees : Binary64 := .ofBits 0x4034000000000000

def hourReadings : CrossRolePlausibilityContext where
  evaluationMonotonicMillis := 5000
  air := { filteredCelsius := some twentyDegrees, quality := .valid }
  cooling := { filteredCelsius := some twentyDegrees, quality := .valid }

/-- The fermenting hour, with the last reading before the outage. -/
def interruptedHour : RunCommandState :=
  { fermentingHour.current with
    recoveryTemperatureEvidence := ⟨{ air := ⟨some twentyDegrees, .valid⟩ }⟩ }

def rebootedHour : Device :=
  (Device.boot fermentingHour.store 1 { intervalMinutes := 5 }).load.2

def reopenHour : RunOperation := .activateLoadedRun ⟨5000, some 1700000600⟩ hourReadings

def reopenedHour : RunPersistenceOutcome × RunStore :=
  (reopenHour.perform rebootedHour.coordinator interruptedHour).run faultlessStore
    rebootedHour.store

/-- Between five and ten minutes of the outage count as progress. -/
def weightHour : WeightingRequest where
  expectedRunRevision := reopenedHour.1.current.runRevision
  expectedRecoveryEpisodeRevision := 1
  weightedProgressSegmentId := 1
  time := ⟨6000, some 1700000601⟩
  input := {
    phase := .fermenting
    episodeEvidence := {}
    outage := some ⟨600, 300⟩
    usableSensorRole := some .air }
  model := fun _ => some {
    delta := ⟨300, some 600⟩
    sourceRole := .air
    confidence := .airReduced
    modelRevision := 1 }

def weightedHour : RunPersistenceOutcome × RunStore :=
  (weightHour.perform reopenedHour.1.coordinator reopenedHour.1.current).run
    faultlessStore reopenedHour.2

def hourSegments : List SegmentEvent :=
  [.of reopenHour.endsRun none interruptedHour reopenedHour.1.current,
    .of false
      (if weightedHour.1.current = reopenedHour.1.current then none
        else weightHour.booking reopenedHour.1.current)
      reopenedHour.1.current weightedHour.1.current]

theorem steps_weightedHour (unknown : UnknownOutcome) :
    Steps (SegmentStep (stateStore unknown)) interruptedHour hourSegments
      weightedHour.1.current := by
  have hdecided : reopenHour.DecidedOn interruptedHour := trivial
  have hunbooked : reopenHour.Unbooked := fun _ _ _ h => nomatch h
  have hreopens : Program.Finishes (stateStore unknown)
      (reopenHour.perform rebootedHour.coordinator interruptedHour) rebootedHour.store
      reopenedHour.1 reopenedHour.2 :=
    Program.finishes_run (faultlessStore_stateStore unknown) _ _
  have hweighs : Program.Finishes (stateStore unknown)
      (weightHour.perform reopenedHour.1.coordinator reopenedHour.1.current)
      reopenedHour.2 weightedHour.1 weightedHour.2 :=
    Program.finishes_run (faultlessStore_stateStore unknown) _ _
  exact (Steps.start.step (SegmentStep.operate hdecided hunbooked hreopens)).step
    (SegmentStep.apply weightHour hweighs)

set_option maxRecDepth 1000000 in
theorem interruptedHour_unweighted : interruptedHour.Unweighted :=
  ⟨by decide +kernel, by decide +kernel, by decide +kernel⟩

set_option maxRecDepth 1000000 in
/-- The segment of the outage is booked, and nothing else. -/
theorem weightedProgress_booked_hour :
    (historyOf hourSegments).bookings.map (·.segment) = [1] ∧
      WeightedProgressBooked (stateStore allOrNothing) hourSegments
        weightedHour.1.current :=
  ⟨by decide +kernel, weightedProgress_booked_once interruptedHour_unweighted
    (steps_weightedHour allOrNothing)⟩

end Fermentationsschrank

import Fermentationsschrank.Guarantees.ProbeReadings
import Mathlib.Data.List.Induction

/-!
# What a good reading says

However the devices on the two buses behave and whenever the binding is set, a good reading
of the sampling engine comes from the last cycle that was completed: a cycle that had found
the probe, knew the channel it belonged to, had started its conversion, had waited for it
and had read it.
-/

namespace Fermentationsschrank.DevicePlatform

variable {Value : Type}

namespace Ds18b20SamplingEngine

variable {engine : Ds18b20SamplingEngine Value} {channel other : Fin kChannelCount}

/-! ## A cycle begins -/

theorem channel_cases (channel : Fin kChannelCount) :
    (∃ bound : Fin kExpectedRomChannelCount, channel = bound.castSucc) ∨ channel = 2 := by
  fin_cases channel
  · exact .inl ⟨0, rfl⟩
  · exact .inl ⟨1, rfl⟩
  · exact .inr rfl

section Stepping

variable (clock : StepClock) (answers : SensorBus → BusAnswers Value)

theorem undisturbed_planCycle : Undisturbed engine (engine.planCycle clock answers) := by
  have hopened : Undisturbed engine (engine.openCycle clock.now) := ⟨rfl, rfl, rfl, rfl⟩
  exact (hopened.trans (undisturbed_planExpectedRomBus (answers .expectedRom) clock.now)).trans
    (undisturbed_planSingleDeviceBus clock.now (answers .singleDevice))

/-- A cycle decides every channel at its beginning; it has started a bus for each channel
that it has planned. -/
theorem decided_planCycle (hbound : engine.Bound) (channel : Fin kChannelCount) :
    Decided engine (engine.planCycle clock answers) channel fun rom =>
      Attached engine.expectedRomOf answers channel rom ∧
        ((engine.planCycle clock answers).busTriggered .expectedRom ||
          (engine.planCycle clock answers).busTriggered .singleDevice) = true := by
  have hopened : (engine.openCycle clock.now).Bound := hbound
  change Decided (engine.openCycle clock.now) _ _ _
  rcases channel_cases channel with ⟨bound, rfl⟩ | rfl
  · have helsewhere : Elsewhere ((engine.openCycle clock.now).planExpectedRomBus
        (answers .expectedRom) clock.now) (engine.planCycle clock answers) bound.castSucc :=
      elsewhere_planSingleDeviceBus clock.now (answers .singleDevice)
        (Fin.castSucc_lt_last bound).ne
    have hplanned : Decided (engine.openCycle clock.now) ((engine.openCycle
        clock.now).planExpectedRomBus (answers .expectedRom) clock.now) bound.castSucc fun rom =>
          Attached engine.expectedRomOf answers bound.castSucc rom ∧
            ((engine.openCycle clock.now).planExpectedRomBus (answers .expectedRom)
              clock.now).busTriggered .expectedRom = true :=
      decided_planExpectedRomBus clock.now hopened (fun _ => rfl) bound
    refine Decided.mono (hplanned.apart helsewhere.toApart) ?_
    rintro rom ⟨hattached, htriggered⟩
    refine ⟨hattached, ?_⟩
    rw [helsewhere.triggered, htriggered, Bool.true_or]
  · have hapart : Apart (engine.openCycle clock.now) ((engine.openCycle
        clock.now).planExpectedRomBus (answers .expectedRom) clock.now) 2 :=
      apart_planExpectedRomBus clock.now (by decide) (by decide)
    have hunplanned : (((engine.openCycle clock.now).planExpectedRomBus (answers .expectedRom)
        clock.now).plan 2).convert = false := by
      rw [hapart.plan]
      rfl
    have hplanned : Decided ((engine.openCycle clock.now).planExpectedRomBus
        (answers .expectedRom) clock.now) (engine.planCycle clock answers) 2 fun rom =>
          Attached engine.expectedRomOf answers 2 rom ∧
            (engine.planCycle clock answers).busTriggered .singleDevice = true :=
      decided_planSingleDeviceBus clock.now engine.expectedRomOf hunplanned
    refine Decided.mono (Decided.after_apart hapart hplanned) ?_
    rintro rom ⟨hattached, htriggered⟩
    exact ⟨hattached, (congrArg _ htriggered).trans (Bool.or_true _)⟩

/-- A cycle that began waits for its probes, or it is over and every channel has failed. -/
theorem beginCycle_cases (hbound : engine.Bound) :
    (engine.beginCycle clock answers).expectedRomOf = engine.expectedRomOf ∧
      (engine.beginCycle clock answers).bindingValid = engine.bindingValid ∧
      ((engine.beginCycle clock answers).phase = .waitingForConversion ∧
          (engine.beginCycle clock answers).conversionStartedMs = clock.started ∧
          (engine.beginCycle clock answers).completedCycles = engine.completedCycles ∧
          (∀ channel, Decided engine (engine.beginCycle clock answers) channel
            (Attached engine.expectedRomOf answers channel)) ∨
        (engine.beginCycle clock answers).phase = engine.phase ∧
          ∀ channel, (engine.beginCycle clock answers).Failed channel) := by
  have hsame : Undisturbed engine (engine.planCycle clock answers) :=
    undisturbed_planCycle clock answers
  rw [beginCycle]
  dsimp only
  by_cases htriggered : ((engine.planCycle clock answers).busTriggered .expectedRom ||
      (engine.planCycle clock answers).busTriggered .singleDevice) = true
  · rw [if_pos htriggered]
    refine ⟨hsame.expected, hsame.bound, .inl ⟨rfl, rfl, hsame.cycles, fun channel => ?_⟩⟩
    refine Decided.mono (Decided.apart (decided_planCycle clock answers hbound channel) ?_)
      fun _ h => h.1
    exact ⟨rfl, rfl⟩
  · rw [if_neg htriggered]
    refine ⟨hsame.expected, hsame.bound, .inr ⟨hsame.phase, fun channel => ?_⟩⟩
    rcases decided_planCycle clock answers hbound channel with ⟨-, hfailed⟩ | ⟨-, rom, -, h⟩
    · exact hfailed
    · exact absurd h.2 htriggered

/-! ## A cycle ends -/

/-- What a channel shows after its probe was read. -/
structure Taken (clock : StepClock) (answers : SensorBus → BusAnswers Value)
    (channel : Fin kChannelCount) (rom : OneWireRom) (reading : TemperatureReading Value) :
    Prop where
  answered : (answers (busOf channel)).read rom = ⟨.ok, reading.celsius⟩
  identity : reading.identity = identityOf (some rom)
  timestamp : reading.monotonicTimestampMs = clock.read channel

/-- A planned channel shows the answer of its probe, and another one what it showed. -/
def Finished (clock : StepClock) (answers : SensorBus → BusAnswers Value)
    (before after : Ds18b20SamplingEngine Value) (channel : Fin kChannelCount) : Prop :=
  (before.plan channel).convert = false ∧ after.readings channel = before.readings channel ∨
    (before.plan channel).convert = true ∧ ∃ reading, after.readings channel = some reading ∧
      (reading.status = .ok → Taken clock answers channel (before.plan channel).rom reading)

theorem finished_finishChannel :
    Finished clock answers engine (engine.finishChannel clock answers channel) channel := by
  rw [finishChannel]
  cases hplan : (engine.plan channel).convert with
  | false => exact .inl ⟨hplan, rfl⟩
  | true =>
      refine .inr ⟨hplan, ?_⟩
      rw [if_pos rfl]
      dsimp only
      rcases hread : (answers (busOf channel)).read (engine.plan channel).rom with
        ⟨result, celsius⟩
      by_cases hgood : result = .ok ∧ celsius.isSome = true
      · rw [if_pos hgood, readings_publish_self]
        obtain ⟨reading, hmade, -, hidentity, hcelsius, htimestamp⟩ :=
          makeReading_good (some (engine.plan channel).rom) hgood.2 (clock.read channel)
        refine ⟨reading, hmade, fun _ => ⟨?_, hidentity, htimestamp⟩⟩
        rw [hread, hgood.1, hcelsius]
      · rw [if_neg hgood]
        have hbad : (if result = .ok then Ds18b20DriverResult.other else result) ≠ .ok := by
          split_ifs with hresult
          · decide
          · exact hresult
        obtain ⟨reading, hshown, hstatus⟩ : Failed ((engine.forgetResolution
            (busOf channel)).publishFault channel (some (engine.plan channel).rom)
              (if result = .ok then .other else result) (clock.read channel)) channel :=
          failed_publish _ (fun hok => hbad (statusFor_eq_ok hok)) _
        exact ⟨reading, hshown, fun hok => absurd hok hstatus⟩

theorem apart_finishChannel (h : other ≠ channel) :
    Apart engine (engine.finishChannel clock answers channel) other := by
  rw [finishChannel]
  split_ifs
  · dsimp only
    split
    · exact apart_publish h _ _ _ _
    · refine Apart.trans ?_ (apart_publish h _ _ _ _)
      exact ⟨rfl, rfl⟩
  · exact .refl

theorem Finished.apart {before middle after : Ds18b20SamplingEngine Value}
    (h : Finished clock answers before middle channel) (hapart : Apart middle after channel) :
    Finished clock answers before after channel := by
  rcases h with ⟨hplan, hkept⟩ | ⟨hplan, reading, hshown, htaken⟩
  · exact .inl ⟨hplan, hapart.readings.trans hkept⟩
  · exact .inr ⟨hplan, reading, hapart.readings.trans hshown, htaken⟩

theorem Finished.after_apart {before middle after : Ds18b20SamplingEngine Value}
    (hapart : Apart before middle channel) (h : Finished clock answers middle after channel) :
    Finished clock answers before after channel := by
  rw [Finished, hapart.plan, hapart.readings] at h
  exact h

theorem finished_finishCycle (engine : Ds18b20SamplingEngine Value)
    (channel : Fin kChannelCount) :
    Finished clock answers engine (engine.finishCycle clock answers) channel := by
  have hread : Finished clock answers engine (((engine.finishChannel clock answers
      0).finishChannel clock answers 1).finishChannel clock answers 2) channel := by
    fin_cases channel
    · refine Finished.apart clock answers (finished_finishChannel clock answers) ?_
      exact (apart_finishChannel clock answers (show (0 : Fin kChannelCount) ≠ 1 by decide)).trans
        (apart_finishChannel clock answers (show (0 : Fin kChannelCount) ≠ 2 by decide))
    · refine Finished.after_apart clock answers
        (apart_finishChannel clock answers (show (1 : Fin kChannelCount) ≠ 0 by decide)) ?_
      exact Finished.apart clock answers (finished_finishChannel clock answers)
        (apart_finishChannel clock answers (show (1 : Fin kChannelCount) ≠ 2 by decide))
    · refine Finished.after_apart clock answers ?_ (finished_finishChannel clock answers)
      exact (apart_finishChannel clock answers (show (2 : Fin kChannelCount) ≠ 0 by decide)).trans
        (apart_finishChannel clock answers (show (2 : Fin kChannelCount) ≠ 1 by decide))
  exact hread

theorem undisturbed_finishChannel :
    Undisturbed engine (engine.finishChannel clock answers channel) := by
  rw [finishChannel]
  split_ifs
  · dsimp only
    split_ifs <;> exact ⟨rfl, rfl, rfl, rfl⟩
  · exact ⟨rfl, rfl, rfl, rfl⟩

theorem finishCycle_same (engine : Ds18b20SamplingEngine Value) :
    (engine.finishCycle clock answers).expectedRomOf = engine.expectedRomOf ∧
      (engine.finishCycle clock answers).bindingValid = engine.bindingValid ∧
      (engine.finishCycle clock answers).phase = .idle := by
  have hsame : Undisturbed engine (((engine.finishChannel clock answers 0).finishChannel clock
      answers 1).finishChannel clock answers 2) :=
    ((undisturbed_finishChannel clock answers).trans
      (undisturbed_finishChannel clock answers)).trans (undisturbed_finishChannel clock answers)
  exact ⟨hsame.expected, hsame.bound, rfl⟩

end Stepping

end Ds18b20SamplingEngine

/-! ## Bindings -/

theorem addBinding_nonzero {candidate next : ExpectedRoms} {entry : Option Ds18b20ChannelBinding}
    (h : addBinding candidate entry = some next)
    (hnonzero : ∀ bound, candidate bound ≠ some 0) : ∀ bound, next bound ≠ some 0 := by
  cases entry with
  | none => cases h
  | some entry =>
      rw [addBinding] at h
      split_ifs at h with hchannel hrefused
      cases h
      intro bound
      by_cases hsame : bound = ⟨entry.channel, hchannel⟩
      · rw [hsame, Function.update_self]
        exact fun hzero => hrefused (.inl (Option.some.inj hzero))
      · rw [Function.update_of_ne hsame]
        exact hnonzero bound

theorem addBindings_nonzero {bindings : List (Option Ds18b20ChannelBinding)}
    {candidate next : ExpectedRoms} (h : bindings.foldlM addBinding candidate = some next)
    (hnonzero : ∀ bound, candidate bound ≠ some 0) : ∀ bound, next bound ≠ some 0 := by
  induction bindings generalizing candidate with
  | nil =>
      cases h
      exact hnonzero
  | cons entry rest ih =>
      rw [List.foldlM_cons] at h
      obtain ⟨middle, hmiddle, hrest⟩ := Option.bind_eq_some_iff.mp h
      exact ih hrest (addBinding_nonzero hmiddle hnonzero)

/-- A valid binding expects different addresses on the two channels. -/
theorem validBinding_some
    {bindings : Vector (Option Ds18b20ChannelBinding) kExpectedRomChannelCount}
    {candidate : ExpectedRoms} (h : validBinding bindings = some candidate) :
    (∀ bound, ∃ rom, candidate bound = some rom ∧ rom ≠ 0) ∧ candidate 0 ≠ candidate 1 := by
  rw [validBinding, Option.filter_eq_some_iff] at h
  obtain ⟨hfold, hcomplete⟩ := h
  simp only [Bool.and_eq_true, bne_iff_ne] at hcomplete
  obtain ⟨⟨hfirst, hsecond⟩, hdistinct⟩ := hcomplete
  refine ⟨fun bound => ?_, hdistinct⟩
  have hsome : (candidate bound).isSome = true := by
    fin_cases bound
    · exact hfirst
    · exact hsecond
  obtain ⟨rom, hrom⟩ := Option.isSome_iff_exists.mp hsome
  refine ⟨rom, hrom, ?_⟩
  rintro rfl
  exact addBindings_nonzero hfold (by rintro _ ⟨⟩) bound hrom

theorem Ds18b20SamplingEngine.bound_setBinding (engine : Ds18b20SamplingEngine Value)
    (bindings : Vector (Option Ds18b20ChannelBinding) kExpectedRomChannelCount) :
    (engine.setBinding bindings).expectedRomOf = ((validBinding bindings).getD fun _ => none) ∧
      (engine.setBinding bindings).Bound := by
  have hexpected : (engine.setBinding bindings).expectedRomOf =
      (validBinding bindings).getD fun _ => none := by
    funext bound
    rw [expectedRomOf, setBinding]
    cases validBinding bindings <;> rfl
  refine ⟨hexpected, fun hvalid => ?_⟩
  rw [hexpected]
  obtain ⟨candidate, hcandidate⟩ := Option.isSome_iff_exists.mp hvalid
  rw [hcandidate]
  exact (validBinding_some hcandidate).1

/-! ## Runs -/

/-- A cycle of the engine: the calls before it, the step it begins with, the calls while its
conversions run, and the step that reads the probes. -/
structure SamplingCycle (Value : Type) where
  earlier : List (SamplingCall Value)
  begun : StepClock
  answers : SensorBus → BusAnswers Value
  between : List (SamplingCall Value)
  finished : StepClock
  read : SensorBus → BusAnswers Value

def SamplingCycle.waiting (cycle : SamplingCycle Value) : List (SamplingCall Value) :=
  cycle.earlier ++ .step cycle.begun cycle.answers :: cycle.between

def SamplingCycle.calls (cycle : SamplingCycle Value) : List (SamplingCall Value) :=
  cycle.waiting ++ [.step cycle.finished cycle.read]

/-- The cycle is the last one that the calls completed, and it has waited for its
conversions. -/
structure SamplingCycle.LastOf (cycle : SamplingCycle Value) (calls : List (SamplingCall Value)) :
    Prop where
  within : cycle.calls <+: calls
  idle : (sampled cycle.earlier).phase = .idle
  whole : (sampled cycle.waiting).completedCycles = (sampled cycle.earlier).completedCycles
  waited : afterMs cycle.begun.started kConversionWaitMs ≤ cycle.finished.now
  last : (sampled calls).completedCycles = (sampled cycle.calls).completedCycles

/-- The channel shows a failure, or what its probe answered in the cycle. -/
def SamplingCycle.Explains (cycle : SamplingCycle Value) (calls : List (SamplingCall Value))
    (channel : Fin kChannelCount) : Prop :=
  (sampled calls).Failed channel ∨
    ∃ reading rom, (sampled calls).readings channel = some reading ∧ reading.status = .ok ∧
      Attached (boundBy cycle.earlier) cycle.answers channel rom ∧
      Ds18b20SamplingEngine.Taken cycle.finished cycle.read channel rom reading

variable {calls : List (SamplingCall Value)} {call : SamplingCall Value}

theorem sampled_concat :
    sampled (calls ++ [call]) = SamplingCall.apply (sampled calls) call := by
  rw [sampled, List.foldl_append]
  rfl

theorem boundBy_distinct (calls : List (SamplingCall Value)) {rom : OneWireRom}
    (hfirst : boundBy calls 0 = some rom) : boundBy calls 1 ≠ some rom := by
  induction calls using List.reverseRecOn with
  | nil => cases hfirst
  | append_singleton earlier call ih =>
      rw [boundBy, List.foldl_append] at hfirst ⊢
      cases call with
      | setBinding bindings =>
          change ((validBinding bindings).getD fun _ => none) 0 = some rom at hfirst
          change ((validBinding bindings).getD fun _ => none) 1 ≠ some rom
          cases hvalid : validBinding bindings with
          | none =>
              rw [hvalid] at hfirst
              cases hfirst
          | some candidate =>
              rw [hvalid] at hfirst
              exact fun hsecond => (validBinding_some hvalid).2 (hfirst.trans hsecond.symm)
      | step clock answers => exact ih hfirst

def Explained (calls : List (SamplingCall Value)) : Prop :=
  (∀ channel, (sampled calls).Failed channel) ∨
    ∃ cycle : SamplingCycle Value, cycle.LastOf calls ∧ ∀ channel, cycle.Explains calls channel

/-- Until a cycle is completed a channel shows what it showed, or that it has failed. -/
theorem Explained.extend (h : Explained calls)
    (hcount : (sampled (calls ++ [call])).completedCycles = (sampled calls).completedCycles)
    (hkept : ∀ channel, (sampled (calls ++ [call])).Failed channel ∨
      (sampled (calls ++ [call])).readings channel = (sampled calls).readings channel) :
    Explained (calls ++ [call]) := by
  rcases h with hfailed | ⟨cycle, hlast, hexplains⟩
  · refine .inl fun channel => ?_
    rcases hkept channel with hnew | hsame
    · exact hnew
    · obtain ⟨reading, hshown, hstatus⟩ := hfailed channel
      exact ⟨reading, hsame.trans hshown, hstatus⟩
  · refine .inr ⟨cycle, ?_, fun channel => ?_⟩
    · exact { hlast with
        within := hlast.within.trans (List.prefix_append _ _)
        last := hcount.trans hlast.last }
    · rcases hkept channel with hnew | hsame
      · exact .inl hnew
      · rcases hexplains channel with ⟨reading, hshown, hstatus⟩ | ⟨reading, rom, hshown, hrest⟩
        · exact .inl ⟨reading, hsame.trans hshown, hstatus⟩
        · exact .inr ⟨reading, rom, hsame.trans hshown, hrest⟩

/-- What is known of a cycle while its conversions run. -/
structure Begun (calls earlier : List (SamplingCall Value)) (begun : StepClock)
    (answers : SensorBus → BusAnswers Value) (between : List (SamplingCall Value)) : Prop where
  split : calls = earlier ++ .step begun answers :: between
  idle : (sampled earlier).phase = .idle
  started : (sampled calls).conversionStartedMs = begun.started
  whole : (sampled calls).completedCycles = (sampled earlier).completedCycles
  planned : ∀ channel,
    ((sampled calls).plan channel).convert = false ∧ (sampled calls).Failed channel ∨
      ∃ rom, (sampled calls).plan channel = ⟨true, rom⟩ ∧
        Attached (boundBy earlier) answers channel rom

/-- Neither the cycle nor what the channels show was changed. -/
structure Unmoved (before after : Ds18b20SamplingEngine Value) : Prop where
  phase : after.phase = before.phase
  plan : after.plan = before.plan
  readings : after.readings = before.readings
  started : after.conversionStartedMs = before.conversionStartedMs
  cycles : after.completedCycles = before.completedCycles

theorem Begun.extend {earlier between : List (SamplingCall Value)} {begun : StepClock}
    {answers : SensorBus → BusAnswers Value} (h : Begun calls earlier begun answers between)
    (hsame : Unmoved (sampled calls) (sampled (calls ++ [call]))) :
    Begun (calls ++ [call]) earlier begun answers (between ++ [call]) where
  split := by rw [h.split, List.append_assoc, List.cons_append]
  idle := h.idle
  started := hsame.started.trans h.started
  whole := hsame.cycles.trans h.whole
  planned channel := by
    rw [hsame.plan, Ds18b20SamplingEngine.Failed, hsame.readings]
    exact h.planned channel

/-- What a finished cycle shows comes from that cycle. -/
theorem Begun.finish {earlier between : List (SamplingCall Value)} {begun clock : StepClock}
    {answers read : SensorBus → BusAnswers Value}
    (h : Begun calls earlier begun answers between)
    (hwaited : afterMs (sampled calls).conversionStartedMs kConversionWaitMs ≤ clock.now)
    (hnext : sampled (calls ++ [.step clock read]) = (sampled calls).finishCycle clock read) :
    Explained (calls ++ [.step clock read]) := by
  have hcycle : (SamplingCycle.mk earlier begun answers between clock read).calls =
      calls ++ [.step clock read] := by
    rw [SamplingCycle.calls, SamplingCycle.waiting, h.split]
  have hlast : (SamplingCycle.mk earlier begun answers between clock read).LastOf
      (calls ++ [.step clock read]) :=
    { within := by rw [hcycle]
      idle := h.idle
      whole := by rw [SamplingCycle.waiting, ← h.split]; exact h.whole
      waited := by rw [← h.started]; exact hwaited
      last := by rw [hcycle] }
  refine .inr ⟨_, hlast, fun channel => ?_⟩
  rw [SamplingCycle.Explains, hnext, Ds18b20SamplingEngine.Failed]
  rcases (sampled calls).finished_finishCycle clock read channel with
    ⟨hplan, hkept⟩ | ⟨hplan, reading, hshown, htaken⟩
  · rw [hkept]
    rcases h.planned channel with ⟨-, hfailed⟩ | ⟨rom, hrom, -⟩
    · exact .inl hfailed
    · rw [hrom] at hplan
      cases hplan
  · by_cases hgood : reading.status = .ok
    · rcases h.planned channel with ⟨hunplanned, -⟩ | ⟨rom, hrom, hattached⟩
      · cases hunplanned.symm.trans hplan
      · have htaken := htaken hgood
        rw [hrom] at htaken
        exact .inr ⟨reading, rom, hshown, hgood, hattached, htaken⟩
    · exact .inl ⟨reading, hshown, hgood⟩

/-- What is known after every sequence of calls. -/
structure Known (calls : List (SamplingCall Value)) : Prop where
  expected : (sampled calls).expectedRomOf = boundBy calls
  bound : (sampled calls).Bound
  waiting : (sampled calls).phase = .waitingForConversion →
    ∃ earlier begun answers between, Begun calls earlier begun answers between
  explained : Explained calls

theorem boundBy_step {clock : StepClock} {answers : SensorBus → BusAnswers Value} :
    boundBy (calls ++ [.step clock answers]) = boundBy calls := by
  rw [boundBy, List.foldl_append]
  rfl

theorem boundBy_setBinding
    {bindings : Vector (Option Ds18b20ChannelBinding) kExpectedRomChannelCount} :
    boundBy (calls ++ [.setBinding bindings]) = (validBinding bindings).getD fun _ => none := by
  rw [boundBy, List.foldl_append]
  rfl

theorem Known.unmoved (h : Known calls)
    (hexpected : (sampled (calls ++ [call])).expectedRomOf = boundBy (calls ++ [call]))
    (hbound : (sampled (calls ++ [call])).Bound)
    (hsame : Unmoved (sampled calls) (sampled (calls ++ [call]))) :
    Known (calls ++ [call]) where
  expected := hexpected
  bound := hbound
  waiting hphase := by
    obtain ⟨earlier, begun, answers, between, hbegun⟩ :=
      h.waiting (hsame.phase.symm.trans hphase)
    exact ⟨earlier, begun, answers, between ++ [call], hbegun.extend hsame⟩
  explained :=
    h.explained.extend hsame.cycles fun channel => .inr (congrFun hsame.readings channel)

theorem Known.begins {clock : StepClock} {answers : SensorBus → BusAnswers Value}
    (h : Known calls) (hidle : (sampled calls).phase = .idle)
    (hnext : sampled (calls ++ [.step clock answers]) =
      (sampled calls).beginCycle clock answers) :
    Known (calls ++ [.step clock answers]) := by
  obtain ⟨hexpected, hvalid, hcases⟩ :=
    Ds18b20SamplingEngine.beginCycle_cases clock answers h.bound
  rw [← hnext] at hexpected hvalid hcases
  have hbound : (sampled (calls ++ [.step clock answers])).Bound := fun hbinding => by
    rw [hexpected]
    exact h.bound (hvalid.symm.trans hbinding)
  have hknown : (sampled (calls ++ [.step clock answers])).expectedRomOf =
      boundBy (calls ++ [.step clock answers]) := by
    rw [hexpected, h.expected, boundBy_step]
  rw [h.expected] at hcases
  rcases hcases with ⟨-, hstarted, hcount, hdecided⟩ | ⟨hphase, hfailed⟩
  · refine ⟨hknown, hbound, fun _ => ⟨calls, clock, answers, [], ?_⟩, ?_⟩
    · refine ⟨rfl, hidle, hstarted, hcount, fun channel => ?_⟩
      rcases hdecided channel with hfailed | ⟨-, hplanned⟩
      · exact .inl hfailed
      · exact .inr hplanned
    · refine h.explained.extend hcount fun channel => ?_
      rcases hdecided channel with ⟨-, hfailed⟩ | ⟨hkept, -⟩
      · exact .inl hfailed
      · exact .inr hkept
  · refine ⟨hknown, hbound, fun hwaiting => ?_, .inl hfailed⟩
    cases (hphase.trans hidle).symm.trans hwaiting

theorem Known.finishes {clock : StepClock} {answers : SensorBus → BusAnswers Value}
    (h : Known calls) (hphase : (sampled calls).phase = .waitingForConversion)
    (hwaited : afterMs (sampled calls).conversionStartedMs kConversionWaitMs ≤ clock.now)
    (hnext : sampled (calls ++ [.step clock answers]) =
      (sampled calls).finishCycle clock answers) :
    Known (calls ++ [.step clock answers]) := by
  obtain ⟨hexpected, hvalid, hidle⟩ := (sampled calls).finishCycle_same clock answers
  obtain ⟨earlier, begun, planned, between, hbegun⟩ := h.waiting hphase
  rw [← hnext] at hexpected hvalid hidle
  refine ⟨?_, fun hbinding => ?_, fun hwaiting => ?_, hbegun.finish hwaited hnext⟩
  · rw [hexpected, h.expected, boundBy_step]
  · rw [hexpected]
    exact h.bound (hvalid.symm.trans hbinding)
  · cases hidle.symm.trans hwaiting

theorem Known.step (h : Known calls) (clock : StepClock)
    (answers : SensorBus → BusAnswers Value) : Known (calls ++ [.step clock answers]) := by
  have hnext : sampled (calls ++ [.step clock answers]) = (sampled calls).step clock answers :=
    sampled_concat
  have hrests (hsame : (sampled calls).step clock answers = sampled calls) :
      Known (calls ++ [.step clock answers]) := by
    rw [hsame] at hnext
    refine h.unmoved ?_ ?_ ?_
    · rw [hnext, h.expected, boundBy_step]
    · rw [hnext]
      exact h.bound
    · rw [hnext]
      exact ⟨rfl, rfl, rfl, rfl, rfl⟩
  cases hphase : (sampled calls).phase with
  | idle =>
      by_cases hdue : (sampled calls).nextCycleStartMs ≤ clock.now
      · refine h.begins hphase (hnext.trans ?_)
        simp only [Ds18b20SamplingEngine.step, hphase, if_pos hdue]
      · refine hrests ?_
        simp only [Ds18b20SamplingEngine.step, hphase, if_neg hdue]
  | waitingForConversion =>
      by_cases hwaited : afterMs (sampled calls).conversionStartedMs kConversionWaitMs ≤ clock.now
      · refine h.finishes hphase hwaited (hnext.trans ?_)
        simp only [Ds18b20SamplingEngine.step, hphase, if_pos hwaited]
      · refine hrests ?_
        simp only [Ds18b20SamplingEngine.step, hphase, if_neg hwaited]

theorem Known.setBinding (h : Known calls)
    (bindings : Vector (Option Ds18b20ChannelBinding) kExpectedRomChannelCount) :
    Known (calls ++ [.setBinding bindings]) := by
  have hnext : sampled (calls ++ [.setBinding bindings]) = (sampled calls).setBinding bindings :=
    sampled_concat
  obtain ⟨hexpected, hbound⟩ := (sampled calls).bound_setBinding bindings
  refine h.unmoved ?_ ?_ ?_
  · rw [hnext, hexpected, boundBy_setBinding]
  · rw [hnext]
    exact hbound
  · rw [hnext]
    exact ⟨rfl, rfl, rfl, rfl, rfl⟩

theorem known (calls : List (SamplingCall Value)) : Known calls := by
  induction calls using List.reverseRecOn with
  | nil =>
      refine ⟨rfl, by rintro ⟨⟩, by rintro ⟨⟩, .inl fun channel => ?_⟩
      obtain ⟨reading, hmade, hstatus⟩ : ∃ reading : TemperatureReading Value,
          makeReading none .missingSample none 0 = some reading ∧
            reading.status = .missingSample := makeReading_faulty none (by decide) 0
      exact ⟨reading, hmade, by rw [hstatus]; decide⟩
  | append_singleton earlier call ih =>
      cases call with
      | setBinding bindings => exact ih.setBinding bindings
      | step clock answers => exact ih.step clock answers

theorem identityOf_some {rom : OneWireRom} (h : rom ≠ 0) :
    identityOf (some rom) = some ⟨rom, h⟩ := by
  rw [identityOf, Option.bind_some, SensorIdentity.create, dif_neg h]

/-- A bound channel with a good reading names the address it was expected to have. -/
theorem SamplingCycle.Explains.expected {cycle : SamplingCycle Value}
    {bound : Fin kExpectedRomChannelCount} {reading : TemperatureReading Value}
    (h : cycle.Explains calls bound.castSucc)
    (hshown : (sampled calls).readings bound.castSucc = some reading)
    (hgood : reading.status = .ok) :
    ∃ identity, reading.identity = some identity ∧
      boundBy cycle.earlier bound = some identity.value := by
  rcases h with ⟨found, hfound, hbad⟩ | ⟨found, rom, hfound, -, hattached, htaken⟩
  · cases hshown.symm.trans hfound
    exact absurd hgood hbad
  · cases hshown.symm.trans hfound
    refine ⟨⟨rom, hattached.nonzero⟩, ?_, hattached.bound bound rfl⟩
    rw [htaken.identity, identityOf_some hattached.nonzero]

/-- Every channel shows a failure, or all good readings come from the last completed cycle:
each from the probe that stood for its channel there, read after the wait for the
conversion.  The two bound channels never show good readings of one probe. -/
theorem good_readings_of_last_cycle (calls : List (SamplingCall Value)) :
    ((∀ channel, (sampled calls).Failed channel) ∨
      ∃ cycle : SamplingCycle Value, cycle.LastOf calls ∧
        ∀ channel, cycle.Explains calls channel) ∧
    ∀ first second, (sampled calls).readings 0 = some first →
      (sampled calls).readings 1 = some second → first.status = .ok → second.status = .ok →
        first.identity ≠ second.identity := by
  have hexplained := (known calls).explained
  refine ⟨hexplained, fun first second hfirst hsecond hgood hother => ?_⟩
  rcases hexplained with hfailed | ⟨cycle, -, hexplains⟩
  · obtain ⟨reading, hshown, hbad⟩ := hfailed 0
    cases hfirst.symm.trans hshown
    exact absurd hgood hbad
  · have hzero : cycle.Explains calls (0 : Fin kExpectedRomChannelCount).castSucc := hexplains 0
    have hone : cycle.Explains calls (1 : Fin kExpectedRomChannelCount).castSucc := hexplains 1
    obtain ⟨one, hfirstOne, hexpected⟩ := hzero.expected hfirst hgood
    obtain ⟨two, hsecondTwo, hanother⟩ := hone.expected hsecond hother
    rw [hfirstOne, hsecondTwo]
    intro hsame
    cases hsame
    exact boundBy_distinct cycle.earlier hexpected hanother

end Fermentationsschrank.DevicePlatform

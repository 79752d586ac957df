import Fermentationsschrank.Sensors.SamplingEngine
import Mathlib.Tactic.FinCases

/-!
# What a cycle decides

When the sampling engine plans a cycle, every channel is decided: it shows a failure, or its
probe is attached and its bus has started the conversion.
-/

namespace Fermentationsschrank.DevicePlatform

variable {Value : Type}

/-! ## Readings that are made -/

theorem statusFor_eq_ok {result : Ds18b20DriverResult} (h : statusFor result = .ok) :
    result = .ok := by
  cases result
  case ok => rfl
  all_goals cases h

theorem makeReading_faulty (rom : Option OneWireRom) {status : TemperatureSampleStatus}
    (h : status ≠ .ok) (timestampMs : ℕ) :
    ∃ reading : TemperatureReading Value,
      makeReading rom status none timestampMs = some reading ∧ reading.status = status := by
  refine ⟨⟨identityOf rom, timestampMs, status, none, by simp [h]⟩, ?_, rfl⟩
  rw [makeReading, TemperatureReading.create, dif_pos]

theorem makeReading_good (rom : Option OneWireRom) {celsius : Option (ExactDouble Value)}
    (h : celsius.isSome = true) (timestampMs : ℕ) :
    ∃ reading, makeReading rom .ok celsius timestampMs = some reading ∧ reading.status = .ok ∧
      reading.identity = identityOf rom ∧ reading.celsius = celsius ∧
      reading.monotonicTimestampMs = timestampMs := by
  refine ⟨⟨identityOf rom, timestampMs, .ok, celsius, by simp [h]⟩, ?_, rfl, rfl, rfl, rfl⟩
  rw [makeReading, TemperatureReading.create, dif_pos]

/-- In a cycle that begins with these answers the probe with this address stands for the
channel: its bus answers, finds it and starts its conversion.  A bound channel expects the
address and its bus finds nothing that is not expected; the other channel's bus finds
nothing else. -/
structure Attached (expected : ExpectedRoms) (answers : SensorBus → BusAnswers Value)
    (channel : Fin kChannelCount) (rom : OneWireRom) : Prop where
  present : (answers (busOf channel)).presence = .ok
  enumerated : (answers (busOf channel)).enumerate.result = .ok
  found : rom ∈ (answers (busOf channel)).enumerate.found
  whole : (answers (busOf channel)).enumerate.overflow = false
  started : (answers (busOf channel)).startConversionAll = .ok
  bound : ∀ bound : Fin kExpectedRomChannelCount, channel = bound.castSucc →
    expected bound = some rom
  unmixed : busOf channel = .expectedRom →
    ∀ other ∈ (answers (busOf channel)).enumerate.found, ∃ bound, expected bound = some other
  alone : busOf channel = .singleDevice → (answers (busOf channel)).enumerate.found = [rom]
  nonzero : rom ≠ 0

namespace Ds18b20SamplingEngine

variable {engine : Ds18b20SamplingEngine Value} {channel other : Fin kChannelCount}

/-- The channel shows that its probe could not be read. -/
def Failed (engine : Ds18b20SamplingEngine Value) (channel : Fin kChannelCount) : Prop :=
  ∃ reading, engine.readings channel = some reading ∧ reading.status ≠ .ok

theorem readings_publish_self (identity : Option OneWireRom) (status : TemperatureSampleStatus)
    (celsius : Option (ExactDouble Value)) (timestampMs : ℕ) :
    (engine.publish channel identity status celsius timestampMs).readings channel =
      makeReading identity status celsius timestampMs :=
  Function.update_self ..

theorem readings_publish_of_ne (h : other ≠ channel) (identity : Option OneWireRom)
    (status : TemperatureSampleStatus) (celsius : Option (ExactDouble Value))
    (timestampMs : ℕ) :
    (engine.publish channel identity status celsius timestampMs).readings other =
      engine.readings other :=
  Function.update_of_ne h ..

theorem failed_publish (identity : Option OneWireRom) {status : TemperatureSampleStatus}
    (h : status ≠ .ok) (timestampMs : ℕ) :
    (engine.publish channel identity status none timestampMs).Failed channel := by
  obtain ⟨reading, hmade, hstatus⟩ : ∃ reading : TemperatureReading Value,
      makeReading identity status none timestampMs = some reading ∧ reading.status = status :=
    makeReading_faulty identity h timestampMs
  refine ⟨reading, ?_, hstatus ▸ h⟩
  rw [readings_publish_self, hmade]

theorem Failed.publish (hfailed : engine.Failed other) (identity : Option OneWireRom)
    {status : TemperatureSampleStatus} (h : status ≠ .ok) (timestampMs : ℕ) :
    (engine.publish channel identity status none timestampMs).Failed other := by
  by_cases hsame : other = channel
  · rw [hsame]
    exact failed_publish identity h timestampMs
  · obtain ⟨reading, hshown, hstatus⟩ := hfailed
    exact ⟨reading, (readings_publish_of_ne hsame ..).trans hshown, hstatus⟩

/-- Nothing but readings, plans and reports differs. -/
structure Undisturbed (before after : Ds18b20SamplingEngine Value) : Prop where
  expected : after.expectedRomOf = before.expectedRomOf
  bound : after.bindingValid = before.bindingValid
  phase : after.phase = before.phase
  cycles : after.completedCycles = before.completedCycles

theorem Undisturbed.trans {before middle after : Ds18b20SamplingEngine Value}
    (hfirst : Undisturbed before middle) (hsecond : Undisturbed middle after) :
    Undisturbed before after where
  expected := hsecond.expected.trans hfirst.expected
  bound := hsecond.bound.trans hfirst.bound
  phase := hsecond.phase.trans hfirst.phase
  cycles := hsecond.cycles.trans hfirst.cycles

/-- The channel was left alone. -/
structure Apart (before after : Ds18b20SamplingEngine Value) (channel : Fin kChannelCount) :
    Prop where
  plan : after.plan channel = before.plan channel
  readings : after.readings channel = before.readings channel

theorem Apart.refl : Apart engine engine channel := ⟨rfl, rfl⟩

theorem Apart.trans {before middle after : Ds18b20SamplingEngine Value}
    (hfirst : Apart before middle channel) (hsecond : Apart middle after channel) :
    Apart before after channel where
  plan := hsecond.plan.trans hfirst.plan
  readings := hsecond.readings.trans hfirst.readings

theorem Apart.failed {before after : Ds18b20SamplingEngine Value}
    (h : Apart before after channel) (hfailed : before.Failed channel) :
    after.Failed channel := by
  obtain ⟨reading, hshown, hstatus⟩ := hfailed
  exact ⟨reading, h.readings.trans hshown, hstatus⟩

theorem apart_publish (h : other ≠ channel) (identity : Option OneWireRom)
    (status : TemperatureSampleStatus) (celsius : Option (ExactDouble Value))
    (timestampMs : ℕ) :
    Apart engine (engine.publish channel identity status celsius timestampMs) other :=
  ⟨rfl, readings_publish_of_ne h ..⟩

/-- The channel is given up, or it is planned and keeps what it shows. -/
def Decided (before after : Ds18b20SamplingEngine Value) (channel : Fin kChannelCount)
    (planned : OneWireRom → Prop) : Prop :=
  (after.plan channel).convert = false ∧ after.Failed channel ∨
    after.readings channel = before.readings channel ∧
      ∃ rom, after.plan channel = ⟨true, rom⟩ ∧ planned rom

theorem Decided.mono {before after : Ds18b20SamplingEngine Value}
    {planned known : OneWireRom → Prop} (h : Decided before after channel planned)
    (himp : ∀ rom, planned rom → known rom) : Decided before after channel known := by
  rcases h with hfailed | ⟨hkept, rom, hplan, hplanned⟩
  · exact .inl hfailed
  · exact .inr ⟨hkept, rom, hplan, himp rom hplanned⟩

theorem Decided.apart {before middle after : Ds18b20SamplingEngine Value}
    {planned : OneWireRom → Prop} (h : Decided before middle channel planned)
    (hapart : Apart middle after channel) : Decided before after channel planned := by
  rcases h with ⟨hplan, hfailed⟩ | ⟨hkept, rom, hplan, hplanned⟩
  · exact .inl ⟨hapart.plan.symm ▸ hplan, hapart.failed hfailed⟩
  · exact .inr ⟨hapart.readings.trans hkept, rom, hapart.plan.trans hplan, hplanned⟩

theorem Decided.after_apart {before middle after : Ds18b20SamplingEngine Value}
    {planned : OneWireRom → Prop} (hapart : Apart before middle channel)
    (h : Decided middle after channel planned) : Decided before after channel planned := by
  rcases h with hfailed | ⟨hkept, hplanned⟩
  · exact .inl hfailed
  · exact .inr ⟨hkept.trans hapart.readings, hplanned⟩

/-! ## Planning the bus of the bound channels -/

section Planning

variable (answers : BusAnswers Value) (found : Ds18b20Enumeration) (now : ℕ)
  (bound : Fin kExpectedRomChannelCount)

theorem undisturbed_planChannel :
    Undisturbed engine (engine.planChannel answers found now bound) := by
  rw [planChannel]
  split
  · exact ⟨rfl, rfl, rfl, rfl⟩
  · split_ifs <;> exact ⟨rfl, rfl, rfl, rfl⟩

theorem apart_planChannel (h : channel ≠ bound.castSucc) :
    Apart engine (engine.planChannel answers found now bound) channel := by
  rw [planChannel]
  split
  · exact .refl
  · split_ifs
    · exact ⟨Function.update_of_ne h .., rfl⟩
    · exact ⟨Function.update_of_ne h .., rfl⟩
    · exact apart_publish h ..
    · exact apart_publish h ..

theorem decided_planChannel {rom : OneWireRom} (hrom : engine.expectedRomOf bound = some rom)
    (hplan : (engine.plan bound.castSucc).convert = false) :
    Decided engine (engine.planChannel answers found now bound) bound.castSucc fun planned =>
      planned = rom ∧ found.contains rom = true := by
  rw [planChannel, hrom]
  dsimp only
  split_ifs with hcontains hknown hset
  · exact .inr ⟨rfl, rom, Function.update_self .., rfl, hcontains⟩
  · exact .inr ⟨rfl, rom, Function.update_self .., rfl, hcontains⟩
  · exact .inl ⟨hplan, failed_publish _ (fun hok => hset (statusFor_eq_ok hok)) now⟩
  · refine .inl ⟨hplan, failed_publish _ ?_ now⟩
    exact nofun

/-- Both bound channels are planned, the second on what the first has left. -/
theorem decided_planChannels (hexpected : ∀ bound, ∃ rom, engine.expectedRomOf bound = some rom)
    (hplan : ∀ bound : Fin kExpectedRomChannelCount,
      (engine.plan bound.castSucc).convert = false) (bound : Fin kExpectedRomChannelCount) :
    Decided engine ((engine.planChannel answers found now 0).planChannel answers found now 1)
      bound.castSucc fun planned =>
        engine.expectedRomOf bound = some planned ∧ found.contains planned = true := by
  obtain ⟨rom, hrom⟩ := hexpected bound
  have hknown : ∀ planned, planned = rom ∧ found.contains rom = true →
      engine.expectedRomOf bound = some planned ∧ found.contains planned = true := by
    rintro planned ⟨rfl, hcontains⟩
    exact ⟨hrom, hcontains⟩
  refine Decided.mono ?_ hknown
  fin_cases bound
  · refine (decided_planChannel answers found now 0 hrom (hplan 0)).apart ?_
    exact apart_planChannel answers found now 1 (by decide)
  · have hkept : Apart engine (engine.planChannel answers found now 0) 1 :=
      apart_planChannel answers found now 0 (by decide)
    refine Decided.after_apart hkept (decided_planChannel answers found now 1 ?_ ?_)
    · rw [(undisturbed_planChannel answers found now 0).expected]
      exact hrom
    · exact (congrArg ChannelPlan.convert hkept.plan).trans (hplan 1)

theorem undisturbed_abandonChannel (result : Ds18b20DriverResult) :
    Undisturbed engine (engine.abandonChannel result now channel) := by
  rw [abandonChannel]
  split_ifs <;> exact ⟨rfl, rfl, rfl, rfl⟩

theorem apart_abandonChannel (result : Ds18b20DriverResult) (h : other ≠ channel) :
    Apart engine (engine.abandonChannel result now channel) other := by
  rw [abandonChannel]
  split_ifs
  · exact ⟨Function.update_of_ne h .., readings_publish_of_ne h ..⟩
  · exact .refl

theorem Decided.abandonChannel {before : Ds18b20SamplingEngine Value}
    {planned known : OneWireRom → Prop} (h : Decided before engine channel planned)
    {result : Ds18b20DriverResult} (hresult : result ≠ .ok) :
    Decided before (engine.abandonChannel result now channel) channel known := by
  rw [Ds18b20SamplingEngine.abandonChannel]
  rcases h with ⟨hplan, hfailed⟩ | ⟨-, rom, hplan, -⟩
  · rw [if_neg (by simp [hplan])]
    exact .inl ⟨hplan, hfailed⟩
  · rw [if_pos (by simp [hplan])]
    refine .inl ⟨?_, failed_publish _ (fun hok => hresult (statusFor_eq_ok hok)) now⟩
    change (Function.update engine.plan channel {} channel).convert = false
    rw [Function.update_self]

/-- Once a channel is planned the conversions are started, or every channel is given up. -/
theorem decided_startExpectedRomBus {before : Ds18b20SamplingEngine Value}
    {planned : Fin kExpectedRomChannelCount → OneWireRom → Prop}
    (h : ∀ bound, Decided before engine bound.castSucc (planned bound)) :
    ∀ bound, Decided before (engine.startExpectedRomBus answers now) bound.castSucc fun rom =>
      planned bound rom ∧ answers.startConversionAll = .ok ∧
        (engine.startExpectedRomBus answers now).busTriggered .expectedRom = true := by
  intro bound
  rw [startExpectedRomBus]
  split_ifs with hplanned hstarted
  · rcases h bound with hfailed | ⟨hkept, rom, hplan, hrom⟩
    · exact .inl hfailed
    · refine .inr ⟨hkept, rom, hplan, hrom, hstarted, ?_⟩
      exact Function.update_self .expectedRom true engine.busTriggered
  · have hforgotten : ∀ bound : Fin kExpectedRomChannelCount,
        Decided before (engine.forgetResolution .expectedRom) bound.castSucc (planned bound) :=
      fun bound => (h bound).apart ⟨rfl, rfl⟩
    fin_cases bound
    · refine ((hforgotten 0).abandonChannel now hstarted).apart ?_
      exact apart_abandonChannel now _ (by decide)
    · exact ((hforgotten 1).apart (apart_abandonChannel now _ (by decide))).abandonChannel now
        hstarted
  · rcases h bound with hfailed | ⟨-, rom, hplan, -⟩
    · exact .inl hfailed
    · exfalso
      rw [Bool.not_eq_true, Bool.or_eq_false_iff] at hplanned
      fin_cases bound
      · exact nomatch (congrArg ChannelPlan.convert hplan).symm.trans hplanned.1
      · exact nomatch (congrArg ChannelPlan.convert hplan).symm.trans hplanned.2

theorem undisturbed_startExpectedRomBus :
    Undisturbed engine (engine.startExpectedRomBus answers now) := by
  rw [startExpectedRomBus]
  split_ifs
  · exact ⟨rfl, rfl, rfl, rfl⟩
  · have hforgotten : Undisturbed engine (engine.forgetResolution .expectedRom) :=
      ⟨rfl, rfl, rfl, rfl⟩
    exact (hforgotten.trans (undisturbed_abandonChannel now _)).trans
      (undisturbed_abandonChannel now _)
  · exact ⟨rfl, rfl, rfl, rfl⟩

theorem apart_startExpectedRomBus (hfirst : channel ≠ 0) (hsecond : channel ≠ 1) :
    Apart engine (engine.startExpectedRomBus answers now) channel := by
  rw [startExpectedRomBus]
  split_ifs
  · exact ⟨rfl, rfl⟩
  · have hforgotten : Apart engine (engine.forgetResolution .expectedRom) channel := ⟨rfl, rfl⟩
    exact (hforgotten.trans (apart_abandonChannel now _ hfirst)).trans
      (apart_abandonChannel now _ hsecond)
  · exact .refl

variable {answers} in
/-- What the engine has seen of the bus when it goes on to plan. -/
theorem lookAtExpectedRomBus_ok (hpresence : (lookAtExpectedRomBus answers).presence = .ok)
    (henumeration : (lookAtExpectedRomBus answers).enumeration.result = .ok) :
    answers.presence = .ok ∧ (lookAtExpectedRomBus answers).enumeration = answers.enumerate ∧
      answers.enumerate.result = .ok ∧ answers.enumerate.hasZeroRom = false := by
  have hpresent : answers.presence = .ok := hpresence
  rw [lookAtExpectedRomBus] at henumeration ⊢
  simp only [hpresent, if_true] at henumeration ⊢
  by_cases hzero : answers.enumerate.result = .ok ∧ answers.enumerate.hasZeroRom = true
  · rw [if_pos hzero] at henumeration
    cases henumeration
  · rw [if_neg hzero] at henumeration ⊢
    refine ⟨trivial, rfl, henumeration, ?_⟩
    rw [← Bool.not_eq_true]
    exact fun hfound => hzero ⟨henumeration, hfound⟩

theorem failed_publishBoth (identity : ExpectedRoms) {status : TemperatureSampleStatus}
    (h : status ≠ .ok) :
    ∀ bound : Fin kExpectedRomChannelCount,
      (engine.publishBoth identity status now).Failed bound.castSucc := by
  intro bound
  fin_cases bound
  · exact (failed_publish _ h now).publish _ h now
  · exact failed_publish _ h now

theorem undisturbed_prepareExpectedRomBus (report : Ds18b20BusReport) :
    Undisturbed engine (engine.prepareExpectedRomBus report) :=
  ⟨rfl, rfl, rfl, rfl⟩

theorem apart_prepareExpectedRomBus (report : Ds18b20BusReport) (channel : Fin kChannelCount) :
    Apart engine (engine.prepareExpectedRomBus report) channel :=
  ⟨rfl, rfl⟩

theorem undisturbed_planBoundChannels :
    Undisturbed engine (engine.planBoundChannels answers found now) :=
  ((undisturbed_planChannel answers found now 0).trans
    (undisturbed_planChannel answers found now 1)).trans
      (undisturbed_startExpectedRomBus answers now)

theorem apart_planBoundChannels (hfirst : channel ≠ 0) (hsecond : channel ≠ 1) :
    Apart engine (engine.planBoundChannels answers found now) channel :=
  ((apart_planChannel answers found now 0 hfirst).trans
    (apart_planChannel answers found now 1 hsecond)).trans
      (apart_startExpectedRomBus answers now hfirst hsecond)

theorem decided_planBoundChannels
    (hexpected : ∀ bound, ∃ rom, engine.expectedRomOf bound = some rom)
    (hplan : ∀ bound : Fin kExpectedRomChannelCount,
      (engine.plan bound.castSucc).convert = false) (bound : Fin kExpectedRomChannelCount) :
    Decided engine (engine.planBoundChannels answers found now) bound.castSucc fun rom =>
      (engine.expectedRomOf bound = some rom ∧ found.contains rom = true) ∧
        answers.startConversionAll = .ok ∧
          (engine.planBoundChannels answers found now).busTriggered .expectedRom = true :=
  decided_startExpectedRomBus answers now
    (decided_planChannels answers found now hexpected hplan) bound

theorem undisturbed_planExpectedRomBus :
    Undisturbed engine (engine.planExpectedRomBus answers now) := by
  rw [planExpectedRomBus]
  split_ifs
  · exact ⟨rfl, rfl, rfl, rfl⟩
  · exact ⟨rfl, rfl, rfl, rfl⟩
  · exact ⟨rfl, rfl, rfl, rfl⟩
  · exact ⟨rfl, rfl, rfl, rfl⟩
  · exact (undisturbed_prepareExpectedRomBus _).trans (undisturbed_planBoundChannels answers _ now)

end Planning

theorem busOf_castSucc (bound : Fin kExpectedRomChannelCount) :
    busOf bound.castSucc = .expectedRom :=
  if_pos bound.isLt

theorem conflict_free {found : Ds18b20Enumeration} (h : engine.bindingConflict found = false) :
    found.overflow = false ∧
      ∀ rom ∈ found.found, ∃ bound, engine.expectedRomOf bound = some rom := by
  rw [bindingConflict, Bool.or_eq_false_iff, List.any_eq_false] at h
  refine ⟨h.1, fun rom hrom => ?_⟩
  by_cases hfirst : some rom = engine.expectedRomOf 0
  · exact ⟨0, hfirst.symm⟩
  · have hknown := h.2 rom hrom
    by_cases hsecond : some rom = engine.expectedRomOf 1
    · exact ⟨1, hsecond.symm⟩
    · simp [hfirst, hsecond] at hknown

/-- A valid binding expects an address on either channel. -/
def Bound (engine : Ds18b20SamplingEngine Value) : Prop :=
  engine.bindingValid = true →
    ∀ bound, ∃ rom, engine.expectedRomOf bound = some rom ∧ rom ≠ 0

section Cycle

variable {answers : SensorBus → BusAnswers Value} (now : ℕ)

/-- Planning decides both bound channels, and plans attached probes only. -/
theorem decided_planExpectedRomBus (hbound : engine.Bound)
    (hplan : ∀ bound : Fin kExpectedRomChannelCount,
      (engine.plan bound.castSucc).convert = false) (bound : Fin kExpectedRomChannelCount) :
    Decided engine (engine.planExpectedRomBus (answers .expectedRom) now) bound.castSucc fun rom =>
      Attached engine.expectedRomOf answers bound.castSucc rom ∧
        (engine.planExpectedRomBus (answers .expectedRom) now).busTriggered .expectedRom =
          true := by
  rw [planExpectedRomBus]
  split_ifs with hvalid hpresence henumeration hconflict
  · exact .inl ⟨hplan bound, failed_publishBoth now _ (by decide) bound⟩
  · exact .inl ⟨hplan bound,
      failed_publishBoth now _ (fun hok => hpresence (statusFor_eq_ok hok)) bound⟩
  · exact .inl ⟨hplan bound,
      failed_publishBoth now _ (fun hok => henumeration (statusFor_eq_ok hok)) bound⟩
  · exact .inl ⟨hplan bound, failed_publishBoth now _ (by decide) bound⟩
  · rw [Bool.not_eq_false] at hvalid
    rw [Bool.not_eq_true] at hconflict
    obtain ⟨hpresent, hseen, hresult, hnonzero⟩ :=
      lookAtExpectedRomBus_ok (not_not.mp hpresence) (not_not.mp henumeration)
    rw [hseen] at hconflict ⊢
    obtain ⟨hwhole, hunmixed⟩ := conflict_free hconflict
    obtain ⟨prepared, hprepared⟩ : ∃ prepared, prepared = engine.prepareExpectedRomBus
        (lookAtExpectedRomBus (answers .expectedRom)) := ⟨_, rfl⟩
    have hsame : Undisturbed engine prepared := hprepared ▸ undisturbed_prepareExpectedRomBus _
    have hapart : ∀ channel, Apart engine prepared channel :=
      hprepared ▸ apart_prepareExpectedRomBus _
    have hexpected : ∀ bound, ∃ rom, prepared.expectedRomOf bound = some rom := by
      rw [hsame.expected]
      exact fun bound => (hbound hvalid bound).imp fun _ h => h.1
    have hunplanned : ∀ bound : Fin kExpectedRomChannelCount,
        (prepared.plan bound.castSucc).convert = false := fun bound => by
      rw [(hapart bound.castSucc).plan]
      exact hplan bound
    rw [← hprepared]
    refine Decided.mono (Decided.after_apart (hapart bound.castSucc)
      (decided_planBoundChannels (answers .expectedRom) _ now hexpected hunplanned bound)) ?_
    rw [hsame.expected]
    rintro rom ⟨⟨hrom, hcontains⟩, hstarted, htriggered⟩
    refine ⟨?_, htriggered⟩
    obtain ⟨expected, hexpected, hne⟩ := hbound hvalid bound
    cases hrom.symm.trans hexpected
    have hbus := busOf_castSucc bound
    exact {
      present := by rw [hbus]; exact hpresent
      enumerated := by rw [hbus]; exact hresult
      found := by rw [hbus]; exact of_decide_eq_true hcontains
      whole := by rw [hbus]; exact hwhole
      started := by rw [hbus]; exact hstarted
      bound := fun other hother => by rw [← Fin.castSucc_injective _ hother]; exact hrom
      unmixed := fun _ => by rw [hbus]; exact hunmixed
      alone := fun hsingle => nomatch hbus.symm.trans hsingle
      nonzero := hne }

theorem apart_planExpectedRomBus {answers : BusAnswers Value} (hfirst : channel ≠ 0)
    (hsecond : channel ≠ 1) : Apart engine (engine.planExpectedRomBus answers now) channel := by
  have hboth : ∀ (identity : ExpectedRoms) (status : TemperatureSampleStatus)
      (before : Ds18b20SamplingEngine Value),
      Apart before (before.publishBoth identity status now) channel := fun _ _ _ =>
    (apart_publish hfirst _ _ _ now).trans (apart_publish hsecond _ _ _ now)
  rw [planExpectedRomBus]
  split_ifs
  · refine Apart.trans ?_ (hboth _ _ _)
    exact ⟨rfl, rfl⟩
  · refine Apart.trans ?_ (hboth _ _ _)
    exact ⟨rfl, rfl⟩
  · refine Apart.trans ?_ (hboth _ _ _)
    exact ⟨rfl, rfl⟩
  · exact (apart_prepareExpectedRomBus _ _).trans (hboth _ _ _)
  · exact (apart_prepareExpectedRomBus _ _).trans
      (apart_planBoundChannels answers _ now hfirst hsecond)

/-! ## Planning the bus of the single device -/

theorem undisturbed_startSingleDevice (answers : BusAnswers Value) (rom : OneWireRom) :
    Undisturbed engine (engine.startSingleDevice answers rom now) := by
  rw [startSingleDevice]
  split_ifs <;> exact ⟨rfl, rfl, rfl, rfl⟩

theorem undisturbed_planSingleDevice (answers : BusAnswers Value) (rom : OneWireRom) :
    Undisturbed engine (engine.planSingleDevice answers rom now) := by
  rw [planSingleDevice]
  split_ifs
  · refine Undisturbed.trans ?_ (undisturbed_startSingleDevice now _ _)
    exact ⟨rfl, rfl, rfl, rfl⟩
  · refine Undisturbed.trans ?_ (undisturbed_startSingleDevice now _ _)
    exact ⟨rfl, rfl, rfl, rfl⟩
  · exact ⟨rfl, rfl, rfl, rfl⟩

theorem undisturbed_planSingleDeviceBus (answers : BusAnswers Value) :
    Undisturbed engine (engine.planSingleDeviceBus answers now) := by
  rw [planSingleDeviceBus]
  split_ifs
  · exact ⟨rfl, rfl, rfl, rfl⟩
  · exact ⟨rfl, rfl, rfl, rfl⟩
  · exact ⟨rfl, rfl, rfl, rfl⟩
  · split
    · exact ⟨rfl, rfl, rfl, rfl⟩
    · refine Undisturbed.trans ?_ (undisturbed_planSingleDevice now _ _)
      exact ⟨rfl, rfl, rfl, rfl⟩

/-- Neither the channel nor the conversions of the other bus were touched. -/
structure Elsewhere (before after : Ds18b20SamplingEngine Value)
    (channel : Fin kChannelCount) : Prop extends Apart before after channel where
  triggered : after.busTriggered .expectedRom = before.busTriggered .expectedRom

theorem Elsewhere.trans {before middle after : Ds18b20SamplingEngine Value}
    (hfirst : Elsewhere before middle channel) (hsecond : Elsewhere middle after channel) :
    Elsewhere before after channel where
  toApart := hfirst.toApart.trans hsecond.toApart
  triggered := hsecond.triggered.trans hfirst.triggered

theorem elsewhere_publish (h : channel ≠ other) (identity : Option OneWireRom)
    (status : TemperatureSampleStatus) (celsius : Option (ExactDouble Value)) :
    Elsewhere engine (engine.publish other identity status celsius now) channel where
  toApart := apart_publish h identity status celsius now
  triggered := rfl

theorem elsewhere_failSingleDevice (result : Ds18b20DriverResult) (h : channel ≠ 2) :
    Elsewhere engine (engine.failSingleDevice result now) channel := by
  refine Elsewhere.trans ?_ (elsewhere_publish now h _ _ _)
  exact ⟨⟨rfl, rfl⟩, rfl⟩

theorem elsewhere_startSingleDevice (answers : BusAnswers Value) (rom : OneWireRom)
    (h : channel ≠ 2) : Elsewhere engine (engine.startSingleDevice answers rom now) channel := by
  rw [startSingleDevice]
  split_ifs
  · exact ⟨⟨Function.update_of_ne h .., rfl⟩, rfl⟩
  · refine Elsewhere.trans ?_ (elsewhere_publish now h _ _ _)
    exact ⟨⟨rfl, rfl⟩, rfl⟩

theorem elsewhere_planSingleDevice (answers : BusAnswers Value) (rom : OneWireRom)
    (h : channel ≠ 2) : Elsewhere engine (engine.planSingleDevice answers rom now) channel := by
  rw [planSingleDevice]
  split_ifs
  · refine Elsewhere.trans ?_ (elsewhere_startSingleDevice now _ _ h)
    exact ⟨⟨rfl, rfl⟩, rfl⟩
  · refine Elsewhere.trans ?_ (elsewhere_startSingleDevice now _ _ h)
    exact ⟨⟨rfl, rfl⟩, rfl⟩
  · refine Elsewhere.trans ?_ (elsewhere_publish now h _ _ _)
    exact ⟨⟨rfl, rfl⟩, rfl⟩

/-- The bound channels and their bus do not notice the single device. -/
theorem elsewhere_planSingleDeviceBus (answers : BusAnswers Value) (h : channel ≠ 2) :
    Elsewhere engine (engine.planSingleDeviceBus answers now) channel := by
  have hnoted : ∀ report, Elsewhere engine (engine.noteSingleDeviceBus report) channel :=
    fun _ => ⟨⟨rfl, rfl⟩, rfl⟩
  rw [planSingleDeviceBus]
  split_ifs
  · exact (hnoted _).trans (elsewhere_failSingleDevice now _ h)
  · exact (hnoted _).trans (elsewhere_failSingleDevice now _ h)
  · exact (hnoted _).trans (elsewhere_failSingleDevice now _ h)
  · split
    · exact (hnoted _).trans (elsewhere_failSingleDevice now _ h)
    · exact (hnoted _).trans (elsewhere_planSingleDevice now _ _ h)

theorem decided_startSingleDevice (answers : BusAnswers Value) (rom : OneWireRom)
    (hplan : (engine.plan 2).convert = false) :
    Decided engine (engine.startSingleDevice answers rom now) 2 fun planned =>
      planned = rom ∧ answers.startConversionAll = .ok ∧
        (engine.startSingleDevice answers rom now).busTriggered .singleDevice = true := by
  rw [startSingleDevice]
  split_ifs with hstarted
  · exact .inr ⟨rfl, rom, rfl, rfl, hstarted, rfl⟩
  · exact .inl ⟨hplan, failed_publish _ (fun hok => hstarted (statusFor_eq_ok hok)) now⟩

theorem decided_planSingleDevice (answers : BusAnswers Value) (rom : OneWireRom)
    (hplan : (engine.plan 2).convert = false) :
    Decided engine (engine.planSingleDevice answers rom now) 2 fun planned =>
      planned = rom ∧ answers.startConversionAll = .ok ∧
        (engine.planSingleDevice answers rom now).busTriggered .singleDevice = true := by
  rw [planSingleDevice]
  split_ifs with hknown hset
  · refine Decided.after_apart ?_ (decided_startSingleDevice now answers rom hplan)
    exact ⟨rfl, rfl⟩
  · refine Decided.after_apart ?_ (decided_startSingleDevice now answers rom hplan)
    exact ⟨rfl, rfl⟩
  · exact .inl ⟨hplan, failed_publish _ (fun hok => hset (statusFor_eq_ok hok)) now⟩

theorem found_of_count {found : Ds18b20Enumeration} {rom : OneWireRom} {rest : List OneWireRom}
    (hcount : ¬2 ≤ found.count.val) (hfound : found.found = rom :: rest) :
    found.found = [rom] := by
  have hlength : found.found.length ≤ found.count.val := List.length_take_le _ _
  rw [hfound, List.length_cons] at hlength
  rw [hfound, List.eq_nil_of_length_eq_zero (by omega : rest.length = 0)]

/-- Planning decides the channel of the single device, and plans an attached probe only. -/
theorem decided_planSingleDeviceBus {answers : SensorBus → BusAnswers Value}
    (expected : ExpectedRoms) (hplan : (engine.plan 2).convert = false) :
    Decided engine (engine.planSingleDeviceBus (answers .singleDevice) now) 2 fun rom =>
      Attached expected answers 2 rom ∧
        (engine.planSingleDeviceBus (answers .singleDevice) now).busTriggered .singleDevice =
          true := by
  have hbus : busOf 2 = .singleDevice := rfl
  rw [planSingleDeviceBus]
  split_ifs with hpresence henumeration hcount
  · exact .inl ⟨hplan, failed_publish _ (fun hok => hpresence (statusFor_eq_ok hok)) now⟩
  · exact .inl ⟨hplan, failed_publish _ (fun hok => henumeration (statusFor_eq_ok hok)) now⟩
  · exact .inl ⟨hplan, failed_publish _ (by decide) now⟩
  · push Not at hcount
    obtain ⟨hwhole, hfew, hzero⟩ := hcount
    split
    · exact .inl ⟨hplan, failed_publish _ (by decide) now⟩
    · rename_i rom rest hfound
      have hsingle := found_of_count (not_le.mpr hfew) hfound
      refine Decided.after_apart ?_ (Decided.mono (decided_planSingleDevice now
        (answers .singleDevice) rom hplan) ?_)
      · exact ⟨rfl, rfl⟩
      · rintro planned ⟨rfl, hstarted, htriggered⟩
        refine ⟨?_, htriggered⟩
        exact {
          present := not_not.mp hpresence
          enumerated := not_not.mp henumeration
          found := by rw [hbus, hsingle]; exact List.mem_singleton_self _
          whole := by rw [hbus, ← Bool.not_eq_true]; exact hwhole
          started := hstarted
          bound := fun bound hbound => absurd hbound.symm (Fin.castSucc_lt_last bound).ne
          unmixed := nofun
          alone := fun _ => hsingle
          nonzero := by
            rintro rfl
            refine hzero (decide_eq_true ?_)
            rw [hsingle]
            exact List.mem_singleton_self _ }

end Cycle

end Ds18b20SamplingEngine

end Fermentationsschrank.DevicePlatform

import Fermentationsschrank.Control.ActuatorPlanner
import Fermentationsschrank.Persistence.Load

/-!
# Actuation interlock

The interlock looks at what the configuration, the run persistence, the sensors and the
planner of the actuators report, and allows the actuators only on evidence that is complete.
It keeps nothing of its own: the latch of the watchdog is the planner's.
-/

namespace Fermentationsschrank

/-- A value of an enumeration type: one of its enumerators, or a number none of them has. -/
inductive Enumerated (Name : Type)
  | named (name : Name)
  | unlisted (number : UInt8)
  deriving DecidableEq, Repr

def Enumerated.isKnown {Name : Type} : Enumerated Name → Bool
  | .named _ => true
  | .unlisted _ => false

@[simp] theorem Enumerated.isKnown_named {Name : Type} {name : Name} :
    (Enumerated.named name).isKnown = true :=
  rfl

@[simp] theorem Enumerated.isKnown_unlisted {Name : Type} {number : UInt8} :
    (Enumerated.unlisted number : Enumerated Name).isKnown = false :=
  rfl

/-! ## The producers -/

/-- What the application does with the stored run it has found at boot. -/
inductive RunLoadDisposition
  | standby
  | resumeOffer
  | recoveryEvaluation
  | fallbackSelectionRequired
  | noActiveRun
  | completed
  | terminalFault
  | safeBoot
  deriving DecidableEq, Repr

inductive ConfigurationRecoveryStatus
  | runtimeReady
  | factoryInitializationCompleted
  | factoryResetCompleted
  | configurationMutationBusy
  | configurationModelBudgetBusy
  | stateTransitionRejected
  | configurationUnavailable
  | configurationIntegrityFailure
  | unsupportedNewerConfigurationSchema
  | persistenceReadFailure
  | persistenceCapacityFailure
  | persistenceWriteFailure
  | counterOverflow
  | runtimePreparationFailure
  | bootstrapCommitIndeterminate
  | configurationRecordOutcomeIndeterminate
  | configurationCommitIndeterminate
  | runPersistenceHandoffUnavailable
  deriving DecidableEq, Repr

inductive ConfigurationSafetyProducer
  | configurationUnavailable
  | configurationIntegrityFailure
  deriving DecidableEq, Repr

inductive ConfigurationServiceMode
  | noRuntime
  | recoveryPreparing
  | operational
  | commitInProgress
  | commitIndeterminate
  | resetPreparing
  | resetEligibleNoRuntime
  | epochResetting
  | bootstrapFinalizationPending
  | runtimeFailure
  deriving DecidableEq, Repr

inductive ConfigurationCommitStatus
  | activated
  | noChange
  | previewNotFound
  | previewSuperseded
  | configurationMutationBusy
  | configurationConflictFailure
  | configurationValidationFailure
  | persistenceFailure
  | capacityFailure
  | configurationCommitIndeterminate
  | configurationRuntimeFailure
  | readyForConfirmation
  deriving DecidableEq, Repr

inductive SafetyActivationKind
  | none
  | freshStart
  | resume
  deriving DecidableEq, Repr

/-- What the producers report now.  Of the sensor and of the sensor selection only what is
read here is kept; the planner is named by its address, as the interlock reads its latch and
never a copy of it. -/
structure ActuationEvidence (Address : Type) where
  bootValidationComplete : Bool := false
  configurationValidated : Bool := false
  persistenceValidated : Bool := false
  sensorEvidenceValidated : Bool := false
  explicitActivationRequested : Bool := false
  plannerEvidenceValidated : Bool := false
  activationKind : Enumerated SafetyActivationKind := .named .none
  configurationRecoveryStatus : Option (Enumerated ConfigurationRecoveryStatus) := none
  configurationProducer : Option (Enumerated ConfigurationSafetyProducer) := none
  configurationServiceMode : Option (Enumerated ConfigurationServiceMode) := none
  configurationCommitStatus : Option (Enumerated ConfigurationCommitStatus) := none
  persistenceLoadStatus : Option (Enumerated RunPersistenceLoadStatus) := none
  persistenceCoordinatorState : Enumerated RunPersistenceCoordinatorState := .named .uninitialized
  loadDisposition : Enumerated RunLoadDisposition := .named .safeBoot
  activationPersistenceResult : Option (Enumerated RunPersistenceResultStatus) := none
  processActivationApplied : Bool := false
  peltierSensor : Option (Enumerated SensorQuality) := none
  sensorSelectionRuntime : Option (Enumerated SensorPeltierPermission) := none
  actuatorPlanner : Option Address := none
  deriving DecidableEq

/-! ## Faults -/

inductive FaultCode
  | none
  | configurationRuntimeFailure
  | configurationUnavailable
  | configurationIntegrityFailure
  | configurationCommitIndeterminate
  | runPersistenceUntrusted
  | safetySensorUnavailable
  | actuatorRequestWatchdog
  | systemProducerUnknown
  deriving DecidableEq, Repr

namespace ActuationInterlock

def faultBit : FaultCode → UInt16
  | .configurationRuntimeFailure => (1 : UInt16) <<< 0
  | .configurationUnavailable => (1 : UInt16) <<< 1
  | .configurationIntegrityFailure => (1 : UInt16) <<< 2
  | .configurationCommitIndeterminate => (1 : UInt16) <<< 3
  | .runPersistenceUntrusted => (1 : UInt16) <<< 4
  | .safetySensorUnavailable => (1 : UInt16) <<< 5
  | .actuatorRequestWatchdog => (1 : UInt16) <<< 6
  | .systemProducerUnknown => (1 : UInt16) <<< 7
  | .none => 0

def hasFault (mask : UInt16) (code : FaultCode) : Bool :=
  faultBit code ≠ 0 ∧ mask &&& faultBit code ≠ 0

def kFaultPriority : List FaultCode :=
  [.configurationUnavailable, .configurationIntegrityFailure, .configurationCommitIndeterminate,
    .systemProducerUnknown, .runPersistenceUntrusted, .configurationRuntimeFailure,
    .safetySensorUnavailable, .actuatorRequestWatchdog]

def primaryFault (mask : UInt16) : FaultCode :=
  (kFaultPriority.find? (hasFault mask ·)).getD .none

/-- The mask after the faults of a list were observed. -/
def observed (codes : List FaultCode) : UInt16 :=
  codes.foldl (fun mask code => mask ||| faultBit code) 0

/-- A fault that is observed under a condition. -/
def observing (condition : Prop) [Decidable condition] (code : FaultCode) : List FaultCode :=
  if condition then [code] else []

@[simp] theorem mem_observing {condition : Prop} [Decidable condition] {code found : FaultCode} :
    found ∈ observing condition code ↔ condition ∧ found = code := by
  rw [observing]
  split <;> simp [*]

/-- Every fault has a bit of its own. -/
theorem faultBit_and_faultBit (code other : FaultCode) :
    faultBit code &&& faultBit other = if code = other then faultBit code else 0 := by
  cases code <;> cases other <;> rfl

theorem faultBit_eq_zero {code : FaultCode} : faultBit code = 0 ↔ code = .none := by
  cases code <;> decide

theorem or_and_ne_zero {mask added bit : UInt16} :
    (mask ||| added) &&& bit ≠ 0 ↔ mask &&& bit ≠ 0 ∨ added &&& bit ≠ 0 := by
  have hdistrib : (mask ||| added) &&& bit = mask &&& bit ||| added &&& bit :=
    UInt16.toBitVec_inj.mp BitVec.and_or_distrib_right
  rw [← not_and_or, not_iff_not, hdistrib, UInt16.or_eq_zero_iff]

theorem hasFault_observe {mask : UInt16} {code found : FaultCode} :
    hasFault (mask ||| faultBit code) found ↔
      hasFault mask found ∨ (found ≠ .none ∧ found = code) := by
  simp only [hasFault, decide_eq_true_eq, or_and_ne_zero, faultBit_and_faultBit, ne_eq,
    faultBit_eq_zero]
  constructor
  · rintro ⟨hsome, hmask | hadded⟩
    · exact Or.inl ⟨hsome, hmask⟩
    · by_cases hsame : code = found
      · exact Or.inr ⟨hsome, hsame.symm⟩
      · exact absurd (if_neg hsame) hadded
  · rintro (⟨hsome, hmask⟩ | ⟨hsome, rfl⟩)
    · exact ⟨hsome, Or.inl hmask⟩
    · refine ⟨hsome, Or.inr ?_⟩
      rw [if_pos rfl, faultBit_eq_zero]
      exact hsome

theorem hasFault_foldl {codes : List FaultCode} {mask : UInt16} {found : FaultCode} :
    hasFault (codes.foldl (fun mask code => mask ||| faultBit code) mask) found ↔
      hasFault mask found ∨ (found ≠ .none ∧ found ∈ codes) := by
  induction codes generalizing mask with
  | nil => simp
  | cons code codes ih =>
      rw [List.foldl_cons, ih, hasFault_observe, List.mem_cons, or_assoc, ← and_or_left]

theorem hasFault_observed {codes : List FaultCode} {found : FaultCode} :
    hasFault (observed codes) found ↔ found ≠ .none ∧ found ∈ codes := by
  rw [observed, hasFault_foldl]
  simp [hasFault]

theorem mem_kFaultPriority {code : FaultCode} : code ∈ kFaultPriority ↔ code ≠ .none := by
  cases code <;> decide

theorem find_observed_eq_none {codes searched : List FaultCode} :
    searched.find? (hasFault (observed codes) ·) = none ↔
      ∀ code ∈ codes, code ∈ searched → code = .none := by
  rw [List.find?_eq_none]
  constructor
  · intro hfind code hmem hsearched
    by_contra hsome
    exact hfind code hsearched (hasFault_observed.mpr ⟨hsome, hmem⟩)
  · intro hnone code hsearched hfault
    obtain ⟨hsome, hmem⟩ := hasFault_observed.mp hfault
    exact hsome (hnone code hmem hsearched)

theorem primaryFault_eq_none {codes : List FaultCode} :
    primaryFault (observed codes) = .none ↔ ∀ code ∈ codes, code = .none := by
  have hsearch := @find_observed_eq_none codes kFaultPriority
  rw [primaryFault]
  cases hfind : kFaultPriority.find? (hasFault (observed codes) ·) with
  | none =>
      refine iff_of_true rfl fun code hmem => ?_
      by_contra hsome
      exact hsome (hsearch.mp hfind code hmem (mem_kFaultPriority.mpr hsome))
  | some found =>
      obtain ⟨hsome, hmem⟩ := hasFault_observed.mp (List.find?_some hfind)
      exact iff_of_false hsome fun hnone => hsome (hnone found hmem)

/-- The watchdog stands last: it is named only when it is the single fault. -/
theorem primaryFault_eq_watchdog {codes : List FaultCode} :
    primaryFault (observed codes) = .actuatorRequestWatchdog ↔
      .actuatorRequestWatchdog ∈ codes ∧
        ∀ code ∈ codes, code = .none ∨ code = .actuatorRequestWatchdog := by
  have hbefore := @find_observed_eq_none codes kFaultPriority.dropLast
  have hpriority : kFaultPriority = kFaultPriority.dropLast ++ [.actuatorRequestWatchdog] := rfl
  rw [primaryFault, hpriority, List.find?_append]
  cases hfind : kFaultPriority.dropLast.find? (hasFault (observed codes) ·) with
  | some found =>
      obtain ⟨hsome, hmem⟩ := hasFault_observed.mp (List.find?_some hfind)
      have hfound : found ≠ .actuatorRequestWatchdog := by
        rintro rfl
        exact absurd (List.mem_of_find?_eq_some hfind) (by decide)
      exact iff_of_false hfound fun hsole => (hsole.2 found hmem).elim hsome hfound
  | none =>
      have hothers : ∀ code ∈ codes, code = .none ∨ code = .actuatorRequestWatchdog := by
        intro code hmem
        by_cases hsome : code = .none
        · exact Or.inl hsome
        · have hlisted := mem_kFaultPriority.mpr hsome
          rw [hpriority, List.mem_append, List.mem_singleton] at hlisted
          exact hlisted.imp_left (hbefore.mp hfind code hmem)
      rw [Option.none_or, List.find?_singleton]
      by_cases hfault : hasFault (observed codes) .actuatorRequestWatchdog
      · rw [if_pos hfault]
        exact iff_of_true rfl ⟨(hasFault_observed.mp hfault).2, hothers⟩
      · rw [if_neg hfault]
        exact iff_of_false nofun fun hsole =>
          hfault (hasFault_observed.mpr ⟨nofun, hsole.1⟩)

/-! ## What the producers are trusted with -/

/-- A status that is not listed has to be treated as the worst one. -/
def isPersistenceSafeBoot : Enumerated RunPersistenceLoadStatus → Bool
  | .named .noPersistedRun | .named .current | .named .noActiveRun
  | .named .fallbackRecovered => false
  | .named .preparedInterrupted | .named .notReconstructible
  | .named .notReconstructibleOrphanedState | .named .readFailed | .named .capacityExceeded
  | .named .unsupportedSchema | .named .foreignEpoch | .named .alreadyInitialized => true
  | .unlisted _ => true

def isTrustedCoordinatorState (state : Enumerated RunPersistenceCoordinatorState) : Bool :=
  state = .named .readyEmpty ∨ state = .named .loadedActiveRun ∨ state = .named .ready

/-- The recovery has ended with a runtime. -/
def isFreshRecovery (status : Enumerated ConfigurationRecoveryStatus) : Bool :=
  status = .named .runtimeReady ∨ status = .named .factoryInitializationCompleted ∨
    status = .named .factoryResetCompleted

def isFreshCommit (status : Enumerated ConfigurationCommitStatus) : Bool :=
  status = .named .activated ∨ status = .named .noChange

section Evaluation

variable {Address : Type} {K : Type}

/-- Each of the three reports of the configuration is enough. -/
def hasFreshConfigurationEvidence (evidence : ActuationEvidence Address) : Bool :=
  evidence.configurationValidated &&
    (evidence.configurationRecoveryStatus.any isFreshRecovery ||
      evidence.configurationServiceMode.any (· = .named .operational) ||
      evidence.configurationCommitStatus.any isFreshCommit)

def hasFreshSensorEvidence (evidence : ActuationEvidence Address) : Bool :=
  evidence.sensorEvidenceValidated ∧ evidence.peltierSensor = some (.named .valid) ∧
    evidence.sensorSelectionRuntime = some (.named .allowed)

def activationEvidenceComplete (evidence : ActuationEvidence Address)
    (expectedKind : SafetyActivationKind) : Bool :=
  evidence.activationKind = .named expectedKind ∧ evidence.bootValidationComplete ∧
    evidence.explicitActivationRequested ∧ evidence.plannerEvidenceValidated ∧
    hasFreshConfigurationEvidence evidence ∧ hasFreshSensorEvidence evidence ∧
    evidence.persistenceValidated ∧
    evidence.persistenceLoadStatus.any
      (fun status => status.isKnown && !isPersistenceSafeBoot status) ∧
    isTrustedCoordinatorState evidence.persistenceCoordinatorState ∧
    evidence.loadDisposition ≠ .named .safeBoot ∧
    evidence.activationPersistenceResult = some (.named .applied) ∧
    evidence.processActivationApplied

/-! ## What is observed -/

/-- A producer that reports a value of its type that is not listed. -/
def unknownProducer {Name : Type} (provided : Option (Enumerated Name)) : List FaultCode :=
  observing (provided.any (!·.isKnown) = true) .systemProducerUnknown

def producerFault : Option (Enumerated ConfigurationSafetyProducer) → List FaultCode
  | some (.named .configurationUnavailable) => [.configurationUnavailable]
  | some (.named .configurationIntegrityFailure) => [.configurationIntegrityFailure]
  | some (.unlisted _) | none => []

def serviceModeFault : Option (Enumerated ConfigurationServiceMode) → List FaultCode
  | some (.named .commitIndeterminate) | some (.named .bootstrapFinalizationPending) =>
    [.configurationCommitIndeterminate]
  | some (.named .runtimeFailure) => [.configurationRuntimeFailure]
  | _ => []

def commitFault : Option (Enumerated ConfigurationCommitStatus) → List FaultCode
  | some (.named .configurationCommitIndeterminate) => [.configurationCommitIndeterminate]
  | some (.named .configurationRuntimeFailure) => [.configurationRuntimeFailure]
  | _ => []

def configurationFaults (evidence : ActuationEvidence Address) : List FaultCode :=
  producerFault evidence.configurationProducer ++
    serviceModeFault evidence.configurationServiceMode ++
    commitFault evidence.configurationCommitStatus ++
    observing (evidence.configurationValidated = false) .systemProducerUnknown

def unknownProducers (evidence : ActuationEvidence Address) : List FaultCode :=
  unknownProducer evidence.configurationServiceMode ++
    unknownProducer evidence.configurationCommitStatus ++
    unknownProducer evidence.configurationRecoveryStatus ++
    unknownProducer evidence.configurationProducer ++
    unknownProducer evidence.persistenceLoadStatus ++
    unknownProducer (some evidence.persistenceCoordinatorState)

def hasKnownLoadStatus (evidence : ActuationEvidence Address) : Bool :=
  evidence.persistenceLoadStatus.any (·.isKnown) ∧
    evidence.persistenceCoordinatorState ≠ .named .fallbackRecoveryPending

/-- A state of the coordinator that is not listed is an unknown producer. -/
def isUntrustedCoordinatorState : Enumerated RunPersistenceCoordinatorState → Bool
  | .named .blockedIndeterminate | .named .persistenceCommittedApplyFailed | .named .busy
  | .named .uninitialized | .named .fallbackRecoveryPending => true
  | _ => false

def persistenceFaults (evidence : ActuationEvidence Address) : List FaultCode :=
  observing (hasKnownLoadStatus evidence = false ∨
      isPersistenceSafeBoot (evidence.persistenceLoadStatus.getD (.named .readFailed)) = true ∨
      evidence.loadDisposition = .named .safeBoot) .runPersistenceUntrusted ++
    observing (evidence.persistenceLoadStatus = some (.named .fallbackRecovered))
      .runPersistenceUntrusted ++
    observing (isUntrustedCoordinatorState evidence.persistenceCoordinatorState = true)
      .runPersistenceUntrusted ++
    observing (evidence.persistenceValidated = false) .runPersistenceUntrusted

def gateNeedsSensorEvidence (evidence : ActuationEvidence Address) : Bool :=
  evidence.explicitActivationRequested ∨ evidence.activationKind ≠ .named .none

def sensorFaults (evidence : ActuationEvidence Address) : List FaultCode :=
  observing (evidence.peltierSensor.any (· ≠ .named .valid) = true ∨
    (gateNeedsSensorEvidence evidence = true ∧ hasFreshSensorEvidence evidence = false))
    .safetySensorUnavailable

variable (planners : Address → ActuatorPlanner K) (evidence : ActuationEvidence Address)

/-- The planner that the evidence names, if any, has tripped its watchdog. -/
def watchdogLatched : Bool :=
  evidence.actuatorPlanner.any fun address => (planners address).state.latchedWatchdogFault.isSome

def reportedFaults : List FaultCode :=
  unknownProducers evidence ++ configurationFaults evidence ++ persistenceFaults evidence ++
    sensorFaults evidence

/-- The faults in the order in which they are observed. -/
def observations : List FaultCode :=
  reportedFaults evidence ++
    observing (watchdogLatched planners evidence = true) .actuatorRequestWatchdog

def observedFaults : UInt16 :=
  observed (observations planners evidence)

structure ActuationEvaluation where
  permission : ActuatorSafetyGateStatus := .unresolved
  faultCode : FaultCode := .none
  deriving DecidableEq, Repr

def evaluate : ActuationEvaluation :=
  if primaryFault (observedFaults planners evidence) ≠ .none then
    { faultCode := primaryFault (observedFaults planners evidence) }
  else
    match evidence.loadDisposition with
    | .named .standby =>
      if activationEvidenceComplete evidence .freshStart then { permission := .allowed } else {}
    | .named .resumeOffer =>
      if activationEvidenceComplete evidence .resume then { permission := .allowed } else {}
    | .named .recoveryEvaluation | .named .fallbackSelectionRequired | .named .noActiveRun
    | .named .completed | .named .terminalFault | .named .safeBoot | .unlisted _ => {}

/-- The evidence that a reset of the watchdog needs, before the faults are looked at. -/
def watchdogResetEvidence [DecidableEq Address] (planner : Address) : Bool :=
  evidence.actuatorPlanner = some planner ∧
    (planners planner).state.latchedWatchdogFault.isSome ∧
    evidence.explicitActivationRequested ∧ evidence.bootValidationComplete ∧
    evidence.plannerEvidenceValidated ∧ hasFreshConfigurationEvidence evidence ∧
    hasFreshSensorEvidence evidence ∧ evidence.persistenceValidated ∧
    evidence.persistenceLoadStatus.any
      (fun status => status.isKnown && !isPersistenceSafeBoot status) ∧
    isTrustedCoordinatorState evidence.persistenceCoordinatorState ∧
    evidence.loadDisposition ≠ .named .safeBoot

/-- A reset is answered with the planners after it. -/
def resetRequestWatchdog [DecidableEq Address] (planner : Address) :
    Bool × (Address → ActuatorPlanner K) :=
  if watchdogResetEvidence planners evidence planner then
    if (evaluate planners evidence).faultCode ≠ .actuatorRequestWatchdog then (false, planners)
    else
      (true, Function.update planners planner
        (planners planner).applyExternalWatchdogFaultReset)
  else (false, planners)

end Evaluation

end ActuationInterlock

end Fermentationsschrank

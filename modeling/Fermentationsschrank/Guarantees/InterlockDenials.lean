import Fermentationsschrank.Control.ActuationInterlock

/-!
# Denials of the interlock

The interlock allows the actuators on complete evidence only, worse evidence never opens it,
and the watchdog is reset only when it is the single fault.  The mode of the configuration
service is the exception: an older report of the configuration stands in for it.
-/

namespace Fermentationsschrank.ActuationInterlock

/-! ## Observed faults -/

section Faults

variable {Address K : Type} {planners : Address → ActuatorPlanner K}
variable {evidence degraded : ActuationEvidence Address}

theorem observing_eq_nil {condition : Prop} [Decidable condition] {code : FaultCode} :
    observing condition code = [] ↔ ¬condition := by
  rw [observing, ite_eq_right_iff]
  exact ⟨fun h hcondition => List.cons_ne_nil _ _ (h hcondition),
    fun h hcondition => absurd hcondition h⟩

theorem unknownProducer_eq_nil {Name : Type} {provided : Option (Enumerated Name)} :
    unknownProducer provided = [] ↔ ∀ value ∈ provided, value.isKnown = true := by
  rw [unknownProducer, observing_eq_nil]
  cases provided <;> simp

/-- Nothing but the planner reports the watchdog. -/
theorem not_mem_reportedFaults {code : FaultCode}
    (hcode : code = .none ∨ code = .actuatorRequestWatchdog) :
    code ∉ reportedFaults evidence := by
  have hproducer : code ∉ producerFault evidence.configurationProducer := by
    rcases hcode with rfl | rfl <;>
      fun_cases producerFault evidence.configurationProducer <;> simp
  have hmode : code ∉ serviceModeFault evidence.configurationServiceMode := by
    rcases hcode with rfl | rfl <;>
      fun_cases serviceModeFault evidence.configurationServiceMode <;> simp
  have hcommit : code ∉ commitFault evidence.configurationCommitStatus := by
    rcases hcode with rfl | rfl <;>
      fun_cases commitFault evidence.configurationCommitStatus <;> simp
  simp only [reportedFaults, unknownProducers, configurationFaults, persistenceFaults,
    sensorFaults, unknownProducer, List.mem_append, mem_observing, hproducer, hmode, hcommit]
  rcases hcode with rfl | rfl <;> simp

theorem faultCode_eq_none :
    primaryFault (observedFaults planners evidence) = .none ↔
      reportedFaults evidence = [] ∧ watchdogLatched planners evidence = false := by
  rw [observedFaults, primaryFault_eq_none, observations]
  constructor
  · intro hnone
    have hreported : reportedFaults evidence = [] := by
      rw [List.eq_nil_iff_forall_not_mem]
      intro code hmem
      have hcode := hnone code (List.mem_append_left _ hmem)
      exact not_mem_reportedFaults (Or.inl hcode) hmem
    refine ⟨hreported, Bool.eq_false_iff.mpr fun hlatched => ?_⟩
    have hwatchdog := hnone .actuatorRequestWatchdog
      (List.mem_append_right _ (mem_observing.mpr ⟨hlatched, rfl⟩))
    cases hwatchdog
  · rintro ⟨hreported, hlatched⟩ code hmem
    rw [hreported, List.nil_append, mem_observing, hlatched] at hmem
    exact absurd hmem.1 Bool.false_ne_true

theorem faultCode_eq_watchdog :
    primaryFault (observedFaults planners evidence) = .actuatorRequestWatchdog ↔
      reportedFaults evidence = [] ∧ watchdogLatched planners evidence = true := by
  rw [observedFaults, primaryFault_eq_watchdog, observations]
  constructor
  · rintro ⟨hwatchdog, hsole⟩
    have hreported : reportedFaults evidence = [] := by
      rw [List.eq_nil_iff_forall_not_mem]
      intro code hmem
      exact not_mem_reportedFaults (hsole code (List.mem_append_left _ hmem)) hmem
    rw [hreported, List.nil_append, mem_observing] at hwatchdog
    exact ⟨hreported, hwatchdog.1⟩
  · rintro ⟨hreported, hlatched⟩
    rw [hreported, List.nil_append]
    exact ⟨mem_observing.mpr ⟨hlatched, rfl⟩, fun code hmem => Or.inr (mem_observing.mp hmem).2⟩

/-! ## Evidence without a fault -/

theorem configuration_faultless :
    producerFault evidence.configurationProducer = [] ∧
        unknownProducer evidence.configurationProducer = [] ↔
      evidence.configurationProducer = none := by
  rw [unknownProducer_eq_nil]
  rcases evidence.configurationProducer with - | (- | -) | number <;>
    simp [producerFault]

/-- The status is one that a persistence can be trusted with. -/
theorem persistenceFaults_eq_nil :
    persistenceFaults evidence = [] ↔
      (∃ status, evidence.persistenceLoadStatus = some (.named status) ∧
        isPersistenceSafeBoot (.named status) = false ∧ status ≠ .fallbackRecovered) ∧
      isUntrustedCoordinatorState evidence.persistenceCoordinatorState = false ∧
      evidence.loadDisposition ≠ .named .safeBoot ∧ evidence.persistenceValidated = true := by
  have htrusted : isUntrustedCoordinatorState evidence.persistenceCoordinatorState = false →
      evidence.persistenceCoordinatorState ≠ .named .fallbackRecoveryPending := by
    intro h hpending
    rw [hpending] at h
    cases h
  rw [persistenceFaults, List.append_eq_nil_iff, List.append_eq_nil_iff, List.append_eq_nil_iff,
    observing_eq_nil, observing_eq_nil, observing_eq_nil, observing_eq_nil, hasKnownLoadStatus]
  rcases hload : evidence.persistenceLoadStatus with - | status | number
  · simp
  · simp
    tauto
  · simp

theorem sensorFaults_eq_nil (h : hasFreshSensorEvidence evidence = true) :
    sensorFaults evidence = [] := by
  have hsensor := of_decide_eq_true h
  rw [sensorFaults, observing_eq_nil, hsensor.2.1, h]
  simp

end Faults

/-! ## Complete evidence -/

section Permission

variable {Address K : Type} (planners : Address → ActuatorPlanner K)
variable (evidence degraded : ActuationEvidence Address)

/-- What the permission needs from everyone but the configuration. -/
structure EvidenceComplete : Prop where
  bootValidationComplete : evidence.bootValidationComplete = true
  configurationValidated : evidence.configurationValidated = true
  persistenceValidated : evidence.persistenceValidated = true
  sensorEvidenceValidated : evidence.sensorEvidenceValidated = true
  explicitActivationRequested : evidence.explicitActivationRequested = true
  plannerEvidenceValidated : evidence.plannerEvidenceValidated = true
  processActivationApplied : evidence.processActivationApplied = true
  peltierSensor : evidence.peltierSensor = some (.named .valid)
  sensorSelection : evidence.sensorSelectionRuntime = some (.named .allowed)
  coordinator : isTrustedCoordinatorState evidence.persistenceCoordinatorState = true
  load : ∃ status, evidence.persistenceLoadStatus = some (.named status) ∧
    isPersistenceSafeBoot (.named status) = false ∧ status ≠ .fallbackRecovered
  activation :
    (evidence.loadDisposition = .named .standby ∧ evidence.activationKind = .named .freshStart) ∨
    (evidence.loadDisposition = .named .resumeOffer ∧ evidence.activationKind = .named .resume)
  applied : evidence.activationPersistenceResult = some (.named .applied)
  unlatched : watchdogLatched planners evidence = false

/-- No report of the configuration is a fault, the mode of its service apart. -/
structure ConfigurationFaultless : Prop where
  producer : evidence.configurationProducer = none
  recovery : unknownProducer evidence.configurationRecoveryStatus = []
  commit : unknownProducer evidence.configurationCommitStatus = [] ∧
    commitFault evidence.configurationCommitStatus = []

/-- The recovery or a commit has ended with a configuration in force. -/
def ConfigurationInForce : Prop :=
  evidence.configurationRecoveryStatus.any isFreshRecovery = true ∨
    evidence.configurationCommitStatus.any isFreshCommit = true

variable {planners evidence degraded}

theorem EvidenceComplete.hasFreshSensorEvidence (h : EvidenceComplete planners evidence) :
    hasFreshSensorEvidence evidence = true :=
  decide_eq_true ⟨h.sensorEvidenceValidated, h.peltierSensor, h.sensorSelection⟩

theorem trusted_of_isTrusted {state : Enumerated RunPersistenceCoordinatorState}
    (h : isTrustedCoordinatorState state = true) :
    state.isKnown = true ∧ isUntrustedCoordinatorState state = false := by
  rcases of_decide_eq_true h with rfl | rfl | rfl <;> exact ⟨rfl, rfl⟩

theorem reportedFaults_eq_nil (h : EvidenceComplete planners evidence) :
    reportedFaults evidence = [] ↔
      ConfigurationFaultless evidence ∧ unknownProducer evidence.configurationServiceMode = [] ∧
        serviceModeFault evidence.configurationServiceMode = [] := by
  obtain ⟨hknown, huntrusted⟩ := trusted_of_isTrusted h.coordinator
  have hpersistence : persistenceFaults evidence = [] := by
    refine persistenceFaults_eq_nil.mpr ⟨h.load, huntrusted, ?_, h.persistenceValidated⟩
    rcases h.activation with ⟨hstandby, -⟩ | ⟨hoffer, -⟩
    · rw [hstandby]
      nofun
    · rw [hoffer]
      nofun
  have hload : unknownProducer evidence.persistenceLoadStatus = [] := by
    obtain ⟨status, hstatus, -⟩ := h.load
    rw [hstatus]
    rfl
  have hcoordinator : unknownProducer (some evidence.persistenceCoordinatorState) = [] := by
    rw [unknownProducer_eq_nil]
    rintro state ⟨⟩
    exact hknown
  have hvalidated : observing (evidence.configurationValidated = false)
      .systemProducerUnknown = [] := by
    rw [observing_eq_nil, h.configurationValidated]
    nofun
  simp only [reportedFaults, unknownProducers, configurationFaults, hpersistence, hload,
    hcoordinator, hvalidated, sensorFaults_eq_nil h.hasFreshSensorEvidence,
    List.append_eq_nil_iff, and_true]
  constructor
  · rintro ⟨⟨⟨⟨hmode, hcommit⟩, hrecovery⟩, hproducer⟩, ⟨hfault, hmodeFault⟩, hcommitFault⟩
    exact ⟨⟨configuration_faultless.mp ⟨hfault, hproducer⟩, hrecovery, hcommit, hcommitFault⟩,
      hmode, hmodeFault⟩
  · rintro ⟨hconfiguration, hmode, hmodeFault⟩
    obtain ⟨hfault, hproducer⟩ := configuration_faultless.mpr hconfiguration.producer
    exact ⟨⟨⟨⟨hmode, hconfiguration.commit.1⟩, hconfiguration.recovery⟩, hproducer⟩,
      ⟨hfault, hmodeFault⟩, hconfiguration.commit.2⟩

theorem hasFreshConfigurationEvidence_iff :
    hasFreshConfigurationEvidence evidence = true ↔
      evidence.configurationValidated = true ∧ (ConfigurationInForce evidence ∨
        evidence.configurationServiceMode = some (.named .operational)) := by
  have hmode : evidence.configurationServiceMode.any (· = .named .operational) = true ↔
      evidence.configurationServiceMode = some (.named .operational) := by
    cases evidence.configurationServiceMode <;> simp
  rw [hasFreshConfigurationEvidence, Bool.and_eq_true, Bool.or_eq_true, Bool.or_eq_true, hmode,
    ConfigurationInForce, or_right_comm]

theorem evaluate_allowed :
    (evaluate planners evidence).permission = .allowed ↔
      primaryFault (observedFaults planners evidence) = .none ∧
        ((evidence.loadDisposition = .named .standby ∧
            activationEvidenceComplete evidence .freshStart = true) ∨
          (evidence.loadDisposition = .named .resumeOffer ∧
            activationEvidenceComplete evidence .resume = true)) := by
  rw [evaluate]
  by_cases hfault : primaryFault (observedFaults planners evidence) = .none
  · rw [if_neg (not_not.mpr hfault), and_iff_right hfault]
    split
    · next hstandby =>
        rw [hstandby]
        split <;> simp [*]
    · next hoffer =>
        rw [hoffer]
        split <;> simp [*]
    all_goals simp [*]
  · rw [if_pos hfault]
    exact iff_of_false nofun fun h => hfault h.1

theorem EvidenceComplete.of_activation {kind : SafetyActivationKind}
    (hcomplete : activationEvidenceComplete evidence kind = true)
    (hreported : reportedFaults evidence = [])
    (hunlatched : watchdogLatched planners evidence = false)
    (hactivation : (evidence.loadDisposition = .named .standby ∧ kind = .freshStart) ∨
      (evidence.loadDisposition = .named .resumeOffer ∧ kind = .resume)) :
    EvidenceComplete planners evidence := by
  obtain ⟨hkind, hboot, hrequested, hplanner, hconfiguration, hsensor, hvalidated, -,
    hcoordinator, -, happlied, hprocess⟩ := of_decide_eq_true hcomplete
  obtain ⟨hsensorValidated, hpeltier, hselection⟩ := of_decide_eq_true hsensor
  have hpersistence : persistenceFaults evidence = [] := by
    rw [reportedFaults, List.append_eq_nil_iff, List.append_eq_nil_iff] at hreported
    exact hreported.1.2
  exact {
    bootValidationComplete := hboot
    configurationValidated := (hasFreshConfigurationEvidence_iff.mp hconfiguration).1
    persistenceValidated := hvalidated
    sensorEvidenceValidated := hsensorValidated
    explicitActivationRequested := hrequested
    plannerEvidenceValidated := hplanner
    processActivationApplied := hprocess
    peltierSensor := hpeltier
    sensorSelection := hselection
    coordinator := hcoordinator
    load := (persistenceFaults_eq_nil.mp hpersistence).1
    activation := by
      rcases hactivation with ⟨hstandby, rfl⟩ | ⟨hoffer, rfl⟩
      · exact Or.inl ⟨hstandby, hkind⟩
      · exact Or.inr ⟨hoffer, hkind⟩
    applied := happlied
    unlatched := hunlatched }

theorem EvidenceComplete.activation_complete {kind : SafetyActivationKind}
    (h : EvidenceComplete planners evidence) (hkind : evidence.activationKind = .named kind)
    (hconfiguration : hasFreshConfigurationEvidence evidence = true) :
    activationEvidenceComplete evidence kind = true := by
  have hload : evidence.persistenceLoadStatus.any
      (fun status => status.isKnown && !isPersistenceSafeBoot status) = true := by
    obtain ⟨status, hstatus, hsafe, -⟩ := h.load
    rw [hstatus, Option.any_some, hsafe]
    rfl
  have hdisposition : evidence.loadDisposition ≠ .named .safeBoot := by
    rcases h.activation with ⟨hstandby, -⟩ | ⟨hoffer, -⟩
    · rw [hstandby]
      nofun
    · rw [hoffer]
      nofun
  exact decide_eq_true ⟨hkind, h.bootValidationComplete, h.explicitActivationRequested,
    h.plannerEvidenceValidated, hconfiguration, h.hasFreshSensorEvidence, h.persistenceValidated,
    hload, h.coordinator, hdisposition, h.applied, h.processActivationApplied⟩

/-- The permission is given on exactly this evidence. -/
theorem permission_eq_allowed :
    (evaluate planners evidence).permission = .allowed ↔
      EvidenceComplete planners evidence ∧ ConfigurationFaultless evidence ∧
        unknownProducer evidence.configurationServiceMode = [] ∧
        serviceModeFault evidence.configurationServiceMode = [] ∧
        (ConfigurationInForce evidence ∨
          evidence.configurationServiceMode = some (.named .operational)) := by
  rw [evaluate_allowed, faultCode_eq_none]
  constructor
  · rintro ⟨⟨hreported, hunlatched⟩, hactivation⟩
    obtain ⟨kind, hkind, hcomplete⟩ : ∃ kind,
        ((evidence.loadDisposition = .named .standby ∧ kind = .freshStart) ∨
          (evidence.loadDisposition = .named .resumeOffer ∧ kind = .resume)) ∧
        activationEvidenceComplete evidence kind = true := by
      rcases hactivation with ⟨hstandby, hcomplete⟩ | ⟨hoffer, hcomplete⟩
      · exact ⟨_, Or.inl ⟨hstandby, rfl⟩, hcomplete⟩
      · exact ⟨_, Or.inr ⟨hoffer, rfl⟩, hcomplete⟩
    have hevidence := EvidenceComplete.of_activation hcomplete hreported hunlatched hkind
    obtain ⟨hfaultless, hmode, hmodeFault⟩ := (reportedFaults_eq_nil hevidence).mp hreported
    obtain ⟨-, -, -, -, hconfiguration, -⟩ := of_decide_eq_true hcomplete
    exact ⟨hevidence, hfaultless, hmode, hmodeFault,
      (hasFreshConfigurationEvidence_iff.mp hconfiguration).2⟩
  · rintro ⟨hevidence, hfaultless, hmode, hmodeFault, hforce⟩
    have hconfiguration := hasFreshConfigurationEvidence_iff.mpr
      ⟨hevidence.configurationValidated, hforce⟩
    refine ⟨⟨(reportedFaults_eq_nil hevidence).mpr ⟨hfaultless, hmode, hmodeFault⟩,
      hevidence.unlatched⟩, ?_⟩
    exact hevidence.activation.imp
      (fun h => ⟨h.1, hevidence.activation_complete h.2 hconfiguration⟩)
      (fun h => ⟨h.1, hevidence.activation_complete h.2 hconfiguration⟩)

theorem faultCode_evaluate :
    (evaluate planners evidence).faultCode = primaryFault (observedFaults planners evidence) := by
  rw [evaluate]
  by_cases hfault : primaryFault (observedFaults planners evidence) = .none
  · rw [if_neg (not_not.mpr hfault), hfault]
    split <;> first | rfl | (split <;> rfl)
  · rw [if_pos hfault]

end Permission

/-! ## Worse evidence -/

section Degrading

variable {Address K : Type}

/-- A report is not trusted where it was not before, and not accepted where it was refused. -/
structure StandsBelow {Report : Type} (trusted refused : Report → Prop) (before after : Report) :
    Prop where
  trusted : trusted after → trusted before
  refused : refused before → refused after

/-- Some pieces of the evidence are worse: flags are cleared, and statuses are replaced by
ones that stand no higher.  Of the modes of the configuration service only the normal one
is trusted. -/
structure Degrades (planners : Address → ActuatorPlanner K)
    (before after : ActuationEvidence Address) : Prop where
  bootValidationComplete : after.bootValidationComplete = true →
    before.bootValidationComplete = true
  configurationValidated : after.configurationValidated = true →
    before.configurationValidated = true
  persistenceValidated : after.persistenceValidated = true → before.persistenceValidated = true
  sensorEvidenceValidated : after.sensorEvidenceValidated = true →
    before.sensorEvidenceValidated = true
  explicitActivationRequested : after.explicitActivationRequested = true →
    before.explicitActivationRequested = true
  plannerEvidenceValidated : after.plannerEvidenceValidated = true →
    before.plannerEvidenceValidated = true
  processActivationApplied : after.processActivationApplied = true →
    before.processActivationApplied = true
  configurationRecoveryStatus : StandsBelow (fun status => status.any isFreshRecovery = true)
    (fun status => unknownProducer status ≠ []) before.configurationRecoveryStatus
    after.configurationRecoveryStatus
  configurationProducer : before.configurationProducer ≠ none → after.configurationProducer ≠ none
  configurationServiceMode : StandsBelow (fun mode => mode = some (.named .operational))
    (fun mode => unknownProducer mode ≠ []) before.configurationServiceMode
    after.configurationServiceMode
  configurationCommitStatus : StandsBelow (fun status => status.any isFreshCommit = true)
    (fun status => ¬(unknownProducer status = [] ∧ commitFault status = []))
    before.configurationCommitStatus after.configurationCommitStatus
  persistenceLoadStatus : ∀ status, after.persistenceLoadStatus = some (.named status) →
    isPersistenceSafeBoot (.named status) = false → status ≠ .fallbackRecovered →
    ∃ earlier, before.persistenceLoadStatus = some (.named earlier) ∧
      isPersistenceSafeBoot (.named earlier) = false ∧ earlier ≠ .fallbackRecovered
  persistenceCoordinatorState :
    isTrustedCoordinatorState after.persistenceCoordinatorState = true →
    isTrustedCoordinatorState before.persistenceCoordinatorState = true
  loadDisposition : after.loadDisposition = .named .standby ∨
    after.loadDisposition = .named .resumeOffer → before.loadDisposition = after.loadDisposition
  activationKind : after.activationKind = .named .freshStart ∨
    after.activationKind = .named .resume → before.activationKind = after.activationKind
  activationPersistenceResult : after.activationPersistenceResult = some (.named .applied) →
    before.activationPersistenceResult = some (.named .applied)
  peltierSensor : after.peltierSensor = some (.named .valid) →
    before.peltierSensor = some (.named .valid)
  sensorSelectionRuntime : after.sensorSelectionRuntime = some (.named .allowed) →
    before.sensorSelectionRuntime = some (.named .allowed)
  actuatorPlanner : watchdogLatched planners before = true →
    watchdogLatched planners after = true

variable {planners : Address → ActuatorPlanner K} {evidence degraded : ActuationEvidence Address}

theorem Degrades.refl : Degrades planners evidence evidence := by
  constructor <;> first | exact id | exact ⟨id, id⟩ | simp_all

/-- Worse evidence is complete only where the better evidence was. -/
theorem EvidenceComplete.of_degrades (h : Degrades planners evidence degraded)
    (hcomplete : EvidenceComplete planners degraded) : EvidenceComplete planners evidence where
  bootValidationComplete := h.bootValidationComplete hcomplete.bootValidationComplete
  configurationValidated := h.configurationValidated hcomplete.configurationValidated
  persistenceValidated := h.persistenceValidated hcomplete.persistenceValidated
  sensorEvidenceValidated := h.sensorEvidenceValidated hcomplete.sensorEvidenceValidated
  explicitActivationRequested :=
    h.explicitActivationRequested hcomplete.explicitActivationRequested
  plannerEvidenceValidated := h.plannerEvidenceValidated hcomplete.plannerEvidenceValidated
  processActivationApplied := h.processActivationApplied hcomplete.processActivationApplied
  peltierSensor := h.peltierSensor hcomplete.peltierSensor
  sensorSelection := h.sensorSelectionRuntime hcomplete.sensorSelection
  coordinator := h.persistenceCoordinatorState hcomplete.coordinator
  load :=
    let ⟨status, hstatus, hsafe, hfallback⟩ := hcomplete.load
    h.persistenceLoadStatus status hstatus hsafe hfallback
  activation := by
    rcases hcomplete.activation with ⟨hstandby, hkind⟩ | ⟨hoffer, hkind⟩
    · exact Or.inl ⟨(h.loadDisposition (Or.inl hstandby)).trans hstandby,
        (h.activationKind (Or.inl hkind)).trans hkind⟩
    · exact Or.inr ⟨(h.loadDisposition (Or.inr hoffer)).trans hoffer,
        (h.activationKind (Or.inr hkind)).trans hkind⟩
  applied := h.activationPersistenceResult hcomplete.applied
  unlatched := by
    rw [Bool.eq_false_iff]
    intro hlatched
    have hstill := h.actuatorPlanner hlatched
    rw [hcomplete.unlatched] at hstill
    cases hstill

theorem ConfigurationFaultless.of_degrades (h : Degrades planners evidence degraded)
    (hfaultless : ConfigurationFaultless degraded) : ConfigurationFaultless evidence where
  producer := by
    by_contra hproducer
    exact h.configurationProducer hproducer hfaultless.producer
  recovery := by
    by_contra hrecovery
    exact h.configurationRecoveryStatus.refused hrecovery hfaultless.recovery
  commit := by
    by_contra hcommit
    exact h.configurationCommitStatus.refused hcommit hfaultless.commit

/-! ## Outlived reports -/

/-- The configuration service names a mode other than its normal one, no report of the
configuration apart from that mode is a fault, and the recovery or a commit still vouches for a
configuration in force. -/
structure OutlivedConfiguration (planners : Address → ActuatorPlanner K)
    (evidence : ActuationEvidence Address) : Prop where
  mode : ∃ mode, evidence.configurationServiceMode = some (.named mode) ∧ mode ≠ .operational
  inForce : ConfigurationInForce evidence
  faultless : ConfigurationFaultless evidence
  complete : EvidenceComplete planners evidence

/-- The mode in which there is no runtime is no fault of its own. -/
theorem allowed_without_runtime (h : OutlivedConfiguration planners evidence) :
    (evaluate planners { evidence with
      configurationServiceMode := some (.named .noRuntime) }).permission = .allowed := by
  refine permission_eq_allowed.mpr ⟨?_, ?_, rfl, rfl, Or.inl h.inForce⟩
  · exact ⟨h.complete.1, h.complete.2, h.complete.3, h.complete.4, h.complete.5, h.complete.6,
      h.complete.7, h.complete.8, h.complete.9, h.complete.10, h.complete.11, h.complete.12,
      h.complete.13, h.complete.14⟩
  · exact ⟨h.faultless.producer, h.faultless.recovery, h.faultless.commit⟩

theorem degrades_noRuntime (h : OutlivedConfiguration planners evidence) :
    Degrades planners evidence { evidence with
      configurationServiceMode := some (.named .noRuntime) } := by
  obtain ⟨mode, hmode, -⟩ := h.mode
  refine { @Degrades.refl _ _ planners evidence with configurationServiceMode := ⟨nofun, ?_⟩ }
  intro hrefused
  rw [hmode] at hrefused
  exact absurd rfl hrefused

end Degrading

/-! ## The guarantee -/

section Guarantee

variable {Address K : Type} [DecidableEq Address]

/-- What the interlock owes for one snapshot of the evidence. -/
structure FailClosed (planners : Address → ActuatorPlanner K)
    (evidence : ActuationEvidence Address) : Prop where
  permits : (evaluate planners evidence).permission = .allowed →
    (evaluate planners evidence).faultCode = .none ∧ EvidenceComplete planners evidence ∧
      ∀ mode ∈ evidence.configurationServiceMode, mode = .named .operational
  stays_denied : ∀ degraded, Degrades planners evidence degraded →
    (evaluate planners evidence).permission ≠ .allowed →
    (evaluate planners degraded).permission ≠ .allowed
  resets : ∀ planner, (planners planner).state.latchedWatchdogFault.isSome = true →
    ((resetRequestWatchdog planners evidence planner).2 planner).state.latchedWatchdogFault = none →
    (∀ code, hasFault (observedFaults planners evidence) code = true ↔
      code = .actuatorRequestWatchdog) ∧
    (evaluate (resetRequestWatchdog planners evidence planner).2 evidence).faultCode = .none

variable {planners : Address → ActuatorPlanner K} {evidence : ActuationEvidence Address}

theorem resets_only_watchdog {planner : Address}
    (hlatched : (planners planner).state.latchedWatchdogFault.isSome = true)
    (hcleared : ((resetRequestWatchdog planners evidence planner).2
      planner).state.latchedWatchdogFault = none) :
    (∀ code, hasFault (observedFaults planners evidence) code = true ↔
      code = .actuatorRequestWatchdog) ∧
    (evaluate (resetRequestWatchdog planners evidence planner).2 evidence).faultCode = .none := by
  rw [resetRequestWatchdog] at hcleared ⊢
  by_cases hevidence : watchdogResetEvidence planners evidence planner = true
  · rw [if_pos hevidence] at hcleared ⊢
    by_cases hfault : (evaluate planners evidence).faultCode = .actuatorRequestWatchdog
    · rw [if_neg (not_not.mpr hfault)]
      rw [faultCode_evaluate, faultCode_eq_watchdog] at hfault
      obtain ⟨hreported, htripped⟩ := hfault
      constructor
      · intro code
        rw [observedFaults, hasFault_observed, observations, hreported, List.nil_append,
          mem_observing]
        constructor
        · rintro ⟨-, -, hcode⟩
          exact hcode
        · rintro rfl
          exact ⟨nofun, htripped, rfl⟩
      · rw [faultCode_evaluate, faultCode_eq_none]
        refine ⟨hreported, ?_⟩
        rw [watchdogLatched, (of_decide_eq_true hevidence).1, Option.any_some]
        dsimp only
        rw [Function.update_self]
        rfl
    · rw [if_pos hfault] at hcleared
      rw [hcleared] at hlatched
      cases hlatched
  · rw [if_neg hevidence] at hcleared
    rw [hcleared] at hlatched
    cases hlatched

/-- The interlock is fail closed on exactly the evidence that no outlived report of the
configuration completes. -/
theorem interlock_failClosed_iff (planners : Address → ActuatorPlanner K)
    (evidence : ActuationEvidence Address) :
    FailClosed planners evidence ↔ ¬OutlivedConfiguration planners evidence := by
  constructor
  · intro hclosed houtlived
    have hallowed := allowed_without_runtime houtlived
    by_cases hdenied : (evaluate planners evidence).permission = .allowed
    · obtain ⟨mode, hmode, hother⟩ := houtlived.mode
      have hoperational := (hclosed.permits hdenied).2.2 _ hmode
      cases hoperational
      exact hother rfl
    · exact hclosed.stays_denied _ (degrades_noRuntime houtlived) hdenied hallowed
  · intro houtlived
    constructor
    · intro hallowed
      obtain ⟨hcomplete, hfaultless, hmode, -, hforce⟩ := permission_eq_allowed.mp hallowed
      refine ⟨faultCode_evaluate.trans (evaluate_allowed.mp hallowed).1, hcomplete, ?_⟩
      rintro (mode | number) hprovided
      · by_contra hother
        refine houtlived ⟨⟨mode, hprovided, ?_⟩, hforce.resolve_right ?_, hfaultless, hcomplete⟩
        · rintro rfl
          exact hother rfl
        · intro hoperational
          rw [hoperational] at hprovided
          cases hprovided
          exact hother rfl
      · exact absurd (unknownProducer_eq_nil.mp hmode _ hprovided) Bool.false_ne_true
    · intro degraded hdegrades hdenied hallowed
      obtain ⟨hcomplete, hfaultless, hmode, -, hforce⟩ := permission_eq_allowed.mp hallowed
      have hcomplete := hcomplete.of_degrades hdegrades
      have hfaultless := hfaultless.of_degrades hdegrades
      have hforce : ConfigurationInForce evidence ∨
          evidence.configurationServiceMode = some (.named .operational) :=
        hforce.imp
          (Or.imp hdegrades.configurationRecoveryStatus.trusted
            hdegrades.configurationCommitStatus.trusted)
          hdegrades.configurationServiceMode.trusted
      rw [ne_eq, permission_eq_allowed] at hdenied
      rcases hbefore : evidence.configurationServiceMode with - | mode | number
      · exact hdenied ⟨hcomplete, hfaultless, by rw [hbefore]; rfl, by rw [hbefore]; rfl, hforce⟩
      · by_cases hoperational : mode = .operational
        · cases hoperational
          exact hdenied ⟨hcomplete, hfaultless, by rw [hbefore]; rfl, by rw [hbefore]; rfl, hforce⟩
        · refine houtlived ⟨⟨mode, hbefore, hoperational⟩, hforce.resolve_right ?_, hfaultless,
            hcomplete⟩
          rw [hbefore]
          rintro ⟨⟩
          exact hoperational rfl
      · refine hdegrades.configurationServiceMode.refused ?_ hmode
        rw [hbefore]
        nofun
    · intro planner hlatched hcleared
      exact resets_only_watchdog hlatched hcleared

/-- The configuration can only be reset, and the recovery of an earlier boot still vouches for a
runtime. -/
def outlivedEvidence : ActuationEvidence Unit where
  bootValidationComplete := true
  configurationValidated := true
  persistenceValidated := true
  sensorEvidenceValidated := true
  explicitActivationRequested := true
  plannerEvidenceValidated := true
  activationKind := .named .freshStart
  configurationRecoveryStatus := some (.named .runtimeReady)
  configurationServiceMode := some (.named .resetEligibleNoRuntime)
  persistenceLoadStatus := some (.named .noPersistedRun)
  persistenceCoordinatorState := .named .readyEmpty
  loadDisposition := .named .standby
  activationPersistenceResult := some (.named .applied)
  processActivationApplied := true
  peltierSensor := some (.named .valid)
  sensorSelectionRuntime := some (.named .allowed)
  actuatorPlanner := some ()

/-- It is allowed all the same. -/
theorem outlivedEvidence_allowed :
    evaluate (fun _ : Unit => (ActuatorPlanner.unconfigured : ActuatorPlanner ℚ))
        outlivedEvidence = ⟨.allowed, .none⟩ ∧
      ¬FailClosed (fun _ : Unit => (ActuatorPlanner.unconfigured : ActuatorPlanner ℚ))
        outlivedEvidence := by
  have hallowed : evaluate (fun _ : Unit => (ActuatorPlanner.unconfigured : ActuatorPlanner ℚ))
      outlivedEvidence = ⟨.allowed, .none⟩ := by decide +kernel
  refine ⟨hallowed, fun hclosed => ?_⟩
  have hmode := (hclosed.permits (congrArg _ hallowed)).2.2 _ rfl
  cases hmode

end Guarantee

end Fermentationsschrank.ActuationInterlock

import Fermentationsschrank.Control.PlannerTicks
import Fermentationsschrank.Core.Runs

/-!
# Runs of the planner

The planner is called in any order, at times that never go back.  An event holds the
planner before and after its call, which is all an observer of the run sees.
-/

namespace Fermentationsschrank

variable {K : Type}

inductive PlannerCall (K : Type)
  | tick (input : ActuatorPlanTickInput K)
  | forceStop (nowMonotonicMillis : UInt64) (episode : ActuatorFeedbackEpisodeAtStop)
  | beginRun (parameters : ActuatorPlannerParameters)
  | endRun
  | closeFeedbackEpisodeForOutstandingEvaluation
  | takeFeedbackUpdate
  | applyExternalWatchdogFaultReset

/-- A planner and the time of its last call. -/
structure ClockedPlanner (K : Type) where
  planner : ActuatorPlanner K
  clock : UInt64

structure PlannerEvent (K : Type) where
  call : PlannerCall K
  now : UInt64
  before : ActuatorPlanner K
  after : ActuatorPlanner K

/-- The call names the time it happens at, when it depends on one. -/
def PlannerCall.At (call : PlannerCall K) (now : UInt64) : Prop :=
  match call with
  | .tick input => input.nowMonotonicMillis = now
  | .forceStop nowMonotonicMillis _ => nowMonotonicMillis = now
  | _ => True

instance (call : PlannerCall K) (now : UInt64) : Decidable (call.At now) :=
  match call with
  | .tick input => inferInstanceAs (Decidable (input.nowMonotonicMillis = now))
  | .forceStop nowMonotonicMillis _ => inferInstanceAs (Decidable (nowMonotonicMillis = now))
  | .beginRun _ | .endRun | .closeFeedbackEpisodeForOutstandingEvaluation
  | .takeFeedbackUpdate | .applyExternalWatchdogFaultReset => inferInstanceAs (Decidable True)

variable [ControlNumber K]

def ActuatorPlanner.perform (planner : ActuatorPlanner K) :
    PlannerCall K → ActuatorPlanner K
  | .tick input => (planner.tick input).2
  | .forceStop nowMonotonicMillis episode =>
      (planner.forceStop nowMonotonicMillis episode).2
  | .beginRun parameters => (planner.beginRun parameters).2
  | .endRun => planner.endRun
  | .closeFeedbackEpisodeForOutstandingEvaluation =>
      planner.closeFeedbackEpisodeForOutstandingEvaluation
  | .takeFeedbackUpdate => planner.takeFeedbackUpdate.2
  | .applyExternalWatchdogFaultReset => planner.applyExternalWatchdogFaultReset

/-- A call at a time that is not before the last one. -/
inductive PlannerStep (device : ClockedPlanner K) : PlannerEvent K → ClockedPlanner K → Prop
  | perform {call now} (hat : call.At now) (hlater : device.clock ≤ now) :
      PlannerStep device ⟨call, now, device.planner, device.planner.perform call⟩
        ⟨device.planner.perform call, now⟩

namespace ActuatorPlanner

variable {planner : ActuatorPlanner K} {parameters : ActuatorPlannerParameters}

omit [ControlNumber K] in
theorem state_beginRun : (planner.beginRun parameters).2.state = planner.state := by
  rw [beginRun]
  split <;> rfl

omit [ControlNumber K] in
/-- A run that is not begun leaves the parameters. -/
theorem beginRun_binds : (planner.beginRun parameters).1 = true ∨
    (planner.beginRun parameters).2.parameters = planner.parameters ∨
    classifyActuatorPlannerParameters (planner.beginRun parameters).2.parameters ≠ .valid := by
  rw [beginRun]
  split
  · exact .inr (.inl rfl)
  · exact .inl rfl

omit [ControlNumber K] in
/-- After the end of a run the parameters are those of a test fixture, or not valid. -/
theorem parameters_endRun : planner.endRun.parameters = planner.parameters ∨
    classifyActuatorPlannerParameters planner.endRun.parameters ≠ .valid := by
  rw [endRun]
  split
  · exact .inl rfl
  · have hunset : classifyActuatorPlannerParameters .unset ≠ .valid := by decide
    exact .inr hunset

omit [ControlNumber K] in
/-- Taking the feedback changes nothing else. -/
theorem state_takeFeedbackUpdate : ∃ feedback,
    planner.takeFeedbackUpdate.2 = { planner with
      state := { planner.state with feedback } } := by
  rw [takeFeedbackUpdate]
  simp only
  split
  · exact ⟨_, rfl⟩
  · exact ⟨planner.state.feedback, rfl⟩

end ActuatorPlanner

/-- A planner as it is constructed, in production or by a test fixture. -/
def ActuatorPlanner.Fresh (planner : ActuatorPlanner K) : Prop :=
  planner = .unconfigured ∨ ∃ parameters, planner = .configured parameters

namespace PlannerEvent

variable (event : PlannerEvent K)

/-- The directions before and after the call. -/
def was : AbstractControlDirection := event.before.state.lastAppliedDirection

def is : AbstractControlDirection := event.after.state.lastAppliedDirection

/-- The call began a run. -/
def beginsRun : Bool :=
  match event.call with
  | .beginRun parameters => (event.before.beginRun parameters).1
  | _ => false

/-- A stop, or a tick that was rejected. -/
def stopsAtOnce : Bool :=
  match event.call with
  | .forceStop _ _ => true
  | .tick input => (event.before.tick input).1.reason.rejects
  | _ => false

end PlannerEvent

/-! ## Sequences of calls -/

namespace ClockedPlanner

/-- The calls happen at times that do not go back. -/
def Timely (clock : UInt64) : List (PlannerCall K × UInt64) → Prop
  | [] => True
  | (call, now) :: calls => (call.At now ∧ clock ≤ now) ∧ Timely now calls

instance : (clock : UInt64) → (calls : List (PlannerCall K × UInt64)) →
    Decidable (Timely clock calls)
  | _, [] => inferInstanceAs (Decidable True)
  | clock, (call, now) :: calls =>
      have : Decidable (Timely now calls) := instDecidableTimely now calls
      inferInstanceAs (Decidable ((call.At now ∧ clock ≤ now) ∧ Timely now calls))

def after (device : ClockedPlanner K) (calls : List (PlannerCall K × UInt64)) :
    ClockedPlanner K :=
  calls.foldl (fun device call => ⟨device.planner.perform call.1, call.2⟩) device

def events (device : ClockedPlanner K) :
    List (PlannerCall K × UInt64) → List (PlannerEvent K)
  | [] => []
  | (call, now) :: calls =>
      ⟨call, now, device.planner, device.planner.perform call⟩ ::
        events ⟨device.planner.perform call, now⟩ calls

theorem steps_events {device : ClockedPlanner K} {calls : List (PlannerCall K × UInt64)}
    (h : Timely device.clock calls) :
    Steps PlannerStep device (device.events calls) (device.after calls) := by
  induction calls generalizing device with
  | nil => exact .start
  | cons call calls ih => exact .cons (.perform h.1.1 h.1.2) (ih h.2)

end ClockedPlanner

end Fermentationsschrank

import Fermentationsschrank.Core.Effects
import Fermentationsschrank.Run.SensorSelection

/-!
# Outputs of a plan

The bridge turns the two directions of the Peltier element into commands to two legs and a
shared enable.  The driver hands a plan to the bridge and to the fans.  Every command may be
refused.
-/

namespace Fermentationsschrank

/-! ## Binary outputs -/

inductive BridgeLeg
  | forward
  | reverse
  deriving DecidableEq, Repr

def BridgeLeg.other : BridgeLeg → BridgeLeg
  | .forward => .reverse
  | .reverse => .forward

@[simp]
theorem BridgeLeg.other_other (leg : BridgeLeg) : leg.other.other = leg := by
  cases leg <;> rfl

theorem BridgeLeg.other_ne (leg : BridgeLeg) : leg.other ≠ leg := by
  cases leg <;> nofun

theorem BridgeLeg.eq_or_eq_other (leg found : BridgeLeg) : leg = found ∨ leg = found.other := by
  cases leg <;> cases found <;> simp [BridgeLeg.other]

inductive BinaryOutput
  | leg (leg : BridgeLeg)
  | enable
  | outerFan
  | innerFan
  deriving DecidableEq, Repr

structure OutputCommand where
  output : BinaryOutput
  enabled : Bool
  deriving DecidableEq, Repr

/-- A routine that commands outputs; an output answers whether it did what it was told. -/
abbrev OutputProgram := Program fun _ : OutputCommand => Bool

def setEnabled (output : BinaryOutput) (enabled : Bool) : OutputProgram Bool :=
  .call ⟨output, enabled⟩ .done

/-! ## The bridge -/

inductive BridgeState
  | notStarted
  | ready
  | faulted
  deriving DecidableEq, Repr

structure SharedEnableBridgeSink where
  state : BridgeState := .notStarted
  forwardOn : Bool := false
  reverseOn : Bool := false
  deriving DecidableEq, Repr

namespace SharedEnableBridgeSink

/-- Every output is attempted once, whatever the others answer. -/
def allOff : OutputProgram Bool := do
  let enableOff ← setEnabled .enable false
  let forwardOff ← setEnabled (.leg .forward) false
  let reverseOff ← setEnabled (.leg .reverse) false
  return enableOff && forwardOff && reverseOff

def shutdown : OutputProgram SharedEnableBridgeSink := do
  let _ ← allOff
  return { state := .faulted, forwardOn := false, reverseOn := false }

variable (bridge : SharedEnableBridgeSink)

def begin : OutputProgram (Bool × SharedEnableBridgeSink) :=
  if bridge.state ≠ .notStarted then return (bridge.state = .ready, bridge)
  else do
    if ← allOff then return (true, { bridge with state := .ready })
    else return (false, ← shutdown)

def legOn : BridgeLeg → Bool
  | .forward => bridge.forwardOn
  | .reverse => bridge.reverseOn

def withLeg (leg : BridgeLeg) (on : Bool) : SharedEnableBridgeSink :=
  match leg with
  | .forward => { bridge with forwardOn := on }
  | .reverse => { bridge with reverseOn := on }

@[simp]
theorem legOn_withLeg (leg : BridgeLeg) (on : Bool) : (bridge.withLeg leg on).legOn leg = on := by
  cases leg <;> rfl

@[simp]
theorem legOn_other_withLeg (leg : BridgeLeg) (on : Bool) :
    (bridge.withLeg leg on).legOn leg.other = bridge.legOn leg.other := by
  cases leg <;> rfl

@[simp]
theorem state_withLeg (leg : BridgeLeg) (on : Bool) :
    (bridge.withLeg leg on).state = bridge.state := by
  cases leg <;> rfl

@[simp]
theorem withLeg_withLeg (leg : BridgeLeg) (first second : Bool) :
    (bridge.withLeg leg first).withLeg leg second = bridge.withLeg leg second := by
  cases leg <;> rfl

/-- The leg first while the shared enable is still off, the enable last. -/
def switchLegOn (leg : BridgeLeg) : OutputProgram SharedEnableBridgeSink := do
  if bridge.legOn leg.other then shutdown
  else if bridge.legOn leg then return bridge
  else if ← setEnabled (.leg leg) true then
    if ← setEnabled .enable true then return bridge.withLeg leg true
    else shutdown
  else shutdown

/-- The shared enable first, then the leg; both are attempted. -/
def switchLegOff (leg : BridgeLeg) : OutputProgram SharedEnableBridgeSink := do
  if !bridge.legOn leg then return bridge
  else
    let enableOff ← setEnabled .enable false
    let legOff ← setEnabled (.leg leg) false
    if !enableOff || !legOff then shutdown
    else return bridge.withLeg leg false

def setLeg (leg : BridgeLeg) (enabled : Bool) : OutputProgram SharedEnableBridgeSink :=
  match bridge.state with
  | .notStarted => return bridge
  -- Switching off is attempted again; nothing lifts the latch.
  | .faulted => if enabled then return bridge else shutdown
  | .ready => if enabled then bridge.switchLegOn leg else bridge.switchLegOff leg

def setForward (enabled : Bool) : OutputProgram SharedEnableBridgeSink :=
  bridge.setLeg .forward enabled

def setReverse (enabled : Bool) : OutputProgram SharedEnableBridgeSink :=
  bridge.setLeg .reverse enabled

end SharedEnableBridgeSink

/-! ## The driver -/

/-- What the driver reads of a result; the direction is `none` where the byte is none of
the enumerators. -/
structure ReceivedPlan where
  appliedDirection : Option AbstractControlDirection
  outerFanEnabled : Bool
  innerFanEnabled : Bool
  deriving DecidableEq, Repr

/-- A request of the driver to the sink of the Peltier element or to the sink of a fan. -/
inductive SinkRequest
  | peltier (leg : BridgeLeg) (enabled : Bool)
  | outerFan (enabled : Bool)
  | innerFan (enabled : Bool)
  deriving DecidableEq, Repr

/-- A fan answers; the Peltier element does not. -/
abbrev SinkRequest.Reply : SinkRequest → Type
  | .peltier _ _ => Unit
  | .outerFan _ | .innerFan _ => Bool

namespace ActuatorPlanSinkDriver

abbrev SinkProgram := Program SinkRequest.Reply

def setPeltier (leg : BridgeLeg) (enabled : Bool) : SinkProgram Unit :=
  .call (.peltier leg enabled) .done

def setOuterFan (enabled : Bool) : SinkProgram Bool :=
  .call (.outerFan enabled) .done

def setInnerFan (enabled : Bool) : SinkProgram Bool :=
  .call (.innerFan enabled) .done

def peltierOff : SinkProgram Unit := do
  setPeltier .forward false
  setPeltier .reverse false

/-- The outer fan is switched on whatever the result says of it; the Peltier element
follows only if it was. -/
def releasePeltier (leg : BridgeLeg) (innerFanEnabled : Bool) : SinkProgram Unit := do
  setPeltier leg.other false
  if ← setOuterFan true then
    setPeltier leg true
    let _ ← setInnerFan innerFanEnabled
  else
    peltierOff
    let _ ← setInnerFan innerFanEnabled

def holdPeltier (outerFanEnabled innerFanEnabled : Bool) : SinkProgram Unit := do
  peltierOff
  let _ ← setOuterFan outerFanEnabled
  let _ ← setInnerFan innerFanEnabled

def apply (plan : ReceivedPlan) : SinkProgram Unit :=
  match plan.appliedDirection with
  | none => holdPeltier false false
  | some .heating => releasePeltier .forward plan.innerFanEnabled
  | some .cooling => releasePeltier .reverse plan.innerFanEnabled
  | some .idle => holdPeltier plan.outerFanEnabled plan.innerFanEnabled
  | some .unknown => holdPeltier false false

end ActuatorPlanSinkDriver

end Fermentationsschrank

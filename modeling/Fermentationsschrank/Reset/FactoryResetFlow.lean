import Fermentationsschrank.Core.Runs

/-!
# Flow of a factory reset

The local operation that leads to a factory reset.  It only collects the steps of the
confirmation, and says when the core of the reset may be called.
-/

namespace Fermentationsschrank

inductive FactoryResetKind
  | pinProtected
  | pinIndependent
  deriving DecidableEq, Repr

inductive FactoryResetStage
  | idle
  | pinRequired
  | warning
  | confirm
  | hold
  | executing
  | finished
  deriving DecidableEq, Repr

inductive FactoryResetOutcome
  | none
  | completed
  | completedRestartRequired
  | completedNetworkNotConfirmed
  | handoffUnavailable
  | handoffUnavailableNetworkNotConfirmed
  | unavailable
  | rejected
  | failed
  deriving DecidableEq, Repr

structure FactoryResetFlow where
  holdMillis : Option UInt32
  stage : FactoryResetStage := .idle
  kind : FactoryResetKind := .pinIndependent
  outcome : FactoryResetOutcome := .none
  holdStartedMs : Option UInt64 := none
  deriving DecidableEq, Repr

namespace FactoryResetFlow

/-- The constructor; a hold of no duration leaves the flow unconfigured. -/
def make (holdMillis : Option UInt32) : FactoryResetFlow where
  holdMillis := holdMillis.filter (0 < ·)

variable (flow : FactoryResetFlow)

def configured : Bool := flow.holdMillis.isSome

def begin (kind : FactoryResetKind) : Bool × FactoryResetFlow :=
  if !flow.configured then (false, flow)
  else if flow.stage ≠ .idle then (false, flow)
  else
    (true, { flow with
      kind
      outcome := .none
      holdStartedMs := none
      stage := if kind = .pinProtected then .pinRequired else .warning })

def pinVerified : Bool × FactoryResetFlow :=
  if flow.stage ≠ .pinRequired ∨ flow.kind ≠ .pinProtected then (false, flow)
  else (true, { flow with stage := .warning })

def acknowledge : Bool × FactoryResetFlow :=
  match flow.stage with
  | .warning => (true, { flow with stage := .confirm })
  | .confirm => (true, { flow with stage := .hold, holdStartedMs := none })
  | .idle | .pinRequired | .hold | .executing | .finished => (false, flow)

def cancel : FactoryResetFlow :=
  if flow.stage = .executing ∨ flow.stage = .idle then flow
  else { flow with stage := .idle, outcome := .none, holdStartedMs := none }

/-- Time that runs backwards starts the hold anew. -/
def updateHold (held : Bool) (nowMs : UInt64) : Bool × FactoryResetFlow :=
  match flow.holdMillis with
  | none => (false, flow)
  | some holdMillis =>
      if flow.stage ≠ .hold then (false, flow)
      else if !held then (false, { flow with holdStartedMs := none })
      else
        match flow.holdStartedMs with
        | none => (false, { flow with holdStartedMs := some nowMs })
        | some startedMs =>
            if nowMs < startedMs then (false, { flow with holdStartedMs := some nowMs })
            else if nowMs - startedMs < holdMillis.toUInt64 then (false, flow)
            else (true, { flow with holdStartedMs := none, stage := .executing })

def finish (outcome : FactoryResetOutcome) : FactoryResetFlow :=
  if flow.stage ≠ .executing then flow else { flow with outcome, stage := .finished }

def dismiss : FactoryResetFlow :=
  if flow.stage ≠ .finished then flow else { flow with stage := .idle, outcome := .none }

end FactoryResetFlow

/-! ## Calls -/

inductive FactoryResetCall
  | begin (kind : FactoryResetKind)
  | pinVerified
  | acknowledge
  | cancel
  | updateHold (held : Bool) (nowMs : UInt64)
  | finish (outcome : FactoryResetOutcome)
  | dismiss
  deriving DecidableEq, Repr

/-- The answer of a call, where it has one, and the flow it leaves. -/
def FactoryResetFlow.perform (flow : FactoryResetFlow) :
    FactoryResetCall → Option Bool × FactoryResetFlow
  | .begin kind => (flow.begin kind).map some id
  | .pinVerified => flow.pinVerified.map some id
  | .acknowledge => flow.acknowledge.map some id
  | .cancel => (none, flow.cancel)
  | .updateHold held nowMs => (flow.updateHold held nowMs).map some id
  | .finish outcome => (none, flow.finish outcome)
  | .dismiss => (none, flow.dismiss)

/-- A call with its answer. -/
structure FactoryResetEvent where
  call : FactoryResetCall
  answer : Option Bool
  deriving DecidableEq, Repr

inductive FactoryResetStep (flow : FactoryResetFlow) :
    FactoryResetEvent → FactoryResetFlow → Prop
  | perform {call : FactoryResetCall} :
      FactoryResetStep flow ⟨call, (flow.perform call).1⟩ (flow.perform call).2

end Fermentationsschrank

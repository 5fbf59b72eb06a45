import OptimiqVoice.Engine.Nodes

namespace OptimiqVoice.Engine

open Lib Telephony Routing

inductive WalkStatus where
  | bridged | hangup | aborted | exhausted
deriving DecidableEq

structure WalkOutcome where
  status : WalkStatus
  hangupCause : Option HangupCause
  destination : Option PlanDestination
  visited : List PlanNodeId
deriving DecidableEq

namespace PlanWalker

variable (k : PlanWalker)

def outcome (status : WalkStatus) (cause : Option HangupCause) (visited : List PlanNodeId) :
    Walk WalkOutcome := do
  let destination ← Walk.destination
  pure ⟨status, cause, destination, visited⟩

def terminate (cause : HangupCause) (status : WalkStatus) (visited : List PlanNodeId) :
    Walk WalkOutcome := do
  let c ← Walk.caller
  if c.isTearingDown then outcome status (some cause) visited
  else do
    let _ ← Walk.execute (.hangup cause)
    outcome status (some cause) visited

/-- Report where the call has got to when that changed. The report is awaited
outside of the handler that catches what a node throws. -/
def noteDestination (body : Option PlanBody) : Walk Unit :=
  match body.bind planDestinationOf with
  | none => pure ()
  | some destination => do
    let current ← Walk.destination
    if current = some destination then pure ()
    else do
      Async.modify fun s => { s with destination := some destination }
      if k.wiring.onDestination then do
        let _ ← Walk.call (.onDestination destination)
        pure ()
      else pure ()

def walkFrom (input : WalkInput) : Nat → List PlanNodeId → Option PlanNodeId → Walk WalkOutcome
  | 0, visited, _ => terminate .exchangeRoutingError .exhausted visited
  | n + 1, visited, next => do
    let abandoned ← Walk.abandoned
    if abandoned then outcome .aborted none visited
    else match next with
      | none => terminate .normalClearing .hangup visited
      | some nodeId =>
        match input.plan.nodes.lookup nodeId with
        | .undefined => terminate .normalTemporaryFailure .hangup visited
        | node => do
          let body := node.field fun v => some v.body
          Walk.tell (.enter nodeId)
          k.noteDestination body
          match ← Async.attempt (k.step input body) with
          | none => terminate .normalTemporaryFailure .hangup (visited ++ [nodeId])
          | some (.goto target) => walkFrom input n (visited ++ [nodeId]) (some target)
          | some (.hangup cause) => terminate cause .hangup (visited ++ [nodeId])
          | some .bridged => outcome .bridged none (visited ++ [nodeId])
          | some .aborted => outcome .aborted none (visited ++ [nodeId])

def walk (input : WalkInput) : Walk WalkOutcome :=
  k.walkFrom input k.settings.maxPlanSteps [] input.plan.entryNodeId

/-- A walk of a leg, observed as long as the replies last. -/
def run (input : WalkInput) (caller : Caller) (replies : List Reply) : Exit WalkOutcome × WalkWorld :=
  k.walk input ⟨⟨caller, 0, none, {}⟩, replies, []⟩

end PlanWalker

end OptimiqVoice.Engine

import OptimiqVoice.Engine.Race

namespace OptimiqVoice.Engine.PlanWalker

open Lib Telephony Routing

variable (k : PlanWalker)

/-- How the wait for the answer ended: by the leg's own signal, or by the timer
that reads the flag. -/
def answerHeard (event : Option Event) (c : Caller) : Bool :=
  match event with
  | some .callerAnswered => true
  | some .callerEnded => false
  | _ => c.isAnswered

def ensureAnswered : Walk Bool := do
  let c ← Walk.caller
  if c.isAnswered then pure true
  else if c.isTearingDown then pure false
  else do
    let a ← Walk.execute .answer
    if !a.granted then pure false
    else do
      let b ← Walk.ask (.awaitAnswer k.settings.answerTimeoutMs)
      let c ← Walk.caller
      pure (answerHeard b.event c && !c.isTearingDown)

def announceAndHangup (media : JsString) (cause : HangupCause) : Walk StepResult := do
  let answered ← k.ensureAnswered
  if answered then do
    let _ ← Walk.execute (.play media)
    pure (.hangup cause)
  else pure (.hangup cause)

def unavailable (cause : HangupCause) : Walk StepResult :=
  k.announceAndHangup k.settings.unavailableAnnouncement cause

def playPrompt (promptId : Option JsString) : Walk Unit :=
  match resolveMediaRef none promptId k.settings.mediaRefs with
  | none => pure ()
  | some media => do
    let _ ← Walk.execute (.play media)
    pure ()

/-- The media half of a bridge; `false` when either command was refused. -/
def joinBridge (bridgeId : BridgeId) (peer : Option LegId) : Walk Bool := do
  let a ← Walk.ask (.createBridge bridgeId)
  if a.rejected then pure false
  else do
    let b ← Walk.ask (.addToBridge bridgeId peer)
    pure !b.rejected

def preBridge (bridgeId : BridgeId) : Walk Unit :=
  if k.wiring.beforeBridge then do
    let _ ← Walk.ask (.beforeBridge bridgeId)
    pure ()
  else pure ()

def bridgeWith (peer : LegId) : Walk StepResult := do
  let answered ← k.ensureAnswered
  if !answered then do
    hangupQuietly peer .originatorCancel
    pure .aborted
  else do
    let bridgeId ← Walk.newId
    k.preBridge bridgeId
    let joined ← joinBridge bridgeId (some peer)
    if !joined then do
      hangupQuietly peer .normalTemporaryFailure
      pure (.hangup .normalTemporaryFailure)
    else do
      Walk.tell (.setBridge bridgeId)
      Walk.tell (.moveTo .exchangingMedia)
      Walk.tell (.legBridged peer bridgeId)
      Walk.publish (.bridged peer bridgeId)
      Walk.tell (.watchPeer peer bridgeId)
      pure .bridged

structure DialBranches where
  busyNodeId : Option PlanNodeId := none
  noAnswerNodeId : Option PlanNodeId := none
  notRegisteredNodeId : Option PlanNodeId := none

def settleFailure (branches : DialBranches) (cause : HangupCause) : StepResult :=
  if cause = .userBusy then branch (branches.busyNodeId.or branches.noAnswerNodeId) .userBusy
  else if cause = .userNotRegistered ∨ cause = .subscriberAbsent then
    branch (branches.notRegisteredNodeId.or branches.noAnswerNodeId) cause
  else branch branches.noAnswerNodeId cause

def settleDial (branches : DialBranches) : DialOutcome → Walk StepResult
  | .answered leg _ => k.bridgeWith leg
  | .aborted => pure .aborted
  | .timeout => pure (branch branches.noAnswerNodeId .noAnswer)
  | .failed cause _ => pure (settleFailure branches cause)

def startRinging : Walk Unit := do
  let _ ← Walk.execute .ringing
  Walk.tell (.moveTo .executing)

end OptimiqVoice.Engine.PlanWalker

import OptimiqVoice.Engine.Voicemail

namespace OptimiqVoice.Engine

open Lib Telephony Routing

inductive QueueOutcome where
  | answered (agentId : JsString) (waitMs : Int)
  | timeout (reason : AbandonReason)
  | abandoned
  | aborted
  | failed

inductive QueueDialOutcome where
  | answered (agentId : JsString) (leg : LegId)
  | failed (agentId : JsString) (cause : HangupCause)
  | timeout
  | aborted

def isStaffing (entry : Option AgentStateEntry) : Bool := entry.any (·.status ≠ .loggedOut)

def penaltySecondsFor (cause : HangupCause) (agent : QueueAgent) : Int :=
  match cause with
  | .userBusy => agent.busyDelaySeconds
  | .callRejected => agent.rejectDelaySeconds
  | _ => agent.noAnswerDelaySeconds

def isOwnedByCall (entry : AgentStateEntry) (callId : JsString) : Bool :=
  (entry.status = .ringing || entry.status = .onCall || entry.status = .wrapUp) &&
    entry.callId = some callId

inductive OwnedTransitionResult where
  | succeeded | ownershipChanged | retry

namespace PlanWalker

variable (k : PlanWalker) (plan : QueuePlan)

def nowMs : Walk Int := do
  let a ← Walk.ask .now
  pure a.now

def waitedMs : Walk Int := do
  let now ← nowMs
  let s ← Walk.session
  pure (max 0 (now - s.joinedAt))

def startMusic : Walk Unit := do
  let c ← Walk.caller
  if c.isTearingDown then pure ()
  else do
    let _ ← Walk.ask (.startMusicOnHold plan.mohClass)
    pure ()

def announcePosition : Walk Unit := do
  let p ← Walk.ask (.positionOf plan.queueId)
  Walk.updateSession fun s => { s with position := p.count }
  let _ ← Walk.ask .stopMusicOnHold
  k.playPrompt plan.announcePromptId
  let up ← playWhileUp (k.spellNumber (natText p.count))
  if up then startMusic plan else pure ()

def announceIfDue : Walk Unit :=
  if !plan.announcePositionEnabled || plan.announceFrequencySeconds ≤ 0 then pure ()
  else do
    let now ← nowMs
    let s ← Walk.session
    if now - s.lastAnnouncedAt < plan.announceFrequencySeconds * 1000 then pure ()
    else do
      Walk.updateSession fun s => { s with lastAnnouncedAt := now }
      k.announcePosition plan

def deadlineReached (waitedMs : Int) (membership : QueueMembership)
    (states : Dict JsString AgentStateEntry) : Option AbandonReason :=
  if 0 < plan.maxWaitNoAgentSeconds && plan.maxWaitNoAgentSeconds * 1000 ≤ waitedMs &&
      !membership.agents.any (fun agent => agent.enabled && isStaffing (states.get? agent.agentId))
  then some .noAgents
  else if 0 < plan.maxWaitSeconds && plan.maxWaitSeconds * 1000 ≤ waitedMs then some .timeout
  else none

def frozenFirst (frozen : List JsString) (ordered : List QueueCandidate) : List QueueCandidate :=
  (frozen.findSome? fun id => ordered.reverse.find? fun c => c.agent.agentId = id).toList

def nextCandidates (waited : Int) : Walk (List QueueCandidate) := do
  let now ← nowMs
  let s ← Walk.session
  let excluded := (s.tried.entries.filter fun entry => now < entry.2).map Prod.fst
  let a ← Walk.ask (.selectAgents plan.strategy waited now excluded)
  if a.selection.fanOutAll then pure a.selection.ordered
  else if plan.strategy = .sequential then do
    let frozen := s.frozenOrder.getD (a.selection.ordered.map (·.agent.agentId))
    Walk.updateSession fun s => { s with frozenOrder := some frozen }
    pure (frozenFirst frozen a.selection.ordered)
  else pure a.selection.ordered.head?.toList

def tryOwnedTransition (request : AgentTransition) : Walk OwnedTransitionResult := do
  let a ← Walk.call (.transitionAgent request)
  if a.entry.isSome then pure .succeeded
  else do
    let b ← Walk.call (.readState request.agentId)
    match b.stateRead with
    | .unavailable => pure .retry
    | .absent => pure .ownershipChanged
    | .found entry => pure (if isOwnedByCall entry k.callId then .retry else .ownershipChanged)

variable (candidate : QueueCandidate)

def noAnswerCountAfter (cause : HangupCause) : Option Int :=
  if cause = .userBusy then none else some (candidate.state.noAnswerCount.getD 0 + 1)

/-- The transition that gives an agent back with the penalty the cause calls for. -/
def penaltyRelease (cause : HangupCause) (availableAt : Int) : AgentTransition :=
  let agent := candidate.agent
  let noAnswerCount := noAnswerCountAfter candidate cause
  if noAnswerCount.any (fun n => 0 < agent.maxNoAnswer && agent.maxNoAnswer ≤ n) then
    { agentId := agent.agentId, status := .unavailable, queueId := plan.queueId,
      noAnswerCount := noAnswerCount, reason := some (lit "max-no-answer") }
  else
    { agentId := agent.agentId, status := .available, queueId := plan.queueId,
      availableAt := some availableAt, noAnswerCount := noAnswerCount }

def releaseFor : Option HangupCause → Walk AgentTransition
  | none =>
    pure { agentId := candidate.agent.agentId, status := .available, queueId := plan.queueId }
  | some cause => do
    let now ← nowMs
    let availableAt := now + penaltySecondsFor cause candidate.agent * 1000
    Walk.updateSession fun s =>
      { s with tried := s.tried.set candidate.agent.agentId availableAt }
    pure (penaltyRelease plan candidate cause availableAt)

def releaseOne (cause : Option HangupCause) (candidate : QueueCandidate) : Walk Unit := do
  let a ← Walk.ask (.retryPending candidate.agent.agentId)
  if a.count ≠ 0 then pure ()
  else do
    let request ← releaseFor plan candidate cause
    match ← k.tryOwnedTransition request with
    | .retry => Walk.tell (.scheduleRetry request)
    | _ => Walk.updateSession fun s => { s with pending := s.pending.erase candidate.agent.agentId }

def releaseAll (cause : Option HangupCause) : Walk Unit := do
  let s ← Walk.session
  Async.each (k.releaseOne plan cause) s.pending.values

/-- Reserve the agents one after the other; those another caller was quicker to
reserve are left out. -/
def reserveAll : List QueueCandidate → Walk (List QueueCandidate)
  | [] => pure []
  | candidate :: rest => do
    let now ← nowMs
    let a ← Walk.call (.reserveAgent candidate.agent.agentId plan.queueId now)
    let mine := a.entry.any fun entry =>
      (entry.previousStatus = some .available || entry.previousStatus = some .wrapUp) &&
        entry.callId = some k.callId
    if mine then do
      Walk.updateSession fun s =>
        { s with pending := s.pending.set candidate.agent.agentId candidate }
      let reserved ← reserveAll rest
      pure (candidate :: reserved)
    else reserveAll rest

def agentAttempt : DialAttempt where
  endpoint := .contact candidate.agent.contact
  destinationNumber := candidate.agent.contact
  timeoutSeconds := k.queueSettings.agentRingTimeoutSeconds
  delaySeconds := 0
  callerId := k.callerIdForQueue

variable (agents : List QueueCandidate)

def agentAt (index : Nat) : JsString :=
  ((agents[index]?.or agents.head?).map (·.agent.agentId)).getD []

def queueOutcome : DialOutcome → QueueDialOutcome
  | .answered leg index => .answered (agentAt agents index) leg
  | .failed cause index => .failed (agentAt agents index) cause
  | .aborted => .aborted
  | .timeout => .timeout

def dialQueueAgents (fanOutAll : Bool) : Walk QueueDialOutcome :=
  match agents with
  | [] => pure .timeout
  | first :: _ =>
    if fanOutAll then do
      let outcome ← k.dialSimultaneous (agents.map k.agentAttempt) true
      pure (queueOutcome agents outcome)
    else do
      let outcome ← k.dialOne (k.agentAttempt first) 0 true
      pure (queueOutcome agents outcome)

def abandon (reason : AbandonReason) : Walk QueueOutcome := do
  let waitMs ← waitedMs
  let s ← Walk.session
  Walk.publish (.callerAbandoned plan.queueId waitMs (max 1 s.position) reason)
  match reason with
  | .callerHangup => pure .abandoned
  | reason => pure (.timeout reason)

def timeOut (reason : AbandonReason) : Walk QueueOutcome := do
  let _ ← Walk.ask .stopMusicOnHold
  abandon plan reason

def connectAgent (agentId : JsString) (leg : LegId) (waitMs : Int) : Walk QueueOutcome := do
  Walk.updateSession fun s => { s with pending := s.pending.erase agentId }
  Walk.tell (.rememberAgent plan.queueId agentId)
  k.releaseAll plan none
  Walk.publish (.callerAnswered plan.queueId agentId waitMs)
  let result ← k.bridgeWith leg
  if result = .bridged then pure (.answered agentId waitMs)
  else do
    Walk.tell (.startWrapUp agentId)
    pure .failed

def answered (agentId : JsString) (leg : LegId) : Walk QueueOutcome := do
  let waitMs ← waitedMs
  let a ← Walk.call (.transitionAgent
    { agentId := agentId, status := .onCall, queueId := plan.queueId, noAnswerCount := some 0 })
  let mine := a.entry.any fun entry =>
    entry.previousStatus = some .ringing && entry.callId = some k.callId
  if mine then k.connectAgent plan agentId leg waitMs
  else do
    hangupQuietly leg .normalTemporaryFailure
    pure .failed

def settleOffer : QueueDialOutcome → Walk (Option QueueOutcome)
  | .answered agentId leg => do
    let outcome ← k.answered plan agentId leg
    pure (some outcome)
  | .aborted => do
    k.releaseAll plan none
    let outcome ← abandon plan .callerHangup
    pure (some outcome)
  | .failed _ cause => do
    k.releaseAll plan (some cause)
    startMusic plan
    pure none
  | .timeout => do
    k.releaseAll plan (some .noAnswer)
    startMusic plan
    pure none

def offerTo (candidates : List QueueCandidate) : Walk (Option QueueOutcome) := do
  let reserved ← k.reserveAll plan candidates
  if reserved.isEmpty then do
    let _ ← Walk.ask (.delay k.queueSettings.pollIntervalMs)
    pure none
  else do
    let _ ← Walk.ask .stopMusicOnHold
    let outcome ← k.dialQueueAgents reserved (1 < candidates.length || plan.strategy = .ringAll)
    k.settleOffer plan outcome

/-- Whatever happens to the offer, no agent is left reserved by it. -/
def offer (candidates : List QueueCandidate) : Walk (Option QueueOutcome) := do
  Walk.updateSession fun s => { s with pending := Dict.empty }
  Async.ensuring (k.offerTo plan candidates) (k.releaseAll plan none)

def idle : Walk (Unit ⊕ QueueOutcome) := do
  k.announceIfDue plan
  let _ ← Walk.ask (.delay k.queueSettings.pollIntervalMs)
  pure (.inl ())

def distribute (waited : Int) : Walk (Unit ⊕ QueueOutcome) := do
  let candidates ← nextCandidates plan waited
  if candidates.isEmpty then k.idle plan
  else do
    match ← k.offer plan candidates with
    | some outcome => pure (.inr outcome)
    | none => pure (.inl ())

def queueTurn (_ : Unit) : Walk (Unit ⊕ QueueOutcome) := do
  let c ← Walk.caller
  if c.isTearingDown then do
    let outcome ← abandon plan .callerHangup
    pure (.inr outcome)
  else do
    let waited ← waitedMs
    let m ← Walk.call (.membershipFor plan.queueId)
    match m.membership with
    | none => pure (.inr .failed)
    | some membership => do
      let a ← Walk.call (.readStates (membership.agents.map (·.agentId)))
      match deadlineReached plan waited membership a.states with
      | some reason => do
        let outcome ← timeOut plan reason
        pure (.inr outcome)
      | none => k.distribute plan waited

def waitInQueue : Walk QueueOutcome := do
  k.playPrompt plan.greetingPromptId
  startMusic plan
  Async.loop (k.queueTurn plan) ()

def runQueue : Walk QueueOutcome := do
  let up ← k.ensureAnswered
  if !up then pure .aborted
  else do
    let now ← nowMs
    let p ← Walk.ask (.joinQueue plan.queueId)
    Walk.updateSession fun _ => { joinedAt := now, lastAnnouncedAt := now, position := p.count }
    Walk.publish (.callerJoined plan.queueId (max 1 p.count))
    let r ← Async.attempt (k.waitInQueue plan)
    Walk.tell (.leaveQueue plan.queueId)
    pure (r.getD .failed)

def settleQueue : QueueOutcome → StepResult
  | .answered _ _ => .bridged
  | .timeout _ => branch plan.timeoutNodeId .allottedTimeout
  | .abandoned | .aborted => .aborted
  | .failed => .hangup .normalTemporaryFailure

def queueNode : Walk StepResult :=
  if !k.wiring.queue then k.unavailable .facilityNotImplemented
  else do
    let outcome ← k.runQueue plan
    pure (settleQueue plan outcome)

end PlanWalker

end OptimiqVoice.Engine

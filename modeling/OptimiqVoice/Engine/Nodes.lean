import OptimiqVoice.Engine.Conference
import OptimiqVoice.Engine.Queue
import OptimiqVoice.Engine.TrunkSelection

namespace OptimiqVoice.Engine.PlanWalker

open Lib Telephony Routing

variable (k : PlanWalker)

section menus

def playbackNode (plan : PlaybackPlan) : Walk StepResult :=
  match resolveMediaRef plan.media plan.promptId k.settings.mediaRefs with
  | none => pure (branch plan.thenNodeId .normalClearing)
  | some media => do
    let up ← k.ensureAnswered
    if !up then pure .aborted
    else do
      let a ← Walk.execute (.play media)
      if !a.granted then pure (.hangup .normalTemporaryFailure)
      else pure (branch plan.thenNodeId .normalClearing)

/-- A gate whose condition is not in the artifact counts as open. -/
def timeConditionNode (plan : TimeConditionPlan) (input : WalkInput) : Walk StepResult :=
  match (input.timeConditions.map (·.lookup plan.timeConditionId)).getD .undefined with
  | .undefined => pure (.goto plan.matchNodeId)
  | .inherited => Walk.throw
  | .own condition => do
    let instant ← match input.now with
      | some instant => pure instant
      | none => nowMs
    let evaluation := evaluateTimeCondition k.platform condition instant
    pure (branch (if evaluation.matched then some plan.matchNodeId else plan.noMatchNodeId)
      .normalClearing)

structure IvrCounts where
  failures : Int := 0
  timeouts : Int := 0
  attempt : Nat := 0

variable (plan : IvrMenuPlan)

def ivrGreeting (attempt : Nat) : Option JsString :=
  resolveMediaRef none (if attempt = 0 then plan.greetingPromptId
      else plan.shortGreetingPromptId.or plan.greetingPromptId)
    k.settings.mediaRefs

def ivrGather (attempt : Nat) : GatherRequest where
  maxDigits := plan.maxDigits
  terminators := [lit "#"]
  timeoutMs := plan.digitTimeoutMs
  interDigitTimeoutMs := plan.interDigitTimeoutMs
  media := k.ivrGreeting plan attempt

variable (c : IvrCounts)

def ivrExhausted : StepResult :=
  if plan.maxTimeouts < c.timeouts then branch plan.timeoutNodeId .noUserResponse
  else branch plan.invalidNodeId .invalidNumberFormat

/-- A miss of either kind: give up over the limit, else say so and ask again. -/
def ivrMiss (spent : Bool) (promptId : Option JsString) :
    Walk (IvrCounts ⊕ StepResult) :=
  if spent then pure (.inr (ivrExhausted plan c))
  else do
    k.playPrompt promptId
    pure (.inl c)

def ivrDigits (digits : JsString) : Walk (IvrCounts ⊕ StepResult) :=
  if digits.isEmpty then
    let c := { c with timeouts := c.timeouts + 1 }
    k.ivrMiss plan c (plan.maxTimeouts < c.timeouts) plan.timeoutPromptId
  else match plan.options.find? fun o => (matchPattern k.platform o.pattern digits).isSome with
    | some option => pure (.inr (.goto option.targetNodeId))
    | none =>
      let c := { c with failures := c.failures + 1 }
      k.ivrMiss plan c (plan.maxFailures < c.failures) plan.invalidPromptId

def ivrTurn : Walk (IvrCounts ⊕ StepResult) :=
  if plan.maxFailures < c.failures ∨ plan.maxTimeouts < c.timeouts then
    pure (.inr (ivrExhausted plan c))
  else do
    let caller ← Walk.caller
    if caller.isTearingDown then pure (.inr .aborted)
    else do
      let a ← Walk.execute (.gather (k.ivrGather plan c.attempt))
      if !a.granted then pure (.inr (.hangup .normalTemporaryFailure))
      else if a.hangup then pure (.inr .aborted)
      else k.ivrDigits plan { c with attempt := c.attempt + 1 } a.digits

def ivrMenuNode : Walk StepResult := do
  let up ← k.ensureAnswered
  if !up then pure .aborted else Async.loop (k.ivrTurn plan) {}

end menus

section control

def pickupCode (plan : FeatureCodePlan) (input : WalkInput) : Walk StepResult :=
  if !k.wiring.control then k.unavailable .facilityNotImplemented
  else do
    let kind : PickupKind := if plan.action = .groupPickup then .group else .directed
    let extension := (input.featureArgument.map trim).getD []
    if kind = .directed ∧ extension = [] then k.unavailable .invalidNumberFormat
    else do
      let a ← Walk.call (.pickup kind extension)
      if a.granted then pure .bridged else k.unavailable .noPickup

def featureCodeNode (plan : FeatureCodePlan) (input : WalkInput) : Walk StepResult :=
  match plan.targetNodeId with
  | some target => pure (.goto target)
  | none =>
    match plan.action with
    | .callPickup | .groupPickup => k.pickupCode plan input
    | .voicemailCheck | .voicemailDirect => k.unavailable .invalidNumberFormat
    | _ => k.unavailable .facilityNotImplemented

def orbitDialedFor (plan : ParkPlan) (input : WalkInput) : Option JsString :=
  [input.featureArgument, input.originalDialedNumber].findSome? fun candidate =>
    (nonBlank candidate).filter fun digits =>
      (canonicalInt digits).any fun slot => plan.slotStart ≤ slot && slot ≤ plan.slotEnd

def parkRequestFor (plan : ParkPlan) (input : WalkInput) : ParkRequest where
  parkLotId := plan.parkLotId
  orbit := nonBlank input.featureArgument
  timeoutMs := if 0 < plan.timeoutSeconds then some (plan.timeoutSeconds * 1000) else none
  mohClass := plan.mohClass

def parkIntoLot (plan : ParkPlan) (input : WalkInput) : Walk StepResult := do
  let a ← Walk.call (.park (parkRequestFor plan input))
  if a.granted then pure .bridged
  else match plan.timeoutNodeId with
    | some target => pure (.goto target)
    | none => k.unavailable .userBusy

def retrieveFromLot (plan : ParkPlan) (orbit : JsString) : Walk StepResult := do
  let a ← Walk.call (.unpark plan.parkLotId orbit)
  if a.granted then pure .bridged else k.unavailable .noPickup

def parkNode (plan : ParkPlan) (input : WalkInput) : Walk StepResult :=
  if !k.wiring.control then k.unavailable .facilityNotImplemented
  else do
    let up ← k.ensureAnswered
    if !up then pure .aborted
    else match orbitDialedFor plan input with
      | none => k.parkIntoLot plan input
      | some orbit => k.retrieveFromLot plan orbit

end control

section dialling

def extensionBranches (plan : ExtensionPlan) : DialBranches :=
  ⟨plan.busyNodeId, plan.noAnswerNodeId, plan.notRegisteredNodeId⟩

/-- The trunk leg of a follow-me hop: only the first trunk of the chain is used. -/
def trunkHop (trunkDial : TrunkDialPlan) (hop : FollowMeDestination) (input : WalkInput)
    (timeoutSeconds : Int) (confirm : Option ConfirmRequest) : Walk (Option DialAttempt) := do
  let attempts ← orderTrunkAttempts trunkDial.attempts
  match attempts with
  | [] => pure none
  | trunk :: _ =>
    let number := hop.dialedNumber.getD hop.destination
    pure (some
      { endpoint := .trunk number trunk.name
        destinationNumber := number
        timeoutSeconds := timeoutSeconds
        delaySeconds := hop.delaySeconds
        callerId := composeCallerId (input.callerIdName.or k.callerIdName)
          (((trunk.callerIdNumberOverride.or trunkDial.callerIdNumberOverride).or
            input.callerIdNumber).or k.callerIdNumber)
        confirm := confirm })

def followMeAttempt (plan : ExtensionPlan) (hop : FollowMeDestination) (input : WalkInput) :
    Walk (Option DialAttempt) :=
  let timeoutSeconds := orElse hop.timeoutSeconds
    (orElse plan.timeoutSeconds k.settings.defaultRingTimeoutSeconds)
  let confirm := if hop.confirmRequired then some (k.confirmRequest none) else none
  match (hop.targetNodeId.map input.plan.nodes.lookup).getD .undefined with
  | .undefined | .inherited => pure none
  | .own node =>
    match node.body with
    | .extension target => pure (some
        { endpoint := .extension target.number
          destinationNumber := target.number
          timeoutSeconds := timeoutSeconds
          delaySeconds := hop.delaySeconds
          callerId := k.callerIdFor input none
          confirm := confirm })
    | .trunkDial target => k.trunkHop target hop input timeoutSeconds confirm
    | _ => pure none

def followMeAttempts (plan : ExtensionPlan) (input : WalkInput) :
    List FollowMeDestination → Walk (List DialAttempt)
  | [] => pure []
  | hop :: rest => do
    let attempt ← k.followMeAttempt plan hop input
    let attempts ← followMeAttempts plan input rest
    pure (attempt.toList ++ attempts)

def dialAll (strategy : RingGroupStrategy) (ignoreBusy : Bool) (attempts : List DialAttempt) :
    Walk DialOutcome :=
  match strategy with
  | .sequential => k.dialSequential attempts (if ignoreBusy then [] else [.userBusy])
  | .simultaneous => k.dialSimultaneous attempts false

def followMeNode (plan : ExtensionPlan) (followMe : FollowMePlan) (input : WalkInput) :
    Walk StepResult := do
  let attempts ← k.followMeAttempts plan input (sortOn (·.ordinal) followMe.destinations)
  if attempts.isEmpty then pure (branch plan.noAnswerNodeId .noAnswer)
  else do
    let abandoned ← Walk.abandoned
    if abandoned then pure .aborted
    else do
      startRinging
      let outcome ← k.dialAll followMe.strategy followMe.ignoreBusy attempts
      k.settleDial (extensionBranches plan) outcome

def extensionAttempt (plan : ExtensionPlan) (input : WalkInput) : DialAttempt where
  endpoint := .extension plan.number
  destinationNumber := plan.number
  timeoutSeconds := orElse plan.timeoutSeconds k.settings.defaultRingTimeoutSeconds
  delaySeconds := 0
  callerId := k.callerIdFor input none

def extensionNode (plan : ExtensionPlan) (input : WalkInput) : Walk StepResult :=
  match plan.forwardAllNodeId with
  | some target => pure (.goto target)
  | none =>
    if plan.doNotDisturb then pure (branch plan.busyNodeId .userBusy)
    else match plan.followMe with
      | some followMe => k.followMeNode plan followMe input
      | none => do
        startRinging
        let outcome ← k.dialSequential [k.extensionAttempt plan input] []
        k.settleDial (extensionBranches plan) outcome

def memberAttempt (plan : RingGroupPlan) (input : WalkInput) (member : RingGroupMember) :
    Option DialAttempt :=
  match input.plan.nodes.lookup member.targetNodeId with
  | .undefined | .inherited => none
  | .own node =>
    match node.body with
    | .extension target => some
        { endpoint := .extension target.number
          destinationNumber := target.number
          timeoutSeconds := orElse member.timeoutSeconds
            (orElse plan.ringTimeoutSeconds k.settings.defaultRingTimeoutSeconds)
          delaySeconds := member.delaySeconds
          callerId := k.callerIdFor input plan.callerIdNamePrefix
          confirm :=
            if member.confirmRequired || plan.confirmEnabled then
              some (k.confirmRequest plan.confirmPromptId)
            else none }
    | _ => none

def ringGroupNode (plan : RingGroupPlan) (input : WalkInput) : Walk StepResult :=
  let attempts := (sortOn (·.ordinal) plan.members).filterMap (k.memberAttempt plan input)
  if attempts.isEmpty then pure (branch plan.timeoutNodeId .noAnswer)
  else do
    startRinging
    let outcome ← k.dialAll plan.strategy plan.ignoreBusy attempts
    k.settleDial { noAnswerNodeId := plan.timeoutNodeId } outcome

/-- A trunk without a ceiling is never refused. -/
def reserveTrunk (attempt : TrunkAttempt) : Walk Bool :=
  match attempt.maxChannels with
  | none => pure true
  | some ceiling =>
    if k.wiring.trunkCapacity && 0 < ceiling then do
      let a ← Walk.ask (.reserveTrunk attempt.trunkId ceiling)
      pure a.granted
    else pure true

def trunkAttempt (plan : TrunkDialPlan) (input : WalkInput) (number : JsString)
    (attempt : TrunkAttempt) : DialAttempt where
  endpoint := .trunk number attempt.name
  destinationNumber := number
  timeoutSeconds := k.settings.defaultRingTimeoutSeconds
  delaySeconds := 0
  callerId := composeCallerId input.callerIdName
    (if plan.emergency then input.callerIdNumber.or plan.elin
      else (attempt.callerIdNumberOverride.or plan.callerIdNumberOverride).or input.callerIdNumber)

def continueOn (plan : TrunkDialPlan) : List HangupCause :=
  if plan.continueOnCauses.isEmpty then retryableHangupCauses else plan.continueOnCauses

def failureCause : DialOutcome → HangupCause
  | .failed cause _ => cause
  | _ => .noAnswer

def trunkChain (plan : TrunkDialPlan) (input : WalkInput) (number : JsString) :
    HangupCause → List TrunkAttempt → Walk StepResult
  | last, [] => pure (branch plan.failoverNodeId last)
  | _, attempt :: rest => do
    let c ← Walk.caller
    if c.isTearingDown then pure .aborted
    else do
      let reserved ← k.reserveTrunk attempt
      if !reserved then trunkChain plan input number .switchCongestion rest
      else do
        let outcome ← k.dialOne (k.trunkAttempt plan input number attempt) 0 false
        match outcome with
        | .answered leg _ => do
          Walk.tell (.bindTrunk attempt.trunkId leg)
          k.bridgeWith leg
        | .aborted => do
          Walk.tell (.releaseTrunk attempt.trunkId)
          pure .aborted
        | outcome => do
          Walk.tell (.releaseTrunk attempt.trunkId)
          if failureCause outcome ∈ continueOn plan then
            trunkChain plan input number (failureCause outcome) rest
          else pure (branch plan.failoverNodeId (failureCause outcome))

def notifyEmergency (plan : TrunkDialPlan) (input : WalkInput) (number : JsString)
    (trunkName : Option JsString) : Walk Unit :=
  if plan.emergency then do
    let _ ← Walk.ask (.publish (.emergencyDialed (input.originalDialedNumber.getD number) number
      (input.callerIdNumber.or plan.elin) trunkName))
    pure ()
  else pure ()

def trunkDialNode (plan : TrunkDialPlan) (input : WalkInput) : Walk StepResult :=
  match input.dialedNumber.filter (!·.isEmpty) with
  | none => pure (branch plan.failoverNodeId .invalidNumberFormat)
  | some number => do
    let attempts ← orderTrunkAttempts plan.attempts
    if attempts.isEmpty then pure (branch plan.failoverNodeId .networkOutOfOrder)
    else do
      startRinging
      notifyEmergency plan input number (attempts.head?.map (·.name))
      k.trunkChain plan input number .normalTemporaryFailure attempts

def externalNode (plan : ExternalPlan) (input : WalkInput) : Walk StepResult :=
  if plan.viaOutboundRouting then pure (.hangup .outgoingCallBarred)
  else do
    startRinging
    let outcome ← k.dialOne
      { endpoint := .trunk plan.destination (lit "external")
        destinationNumber := plan.destination
        timeoutSeconds := k.settings.defaultRingTimeoutSeconds
        delaySeconds := 0
        callerId := composeCallerId input.callerIdName input.callerIdNumber } 0 false
    k.settleDial {} outcome

end dialling

/-- One node. Nothing is known of a value read from the prototype of the table
but that no kind applies to it. -/
def step (input : WalkInput) : Option PlanBody → Walk StepResult
  | some (.hangup cause) => pure (.hangup cause)
  | some (.playback plan) => k.playbackNode plan
  | some (.timeCondition plan) => k.timeConditionNode plan input
  | some (.extension plan) => k.extensionNode plan input
  | some (.ringGroup plan) => k.ringGroupNode plan input
  | some (.ivrMenu plan) => k.ivrMenuNode plan
  | some (.voicemail plan) => k.voicemailNode plan input
  | some (.trunkDial plan) => k.trunkDialNode plan input
  | some (.external plan) => k.externalNode plan input
  | some (.featureCode plan) => k.featureCodeNode plan input
  | some (.queue plan) => k.queueNode plan
  | some (.conference plan) => k.conferenceNode plan
  | some (.park plan) => k.parkNode plan input
  | some (.application _) | none => k.unavailable .facilityNotImplemented

end OptimiqVoice.Engine.PlanWalker

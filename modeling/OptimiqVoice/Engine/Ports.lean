import OptimiqVoice.Lib.Async
import OptimiqVoice.Routing.Resolve

namespace OptimiqVoice.Engine

open Lib Telephony Routing

/-- Channels, bridges, playbacks and recordings are named by minted ids. -/
abbrev LegId := Nat
abbrev BridgeId := Nat

/-- Where a leg is sent: the text of the dial template is left to the media port. -/
inductive Endpoint where
  | extension (number : JsString)
  | trunk (number name : JsString)
  | contact (text : JsString)
deriving DecidableEq

structure ConfirmRequest where
  (media acceptDigit : JsString)
  attempts : Nat
  timeoutMs : Int
deriving DecidableEq

structure DialAttempt where
  endpoint : Endpoint
  destinationNumber : JsString
  (timeoutSeconds delaySeconds : Int)
  callerId : Option JsString
  confirm : Option ConfirmRequest := none
deriving DecidableEq

structure PlanDestination where
  destinationType : JsString
  destinationRef : Option JsString
deriving DecidableEq

structure GatherRequest where
  maxDigits : Int
  terminators : List JsString
  (timeoutMs interDigitTimeoutMs : Int)
  media : Option JsString
deriving DecidableEq

inductive Verb where
  | answer
  | ringing
  | play (media : JsString)
  | gather (request : GatherRequest)
  | hangup (cause : HangupCause)
deriving DecidableEq

structure RecordRequest where
  name : Nat
  format : JsString
  (maxDurationSeconds maxSilenceSeconds : Int)
  beep : Bool
  terminateOn : JsString
deriving DecidableEq

structure ParkRequest where
  parkLotId : JsString
  orbit : Option JsString
  timeoutMs : Option Int
  mohClass : Option JsString
deriving DecidableEq

inductive PickupKind where
  | directed | group
deriving DecidableEq

structure VoicemailMessage where
  (voicemailBoxId mailboxNumber : JsString)
  (messageId recordingId : Nat)
  durationMs : Int
  mwiEnabled : Bool
  (callerIdNumber callerIdName : Option JsString)
deriving DecidableEq

inductive RecordingReason where
  | completed | cancelled | failed
deriving DecidableEq

inductive PinVerdict where
  | ok | mismatch | malformedHash | kdfError
deriving DecidableEq

inductive AgentStatus where
  | loggedOut | available | ringing | onCall | wrapUp | onBreak | unavailable
deriving DecidableEq

structure QueueAgent where
  (agentId contact : JsString)
  enabled : Bool
  (wrapUpSeconds maxNoAnswer noAnswerDelaySeconds busyDelaySeconds rejectDelaySeconds : Int)
deriving DecidableEq

structure QueueMembership where
  wrapUpSeconds : Int
  agents : List QueueAgent
deriving DecidableEq

structure AgentStateEntry where
  status : AgentStatus
  previousStatus : Option AgentStatus := none
  noAnswerCount : Option Int := none
  callId : Option JsString := none
deriving DecidableEq

structure QueueCandidate where
  agent : QueueAgent
  state : AgentStateEntry
deriving DecidableEq

structure AgentSelection where
  fanOutAll : Bool
  ordered : List QueueCandidate
deriving DecidableEq

inductive AgentStateRead where
  | found (entry : AgentStateEntry)
  | absent
  | unavailable
deriving DecidableEq

structure AgentTransition where
  agentId : JsString
  status : AgentStatus
  queueId : JsString
  availableAt : Option Int := none
  noAnswerCount : Option Int := none
  reason : Option JsString := none
deriving DecidableEq

inductive AbandonReason where
  | callerHangup | timeout | noAgents
deriving DecidableEq

inductive Notice where
  | bridged (peer : LegId) (bridgeId : BridgeId)
  | emergencyDialed (dialed number : JsString) (elin trunkName : Option JsString)
  | conferenceJoined (conferenceId : JsString) (bridgeId : BridgeId) (moderator : Bool) (members : Nat)
  | recordStarted (recordingId : Nat)
  | recordStopped (recordingId : Nat) (durationMs : Int) (reason : RecordingReason)
  | callerJoined (queueId : JsString) (position : Nat)
  | callerAnswered (queueId agentId : JsString) (waitMs : Int)
  | callerAbandoned (queueId : JsString) (waitMs : Int) (position : Nat) (reason : AbandonReason)
deriving DecidableEq

inductive DialOutcome where
  | answered (leg : LegId) (index : Nat)
  | failed (cause : HangupCause) (index : Nat)
  | timeout
  | aborted
deriving DecidableEq

inductive ChannelMove where
  | executing | exchangingMedia
deriving DecidableEq

/-- What a walk asks of its surroundings. A synchronous question is put like an
awaited one, which can only add behaviours of the environment. -/
inductive Request where
  /-- The walk reads `abandoned` where it decides whether to go on. -/
  | check (abandoned : Bool)
  | enter (nodeId : PlanNodeId)
  | onDestination (destination : PlanDestination)
  | publish (notice : Notice)
  | delay (ms : Int)
  | now
  | random
  -- the walked leg
  | verb (v : Verb)
  | awaitAnswer (timeoutMs : Int)
  | moveTo (move : ChannelMove)
  | setBridge (bridgeId : BridgeId)
  | startMusicOnHold (mohClass : Option JsString)
  | stopMusicOnHold
  | record (request : RecordRequest)
  | awaitRecording (name : Nat) (timeoutMs : Int)
  | beforeBridge (bridgeId : BridgeId)
  | createBridge (bridgeId : BridgeId)
  | addToBridge (bridgeId : BridgeId) (peer : Option LegId)
  | park (request : ParkRequest)
  | unpark (parkLotId orbit : JsString)
  | pickup (kind : PickupKind) (extension : JsString)
  -- the legs it originates
  | claim (leg : LegId) (attempt : DialAttempt) (destination : Option PlanDestination)
  | originate (leg : LegId) (attempt : DialAttempt)
  /-- Wait for the next event of the legs; `watched` says that the end of the
  caller's own leg is then all it takes for the dial to be over. -/
  | awaitLegs (watched : Bool)
  | awaitConfirm (leg : LegId)
  /-- The outcome of a race is decided. -/
  | settled (outcome : DialOutcome)
  | awaitHangup (leg : LegId)
  | hangupLeg (leg : LegId) (cause : HangupCause)
  | promptLeg (leg : LegId) (media : JsString)
  | stopPrompt (leg : LegId)
  | legBridged (leg : LegId) (bridgeId : BridgeId)
  | watchPeer (leg : LegId) (bridgeId : BridgeId)
  | reserveTrunk (trunkId : JsString) (maxChannels : Int)
  | bindTrunk (trunkId : JsString) (leg : LegId)
  | releaseTrunk (trunkId : JsString)
  -- voicemail and conferences
  | verifyPin (digits hash : JsString)
  | listMailbox (voicemailBoxId mailboxNumber : JsString)
  | fileMessage (message : VoicemailMessage)
  | joinConference (conferenceId : JsString) (moderator : Bool) (newBridgeId : BridgeId) (maxMembers : Int)
  | leaveConference (conferenceId : JsString)
  | refreshConference (conferenceId : JsString)
  | roomOf (conferenceId : JsString)
  | awaitModerator (conferenceId : JsString) (budgetMs : Int)
  | leaveOnEnd (conferenceId : JsString) (bridgeId : BridgeId)
  -- queues
  | joinQueue (queueId : JsString)
  | leaveQueue (queueId : JsString)
  | positionOf (queueId : JsString)
  | membershipFor (queueId : JsString)
  | readStates (agentIds : List JsString)
  | selectAgents (strategy : QueueStrategy) (waitedMs now : Int) (excluded : List JsString)
  | reserveAgent (agentId queueId : JsString) (now : Int)
  | transitionAgent (request : AgentTransition)
  | readState (agentId : JsString)
  | retryPending (agentId : JsString)
  | scheduleRetry (request : AgentTransition)
  | startWrapUp (agentId : JsString)
  | rememberAgent (queueId agentId : JsString)
deriving DecidableEq

inductive LegSignal where
  | ringing
  | progress
  | answered
  | entered
  | dtmf (digit : JsString)
  | ended (cause : HangupCause)
deriving DecidableEq

/-- What can happen while the walk waits. The end of a command that the walk
does not wait for on the spot is an event of its own. -/
inductive Event where
  | callerAnswered
  | callerEnded
  | moderatorArrived
  | signal (leg : LegId) (s : LegSignal)
  | delayOver (leg : LegId)
  | claimed (leg : LegId) (ok : Bool)
  | originated (leg : LegId) (ok : Bool)
  | prompted (leg : LegId) (ok : Bool)
  | promptStopped (leg : LegId)
  | hungUp (leg : LegId)
  | confirmTimer (leg : LegId)
  | progressTimer (leg : LegId)
  | ringTimer
deriving DecidableEq

structure ConferenceRoom where
  moderatorPresent : Bool
  memberCount : Nat
deriving DecidableEq

inductive JoinVerdict where
  | joined (bridgeId : BridgeId) (room : ConferenceRoom)
  | full
  | claimsUnavailable
deriving DecidableEq

/-- One reply of the environment: the flags of the walked leg as they have
become, the event that ended the wait, and the value of each kind of answer. -/
structure Reply where
  isAnswered : Bool := false
  isTearingDown : Bool := false
  isDetached : Bool := false
  event : Option Event := none
  rejected : Bool := false
  /-- The command had its effect: a verb gave a result, a lot took the call. -/
  granted : Bool := true
  digits : JsString := []
  hangup : Bool := false
  pin : PinVerdict := .mismatch
  now : Int := 0
  random : Rat := 0
  count : Nat := 0
  durationMs : Int := 0
  recording : RecordingReason := .completed
  admission : JoinVerdict := .claimsUnavailable
  room : Option ConferenceRoom := none
  messages : Option (List JsString) := none
  membership : Option QueueMembership := none
  states : Dict JsString AgentStateEntry := Dict.empty
  selection : AgentSelection := ⟨false, []⟩
  entry : Option AgentStateEntry := none
  stateRead : AgentStateRead := .unavailable
deriving DecidableEq

/-- The live flags of the walked leg. None of them is ever taken back. -/
structure Caller where
  (isAnswered isTearingDown isDetached : Bool)

def Caller.abandoned (c : Caller) : Bool := c.isTearingDown || c.isDetached

def Reply.raise (a : Reply) (c : Caller) : Caller :=
  ⟨c.isAnswered || a.isAnswered, c.isTearingDown || a.isTearingDown, c.isDetached || a.isDetached⟩

/-- What a queue session keeps of one caller. -/
structure QueueSession where
  /-- Until when an agent is not offered this caller again. -/
  tried : Dict JsString Int := Dict.empty
  frozenOrder : Option (List JsString) := none
  joinedAt : Int := 0
  position : Nat := 0
  lastAnnouncedAt : Int := 0
  /-- The agents reserved by the offer under way and not released yet. -/
  pending : Dict JsString QueueCandidate := Dict.empty

structure WalkState where
  caller : Caller
  minted : Nat
  destination : Option PlanDestination
  session : QueueSession := {}

abbrev WalkWorld := World WalkState Request Reply
abbrev WalkLog := List (Moment Request Reply)
abbrev Walk := Async WalkState Request Reply

namespace Walk

def ask (q : Request) : Walk Reply :=
  Async.ask (fun a s => { s with caller := a.raise s.caller }) q

def tell (q : Request) : Walk Unit := Async.tell q

def throw {α : Type} : Walk α := Async.throw

def call (q : Request) : Walk Reply := do
  let a ← ask q
  if a.rejected then throw else pure a

def caller : Walk Caller := do
  let s ← Async.get
  pure s.caller

def destination : Walk (Option PlanDestination) := do
  let s ← Async.get
  pure s.destination

def session : Walk QueueSession := do
  let s ← Async.get
  pure s.session

def updateSession (f : QueueSession → QueueSession) : Walk Unit :=
  Async.modify fun s => { s with session := f s.session }

def newId : Walk Nat := do
  let s ← Async.get
  Async.modify fun s => { s with minted := s.minted + 1 }
  pure s.minted

/-- `this.abandoned`, read where the walk decides whether to go on. -/
def abandoned : Walk Bool := do
  let c ← caller
  tell (.check c.abandoned)
  pure c.abandoned

def execute (v : Verb) : Walk Reply := ask (.verb v)

def publish (notice : Notice) : Walk Unit := do
  let _ ← call (.publish notice)
  pure ()

end Walk

inductive StepResult where
  | goto (nodeId : PlanNodeId)
  | hangup (cause : HangupCause)
  | bridged
  | aborted
deriving DecidableEq

def branch (nodeId : Option PlanNodeId) (cause : HangupCause) : StepResult :=
  match nodeId with
  | none => .hangup cause
  | some id => .goto id

end OptimiqVoice.Engine

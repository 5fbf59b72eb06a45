import OptimiqVoice.Engine.MediaRefs
import OptimiqVoice.Engine.Ports

namespace OptimiqVoice.Engine

open Lib Telephony Routing

structure PlanWalkerSettings where
  defaultRingTimeoutSeconds : Int := 30
  progressTimeoutSeconds : Int := 0
  answerTimeoutMs : Int := 10000
  maxPlanSteps : Nat := 64
  recordingFormat : JsString := lit "wav"
  voicemailGreeting : JsString := lit "sound:unavailable"
  unavailableAnnouncement : JsString := lit "sound:unavailable"
  voicemailPinPrompt : JsString := lit "sound:vm-password"
  voicemailPinInvalidPrompt : JsString := lit "sound:vm-incorrect"
  voicemailPinAttempts : Nat := 3
  voicemailPinMaxDigits : Int := 10
  voicemailPinTimeoutMs : Int := 10000
  voicemailPinInterDigitTimeoutMs : Int := 3000
  voicemailMenuTimeoutMs : Int := 5000
  voicemailMaxReplays : Nat := 3
  conferencePinPrompt : JsString := lit "sound:conf-getpin"
  conferencePinInvalidPrompt : JsString := lit "sound:conf-invalidpin"
  conferencePinAttempts : Nat := 3
  conferencePinMaxDigits : Int := 10
  conferencePinTimeoutMs : Int := 10000
  conferencePinInterDigitTimeoutMs : Int := 3000
  conferenceFullAnnouncement : JsString := lit "sound:conf-locked"
  conferenceModeratorWaitMs : Int := 600000
  confirmPrompt : JsString := lit "sound:screen-callee-options"
  confirmAcceptDigit : JsString := lit "1"
  confirmAttempts : Nat := 2
  confirmTimeoutMs : Int := 15000
  mediaRefs : MediaRefSettings := defaultMediaRefSettings

structure QueueSessionSettings where
  pollIntervalMs : Int := 1000
  agentRingTimeoutSeconds : Int := 20

/-- Which of the optional collaborators a walk has. -/
structure Wiring where
  legs : Bool := true
  voicemail : Bool := true
  mailbox : Bool := true
  queue : Bool := true
  conferences : Bool := true
  control : Bool := true
  onDestination : Bool := true
  beforeBridge : Bool := false
  trunkCapacity : Bool := true

structure PlanWalker where
  platform : Platform
  settings : PlanWalkerSettings := {}
  queueSettings : QueueSessionSettings := {}
  wiring : Wiring := {}
  callId : JsString
  callerIdNumber : Option JsString := none
  callerIdName : Option JsString := none

structure WalkInput where
  plan : ExecutionPlan
  timeConditions : Option (Record CompiledTimeCondition) := none
  now : Option Int := none
  dialedNumber : Option JsString := none
  originalDialedNumber : Option JsString := none
  callerIdNumber : Option JsString := none
  callerIdName : Option JsString := none
  featureArgument : Option JsString := none
  mailboxes : Option (Record MailboxEntry) := none

def composeCallerId (name number : Option JsString) : Option JsString :=
  match nonBlank number, nonBlank name with
  | none, none => none
  | none, some name => some (quoted name)
  | some number, none => some number
  | some number, some name => some (quoted name ++ lit " <" ++ number ++ lit ">")

def orElse (a b : Int) : Int := if a = 0 then b else a

namespace PlanWalker

variable (k : PlanWalker)

def callerIdFor (input : WalkInput) (namePrefix : Option JsString) : Option JsString :=
  let name := input.callerIdName.or k.callerIdName
  composeCallerId (match namePrefix with
      | none => name
      | some front => some (front ++ name.getD [])) (input.callerIdNumber.or k.callerIdNumber)

def callerIdForQueue : Option JsString := composeCallerId k.callerIdName k.callerIdNumber

def confirmRequest (promptId : Option JsString) : ConfirmRequest where
  media := (resolveMediaRef none promptId k.settings.mediaRefs).getD k.settings.confirmPrompt
  acceptDigit := k.settings.confirmAcceptDigit
  attempts := max 1 k.settings.confirmAttempts
  timeoutMs := max 1 k.settings.confirmTimeoutMs

def spellNumber (value : JsString) : List JsString :=
  (value.filter isDigit).map fun u => k.settings.mediaRefs.promptPrefix ++ lit "digits/" ++ [u]

end PlanWalker

def planDestinationOf (body : PlanBody) : Option PlanDestination :=
  let entity (ref : Option JsString) : Option PlanDestination := some ⟨body.kind, ref⟩
  match body with
  | .extension q => entity q.extensionId
  | .ringGroup q => entity q.ringGroupId
  | .ivrMenu q => entity q.ivrMenuId
  | .queue q => entity q.queueId
  | .voicemail q => entity q.voicemailBoxId
  | .conference q => entity q.conferenceId
  | .park q => entity q.parkLotId
  | .featureCode q => entity q.featureCodeId
  | .trunkDial q => entity q.outboundRouteId
  | .external _ | .application _ | .playback _ => entity none
  | .timeCondition _ | .hangup _ => none

end OptimiqVoice.Engine

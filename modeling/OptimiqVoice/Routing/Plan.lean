import OptimiqVoice.Routing.Patterns
import OptimiqVoice.Routing.Snapshot
import OptimiqVoice.Telephony.HangupCauses

namespace OptimiqVoice.Routing

open Lib Telephony

abbrev PlanNodeId := JsString

structure FollowMeDestination where
  ordinal : Nat
  destination : JsString
  (delaySeconds timeoutSeconds : Int)
  confirmRequired : Bool
  targetNodeId : Option PlanNodeId
  dialedNumber : Option JsString
deriving DecidableEq

structure FollowMePlan where
  strategy : RingGroupStrategy
  ignoreBusy : Bool
  destinations : List FollowMeDestination
deriving DecidableEq

structure ExtensionPlan where
  (label extensionId number : JsString)
  (callerIdName callerIdNumber : Option JsString)
  tollClass : TollClass
  recordPolicy : RecordPolicy
  timeoutSeconds : Int
  doNotDisturb : Bool
  (pickupGroup mohClassId mohClass : Option JsString)
  (forwardAllNodeId busyNodeId noAnswerNodeId notRegisteredNodeId : Option PlanNodeId)
  followMe : Option FollowMePlan
deriving DecidableEq

structure RingGroupMember where
  (ordinal delaySeconds timeoutSeconds : Int)
  confirmRequired : Bool
  targetNodeId : PlanNodeId
deriving DecidableEq

structure RingGroupPlan where
  (label ringGroupId : JsString)
  strategy : RingGroupStrategy
  ringTimeoutSeconds : Int
  (ignoreBusy confirmEnabled : Bool)
  (confirmPromptId callerIdNamePrefix mohClassId mohClass ringbackPromptId : Option JsString)
  members : List RingGroupMember
  timeoutNodeId : Option PlanNodeId
deriving DecidableEq

structure IvrOption where
  ordinal : Int
  pattern : CompiledPattern
  matchValue : JsString
  label : Option JsString
  targetNodeId : PlanNodeId
deriving DecidableEq

structure IvrMenuPlan where
  (label ivrMenuId : JsString)
  (greetingPromptId shortGreetingPromptId invalidPromptId timeoutPromptId : Option JsString)
  (digitTimeoutMs interDigitTimeoutMs maxDigits maxFailures maxTimeouts : Int)
  directDialEnabled : Bool
  options : List IvrOption
  (timeoutNodeId invalidNodeId : Option PlanNodeId)
deriving DecidableEq

structure QueuePlan where
  (label queueId : JsString)
  strategy : QueueStrategy
  (mohClassId mohClass greetingPromptId announcePromptId : Option JsString)
  (maxWaitSeconds maxWaitNoAgentSeconds : Int)
  announcePositionEnabled : Bool
  announceFrequencySeconds : Int
  recordEnabled : Bool
  timeoutNodeId : Option PlanNodeId
deriving DecidableEq

structure VoicemailPlan where
  (label voicemailBoxId mailboxNumber : JsString)
  mode : VoicemailMode
  maxMessageSeconds : Int
  mwiEnabled : Bool
  greetingMedia : Option JsString
  greetingKind : Option VoicemailGreetingKind
  pinHash : Option JsString
deriving DecidableEq

structure ConferencePlan where
  (label conferenceId roomNumber : JsString)
  requiresPin : Bool
  maxMembers : Int
  (waitForModerator recordEnabled : Bool)
  (mohClassId mohClass pinHash moderatorPinHash : Option JsString)
  requiresModeratorPin : Bool
deriving DecidableEq

structure ParkPlan where
  (label parkLotId : JsString)
  (slotStart slotEnd timeoutSeconds : Int)
  (mohClassId mohClass : Option JsString)
  timeoutNodeId : Option PlanNodeId
deriving DecidableEq

structure ExternalPlan where
  destination : JsString
  viaOutboundRouting : Bool
deriving DecidableEq

structure TrunkAttempt where
  (trunkId name : JsString)
  kind : TrunkKind
  (sipDomain sipProxy : JsString)
  outboundProxy : Option JsString
  transport : SipTransport
  codecPrefs : Option JsString
  maxChannels : Option Int
  callerIdNumberOverride : Option JsString
  order : Int
  weight : Option Int
deriving DecidableEq

structure TrunkDialPlan where
  (label outboundRouteId : JsString)
  tollClass : TollClass
  attempts : List TrunkAttempt
  continueOnCauses : List HangupCause
  recordEnabled : Bool
  callerIdNumberOverride : Option JsString
  failoverNodeId : Option PlanNodeId
  emergency : Bool
  (emergencyAddressId elin : Option JsString)
deriving DecidableEq

structure ApplicationPlan where
  application : JsString
  args : Option Args
deriving DecidableEq

structure PlaybackPlan where
  (promptId media : Option JsString)
  thenNodeId : Option PlanNodeId
deriving DecidableEq

structure FeatureCodePlan where
  (label featureCodeId code : JsString)
  action : FeatureCodeAction
  params : Option Args
  targetNodeId : Option PlanNodeId
deriving DecidableEq

structure TimeConditionPlan where
  (label timeConditionId : JsString)
  matchNodeId : PlanNodeId
  noMatchNodeId : Option PlanNodeId
deriving DecidableEq

/-- The payload of a node; its id is the key it stands under. -/
inductive PlanBody where
  | extension (plan : ExtensionPlan)
  | ringGroup (plan : RingGroupPlan)
  | ivrMenu (plan : IvrMenuPlan)
  | queue (plan : QueuePlan)
  | voicemail (plan : VoicemailPlan)
  | conference (plan : ConferencePlan)
  | park (plan : ParkPlan)
  | external (plan : ExternalPlan)
  | trunkDial (plan : TrunkDialPlan)
  | application (plan : ApplicationPlan)
  | playback (plan : PlaybackPlan)
  | featureCode (plan : FeatureCodePlan)
  | timeCondition (plan : TimeConditionPlan)
  | hangup (cause : HangupCause)
deriving DecidableEq

structure PlanNode where
  id : PlanNodeId
  body : PlanBody
deriving DecidableEq

namespace PlanBody

def kind : PlanBody → JsString
  | .extension _ => lit "extension"
  | .ringGroup _ => lit "ring-group"
  | .ivrMenu _ => lit "ivr-menu"
  | .queue _ => lit "queue"
  | .voicemail _ => lit "voicemail"
  | .conference _ => lit "conference"
  | .park _ => lit "park"
  | .external _ => lit "external"
  | .trunkDial _ => lit "trunk-dial"
  | .application _ => lit "application"
  | .playback _ => lit "playback"
  | .featureCode _ => lit "feature-code"
  | .timeCondition _ => lit "time-condition"
  | .hangup _ => lit "hangup"

def label : PlanBody → Option JsString
  | .extension q => some q.label
  | .ringGroup q => some q.label
  | .ivrMenu q => some q.label
  | .queue q => some q.label
  | .voicemail q => some q.label
  | .conference q => some q.label
  | .park q => some q.label
  | .external q => some q.destination
  | .trunkDial q => some q.label
  | .application q => some q.application
  | .playback _ => none
  | .featureCode q => some q.label
  | .timeCondition q => some q.label
  | .hangup _ => none

def isIvrMenu : PlanBody → Bool
  | .ivrMenu _ => true
  | _ => false

end PlanBody

def followMeTargets (plan : ExtensionPlan) : List (Option PlanNodeId) :=
  ((plan.followMe.map (·.destinations)).getD []).map (·.targetNodeId)

def planNodeReferences (node : PlanNode) : List PlanNodeId :=
  match node.body with
  | .extension q =>
    ([q.forwardAllNodeId, q.busyNodeId, q.noAnswerNodeId, q.notRegisteredNodeId] ++
      followMeTargets q).filterMap id
  | .ringGroup q => (q.members.map (fun m => some m.targetNodeId) ++ [q.timeoutNodeId]).filterMap id
  | .ivrMenu q =>
    (q.options.map (fun o => some o.targetNodeId) ++
      [q.timeoutNodeId, q.invalidNodeId]).filterMap id
  | .queue q => [q.timeoutNodeId].filterMap id
  | .park q => [q.timeoutNodeId].filterMap id
  | .trunkDial q => [q.failoverNodeId].filterMap id
  | .playback q => [q.thenNodeId].filterMap id
  | .featureCode q => [q.targetNodeId].filterMap id
  | .timeCondition q => [some q.matchNodeId, q.noMatchNodeId].filterMap id
  | .voicemail _ | .conference _ | .external _ | .application _ | .hangup _ => []

end OptimiqVoice.Routing

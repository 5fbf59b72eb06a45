import OptimiqVoice.Routing.Json
import OptimiqVoice.Routing.Vocabulary

namespace OptimiqVoice.Routing

open Lib

inductive Scalar where
  | str (s : JsString)
  | num (i : Int)
  | bool (b : Bool)
deriving DecidableEq

def Scalar.text : Scalar → JsString
  | .str s => s
  | .num i => intText i
  | .bool b => boolText b

abbrev Args := List (JsString × Scalar)

/-- The type column is text, so a row can also hold one that routing does not know. -/
inductive DestinationType where
  | extension | ivr | ringGroup | queue | voicemail | conference | park | timeCondition
  | external | application | hangup
  | unknown (text : JsString)
deriving DecidableEq

def DestinationType.text : DestinationType → JsString
  | .extension => lit "extension"
  | .ivr => lit "ivr"
  | .ringGroup => lit "ring-group"
  | .queue => lit "queue"
  | .voicemail => lit "voicemail"
  | .conference => lit "conference"
  | .park => lit "park"
  | .timeCondition => lit "time-condition"
  | .external => lit "external"
  | .application => lit "application"
  | .hangup => lit "hangup"
  | .unknown text => text

structure DestinationData where
  value : Option JsString
  args : Option Args
  cause : Option JsString
deriving DecidableEq

structure DestinationInput where
  destinationType : DestinationType
  destinationRef : Nullable JsString
  destinationData : Nullable DestinationData
deriving DecidableEq

/-- One of a row's named trios, such as the timeout branch of a ring group. -/
structure NamedDestination where
  type : Nullable DestinationType
  ref : Nullable JsString
  data : Nullable DestinationData
deriving DecidableEq

structure TimeWindow where
  (start stop : JsString)
deriving DecidableEq

structure TimeRulePredicateInput where
  weekdays : Option (List Int)
  monthDays : Option (List Int)
  months : Option (List Int)
  weeksOfMonth : Option (List Int)
  (timeOfDay dateRange : Option TimeWindow)
deriving DecidableEq

structure FollowMeTargetInput where
  destination : Nullable JsString
  (delaySeconds timeoutSeconds : Option Int)
  confirm : Option Bool
deriving DecidableEq

structure FollowMeInput where
  enabled : Bool
  ignoreBusy : Option Bool
  targets : Nullable (List FollowMeTargetInput)
deriving DecidableEq

structure ExtensionInput where
  id : JsString
  enabled : Bool
  (number label : JsString)
  (callerIdName callerIdNumber outboundCallerIdName outboundCallerIdNumber : Nullable JsString)
  emergencyCallerIdNumber : Nullable JsString
  (voicemailEnabled doNotDisturb forwardAllEnabled : Bool)
  forwardAllDestination : Nullable JsString
  forwardBusyEnabled : Bool
  forwardBusyDestination : Nullable JsString
  forwardNoAnswerEnabled : Bool
  forwardNoAnswerDestination : Nullable JsString
  forwardUnregisteredEnabled : Bool
  forwardUnregisteredDestination : Nullable JsString
  followMe : Nullable FollowMeInput
  pickupGroup : Nullable JsString
  recordPolicy : RecordPolicy
  mohClassId : Nullable JsString
  tollClass : TollClass
  callTimeoutSeconds : Int
deriving DecidableEq

structure PhoneNumberInput where
  id : JsString
  enabled : Bool
  e164 : JsString
  (label callerIdNamePrefix : Nullable JsString)
  (recordEnabled voiceEnabled : Bool)
  emergencyAddressId : Nullable JsString
  destination : DestinationInput
deriving DecidableEq

structure TrunkInput where
  id : JsString
  enabled : Bool
  name : JsString
  kind : TrunkKind
  (sipDomain sipProxy : JsString)
  outboundProxy : Nullable JsString
  transport : SipTransport
  codecPrefs : Nullable JsString
  maxChannels : Nullable Int
  callerIdNumberOverride : Nullable JsString
deriving DecidableEq

structure TrunkPriorityInput where
  trunkId : JsString
  order : Int
  weight : Option Int
deriving DecidableEq

structure InboundRouteInput where
  id : JsString
  enabled : Bool
  name : JsString
  priority : Int
  matchKind : RouteMatchKind
  (matchPattern phoneNumberId callerIdPattern : Nullable JsString)
  failover : NamedDestination
  timeConditionId : Nullable JsString
  recordEnabled : Bool
  destination : DestinationInput
deriving DecidableEq

structure OutboundRouteInput where
  id : JsString
  enabled : Bool
  name : JsString
  priority : Int
  matchKind : RouteMatchKind
  dialPatterns : List JsString
  stripDigits : Int
  prependDigits : Nullable JsString
  tollClass : TollClass
  trunkPriority : List TrunkPriorityInput
  timeConditionId : Nullable JsString
  failover : NamedDestination
  callerIdNumberOverride : Nullable JsString
  recordEnabled : Bool
deriving DecidableEq

structure TimeConditionInput where
  id : JsString
  enabled : Bool
  (name timezone : JsString)
  destination : DestinationInput
  noMatch : NamedDestination
deriving DecidableEq

structure TimeConditionRuleInput where
  id : JsString
  enabled : Bool
  timeConditionId : JsString
  ordinal : Int
  label : Nullable JsString
  predicates : List TimeRulePredicateInput
deriving DecidableEq

structure IvrMenuInput where
  id : JsString
  enabled : Bool
  name : JsString
  (extensionNumber parentId greetingPromptId shortGreetingPromptId : Nullable JsString)
  (invalidPromptId timeoutPromptId : Nullable JsString)
  (digitTimeoutMs interDigitTimeoutMs maxDigits maxFailures maxTimeouts : Int)
  directDialEnabled : Bool
  (timeout invalid : NamedDestination)
deriving DecidableEq

structure IvrMenuOptionInput where
  id : JsString
  enabled : Bool
  ivrMenuId : JsString
  ordinal : Int
  matchKind : IvrOptionMatchKind
  matchValue : JsString
  label : Nullable JsString
  destination : DestinationInput
deriving DecidableEq

structure RingGroupInput where
  id : JsString
  enabled : Bool
  name : JsString
  extensionNumber : Nullable JsString
  strategy : RingGroupStrategy
  ringTimeoutSeconds : Int
  callerIdNamePrefix : Nullable JsString
  (ignoreBusy confirmEnabled : Bool)
  (confirmPromptId mohClassId ringbackPromptId : Nullable JsString)
  timeout : NamedDestination
deriving DecidableEq

structure RingGroupDestinationInput where
  id : JsString
  enabled : Bool
  ringGroupId : JsString
  (ordinal delaySeconds timeoutSeconds : Int)
  confirmRequired : Bool
  destination : DestinationInput
deriving DecidableEq

structure QueueInput where
  id : JsString
  enabled : Bool
  name : JsString
  extensionNumber : Nullable JsString
  strategy : QueueStrategy
  (mohClassId greetingPromptId announcePromptId : Nullable JsString)
  (maxWaitSeconds maxWaitNoAgentSeconds : Int)
  announcePositionEnabled : Bool
  announceFrequencySeconds : Int
  recordEnabled : Bool
  timeout : NamedDestination
deriving DecidableEq

structure VoicemailBoxInput where
  id : JsString
  enabled : Bool
  mailboxNumber : JsString
  (label extensionId : Nullable JsString)
  mwiEnabled : Bool
  maxMessageSeconds : Int
  pinHash : Nullable JsString
deriving DecidableEq

structure VoicemailGreetingInput where
  (id voicemailBoxId : JsString)
  kind : VoicemailGreetingKind
  objectKey : JsString
  active : Bool
  durationMs : Nullable Int
  label : Nullable JsString
deriving DecidableEq

structure MohClassInput where
  id : JsString
  enabled : Bool
  name : JsString
deriving DecidableEq

structure ConferenceInput where
  id : JsString
  enabled : Bool
  (name roomNumber : JsString)
  requiresPin : Bool
  maxMembers : Int
  mohClassId : Nullable JsString
  (waitForModerator recordEnabled : Bool)
  (pinHash moderatorPinHash : Nullable JsString)
  requiresModeratorPin : Option Bool
deriving DecidableEq

structure EmergencyAddressInput where
  (id label : JsString)
  validated : Bool
deriving DecidableEq

structure ParkLotInput where
  id : JsString
  enabled : Bool
  name : JsString
  (slotStart slotEnd timeoutSeconds : Int)
  mohClassId : Nullable JsString
  timeout : NamedDestination
deriving DecidableEq

structure FeatureCodeInput where
  id : JsString
  enabled : Bool
  code : JsString
  action : FeatureCodeAction
  params : Nullable Args
  label : Nullable JsString
deriving DecidableEq

structure CallBlockRuleInput where
  id : JsString
  enabled : Bool
  pattern : JsString
  matchKind : CallBlockMatchKind
  direction : CallBlockDirection
  action : CallBlockAction
  label : Nullable JsString
deriving DecidableEq

structure RoutingSettingsInput where
  defaultTimezone : Option JsString
  (voicemailPrefix voicemailCheckPrefix outboundCallerIdNumber : Nullable JsString)
  outboundCallerIdName : Nullable JsString
  trunkContinueOnCauses : Option (List JsString)
  outboundEnabled : Option Bool
  emergencyNumbers : Option (List JsString)
deriving DecidableEq

structure OrgRoutingSnapshot where
  organizationId : JsString
  settings : Option RoutingSettingsInput
  extensions : List ExtensionInput
  phoneNumbers : List PhoneNumberInput
  trunks : List TrunkInput
  inboundRoutes : List InboundRouteInput
  outboundRoutes : List OutboundRouteInput
  timeConditions : List TimeConditionInput
  timeConditionRules : List TimeConditionRuleInput
  ivrMenus : List IvrMenuInput
  ivrMenuOptions : List IvrMenuOptionInput
  ringGroups : List RingGroupInput
  ringGroupDestinations : List RingGroupDestinationInput
  queues : List QueueInput
  voicemailBoxes : List VoicemailBoxInput
  voicemailGreetings : Option (List VoicemailGreetingInput)
  mohClasses : Option (List MohClassInput)
  conferences : List ConferenceInput
  parkLots : List ParkLotInput
  featureCodes : List FeatureCodeInput
  callBlockRules : List CallBlockRuleInput
  emergencyAddresses : Option (List EmergencyAddressInput)
deriving DecidableEq

def emptySnapshot (organizationId : JsString) : OrgRoutingSnapshot where
  organizationId := organizationId
  settings := none
  extensions := []
  phoneNumbers := []
  trunks := []
  inboundRoutes := []
  outboundRoutes := []
  timeConditions := []
  timeConditionRules := []
  ivrMenus := []
  ivrMenuOptions := []
  ringGroups := []
  ringGroupDestinations := []
  queues := []
  voicemailBoxes := []
  voicemailGreetings := some []
  mohClasses := some []
  conferences := []
  parkLots := []
  featureCodes := []
  callBlockRules := []
  emergencyAddresses := some []

/-- Row ids are the primary keys of the tables the rows come from. -/
structure DistinctIds (s : OrgRoutingSnapshot) : Prop where
  extensions : (s.extensions.map (·.id)).Nodup
  phoneNumbers : (s.phoneNumbers.map (·.id)).Nodup
  trunks : (s.trunks.map (·.id)).Nodup
  inboundRoutes : (s.inboundRoutes.map (·.id)).Nodup
  outboundRoutes : (s.outboundRoutes.map (·.id)).Nodup
  timeConditions : (s.timeConditions.map (·.id)).Nodup
  timeConditionRules : (s.timeConditionRules.map (·.id)).Nodup
  ivrMenus : (s.ivrMenus.map (·.id)).Nodup
  ivrMenuOptions : (s.ivrMenuOptions.map (·.id)).Nodup
  ringGroups : (s.ringGroups.map (·.id)).Nodup
  ringGroupDestinations : (s.ringGroupDestinations.map (·.id)).Nodup
  queues : (s.queues.map (·.id)).Nodup
  voicemailBoxes : (s.voicemailBoxes.map (·.id)).Nodup
  voicemailGreetings : ((s.voicemailGreetings.getD []).map (·.id)).Nodup
  mohClasses : ((s.mohClasses.getD []).map (·.id)).Nodup
  conferences : (s.conferences.map (·.id)).Nodup
  parkLots : (s.parkLots.map (·.id)).Nodup
  featureCodes : (s.featureCodes.map (·.id)).Nodup
  callBlockRules : (s.callBlockRules.map (·.id)).Nodup
  emergencyAddresses : ((s.emergencyAddresses.getD []).map (·.id)).Nodup

end OptimiqVoice.Routing

import OptimiqVoice.Lib.Record
import OptimiqVoice.Routing.Cache
import OptimiqVoice.Routing.Diagnostics
import OptimiqVoice.Routing.FeatureCodes
import OptimiqVoice.Routing.Plan
import OptimiqVoice.Routing.TimeConditions

namespace OptimiqVoice.Routing

open Lib

inductive RoutingContext where
  | inbound | internal | outbound
deriving DecidableEq

structure RouteTimeGate where
  timeConditionId : JsString
  closedNodeId : Option PlanNodeId

structure InboundRule where
  (id name : JsString)
  priority : Int
  (phoneNumberId e164 : Option JsString)
  pattern : CompiledPattern
  callerPattern : Option CompiledPattern
  timeGate : Option RouteTimeGate
  recordEnabled : Bool
  destinationNodeId : PlanNodeId
  failoverNodeId : Option PlanNodeId
  callerIdNamePrefix : Option JsString

structure InboundDidDefault where
  (phoneNumberId e164 : JsString)
  (enabled recordEnabled : Bool)
  callerIdNamePrefix : Option JsString
  destinationNodeId : PlanNodeId
deriving DecidableEq

structure InboundMatchTable where
  rules : List InboundRule
  didDefaults : Record InboundDidDefault
  noMatchNodeId : PlanNodeId

inductive InternalNumberKind where
  | extension | ringGroup | ivrMenu | queue | conference

def InternalNumberKind.text : InternalNumberKind → JsString
  | .extension => lit "extension"
  | .ringGroup => lit "ring-group"
  | .ivrMenu => lit "ivr-menu"
  | .queue => lit "queue"
  | .conference => lit "conference"

structure InternalNumberEntry where
  number : JsString
  kind : InternalNumberKind
  entityId : JsString
  nodeId : PlanNodeId

structure ParkSlotRange where
  parkLotId : JsString
  (slotStart slotEnd : Int)
  nodeId : PlanNodeId

structure VoicemailPrefixEntry where
  digits : JsString
  mode : VoicemailMode

structure MailboxEntry where
  (voicemailBoxId mailboxNumber : JsString)
  (leaveNodeId checkNodeId : PlanNodeId)
deriving DecidableEq

structure EmergencyRule where
  (dialed number : JsString)
  destinationNodeId : PlanNodeId
deriving DecidableEq

structure InternalMatchTable where
  emergency : Option (Record EmergencyRule)
  featureCodes : List CompiledFeatureCode
  voicemailPrefixes : List VoicemailPrefixEntry
  mailboxes : Record MailboxEntry
  numbers : Record InternalNumberEntry
  parkSlots : List ParkSlotRange
  noMatchNodeId : PlanNodeId

structure OutboundRule where
  (id name : JsString)
  priority : Int
  patterns : List CompiledPattern
  tollClass : TollClass
  stripDigits : Int
  prependDigits : Option JsString
  timeGate : Option RouteTimeGate
  recordEnabled : Bool
  callerIdNumberOverride : Option JsString
  destinationNodeId : PlanNodeId

structure OutboundMatchTable where
  rules : List OutboundRule
  emergency : Option (Record EmergencyRule)
  enabled : Bool
  (noMatchNodeId deniedNodeId : PlanNodeId)

structure CompiledCallBlockRule where
  id : JsString
  pattern : CompiledPattern
  direction : CallBlockDirection
  action : CallBlockAction
  label : Option JsString

structure ExtensionIndexEntry where
  (extensionId number : JsString)
  tollClass : TollClass
  enabled : Bool
  (outboundCallerIdNumber outboundCallerIdName emergencyCallerIdNumber : Option JsString)
  pickupGroup : Option JsString
  nodeId : PlanNodeId

structure CompiledRoutingSettings where
  defaultTimezone : JsString
  outboundEnabled : Bool
  (outboundCallerIdNumber outboundCallerIdName : Option JsString)

structure RoutingArtifact where
  artifactVersion : Nat
  (organizationId snapshotHash compiledAt : JsString)
  settings : CompiledRoutingSettings
  nodes : Record PlanNode
  timeConditions : Record CompiledTimeCondition
  inbound : InboundMatchTable
  internal : InternalMatchTable
  outbound : OutboundMatchTable
  callBlock : List CompiledCallBlockRule
  extensionsByNumber : Record ExtensionIndexEntry
  diagnostics : List Diagnostic

def routingArtifactVersion : Nat := 1

def isArtifactFresh (artifact : RoutingArtifact) (s : OrgRoutingSnapshot) : Bool :=
  artifact.organizationId = s.organizationId && artifact.snapshotHash = snapshotHash s

end OptimiqVoice.Routing

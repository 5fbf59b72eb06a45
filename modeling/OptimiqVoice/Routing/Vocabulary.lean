import OptimiqVoice.Lib.Text

namespace OptimiqVoice.Routing

open Lib

inductive TollClass where
  | internal | localClass | national | international | premium
deriving DecidableEq

def TollClass.text : TollClass → JsString
  | .internal => lit "internal"
  | .localClass => lit "local"
  | .national => lit "national"
  | .international => lit "international"
  | .premium => lit "premium"

def TollClass.rank : TollClass → Nat
  | .internal => 0
  | .localClass => 1
  | .national => 2
  | .international => 3
  | .premium => 4

def tollClassCovers (holder required : TollClass) : Bool := required.rank ≤ holder.rank

inductive RecordPolicy where
  | none | inbound | outbound | all | onDemand
deriving DecidableEq

def RecordPolicy.text : RecordPolicy → JsString
  | .none => lit "none"
  | .inbound => lit "inbound"
  | .outbound => lit "outbound"
  | .all => lit "all"
  | .onDemand => lit "on-demand"

inductive RouteMatchKind where
  | exact | prefixed | regex | any
deriving DecidableEq

def RouteMatchKind.text : RouteMatchKind → JsString
  | .exact => lit "exact"
  | .prefixed => lit "prefix"
  | .regex => lit "regex"
  | .any => lit "any"

inductive RingGroupStrategy where
  | simultaneous | sequential
deriving DecidableEq

def RingGroupStrategy.text : RingGroupStrategy → JsString
  | .simultaneous => lit "simultaneous"
  | .sequential => lit "sequential"

inductive QueueStrategy where
  | longestIdle | ringAll | roundRobin | topDown | sequential | random
deriving DecidableEq

def QueueStrategy.text : QueueStrategy → JsString
  | .longestIdle => lit "longest-idle"
  | .ringAll => lit "ring-all"
  | .roundRobin => lit "round-robin"
  | .topDown => lit "top-down"
  | .sequential => lit "sequential"
  | .random => lit "random"

inductive IvrOptionMatchKind where
  | digit | regex
deriving DecidableEq

def IvrOptionMatchKind.text : IvrOptionMatchKind → JsString
  | .digit => lit "digit"
  | .regex => lit "regex"

inductive VoicemailGreetingKind where
  | unavailable | busy | name | temporary
deriving DecidableEq

def VoicemailGreetingKind.text : VoicemailGreetingKind → JsString
  | .unavailable => lit "unavailable"
  | .busy => lit "busy"
  | .name => lit "name"
  | .temporary => lit "temporary"

inductive VoicemailMode where
  | leave | check
deriving DecidableEq

def VoicemailMode.text : VoicemailMode → JsString
  | .leave => lit "leave"
  | .check => lit "check"

inductive FeatureCodeAction where
  | voicemailCheck | voicemailDirect | voicemailRecordGreeting | callPark | callPickup
  | groupPickup | callForwardAll | callForwardBusy | callForwardNoAnswer | doNotDisturb
  | followMe | intercom | paging | recordToggle | redial | echoTest | queueToggle | agentStatus
  | eavesdrop | transfer
deriving DecidableEq

def FeatureCodeAction.text : FeatureCodeAction → JsString
  | .voicemailCheck => lit "voicemail-check"
  | .voicemailDirect => lit "voicemail-direct"
  | .voicemailRecordGreeting => lit "voicemail-record-greeting"
  | .callPark => lit "call-park"
  | .callPickup => lit "call-pickup"
  | .groupPickup => lit "group-pickup"
  | .callForwardAll => lit "call-forward-all"
  | .callForwardBusy => lit "call-forward-busy"
  | .callForwardNoAnswer => lit "call-forward-no-answer"
  | .doNotDisturb => lit "do-not-disturb"
  | .followMe => lit "follow-me"
  | .intercom => lit "intercom"
  | .paging => lit "paging"
  | .recordToggle => lit "record-toggle"
  | .redial => lit "redial"
  | .echoTest => lit "echo-test"
  | .queueToggle => lit "queue-toggle"
  | .agentStatus => lit "agent-status"
  | .eavesdrop => lit "eavesdrop"
  | .transfer => lit "transfer"

inductive CallBlockDirection where
  | inbound | outbound | both
deriving DecidableEq

def CallBlockDirection.text : CallBlockDirection → JsString
  | .inbound => lit "inbound"
  | .outbound => lit "outbound"
  | .both => lit "both"

inductive CallBlockAction where
  | block | allow | reject | voicemail
deriving DecidableEq

def CallBlockAction.text : CallBlockAction → JsString
  | .block => lit "block"
  | .allow => lit "allow"
  | .reject => lit "reject"
  | .voicemail => lit "voicemail"

inductive CallBlockMatchKind where
  | exact | prefixed | regex
deriving DecidableEq

def CallBlockMatchKind.text : CallBlockMatchKind → JsString
  | .exact => lit "exact"
  | .prefixed => lit "prefix"
  | .regex => lit "regex"

inductive TrunkKind where
  | register | ipAuth
deriving DecidableEq

def TrunkKind.text : TrunkKind → JsString
  | .register => lit "register"
  | .ipAuth => lit "ip-auth"

inductive SipTransport where
  | udp | tcp | tls | ws | wss
deriving DecidableEq

def SipTransport.text : SipTransport → JsString
  | .udp => lit "udp"
  | .tcp => lit "tcp"
  | .tls => lit "tls"
  | .ws => lit "ws"
  | .wss => lit "wss"

end OptimiqVoice.Routing

import OptimiqVoice.Engine.TrunkOffers
import OptimiqVoice.Engine.Walk
import OptimiqVoice.Routing.Compile.Run

namespace OptimiqVoice.Calls

open Lib Telephony Routing Engine

section routing

inductive CallDirection where
  | inbound | outbound | internal
deriving DecidableEq

/-- What the orchestrator reads off a leg that arrives, or that it originated and
that has answered. -/
structure RoutedLeg where
  dialedVariable : Option JsString := none
  routingContext : Option JsString := none
  direction : CallDirection := .inbound
  dialedNumber : Option JsString := none
  callerNumber : Option JsString := none
  callerName : Option JsString := none

def unknownDialString : JsString := lit "unknown"

def dialStringOr (value : Option JsString) : JsString := (nonBlank value).getD unknownDialString

variable (p : Platform) (artifact : RoutingArtifact) (now : Int)

def resolveRoute (leg : RoutedLeg) : Option ResolvedRoute :=
  let dialed := dialStringOr (leg.dialedVariable.or leg.dialedNumber)
  let caller := leg.callerNumber.map trim
  let outbound := resolveOutbound p artifact ⟨caller.getD [], dialed, now, none⟩
  if leg.routingContext = some (lit "outbound") ∨ leg.direction = .outbound then outbound
  else if leg.routingContext = some (lit "internal") ∨ leg.direction = .internal then do
    let internal ← resolveInternal p artifact ⟨caller.getD [], dialed, now⟩
    if internal.matched then some internal else outbound
  else resolveInbound p artifact
    ⟨dialed, caller.filter (!·.isEmpty), (leg.callerName.map trim).filter (!·.isEmpty), now⟩

def routedInput (leg : RoutedLeg) (route : ResolvedRoute) : WalkInput where
  plan := route.plan
  timeConditions := some artifact.timeConditions
  now := some now
  dialedNumber := route.dialedNumber
  originalDialedNumber := leg.dialedVariable.or leg.dialedNumber
  callerIdNumber := route.callerIdNumber
  callerIdName := route.callerIdName
  featureArgument := route.featureArgument
  mailboxes := some artifact.internal.mailboxes

structure RouteRequest where
  destination : JsString
  context : Option JsString := none
  callerIdNumber : Option JsString := none
  callerIdName : Option JsString := none

/-- The resolution in `routeLeg`, of a leg with this number of its own. -/
def resolveRequest (request : RouteRequest) (profileNumber : Option JsString) : Option ResolvedRoute :=
  let from' := (request.callerIdNumber.or profileNumber).getD []
  if request.context.getD (lit "internal") = lit "outbound" then
    resolveOutbound p artifact ⟨from', request.destination, now, none⟩
  else resolveInternal p artifact ⟨from', request.destination, now⟩

def routeLegInput (request : RouteRequest) (resolved : ResolvedRoute) : WalkInput where
  plan := resolved.plan
  timeConditions := some artifact.timeConditions
  now := some now
  dialedNumber := resolved.dialedNumber
  originalDialedNumber := some request.destination
  callerIdNumber := request.callerIdNumber
  callerIdName := request.callerIdName
  featureArgument := resolved.featureArgument
  mailboxes := some artifact.internal.mailboxes

/-- The two ways to a walk: a call that arrives or was clicked, and a leg that is
up and is routed again (a transfer, a consultation, a park ringing back). -/
inductive Entry where
  | arriving (leg : RoutedLeg)
  | rerouted (request : RouteRequest) (profileNumber : Option JsString)

namespace Entry

def resolve : Entry → Option ResolvedRoute
  | .arriving leg => resolveRoute p artifact now leg
  | .rerouted request profileNumber => resolveRequest p artifact now request profileNumber

def input (route : ResolvedRoute) : Entry → WalkInput
  | .arriving leg => routedInput artifact now leg route
  | .rerouted request _ => routeLegInput artifact now request route

end Entry

end routing

/-- A call the resolver takes for an emergency, with the node it is sent to. -/
structure EmergencyCall (p : Platform) where
  artifact : RoutingArtifact
  now : Int
  entry : Entry
  rule : EmergencyRule
  context : RoutingContext
  from' : JsString
  nodeId : PlanNodeId
  plan : TrunkDialPlan
  resolved : entry.resolve p artifact now = some (resolveEmergency artifact (.own rule) context from')
  node : artifact.nodes.lookup rule.destinationNodeId = .own ⟨nodeId, .trunkDial plan⟩
  emergency : plan.emergency = true

namespace EmergencyCall

variable {p : Platform} (call : EmergencyCall p)

def route : ResolvedRoute := resolveEmergency call.artifact (.own call.rule) call.context call.from'

def input : WalkInput := call.entry.input call.artifact call.now call.route

/-- The identity of the caller that an emergency is to present: the number of the
extension for emergencies, else the location's, else the organization's. -/
def identity : Option JsString :=
  (((call.artifact.extensionsByNumber.lookup call.from').field (·.emergencyCallerIdNumber)).or call.plan.elin).or
    call.artifact.settings.outboundCallerIdNumber

def keepsIdentity : Bool :=
  match call.entry with
  | .arriving _ => true
  | .rerouted request _ => nonBlank (request.callerIdNumber.or call.plan.elin) = nonBlank call.identity

def Presents (k : PlanWalker) : Prop :=
  ∀ number, ∀ trunk ∈ call.plan.attempts, (k.trunkAttempt call.plan call.input number trunk).callerId =
    composeCallerId call.input.callerIdName call.identity

variable {call} {k : PlanWalker}

theorem composeCallerId_inj {name a b : Option JsString} :
    composeCallerId name a = composeCallerId name b ↔ nonBlank a = nonBlank b := by
  unfold composeCallerId
  refine ⟨fun h => ?_, fun h => by rw [h]⟩
  have hopen : lit " <" ≠ [] := by decide
  cases ha : nonBlank a <;> cases hb : nonBlank b <;> cases hn : nonBlank name <;> simp_all

theorem identity_or_elin : call.identity.or call.plan.elin = call.identity := by
  unfold identity
  cases (call.artifact.extensionsByNumber.lookup call.from').field (·.emergencyCallerIdNumber) <;>
    cases call.plan.elin <;> cases call.artifact.settings.outboundCallerIdNumber <;> rfl

theorem route_callerIdNumber : call.route.callerIdNumber = call.identity := by
  have hnode : nodeAt call.artifact (some call.rule.destinationNodeId) = .own ⟨call.nodeId, .trunkDial call.plan⟩ :=
    call.node
  simp [route, resolveEmergency, identity, Lookup.field, hnode, elinOf]

theorem input_dialedNumber : call.input.dialedNumber = some call.rule.number := by
  unfold input Entry.input
  split <;> rfl

theorem keepsIdentity_iff : call.keepsIdentity = true ↔
    nonBlank (call.input.callerIdNumber.or call.plan.elin) = nonBlank call.identity := by
  cases he : call.entry with
  | arriving leg =>
    have hin : call.input.callerIdNumber = call.identity := by
      rw [input, he]
      exact route_callerIdNumber
    rw [hin, identity_or_elin]
    simp [keepsIdentity, he]
  | rerouted request profileNumber =>
    have hin : call.input.callerIdNumber = request.callerIdNumber := by rw [input, he]; rfl
    simp [keepsIdentity, he, hin]

theorem presents_iff : call.Presents k ↔ call.plan.attempts = [] ∨ call.keepsIdentity = true := by
  have hcaller : ∀ number trunk, (k.trunkAttempt call.plan call.input number trunk).callerId =
      composeCallerId call.input.callerIdName (call.input.callerIdNumber.or call.plan.elin) := by
    intro number trunk
    simp [PlanWalker.trunkAttempt, call.emergency]
  simp only [Presents, hcaller, composeCallerId_inj, keepsIdentity_iff]
  cases call.plan.attempts with
  | nil => simp
  | cons trunk rest => exact ⟨fun h => .inr (h [] trunk (.head _)), fun h _ _ _ => h.resolve_left (by simp)⟩

end EmergencyCall

section sample

def carrier : TrunkAttempt where
  trunkId := lit "t1"
  name := lit "carrier"
  kind := .ipAuth
  sipDomain := lit "sip.example"
  sipProxy := lit "sip.example"
  outboundProxy := none
  transport := .udp
  codecPrefs := none
  maxChannels := some 1
  callerIdNumberOverride := none
  order := 0
  weight := none

def emergencyPlan : TrunkDialPlan where
  label := lit "Emergency"
  outboundRouteId := emergencyRouteId
  tollClass := .internal
  attempts := [carrier]
  continueOnCauses := emergencyContinueOnCauses
  recordEnabled := false
  callerIdNumberOverride := none
  failoverNodeId := none
  emergency := true
  emergencyAddressId := none
  elin := none

def emergencyRule : EmergencyRule := ⟨lit "911", lit "911", emergencyNodeId⟩

def warehouse : ExtensionIndexEntry where
  extensionId := lit "e1"
  number := lit "101"
  tollClass := .internal
  enabled := true
  outboundCallerIdNumber := none
  outboundCallerIdName := none
  emergencyCallerIdNumber := some (lit "15550101")
  pickupGroup := none
  nodeId := lit "extension:e1"

def oneTrunkArtifact : RoutingArtifact where
  artifactVersion := routingArtifactVersion
  organizationId := lit "org"
  snapshotHash := []
  compiledAt := []
  settings := ⟨lit "UTC", true, some (lit "15550100"), none⟩
  nodes := Record.fromEntries (Dict.empty.set emergencyNodeId ⟨emergencyNodeId, .trunkDial emergencyPlan⟩)
  timeConditions := Record.empty
  inbound := ⟨[], Record.empty, []⟩
  internal := ⟨some (Record.fromEntries (Dict.empty.set (lit "911") emergencyRule)), [], [], Record.empty, Record.empty,
    [], []⟩
  outbound := ⟨[], none, true, [], []⟩
  callBlock := []
  extensionsByNumber := Record.fromEntries (Dict.empty.set (lit "101") warehouse)
  diagnostics := []

/-- The desk transfers a caller to the emergency number. The transfer passes on the
caller's own number. -/
def transferred : EmergencyCall Compile.samplePlatform where
  artifact := oneTrunkArtifact
  now := 0
  entry := .rerouted { destination := lit "911", callerIdNumber := some (lit "101") } none
  rule := emergencyRule
  context := .internal
  from' := lit "101"
  nodeId := emergencyNodeId
  plan := emergencyPlan
  resolved := by decide +kernel
  node := by decide
  emergency := rfl

def dialled : EmergencyCall Compile.samplePlatform where
  artifact := oneTrunkArtifact
  now := 0
  entry := .arriving
    { direction := .internal, dialedNumber := some (lit "911"), callerNumber := some (lit "101") }
  rule := emergencyRule
  context := .internal
  from' := lit "101"
  nodeId := emergencyNodeId
  plan := emergencyPlan
  resolved := by decide +kernel
  node := by decide
  emergency := rfl

def emergencyWalker : PlanWalker where
  platform := Compile.samplePlatform
  callId := lit "call-1"

def channelTaken : WalkWorld := ⟨⟨⟨false, false, false⟩, 0, none, {}⟩, [{}, {}, { granted := false }], []⟩

end sample

end OptimiqVoice.Calls

import OptimiqVoice.Routing.CallBlock
import OptimiqVoice.Routing.Emergency

namespace OptimiqVoice.Routing

open Lib

def maxGateDepth : Nat := 16

/-- Instants are milliseconds since the epoch, as in the rest of the platform. -/
structure ResolveInboundInput where
  did : JsString
  (callerNumber callerName : Option JsString)
  now : Int

structure ResolveInternalInput where
  (from' dialed : JsString)
  now : Int

structure ResolveOutboundInput where
  (from' dialed : JsString)
  now : Int
  tollClass : Option TollClass

structure BlockOutcome where
  ruleId : JsString
  action : CallBlockAction
  label : Option JsString
deriving DecidableEq

/-- An entry read from an inherited member is `undefined`, hence the option. -/
structure ExecutionPlan where
  entryNodeId : Option PlanNodeId
  nodes : Record PlanNode
deriving DecidableEq

structure ResolvedRoute where
  matched : Bool
  context : RoutingContext
  plan : ExecutionPlan
  matchedRuleId : Option JsString := none
  matchedRuleName : Option JsString := none
  dialedNumber : Option JsString := none
  featureArgument : Option JsString := none
  callerIdName : Option JsString := none
  callerIdNumber : Option JsString := none
  captures : Option (List JsString) := none
  recordEnabled : Option Bool := none
  blocked : Option BlockOutcome := none
  reason : Option JsString
  diagnostics : List Diagnostic
deriving DecidableEq

variable (artifact : RoutingArtifact)

def planFrom (entryNodeId : Option PlanNodeId) : ExecutionPlan :=
  ⟨entryNodeId, artifact.nodes⟩

def blockTerminalNodeId : CallBlockAction → Option PlanNodeId
  | .block => some (lit "hangup:CALL_REJECTED")
  | .reject => some (lit "hangup:USER_BUSY")
  | _ => none

def compactOutcome (rule : CompiledCallBlockRule) : BlockOutcome :=
  ⟨rule.id, rule.action, rule.label⟩

/-- How a template literal prints a value that may be `undefined`. -/
def printed (value : Option JsString) : JsString := value.getD (lit "undefined")

def nodeAt (id : Option PlanNodeId) : Lookup PlanNode :=
  artifact.nodes.lookup (printed id)

def elinOf : PlanNode → Option JsString
  | ⟨_, .trunkDial q⟩ => q.elin
  | _ => none

def resolveEmergency (rule : Lookup EmergencyRule)
    (context : RoutingContext) (from' : JsString) : ResolvedRoute :=
  let caller := artifact.extensionsByNumber.lookup from'
  let destinationNodeId := rule.field (fun r => some r.destinationNodeId)
  let dialed := rule.field (fun r => some r.dialed)
  let number := rule.field (fun r => some r.number)
  let elin := (nodeAt artifact destinationNodeId).field elinOf
  let callerIdNumber := ((caller.field (·.emergencyCallerIdNumber)).or elin).or
    artifact.settings.outboundCallerIdNumber
  { matched := true
    context := context
    plan := planFrom artifact destinationNodeId
    matchedRuleId := some (lit "emergency")
    matchedRuleName := dialed
    dialedNumber := number
    callerIdNumber := callerIdNumber
    callerIdName := (caller.field (·.outboundCallerIdName)).or
      artifact.settings.outboundCallerIdName
    reason := some (lit "emergency call to " ++ printed dialed)
    diagnostics := [⟨.info, .emergencyCall,
      printed dialed ++ lit " matched the emergency table; it dials " ++ printed number ++
        lit " presenting " ++ callerIdNumber.getD (lit "no caller id") ++
        lit ", bypassing the outbound kill switch, the toll-class gate, the call-block table " ++
        lit "and every time condition.", none, none⟩] }

def missingConditionDiagnostic (id : JsString) : Diagnostic :=
  ⟨.warning, .missingTimeCondition, lit "Time condition " ++ quoted id ++
      lit " is missing from the artifact; the gate was treated as open.", none, none⟩

def evaluationDiagnostic (condition : CompiledTimeCondition)
    (evaluation : TimeConditionEvaluation) : Diagnostic :=
  ⟨.info, if evaluation.matched then .timeConditionOpen else .timeConditionClosed,
    lit "Time condition " ++ quoted condition.name ++ lit " evaluated " ++
      (if evaluation.matched then lit "open" else lit "closed") ++ lit " at " ++
      evaluation.at'.date ++ lit " " ++ pad2 evaluation.at'.hour.toNat ++ lit ":" ++
      pad2 evaluation.at'.minute.toNat ++ lit " " ++ condition.timezone ++ lit ".",
    some ⟨lit "time-condition", condition.id, some condition.name⟩, none⟩

variable (p : Platform)

/-- Whether a named condition lets the call through, with what is reported. A
member inherited from the prototype has no rules, and iterating them throws. -/
def conditionOpen (artifact : RoutingArtifact) (id : JsString) (now : Int) :
    Option (Bool × Diagnostic) :=
  match artifact.timeConditions.lookup id with
  | .undefined => some (true, missingConditionDiagnostic id)
  | .inherited => none
  | .own condition =>
    let evaluation := evaluateTimeCondition p condition now
    some (evaluation.matched, evaluationDiagnostic condition evaluation)

/-- Follow time-condition nodes for `depth` more steps. -/
def followGatesFrom (p : Platform) (artifact : RoutingArtifact) (now : Int) :
    Nat → Option PlanNodeId → List Diagnostic → Option (Option PlanNodeId × List Diagnostic)
  | 0, nodeId, diagnostics => some (nodeId, diagnostics ++ [⟨.warning, .planDepthExceeded,
        lit "Followed " ++ natText maxGateDepth ++ lit " time-condition gates without reaching " ++
          lit "a destination; the chain is a loop.", none, none⟩])
  | depth + 1, nodeId, diagnostics =>
    match nodeAt artifact nodeId with
    | .own ⟨_, .timeCondition q⟩ => do
      let (isOpen, diagnostic) ← conditionOpen p artifact q.timeConditionId now
      match if isOpen then some q.matchNodeId else q.noMatchNodeId with
      | none => some (some (lit "hangup:NORMAL_CLEARING"), diagnostics ++ [diagnostic])
      | some next => followGatesFrom p artifact now depth (some next) (diagnostics ++ [diagnostic])
    | _ => some (nodeId, diagnostics)

def followGates (artifact : RoutingArtifact) (entryNodeId : Option PlanNodeId)
    (now : Int) : Option (Option PlanNodeId × List Diagnostic) :=
  followGatesFrom p artifact now maxGateDepth entryNodeId []

inductive GateOutcome where
  | isOpen
  | isClosed (closedNodeId : Option PlanNodeId)

def gateOutcome (artifact : RoutingArtifact) (gate : Option RouteTimeGate)
    (now : Int) : Option (GateOutcome × List Diagnostic) :=
  match gate with
  | none => some (.isOpen, [])
  | some gate => do
    let (isOpen, diagnostic) ← conditionOpen p artifact gate.timeConditionId now
    pure (if isOpen then .isOpen else .isClosed gate.closedNodeId, [diagnostic])

def callBlockedDiagnostic (call : JsString) (rule : CompiledCallBlockRule) : Diagnostic :=
  ⟨.info, .callBlocked,
    call ++ lit " matched call-block rule " ++ quoted (rule.label.getD rule.id) ++ lit " (" ++
      rule.action.text ++ lit ").", some ⟨lit "call-block-rule", rule.id, none⟩, none⟩

/-- The rule that screens a call, unless it lets the call through. -/
def screeningRule (artifact : RoutingArtifact) (value : Option JsString)
    (direction : CallBlockDirection) : Option CompiledCallBlockRule :=
  (checkCallBlock p artifact.callBlock value direction).filter (fun rule => rule.action ≠ .allow)

def blockedRoute (context : RoutingContext)
    (rule : CompiledCallBlockRule) (terminal : PlanNodeId) (diagnostics : List Diagnostic) :
    ResolvedRoute :=
  { matched := true
    context := context
    plan := planFrom artifact (some terminal)
    blocked := some (compactOutcome rule)
    reason := some (lit "blocked by call-block rule " ++ rule.id)
    diagnostics := diagnostics }

def nonEmpty {α : Type} (values : List α) : Option (List α) :=
  if 0 < values.length then some values else none

def matchInboundRule (rule : InboundRule) (input : ResolveInboundInput) : Option (List JsString) :=
  if rule.e164.all (· = input.did) then do
    let captures ← matchPattern p rule.pattern input.did
    match rule.callerPattern with
    | none => some captures
    | some callerPattern => do
      let callerNumber ← input.callerNumber
      let _ ← matchPattern p callerPattern callerNumber
      some captures
  else none

def prefixedCallerName (digits name : Option JsString) : Option JsString :=
  match digits with
  | none => name
  | some text => some (text ++ name.getD [])

def finishInbound (artifact : RoutingArtifact) (rule : InboundRule)
    (entryNodeId : PlanNodeId) (captures : List JsString) (input : ResolveInboundInput)
    (diagnostics : List Diagnostic) (blocked : Option BlockOutcome) (reason : Option JsString) :
    Option ResolvedRoute := do
  let (nodeId, walked) ← followGates p artifact (some entryNodeId) input.now
  pure
    { matched := true
      context := .inbound
      plan := planFrom artifact nodeId
      matchedRuleId := some rule.id
      matchedRuleName := some rule.name
      recordEnabled := some rule.recordEnabled
      captures := nonEmpty captures
      callerIdName := prefixedCallerName rule.callerIdNamePrefix input.callerName
      callerIdNumber := input.callerNumber
      blocked := blocked
      reason := some (reason.getD (lit "matched inbound route " ++ quoted rule.name))
      diagnostics := diagnostics ++ walked }

/-- What the DID itself is pointed at, for a call that took no rule. -/
def inboundDefault (artifact : RoutingArtifact) (input : ResolveInboundInput)
    (blocked : Option BlockOutcome) (diagnostics : List Diagnostic) : Option ResolvedRoute :=
  let did := artifact.inbound.didDefaults.lookup input.did
  if did.isDefined then do
    let (nodeId, walked) ← followGates p artifact (did.field (fun d => some d.destinationNodeId))
      input.now
    pure
      { matched := true
        context := .inbound
        plan := planFrom artifact nodeId
        matchedRuleId := did.field (fun d => some d.phoneNumberId)
        matchedRuleName := did.field (fun d => some d.e164)
        recordEnabled := did.field (fun d => some d.recordEnabled)
        callerIdName := prefixedCallerName (did.field (·.callerIdNamePrefix)) input.callerName
        callerIdNumber := input.callerNumber
        blocked := blocked
        reason := some (lit "matched the DID's own destination")
        diagnostics := diagnostics ++ walked }
  else
    some
      { matched := false
        context := .inbound
        plan := planFrom artifact (some artifact.inbound.noMatchNodeId)
        blocked := blocked
        reason := some (lit "no inbound route matched " ++ input.did)
        diagnostics := diagnostics ++ [⟨.info, .noMatch,
          lit "No inbound route or DID matched " ++ input.did ++ lit ".", none, none⟩] }

def inboundWalk (p : Platform) (artifact : RoutingArtifact) (input : ResolveInboundInput)
    (blocked : Option BlockOutcome) : List InboundRule → List Diagnostic → Option ResolvedRoute
  | [], diagnostics => inboundDefault p artifact input blocked diagnostics
  | rule :: rest, diagnostics =>
    match matchInboundRule p rule input with
    | none => inboundWalk p artifact input blocked rest diagnostics
    | some captures => do
      let (gate, reported) ← gateOutcome p artifact rule.timeGate input.now
      match gate with
      | .isOpen =>
        finishInbound p artifact rule rule.destinationNodeId captures input
          (diagnostics ++ reported) blocked none
      | .isClosed none =>
        inboundWalk p artifact input blocked rest (diagnostics ++ reported)
      | .isClosed (some closedNodeId) =>
        finishInbound p artifact rule closedNodeId captures input
          (diagnostics ++ reported) blocked (some (lit "time condition closed"))

def resolveInbound (artifact : RoutingArtifact) (input : ResolveInboundInput) :
    Option ResolvedRoute :=
  match screeningRule p artifact input.callerNumber .inbound with
  | none => inboundWalk p artifact input none artifact.inbound.rules []
  | some rule =>
    let diagnostics := [callBlockedDiagnostic
      (lit "Caller " ++ input.callerNumber.getD (lit "(unknown)")) rule]
    match blockTerminalNodeId rule.action with
    | some terminal => some (blockedRoute artifact .inbound rule terminal diagnostics)
    | none => inboundWalk p artifact input (some (compactOutcome rule)) artifact.inbound.rules
        diagnostics

variable (dialed : JsString)

/-- The mailbox a dial string names through one of the voicemail prefixes. -/
def voicemailEntry : Option (VoicemailPrefixEntry × Lookup MailboxEntry) :=
  artifact.internal.voicemailPrefixes.findSome? (fun entry =>
    let mailboxNumber := dialed.drop entry.digits.length
    let mailbox := artifact.internal.mailboxes.lookup mailboxNumber
    if startsWith dialed entry.digits && 0 < mailboxNumber.length && mailbox.isDefined then
      some (entry, mailbox)
    else none)

def mailboxNodeId (mode : VoicemailMode) (mailbox : MailboxEntry) : PlanNodeId :=
  match mode with
  | .check => mailbox.checkNodeId
  | .leave => mailbox.leaveNodeId

def internalNoMatch (diagnostics : List Diagnostic) : ResolvedRoute :=
  { matched := false
    context := .internal
    plan := planFrom artifact (some artifact.internal.noMatchNodeId)
    reason := some (lit "no internal destination matched " ++ dialed ++
      lit "; try outbound routing")
    diagnostics := diagnostics ++ [⟨.info, .noMatch,
      lit "No internal number, feature code or park slot matched " ++ dialed ++ lit ".",
      none, none⟩] }

def parkSlotRoute (diagnostics : List Diagnostic) : ResolvedRoute :=
  let range := (canonicalInt dialed).bind (fun slot =>
    artifact.internal.parkSlots.find? (fun range =>
      range.slotStart ≤ slot && slot ≤ range.slotEnd))
  match range with
  | some range =>
    { matched := true
      context := .internal
      plan := planFrom artifact (some range.nodeId)
      matchedRuleId := some range.parkLotId
      matchedRuleName := some dialed
      reason := some (lit "matched park slot " ++ dialed)
      diagnostics := diagnostics }
  | none => internalNoMatch artifact dialed diagnostics

def numberRoute (artifact : RoutingArtifact) (input : ResolveInternalInput)
    (diagnostics : List Diagnostic) : Option ResolvedRoute :=
  let entry := artifact.internal.numbers.lookup input.dialed
  if entry.isDefined then do
    let (nodeId, walked) ← followGates p artifact (entry.field (fun e => some e.nodeId)) input.now
    pure
      { matched := true
        context := .internal
        plan := planFrom artifact nodeId
        matchedRuleId := entry.field (fun e => some e.entityId)
        matchedRuleName := entry.field (fun e => some e.number)
        callerIdNumber := some input.from'
        reason := some (lit "matched " ++ printed (entry.field (fun e => some e.kind.text)) ++
          lit " " ++ printed (entry.field (fun e => some e.number)))
        diagnostics := diagnostics ++ walked }
  else some (parkSlotRoute artifact input.dialed diagnostics)

def internalWalk (artifact : RoutingArtifact) (input : ResolveInternalInput)
    (diagnostics : List Diagnostic) : Option ResolvedRoute :=
  match matchFeatureCode artifact.internal.featureCodes input.dialed with
  | some feature => some
    { matched := true
      context := .internal
      plan := planFrom artifact (some feature.featureCode.nodeId)
      matchedRuleId := some feature.featureCode.id
      matchedRuleName := some feature.featureCode.code
      featureArgument := nonEmpty feature.argument
      reason := some (lit "matched feature code " ++ feature.featureCode.code)
      diagnostics := diagnostics }
  | none => match voicemailEntry artifact input.dialed with
    | some (entry, mailbox) => some
      { matched := true
        context := .internal
        plan := planFrom artifact (mailbox.field (fun m => some (mailboxNodeId entry.mode m)))
        matchedRuleId := mailbox.field (fun m => some m.voicemailBoxId)
        matchedRuleName := some input.dialed
        reason := some (lit "matched voicemail prefix " ++ entry.digits)
        diagnostics := diagnostics }
    | none => numberRoute p artifact input diagnostics

/-- `table?.[dialed]`: an artifact without the table has no emergency numbers. -/
def emergencyLookup (table : Option (Record EmergencyRule)) (dialed : JsString) :
    Lookup EmergencyRule :=
  match table with
  | none => .undefined
  | some table => table.lookup dialed

def resolveInternal (artifact : RoutingArtifact) (input : ResolveInternalInput) :
    Option ResolvedRoute :=
  let emergency := emergencyLookup artifact.internal.emergency input.dialed
  if emergency.isDefined then some (resolveEmergency artifact emergency .internal input.from')
  else match screeningRule p artifact (some input.dialed) .both with
    | none => internalWalk p artifact input []
    | some rule =>
      let diagnostics := [callBlockedDiagnostic (lit "Internal call to " ++ input.dialed) rule]
      match blockTerminalNodeId rule.action with
      | some terminal => some (blockedRoute artifact .internal rule terminal diagnostics)
      | none => internalWalk p artifact input diagnostics

def matchOutboundRule (rule : OutboundRule) (dialed : JsString) : Option (List JsString) :=
  rule.patterns.findSome? (fun pattern => matchPattern p pattern dialed)

def deniedRoute (reason : JsString) (diagnostics : List Diagnostic) : ResolvedRoute :=
  { matched := false
    context := .outbound
    plan := planFrom artifact (some artifact.outbound.deniedNodeId)
    reason := some reason
    diagnostics := diagnostics }

def outboundRuleSubject (rule : OutboundRule) : Option DiagnosticSubject :=
  some ⟨lit "outbound-route", rule.id, some rule.name⟩

def outboundEnd (input : ResolveOutboundInput) (tollClass : TollClass)
    (denied : Bool) (diagnostics : List Diagnostic) : ResolvedRoute :=
  if denied then
    deniedRoute artifact (lit "caller " ++ input.from' ++ lit " (" ++ tollClass.text ++
      lit ") may not take any route matching " ++ input.dialed) diagnostics
  else
    { matched := false
      context := .outbound
      plan := planFrom artifact (some artifact.outbound.noMatchNodeId)
      reason := some (lit "no outbound route matched " ++ input.dialed)
      diagnostics := diagnostics ++ [⟨.info, .noMatch,
        lit "No outbound route matched " ++ input.dialed ++ lit ".", none, none⟩] }

def closedOutbound (artifact : RoutingArtifact) (rule : OutboundRule)
    (closedNodeId : PlanNodeId) (now : Int) (diagnostics : List Diagnostic) :
    Option ResolvedRoute := do
  let (nodeId, walked) ← followGates p artifact (some closedNodeId) now
  pure
    { matched := true
      context := .outbound
      plan := planFrom artifact nodeId
      matchedRuleId := some rule.id
      matchedRuleName := some rule.name
      reason := some (lit "route " ++ quoted rule.name ++ lit " is closed by its time condition")
      diagnostics := diagnostics ++ walked }

def takenOutbound (caller : Lookup ExtensionIndexEntry)
    (rule : OutboundRule) (captures : List JsString) (dialedNumber : JsString)
    (diagnostics : List Diagnostic) : ResolvedRoute :=
  { matched := true
    context := .outbound
    plan := planFrom artifact (some rule.destinationNodeId)
    matchedRuleId := some rule.id
    matchedRuleName := some rule.name
    dialedNumber := some dialedNumber
    captures := nonEmpty captures
    recordEnabled := some rule.recordEnabled
    callerIdNumber := (rule.callerIdNumberOverride.or (caller.field (·.outboundCallerIdNumber))).or
      artifact.settings.outboundCallerIdNumber
    callerIdName := (caller.field (·.outboundCallerIdName)).or
      artifact.settings.outboundCallerIdName
    reason := some (lit "matched outbound route " ++ quoted rule.name)
    diagnostics := diagnostics }

def outboundWalk (p : Platform) (artifact : RoutingArtifact) (input : ResolveOutboundInput)
    (caller : Lookup ExtensionIndexEntry) (tollClass : TollClass) :
    List OutboundRule → Bool → List Diagnostic → Option ResolvedRoute
  | [], denied, diagnostics => some (outboundEnd artifact input tollClass denied diagnostics)
  | rule :: rest, denied, diagnostics =>
    match matchOutboundRule p rule input.dialed with
    | none => outboundWalk p artifact input caller tollClass rest denied diagnostics
    | some captures =>
      if !tollClassCovers tollClass rule.tollClass then
        outboundWalk p artifact input caller tollClass rest true (diagnostics ++
          [⟨.info, .tollClassDenied,
            lit "Route " ++ quoted rule.name ++ lit " requires toll class " ++
              quoted rule.tollClass.text ++ lit "; caller " ++ input.from' ++ lit " holds " ++
              quoted tollClass.text ++ lit ".", outboundRuleSubject rule, none⟩])
      else do
        let (gate, reported) ← gateOutcome p artifact rule.timeGate input.now
        match gate with
        | .isClosed none =>
          outboundWalk p artifact input caller tollClass rest denied (diagnostics ++ reported)
        | .isClosed (some closedNodeId) =>
          closedOutbound p artifact rule closedNodeId input.now (diagnostics ++ reported)
        | .isOpen =>
          match applyDigitManipulation ⟨rule.stripDigits, rule.prependDigits⟩ input.dialed with
          | none =>
            outboundWalk p artifact input caller tollClass rest denied
              (diagnostics ++ reported ++ [⟨.warning, .digitManipulationUnderflow,
                lit "Route " ++ quoted rule.name ++ lit " strips " ++ intText rule.stripDigits ++
                  lit " digits from " ++ input.dialed ++ lit ", leaving nothing to dial.",
                outboundRuleSubject rule, none⟩])
          | some dialedNumber =>
            some (takenOutbound artifact caller rule captures dialedNumber
              (diagnostics ++ reported))

/-- The calling extension's own class, which an override cannot replace. -/
def effectiveTollClass (input : ResolveOutboundInput) : Option TollClass :=
  ((artifact.extensionsByNumber.lookup input.from').field (fun e => some e.tollClass)).or
    input.tollClass

def resolveOutbound (artifact : RoutingArtifact) (input : ResolveOutboundInput) :
    Option ResolvedRoute :=
  let emergency := emergencyLookup artifact.outbound.emergency input.dialed
  if emergency.isDefined then some (resolveEmergency artifact emergency .outbound input.from')
  else if !artifact.outbound.enabled then
    some (deniedRoute artifact (lit "outbound calling is disabled for this organization")
      [⟨.info, .tollClassDenied, lit "Outbound calling is disabled for this organization.",
        none, none⟩])
  else
    let caller := artifact.extensionsByNumber.lookup input.from'
    match effectiveTollClass artifact input with
    | none =>
      some (deniedRoute artifact (lit "caller " ++ input.from' ++ lit " is not entitled to dial out")
        [⟨.warning, .callerNotInternal,
          lit "Caller " ++ input.from' ++ lit " is not an extension of this organization and " ++
            lit "supplied no toll class; outbound dialing refused.", none, none⟩])
    | some tollClass => match screeningRule p artifact (some input.dialed) .outbound with
      | none => outboundWalk p artifact input caller tollClass artifact.outbound.rules false []
      | some rule =>
        let diagnostics := [callBlockedDiagnostic (lit "Outbound call to " ++ input.dialed) rule]
        match blockTerminalNodeId rule.action with
        | some terminal => some (blockedRoute artifact .outbound rule terminal diagnostics)
        | none =>
          outboundWalk p artifact input caller tollClass artifact.outbound.rules false diagnostics

end OptimiqVoice.Routing

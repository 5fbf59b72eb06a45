import OptimiqVoice.Routing.Compile.Inbound

namespace OptimiqVoice.Routing.Compile

open Lib Telephony

def trunkEntryOrder (entry : TrunkPriorityInput) : Lex (Int × Lex (Int × JsString)) :=
  toLex (entry.order, toLex (-(entry.weight.getD 0), entry.trunkId))

def trunkAttempt (ix : Index) (route : OutboundRouteInput) (subject : DiagnosticSubject)
    (entry : TrunkPriorityInput) : Compiler (Option TrunkAttempt) :=
  match ix.trunksById.get? entry.trunkId with
  | none => do
    reportWarning .unknownTrunk
      (lit "Outbound route " ++ quoted route.name ++ lit " lists trunk " ++ quoted entry.trunkId ++
        lit ", which no longer exists; it was dropped from the failover chain.")
      (some subject) (some (lit "trunkPriority"))
    pure none
  | some trunk =>
    if !trunk.enabled then do
      reportWarning .disabledTrunk
        (lit "Outbound route " ++ quoted route.name ++ lit " lists trunk " ++ quoted trunk.name ++
          lit ", which is disabled; it was dropped from the failover chain.")
        (some subject) (some (lit "trunkPriority"))
      pure none
    else pure (some
      { trunkId := trunk.id
        name := trunk.name
        kind := trunk.kind
        sipDomain := trunk.sipDomain
        sipProxy := trunk.sipProxy
        outboundProxy := trunk.outboundProxy.toOption
        transport := trunk.transport
        codecPrefs := trunk.codecPrefs.toOption
        maxChannels := trunk.maxChannels.toOption
        callerIdNumberOverride := trunk.callerIdNumberOverride.toOption
        order := entry.order
        weight := entry.weight })

def compileTrunkPlan (ix : Index) (route : OutboundRouteInput) (subject : DiagnosticSubject) :
    Compiler (List TrunkAttempt) := do
  let attempts ← Prog.collect (trunkAttempt ix route subject)
    (sortOn trunkEntryOrder route.trunkPriority)
  Prog.when attempts.isEmpty (reportWarning .emptyTrunkList
    (lit "Outbound route " ++ quoted route.name ++
      lit " has no usable trunks; calls matching it take its failover destination.")
    (some subject) (some (lit "trunkPriority")))
  pure attempts

variable (p : Platform)

def routePatterns (route : OutboundRouteInput) (subject : DiagnosticSubject) :
    Compiler (Option (List CompiledPattern)) := do
  let missing := route.dialPatterns.isEmpty && route.matchKind ≠ .any
  Prog.when missing (reportError .invalidPattern
    (lit "Outbound route " ++ quoted route.name ++ lit " has no dial patterns.")
    (some subject) (some (lit "dialPatterns")))
  let patterns ← Prog.collect (fun entry : JsString × Nat =>
    routePattern p route.matchKind (some entry.1) subject
      (lit "dialPatterns[" ++ natText entry.2 ++ lit "]")) route.dialPatterns.zipIdx
  if missing || patterns.length ≠ route.dialPatterns.length then pure none
  else if route.matchKind = .any && patterns.isEmpty then pure (some [.any])
  else pure (some patterns)

def reportDigitManipulation (route : OutboundRouteInput) (subject : DiagnosticSubject) :
    Compiler Bool := do
  let issues := validateDigitManipulation ⟨route.stripDigits, route.prependDigits.toOption⟩
  Prog.each (fun issue : DigitManipulationIssue =>
    reportError .invalidDigitManipulation
      (lit "Outbound route " ++ quoted route.name ++ lit " has invalid digit manipulation (" ++
        issue.code ++ lit ").") (some subject) (some (match issue with
        | .invalidPrepend _ => lit "prependDigits"
        | _ => lit "stripDigits"))) issues
  pure issues.isEmpty

def trunkDialId (routeId : JsString) : PlanNodeId := lit "trunk-dial:" ++ routeId

theorem trunkDialId_inj {id id' : JsString} (h : trunkDialId id = trunkDialId id') : id = id' :=
  List.append_cancel_left h

def compileOutboundRule (ix : Index) (r : Recur)
    (continueOnCauses : List HangupCause) (route : OutboundRouteInput) :
    Compiler (Option OutboundRule) :=
  if !route.enabled then pure none
  else do
    let subject : DiagnosticSubject := ⟨lit "outbound-route", route.id, some route.name⟩
    let patterns ← routePatterns p route subject
    match patterns with
    | none => pure none
    | some patterns => do
      let usable ← reportDigitManipulation route subject
      if !usable then pure none
      else do
        let failoverNodeId ← namedDestinationNode r route.failover (lit "failover") subject
        let attempts ← compileTrunkPlan ix route subject
        let nodeId ← claimNode (trunkDialId route.id) (pure (.trunkDial
          { label := route.name
            outboundRouteId := route.id
            tollClass := route.tollClass
            attempts := attempts
            continueOnCauses := continueOnCauses
            recordEnabled := route.recordEnabled
            callerIdNumberOverride := route.callerIdNumberOverride.toOption
            failoverNodeId := failoverNodeId
            emergency := false
            emergencyAddressId := none
            elin := none }))
        let timeGate ← routeTimeGate ix r route.timeConditionId failoverNodeId subject
        pure (some
          { id := route.id
            name := route.name
            priority := route.priority
            patterns := patterns
            tollClass := route.tollClass
            stripDigits := route.stripDigits
            prependDigits := route.prependDigits.toOption
            timeGate := timeGate
            recordEnabled := route.recordEnabled
            callerIdNumberOverride := route.callerIdNumberOverride.toOption
            destinationNodeId := nodeId })

def outboundSpecificity (rule : OutboundRule) : Nat :=
  rule.patterns.foldl (fun best pattern => max best (patternSpecificity pattern)) 0

def outboundOrder (rule : OutboundRule) : Lex (Int × Lex (Int × JsString)) :=
  toLex (rule.priority, toLex (-(outboundSpecificity rule : Int), rule.id))

variable (s : OrgRoutingSnapshot)

def compileOutbound (ix : Index)
    (settings : CompiledRoutingSettings) (emergency : Record EmergencyRule) :
    Compiler OutboundMatchTable := do
  let continueOnCauses ← trunkContinueOnCauses s
  let rules ← Prog.collect (compileOutboundRule p ix (build p ix) continueOnCauses)
    (sortById (·.id) s.outboundRoutes)
  let noMatchNodeId ← hangupNode .unallocatedNumber
  let deniedNodeId ← hangupNode .outgoingCallBarred
  pure
    { rules := sortOn outboundOrder rules
      emergency := embedded emergency
      enabled := settings.outboundEnabled
      noMatchNodeId := noMatchNodeId
      deniedNodeId := deniedNodeId }

def blockMatchKind : CallBlockMatchKind → RouteMatchKind
  | .exact => .exact
  | .prefixed => .prefixed
  | .regex => .regex

def compileCallBlockRule (rule : CallBlockRuleInput) : Compiler (Option CompiledCallBlockRule) :=
  if !rule.enabled then pure none
  else do
    let pattern ← routePattern p (blockMatchKind rule.matchKind) (some rule.pattern)
      ⟨lit "call-block-rule", rule.id, some rule.pattern⟩ (lit "pattern")
    pure (pattern.map (fun pattern =>
      ⟨rule.id, pattern, rule.direction, rule.action, rule.label.toOption⟩))

def allowFirst (action : CallBlockAction) : Int := if action = .allow then 0 else 1

def callBlockOrder (rule : CompiledCallBlockRule) : Lex (Int × Lex (Int × JsString)) :=
  toLex (-(patternSpecificity rule.pattern : Int), toLex (allowFirst rule.action, rule.id))

def compileCallBlock : Compiler (List CompiledCallBlockRule) := do
  let compiled ← Prog.collect (compileCallBlockRule p) (sortById (·.id) s.callBlockRules)
  pure (sortOn callBlockOrder compiled)

def extensionEntryNames (entry : ExtensionIndexEntry) : List JsString :=
  [lit "extensionId", lit "number", lit "tollClass", lit "enabled"] ++
    (entry.outboundCallerIdNumber.map (fun _ => lit "outboundCallerIdNumber")).toList ++
    (entry.outboundCallerIdName.map (fun _ => lit "outboundCallerIdName")).toList ++
    (entry.emergencyCallerIdNumber.map (fun _ => lit "emergencyCallerIdNumber")).toList ++
    (entry.pickupGroup.map (fun _ => lit "pickupGroup")).toList ++ [lit "nodeId"]

def indexExtension (ix : Index) (r : Recur) (entries : Record ExtensionIndexEntry)
    (extension : ExtensionInput) : Compiler (Record ExtensionIndexEntry) :=
  if !extension.enabled then pure entries
  else do
    let nodeId ← extensionNode ix r extension
    pure (entries.assign extensionEntryNames extension.number
      { extensionId := extension.id
        number := extension.number
        tollClass := extension.tollClass
        enabled := extension.enabled
        outboundCallerIdNumber := extension.outboundCallerIdNumber.toOption
        outboundCallerIdName := extension.outboundCallerIdName.toOption
        emergencyCallerIdNumber := extension.emergencyCallerIdNumber.toOption
        pickupGroup := pickupGroupOf extension
        nodeId := nodeId })

def compileExtensionIndex (ix : Index) :
    Compiler (Record ExtensionIndexEntry) := do
  let entries ← Prog.fold (indexExtension ix (build p ix)) Record.empty
    (sortById (·.id) s.extensions)
  pure (entries.sorted extensionEntryNames)

end OptimiqVoice.Routing.Compile

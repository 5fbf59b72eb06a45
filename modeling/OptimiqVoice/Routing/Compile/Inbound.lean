import OptimiqVoice.Routing.Compile.Internal

namespace OptimiqVoice.Routing.Compile

open Lib Telephony

variable (p : Platform)

def routePattern (kind : RouteMatchKind) (raw : Option JsString)
    (subject : DiagnosticSubject) (path : JsString) : Compiler (Option CompiledPattern) := do
  let compiled := compilePattern p kind raw
  let usable ← reportPatternIssues compiled.2 (lit "Pattern " ++ quoted (raw.getD []) ++
      lit " is an unanchored regex; anchor it with ^ and $ so it cannot match more than intended.")
    (fun issue => lit "Pattern " ++ quoted (raw.getD []) ++ lit " is not usable (" ++
      issue.code ++ lit ").") subject path
  pure (if usable then some compiled.1 else none)

def routeTimeGate (ix : Index) (r : Recur) (timeConditionId : Nullable JsString)
    (failoverNodeId : Option PlanNodeId) (subject : DiagnosticSubject) :
    Compiler (Option RouteTimeGate) :=
  match timeConditionId.toOption.filter (fun id => 0 < id.length) with
  | none => pure none
  | some id => match ix.timeConditionInputsById.get? id with
    | none => do
      reportError .missingTimeCondition
        (lit "Route references a time condition that is not in this organization's configuration.")
        (some subject) (some (lit "timeConditionId"))
      pure none
    | some condition =>
      if !condition.enabled then do
        reportWarning .disabledEntity (lit "Time condition " ++ quoted condition.name ++
            lit " is disabled, so the route it gates is always open.")
          (some subject) (some (lit "timeConditionId"))
        pure none
      else do
        let noMatchNodeId ← namedDestinationNode r condition.noMatch (lit "nomatch")
          ⟨lit "time-condition", condition.id, some condition.name⟩
        pure (some ⟨condition.id, noMatchNodeId.or failoverNodeId⟩)

/-- The number an inbound route is bound to: nothing when it is bound to none,
and an error when the number is gone. -/
def boundNumber (ix : Index) (route : InboundRouteInput) (subject : DiagnosticSubject) :
    Compiler (Option (Option JsString)) :=
  match route.phoneNumberId.toOption.filter (fun id => 0 < id.length) with
  | none => pure (some none)
  | some id => match ix.phoneNumbersById.get? id with
    | some did => pure (some (some did.e164))
    | none => do
      reportError .danglingDestination (lit "Inbound route " ++ quoted route.name ++
          lit " is bound to a phone number that no longer exists.")
        (some subject) (some (lit "phoneNumberId"))
      pure none

/-- The screen borrows the route's match kind, except that `any` becomes a
prefix: a screen that was typed must not match everyone. -/
def callerPatternOf (route : InboundRouteInput) (subject : DiagnosticSubject) :
    Compiler (Option CompiledPattern) :=
  match route.callerIdPattern.toOption.filter (fun raw => 0 < raw.length) with
  | none => pure none
  | some raw =>
    routePattern p (if route.matchKind = .any then .prefixed else route.matchKind) (some raw)
      subject (lit "callerIdPattern")

def compileInboundRule (ix : Index) (r : Recur) (route : InboundRouteInput) :
    Compiler (Option InboundRule) :=
  if !route.enabled then pure none
  else do
    let subject : DiagnosticSubject := ⟨lit "inbound-route", route.id, some route.name⟩
    let bound ← boundNumber ix route subject
    match bound with
    | none => pure none
    | some e164 => do
      let pattern ← routePattern p route.matchKind route.matchPattern.toOption subject
        (lit "matchPattern")
      match pattern with
      | none => pure none
      | some pattern => do
        let callerPattern ← callerPatternOf p route subject
        let failoverNodeId ← namedDestinationNode r route.failover (lit "failover") subject
        let destination ← r.destinationNode route.destination subject (lit "destination")
        match destination with
        | none => pure none
        | some destinationNodeId => do
          let timeGate ← routeTimeGate ix r route.timeConditionId failoverNodeId subject
          let did := route.phoneNumberId.toOption.bind ix.phoneNumbersById.get?
          pure (some
            { id := route.id
              name := route.name
              priority := route.priority
              phoneNumberId := route.phoneNumberId.toOption
              e164 := e164
              pattern := pattern
              callerPattern := callerPattern
              timeGate := timeGate
              recordEnabled := route.recordEnabled
              destinationNodeId := destinationNodeId
              failoverNodeId := failoverNodeId
              callerIdNamePrefix := did.bind (·.callerIdNamePrefix.toOption) })

variable (rule : InboundRule)

def inboundSpecificity : Int :=
  (if rule.e164.isNone then 0 else 10000000) + patternSpecificity rule.pattern

def inboundOrder : Lex (Int × Lex (Int × JsString)) :=
  toLex (rule.priority, toLex (-inboundSpecificity rule, rule.id))

def shadows (earlier rule : InboundRule) : Bool :=
  earlier.callerPattern.isNone && earlier.timeGate.isNone &&
    (earlier.e164.isNone || earlier.e164 = rule.e164) &&
    patternSubsumes earlier.pattern rule.pattern

def reportShadowed (earlier : InboundRule) : Compiler Unit :=
  let identical := earlier.e164 = rule.e164 && patternSubsumes rule.pattern earlier.pattern &&
    patternSubsumes earlier.pattern rule.pattern
  reportWarning (if identical then .overlappingDidPattern else .unreachableRoute) (if identical then
      lit "Inbound route " ++ quoted rule.name ++ lit " matches exactly the same calls as " ++
        quoted earlier.name ++ lit ", which is evaluated first."
    else
      lit "Inbound route " ++ quoted rule.name ++ lit " can never run: " ++ quoted earlier.name ++
        lit " is evaluated first and matches every call it would.")
    (some ⟨lit "inbound-route", rule.id, some rule.name⟩) none

def reportFirstShadow (passed : List InboundRule) (rule : InboundRule) : Compiler Unit :=
  match passed.find? (fun earlier => shadows earlier rule) with
  | some earlier => reportShadowed rule earlier
  | none => pure ()

/-- Walk the ordered rules with those already passed. -/
def reportInboundShadowing : List InboundRule → List InboundRule → Compiler Unit
  | _, [] => pure ()
  | passed, rule :: rest => do
    reportFirstShadow passed rule
    reportInboundShadowing (passed ++ [rule]) rest

def didDefaultNames (did : InboundDidDefault) : List JsString :=
  [lit "phoneNumberId", lit "e164", lit "enabled", lit "recordEnabled"] ++
    (did.callerIdNamePrefix.map (fun _ => lit "callerIdNamePrefix")).toList ++
    [lit "destinationNodeId"]

def compileDidDefault (r : Recur) (didDefaults : Record InboundDidDefault)
    (did : PhoneNumberInput) : Compiler (Record InboundDidDefault) :=
  if !did.enabled || !did.voiceEnabled then pure didDefaults
  else do
    let destination ← r.destinationNode did.destination
      ⟨lit "phone-number", did.id, some did.e164⟩ (lit "destination")
    match destination with
    | none => pure didDefaults
    | some destinationNodeId =>
      pure (didDefaults.assign didDefaultNames did.e164
        { phoneNumberId := did.id
          e164 := did.e164
          enabled := did.enabled
          recordEnabled := did.recordEnabled
          callerIdNamePrefix := did.callerIdNamePrefix.toOption
          destinationNodeId := destinationNodeId })

def compileInbound (s : OrgRoutingSnapshot) (ix : Index) :
    Compiler InboundMatchTable := do
  let r := build p ix
  let rules ← Prog.collect (compileInboundRule p ix r) (sortById (·.id) s.inboundRoutes)
  let ordered := sortOn inboundOrder rules
  reportInboundShadowing [] ordered
  let didDefaults ← Prog.fold (compileDidDefault r) Record.empty (sortById (·.id) s.phoneNumbers)
  let noMatchNodeId ← hangupNode .unallocatedNumber
  pure ⟨ordered, didDefaults.sorted didDefaultNames, noMatchNodeId⟩

end OptimiqVoice.Routing.Compile

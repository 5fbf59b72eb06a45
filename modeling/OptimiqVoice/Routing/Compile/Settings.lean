import OptimiqVoice.Routing.Compile.Destinations

namespace OptimiqVoice.Routing.Compile

open Lib Telephony

variable (p : Platform) (s : OrgRoutingSnapshot)

def compileSettings : Compiler CompiledRoutingSettings := do
  let timezone := (s.settings.bind (·.defaultTimezone)).getD (lit "UTC")
  Prog.when (!p.isKnownTimezone timezone) (reportError .unknownTimezone
    (lit "Organization default timezone " ++ quoted timezone ++
      lit " is not an IANA zone this runtime knows.") none (some (lit "settings.defaultTimezone")))
  pure
    { defaultTimezone := timezone
      outboundEnabled := (s.settings.bind (·.outboundEnabled)).getD true
      outboundCallerIdNumber := s.settings.bind (·.outboundCallerIdNumber.toOption)
      outboundCallerIdName := s.settings.bind (·.outboundCallerIdName.toOption) }

def acceptedCause (text : JsString) : Compiler (Option HangupCause) :=
  match HangupCause.ofText? text with
  | some cause => pure (some cause)
  | none => do
    reportWarning .invalidPattern (lit "Unknown hangup cause " ++ quoted text ++
        lit " in trunkContinueOnCauses; it was dropped.") none
      (some (lit "settings.trunkContinueOnCauses"))
    pure none

def trunkContinueOnCauses : Compiler (List HangupCause) :=
  match s.settings.bind (·.trunkContinueOnCauses) with
  | none => pure retryableHangupCauses
  | some configured => do
    let accepted ← Prog.collect acceptedCause configured
    pure (sortOn (·.text) accepted.eraseDups)

def reportPredicateIssues (condition : TimeConditionInput) (rule : TimeConditionRuleInput)
    (entry : TimeRulePredicateInput × Nat) : Compiler Unit :=
  Prog.each (fun issue =>
      reportError .invalidTimeRule
        (lit "Time rule " ++ intText rule.ordinal ++ lit " of " ++ quoted condition.name ++
          lit " has an invalid predicate (" ++ TimePredicateIssue.code issue ++ lit ").")
        (some ⟨lit "time-condition-rule", rule.id, none⟩)
        (some (lit "predicates[" ++ natText entry.2 ++ lit "]"))) (validateTimePredicate entry.1)

def compileTimeRule (condition : TimeConditionInput) (rule : TimeConditionRuleInput) :
    Compiler (Option CompiledTimeRule) :=
  if !rule.enabled then pure none
  else do
    Prog.each (reportPredicateIssues condition rule) rule.predicates.zipIdx
    if rule.predicates.all (fun q => (validateTimePredicate q).isEmpty) then
      pure (some
        { id := rule.id
          ordinal := rule.ordinal
          label := rule.label.toOption
          predicates := rule.predicates.map compileTimePredicate })
    else pure none

def setTimeCondition (condition : CompiledTimeCondition) : Compiler Unit :=
  Prog.modify (fun s =>
    { s with timeConditionsById := s.timeConditionsById.set condition.id condition })

def compileTimeCondition (ix : Index) (condition : TimeConditionInput) :
    Compiler Unit := do
  let subject : DiagnosticSubject := ⟨lit "time-condition", condition.id, some condition.name⟩
  let timezone := if 0 < condition.timezone.length then condition.timezone else lit "UTC"
  if !p.isKnownTimezone timezone then
    reportError .unknownTimezone
      (lit "Time condition " ++ quoted condition.name ++ lit " uses timezone " ++
        quoted timezone ++ lit ", which is not an IANA zone this runtime knows.")
      (some subject) (some (lit "timezone"))
  else do
    let rules ← Prog.collect (compileTimeRule condition)
      ((ix.timeRulesByCondition.get? condition.id).getD [])
    Prog.when rules.isEmpty (reportWarning .emptyTimeCondition
      (lit "Time condition " ++ quoted condition.name ++
        lit " has no enabled rules, so it always takes its no-match branch.") (some subject) none)
    setTimeCondition ⟨condition.id, condition.name, timezone, rules⟩

def compileTimeConditions (ix : Index) : Compiler Unit :=
  Prog.each (compileTimeCondition p ix) (sortById (·.id) s.timeConditions)

def wellKnownTerminalCauses : List HangupCause :=
  [.normalClearing, .unallocatedNumber, .callRejected, .userBusy, .noAnswer, .userNotRegistered,
   .outgoingCallBarred, .serviceUnavailable]

def ensureWellKnownTerminals : Compiler Unit :=
  Prog.each (fun cause => do
    let _ ← hangupNode cause
    pure ()) wellKnownTerminalCauses

def materialise {α : Type} (enabled : α → Bool) (node : α → Compiler PlanNodeId) (rows : List α) :
    Compiler Unit :=
  Prog.each (fun row =>
    if enabled row then do
      let _ ← node row
      pure ()
    else pure ()) rows

def materialiseEntities (ix : Index) : Compiler Unit := do
  let r := build p ix
  materialise (·.enabled) (extensionNode ix r) (sortById (·.id) s.extensions)
  materialise (·.enabled) (fun box => do
    let _ ← voicemailNode ix box .leave
    voicemailNode ix box .check) (sortById (·.id) s.voicemailBoxes)
  materialise (·.enabled) (ringGroupNode ix r) (sortById (·.id) s.ringGroups)
  materialise (·.enabled) (ivrNode p ix r) (sortById (·.id) s.ivrMenus)
  materialise (·.enabled) (queueNode ix r) (sortById (·.id) s.queues)
  materialise (·.enabled) (conferenceNode ix) (sortById (·.id) s.conferences)
  materialise (·.enabled) (parkNode ix r) (sortById (·.id) s.parkLots)
  Prog.each (fun condition : TimeConditionInput =>
    if condition.enabled then do
      let _ ← targetNode ix.timeConditionInputsById (lit "time condition") (·.name) (·.enabled)
        (timeConditionNode r) condition.id
        ⟨lit "time-condition", condition.id, some condition.name⟩ (lit "destination")
      pure ()
    else pure ()) (sortById (·.id) s.timeConditions)

end OptimiqVoice.Routing.Compile

import OptimiqVoice.Routing.CallBlock
import OptimiqVoice.Routing.Compile.EmergencyTable

namespace OptimiqVoice.Routing.Compile

open Lib

def wholeSeconds (value : Option Int) : Int := max 0 (value.getD 0)

/-- The first outbound rule the extension may take for a dial string. The flag
says whether one was refused on the way for its toll class. -/
def followMeRule (p : Platform) (tollClass : TollClass) (dialString : JsString) :
    Bool → List OutboundRule → Bool × Option (PlanNodeId × JsString)
  | denied, [] => (denied, none)
  | denied, rule :: rest =>
    if !rule.patterns.any (fun pattern => (matchPattern p pattern dialString).isSome) then
      followMeRule p tollClass dialString denied rest
    else if !tollClassCovers tollClass rule.tollClass then
      followMeRule p tollClass dialString true rest
    else match applyDigitManipulation ⟨rule.stripDigits, rule.prependDigits⟩ dialString with
      | none => followMeRule p tollClass dialString denied rest
      | some dialedNumber => (denied, some (rule.destinationNodeId, dialedNumber))

variable (p : Platform)

def followMeTrunkTarget (extension : ExtensionInput) (dialString : JsString)
    (outbound : OutboundMatchTable) (callBlock : List CompiledCallBlockRule)
    (subject : DiagnosticSubject) (path : JsString) :
    Compiler (Option (PlanNodeId × JsString)) := do
  let hop := lit "Follow-me hop " ++ quoted dialString ++ lit " of extension " ++ extension.number
  let refuse (why : JsString) : Compiler (Option (PlanNodeId × JsString)) := do
    reportWarning .unresolvableFollowMe (hop ++ why) (some subject) (some path)
    pure none
  let blocked := (checkCallBlock p callBlock (some dialString) .outbound).filter
    (fun rule => rule.action ≠ .allow)
  if !outbound.enabled then
    refuse (lit " leaves the organization, whose outbound calling is switched off; the hop is " ++
      lit "not dialled.")
  else match blocked with
    | some blocked =>
      refuse (lit " matches call-block rule " ++ quoted (blocked.label.getD blocked.id) ++
        lit " (" ++ blocked.action.text ++ lit "); the hop is not dialled.")
    | none => match followMeRule p extension.tollClass dialString false outbound.rules with
      | (_, some target) => pure (some target)
      | (true, none) =>
        refuse (lit " only matches outbound routes above the extension's toll class (" ++
          quoted extension.tollClass.text ++ lit "); the hop is not dialled.")
      | (false, none) => refuse (lit " matches no outbound route; the hop is not dialled.")

def followMeDestination (ix : Index) (r : Recur) (extension : ExtensionInput)
    (outbound : OutboundMatchTable) (callBlock : List CompiledCallBlockRule)
    (subject : DiagnosticSubject) (entry : FollowMeTargetInput × Nat) :
    Compiler (Option FollowMeDestination) :=
  let target := entry.1
  let path := lit "followMe.targets[" ++ natText entry.2 ++ lit "]"
  let dialString := trim (target.destination.toOption.getD [])
  if dialString.length = 0 then do
    reportWarning .unresolvableFollowMe
      (lit "Follow-me hop " ++ natText (entry.2 + 1) ++ lit " of extension " ++ extension.number ++
        lit " has no destination; it was dropped from the ladder.") (some subject) (some path)
    pure none
  else
    let hop : FollowMeDestination :=
      { ordinal := entry.2
        destination := dialString
        delaySeconds := wholeSeconds target.delaySeconds
        timeoutSeconds := wholeSeconds target.timeoutSeconds
        confirmRequired := target.confirm = some true
        targetNodeId := none
        dialedNumber := none }
    match ix.extensionsByNumber.get? dialString with
    | some internal => do
      let nodeId ← extensionNode ix r internal
      pure (some { hop with targetNodeId := some nodeId })
    | none => do
      let external ← followMeTrunkTarget p extension dialString outbound callBlock subject path
      match external with
      | none => pure (some hop)
      | some (nodeId, dialedNumber) =>
        pure (some { hop with targetNodeId := some nodeId, dialedNumber := some dialedNumber })

def followMeOf (extension : ExtensionInput) : Option FollowMeInput :=
  if extension.enabled then extension.followMe.toOption.filter (·.enabled) else none

def followMePlan (config : FollowMeInput) (destinations : List FollowMeDestination) :
    FollowMePlan where
  strategy := if destinations.all (fun hop => hop.delaySeconds = 0) then .simultaneous
    else .sequential
  ignoreBusy := config.ignoreBusy = some true
  destinations := destinations

def extensionPlanAt (nodes : Dict PlanNodeId PlanNode) (id : PlanNodeId) :
    Option (PlanNodeId × ExtensionPlan) :=
  match nodes.get? id with
  | some ⟨nodeId, .extension plan⟩ => some (nodeId, plan)
  | _ => none

def compileExtensionFollowMe (ix : Index) (r : Recur) (outbound : OutboundMatchTable)
    (callBlock : List CompiledCallBlockRule) (extension : ExtensionInput) : Compiler Unit :=
  match followMeOf extension with
  | none => pure ()
  | some config => do
    let s ← Prog.get
    match extensionPlanAt s.nodes (extensionId extension) with
    | none => pure ()
    | some (nodeId, plan) => do
      let subject : DiagnosticSubject :=
        ⟨lit "extension", extension.id, some extension.number⟩
      let destinations ← Prog.collect
        (followMeDestination p ix r extension outbound callBlock subject)
        (config.targets.toOption.getD []).zipIdx
      if !destinations.any (fun hop => hop.targetNodeId.isSome) then
        reportWarning .emptyFollowMe
          (lit "Extension " ++ extension.number ++ lit " has follow-me switched on but no hop " ++
            lit "that can be dialled; the extension rings its own endpoint instead.")
          (some subject) (some (lit "followMe.targets"))
      else
        -- The node is written back as it was read, with the ladder added.
        setNode nodeId (.extension
          { plan with followMe := some (followMePlan config destinations) })

def compileFollowMe (s : OrgRoutingSnapshot) (ix : Index)
    (outbound : OutboundMatchTable) (callBlock : List CompiledCallBlockRule) : Compiler Unit :=
  Prog.each (compileExtensionFollowMe p ix (build p ix) outbound callBlock)
    (sortById (·.id) s.extensions)

end OptimiqVoice.Routing.Compile

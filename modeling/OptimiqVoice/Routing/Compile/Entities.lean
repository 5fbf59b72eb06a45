import OptimiqVoice.Routing.Compile.Nodes

namespace OptimiqVoice.Routing.Compile

open Lib Telephony

def pickupGroupOf (extension : ExtensionInput) : Option JsString :=
  let group := trim (extension.pickupGroup.toOption.getD [])
  if group.length = 0 then none else some group

variable (ix : Index)

def extensionVoicemailNode (extension : ExtensionInput)
    (subject : DiagnosticSubject) : Compiler (Option PlanNodeId) :=
  if !extension.voicemailEnabled then pure none
  else match ix.voicemailByExtension.get? extension.id with
    | none => do
      reportWarning .missingVoicemailBox
        (lit "Extension " ++ extension.number ++ lit " has voicemail enabled but no mailbox; " ++
          lit "unanswered calls are released instead.") (some subject)
        (some (lit "voicemailEnabled"))
      pure none
    | some box => do
      let id ← voicemailNode ix box .leave
      pure (some id)

variable (r : Recur)

def forwardNode (destination : Nullable JsString)
    (subject : DiagnosticSubject) (path : JsString) : Compiler (Option PlanNodeId) :=
  let target := trim (destination.toOption.getD [])
  if target.length = 0 then do
    reportWarning .unresolvableForward
      (lit "Forwarding is enabled but no destination is set; the forward is ignored.")
      (some subject) (some path)
    pure none
  else match ix.extensionsByNumber.get? target with
    | some internal => do
      let id ← r.extensionNode internal
      pure (some id)
    | none => do
      let id ← externalNode target true
      pure (some id)

/-- Where an unanswered call goes: the forward when it is on and resolves, else
the mailbox, else a release with the given cause. -/
def unansweredNode (enabled : Bool) (destination : Nullable JsString)
    (voicemailNodeId : Option PlanNodeId) (cause : HangupCause) (subject : DiagnosticSubject)
    (path : JsString) : Compiler (Option PlanNodeId) := do
  let forward ← (if enabled then forwardNode ix r destination subject path else pure none :
    Compiler (Option PlanNodeId))
  let id ← nodeOrHangup (forward.or voicemailNodeId) cause
  pure (some id)

def extensionId (extension : ExtensionInput) : PlanNodeId := lit "extension:" ++ extension.id

theorem extensionId_inj {e e' : ExtensionInput} (h : extensionId e = extensionId e') :
    e.id = e'.id :=
  List.append_cancel_left h

def extensionNode (extension : ExtensionInput) : Compiler PlanNodeId :=
  claimNode (extensionId extension) do
    let subject : DiagnosticSubject :=
      ⟨lit "extension", extension.id, some extension.number⟩
    let voicemailNodeId ← extensionVoicemailNode ix extension subject
    let mohClass ← mohClassName ix extension.mohClassId subject (lit "mohClassId")
    let forwardAllNodeId ← (if extension.forwardAllEnabled then
        forwardNode ix r extension.forwardAllDestination subject (lit "forwardAllDestination")
      else pure none : Compiler (Option PlanNodeId))
    let busyNodeId ← unansweredNode ix r extension.forwardBusyEnabled
      extension.forwardBusyDestination voicemailNodeId .userBusy subject
      (lit "forwardBusyDestination")
    let noAnswerNodeId ← unansweredNode ix r extension.forwardNoAnswerEnabled
      extension.forwardNoAnswerDestination voicemailNodeId .noAnswer subject
      (lit "forwardNoAnswerDestination")
    let notRegisteredNodeId ← unansweredNode ix r extension.forwardUnregisteredEnabled
      extension.forwardUnregisteredDestination voicemailNodeId .userNotRegistered subject
      (lit "forwardUnregisteredDestination")
    pure (.extension
      { label := extension.label
        extensionId := extension.id
        number := extension.number
        callerIdName := extension.callerIdName.toOption
        callerIdNumber := extension.callerIdNumber.toOption
        tollClass := extension.tollClass
        recordPolicy := extension.recordPolicy
        timeoutSeconds := extension.callTimeoutSeconds
        doNotDisturb := extension.doNotDisturb
        pickupGroup := pickupGroupOf extension
        mohClassId := extension.mohClassId.toOption
        mohClass := mohClass
        forwardAllNodeId := forwardAllNodeId
        busyNodeId := busyNodeId
        noAnswerNodeId := noAnswerNodeId
        notRegisteredNodeId := notRegisteredNodeId
        followMe := none })

def ivrMenuId (menu : IvrMenuInput) : PlanNodeId := lit "ivr-menu:" ++ menu.id

/-- Report the issues of a pattern; an unanchored expression is still usable. -/
def reportPatternIssues (issues : List PatternIssue) (unanchored : JsString)
    (unusable : PatternIssue → JsString) (subject : DiagnosticSubject) (path : JsString) :
    Compiler Bool := do
  Prog.each (fun issue => match issue with
    | .unanchoredRegex => reportWarning .unanchoredRegex unanchored (some subject) (some path)
    | .invalidRegex _ => reportError .invalidRegex (unusable issue) (some subject) (some path)
    | _ => reportError .invalidPattern (unusable issue) (some subject) (some path)) issues
  pure (issues.all (· = .unanchoredRegex))

def ivrOption (p : Platform) (r : Recur) (menu : IvrMenuInput) (option : IvrMenuOptionInput) :
    Compiler (Option IvrOption) :=
  if !option.enabled then pure none
  else do
    let subject : DiagnosticSubject :=
      ⟨lit "ivr-menu-option", option.id, some option.matchValue⟩
    let kind := match option.matchKind with
      | .digit => RouteMatchKind.exact
      | .regex => RouteMatchKind.regex
    let compiled := compilePattern p kind (some option.matchValue)
    let usable ← reportPatternIssues compiled.2 (lit "IVR option " ++ quoted option.matchValue ++
        lit " is an unanchored regex; it may match more digits than intended.")
      (fun issue => lit "IVR option " ++ quoted option.matchValue ++
        lit " is not a usable pattern (" ++ issue.code ++ lit ").") subject (lit "matchValue")
    if !usable then pure none
    else do
      let target ← r.destinationNode option.destination subject (lit "destination")
      match target with
      | none => pure none
      | some targetNodeId =>
        if targetNodeId = ivrMenuId menu then do
          reportError .selfReferencingIvr
            (lit "IVR menu " ++ quoted menu.name ++ lit " has an option that points back at the " ++
              lit "same menu, which would loop without ever playing a prompt.")
            (some subject) (some (lit "destination"))
          pure none
        else pure (some
          { ordinal := option.ordinal
            pattern := compiled.1
            matchValue := option.matchValue
            label := option.label.toOption
            targetNodeId := targetNodeId })

/-- A branch of a menu that leads back to the menu is reported and dropped. -/
def dropSelfBranch (menu : IvrMenuInput) (branch : JsString) (nodeId : Option PlanNodeId)
    (subject : DiagnosticSubject) : Compiler (Option PlanNodeId) :=
  if nodeId = some (ivrMenuId menu) then do
    reportError .selfReferencingIvr
      (lit "IVR menu " ++ quoted menu.name ++ lit " sends its " ++ branch ++
        lit " branch back to itself, which cannot terminate.")
      (some subject) (some (branch ++ lit "Destination"))
    pure none
  else pure nodeId

def ivrNode (p : Platform) (ix : Index) (r : Recur) (menu : IvrMenuInput) : Compiler PlanNodeId :=
  claimNode (ivrMenuId menu) do
    let subject : DiagnosticSubject := ⟨lit "ivr-menu", menu.id, some menu.name⟩
    let options ← Prog.collect (ivrOption p r menu) ((ix.ivrOptionsByMenu.get? menu.id).getD [])
    let timeout ← namedDestinationNode r menu.timeout (lit "timeout") subject
    let invalid ← namedDestinationNode r menu.invalid (lit "invalid") subject
    let timeoutNodeId ← dropSelfBranch menu (lit "timeout") timeout subject
    let invalidNodeId ← dropSelfBranch menu (lit "invalid") invalid subject
    pure (.ivrMenu
      { label := menu.name
        ivrMenuId := menu.id
        greetingPromptId := menu.greetingPromptId.toOption
        shortGreetingPromptId := menu.shortGreetingPromptId.toOption
        invalidPromptId := menu.invalidPromptId.toOption
        timeoutPromptId := menu.timeoutPromptId.toOption
        digitTimeoutMs := menu.digitTimeoutMs
        interDigitTimeoutMs := menu.interDigitTimeoutMs
        maxDigits := menu.maxDigits
        maxFailures := menu.maxFailures
        maxTimeouts := menu.maxTimeouts
        directDialEnabled := menu.directDialEnabled
        options := options
        timeoutNodeId := timeoutNodeId
        invalidNodeId := invalidNodeId })

def ringGroupMember (group : RingGroupInput) (member : RingGroupDestinationInput) :
    Compiler (Option RingGroupMember) :=
  if !member.enabled then pure none
  else do
    let target ← r.destinationNode member.destination
      ⟨lit "ring-group-destination", member.id, none⟩ (lit "destination")
    pure (target.map (fun targetNodeId =>
      { ordinal := member.ordinal
        -- A group that rings everything at once has no delays, whatever is stored.
        delaySeconds := if group.strategy = .simultaneous then 0 else member.delaySeconds
        timeoutSeconds := member.timeoutSeconds
        confirmRequired := member.confirmRequired || group.confirmEnabled
        targetNodeId := targetNodeId }))

def ringGroupNode (group : RingGroupInput) : Compiler PlanNodeId :=
  claimNode (lit "ring-group:" ++ group.id) do
    let subject : DiagnosticSubject := ⟨lit "ring-group", group.id, some group.name⟩
    let members ← Prog.collect (ringGroupMember r group)
      ((ix.ringMembersByGroup.get? group.id).getD [])
    Prog.when members.isEmpty (reportWarning .emptyRingGroup
      (lit "Ring group " ++ quoted group.name ++ lit " has no enabled destinations; calls to " ++
        lit "it go straight to its timeout branch.") (some subject) none)
    let mohClass ← mohClassName ix group.mohClassId subject (lit "mohClassId")
    let timeoutNodeId ← namedDestinationNode r group.timeout (lit "timeout") subject
    pure (.ringGroup
      { label := group.name
        ringGroupId := group.id
        strategy := group.strategy
        ringTimeoutSeconds := group.ringTimeoutSeconds
        ignoreBusy := group.ignoreBusy
        confirmEnabled := group.confirmEnabled
        confirmPromptId := group.confirmPromptId.toOption
        callerIdNamePrefix := group.callerIdNamePrefix.toOption
        mohClassId := group.mohClassId.toOption
        mohClass := mohClass
        ringbackPromptId := group.ringbackPromptId.toOption
        members := members
        timeoutNodeId := timeoutNodeId })

def queueNode (entry : QueueInput) : Compiler PlanNodeId :=
  claimNode (lit "queue:" ++ entry.id) do
    let subject : DiagnosticSubject := ⟨lit "queue", entry.id, some entry.name⟩
    let mohClass ← mohClassName ix entry.mohClassId subject (lit "mohClassId")
    let timeoutNodeId ← namedDestinationNode r entry.timeout (lit "timeout") subject
    pure (.queue
      { label := entry.name
        queueId := entry.id
        strategy := entry.strategy
        mohClassId := entry.mohClassId.toOption
        mohClass := mohClass
        greetingPromptId := entry.greetingPromptId.toOption
        announcePromptId := entry.announcePromptId.toOption
        maxWaitSeconds := entry.maxWaitSeconds
        maxWaitNoAgentSeconds := entry.maxWaitNoAgentSeconds
        announcePositionEnabled := entry.announcePositionEnabled
        announceFrequencySeconds := entry.announceFrequencySeconds
        recordEnabled := entry.recordEnabled
        timeoutNodeId := timeoutNodeId })

def parkNode (lot : ParkLotInput) : Compiler PlanNodeId :=
  claimNode (lit "park:" ++ lot.id) do
    let subject : DiagnosticSubject := ⟨lit "park-lot", lot.id, some lot.name⟩
    let mohClass ← mohClassName ix lot.mohClassId subject (lit "mohClassId")
    let timeoutNodeId ← namedDestinationNode r lot.timeout (lit "timeout") subject
    pure (.park
      { label := lot.name
        parkLotId := lot.id
        slotStart := lot.slotStart
        slotEnd := lot.slotEnd
        timeoutSeconds := lot.timeoutSeconds
        mohClassId := lot.mohClassId.toOption
        mohClass := mohClass
        timeoutNodeId := timeoutNodeId })

def timeConditionNode (condition : TimeConditionInput) : Compiler PlanNodeId :=
  claimNode (lit "time-condition:" ++ condition.id) do
    let subject : DiagnosticSubject :=
      ⟨lit "time-condition", condition.id, some condition.name⟩
    let matchNodeId ← r.destinationNode condition.destination subject (lit "destination")
    let noMatchNodeId ← namedDestinationNode r condition.noMatch (lit "nomatch") subject
    let target ← nodeOrHangup matchNodeId .normalClearing
    pure (.timeCondition
      { label := condition.name
        timeConditionId := condition.id
        matchNodeId := target
        noMatchNodeId := noMatchNodeId })

end OptimiqVoice.Routing.Compile

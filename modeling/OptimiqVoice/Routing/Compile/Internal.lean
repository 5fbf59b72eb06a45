import OptimiqVoice.Routing.Compile.Settings

namespace OptimiqVoice.Routing.Compile

open Lib Telephony

def featureCodeIssueMessage : FeatureCodeIssue → JsString
  | .malformedCode value => lit "Feature code " ++ quoted value ++
      lit " is not dialable; codes start with * or # and contain only digits."
  | .duplicateCode value => lit "Feature code " ++ quoted value ++ lit " is defined more than once."
  | .prefixCollision value other => lit "Feature code " ++ quoted value ++
      lit " takes an argument, so " ++ quoted other ++ lit " can never be dialed unambiguously."

def reportFeatureCodeIssue (enabled : List FeatureCodeInput) (issue : FeatureCodeIssue) :
    Compiler Unit :=
  let subject := (enabled.find? (fun entry => entry.code = issue.value)).map
    (fun entry => (⟨lit "feature-code", entry.id, some entry.code⟩ : DiagnosticSubject))
  reportError .conflictingFeatureCode (featureCodeIssueMessage issue) subject (some (lit "code"))

def lotIdParam (entry : FeatureCodeInput) : Option JsString :=
  match (entry.params.toOption.getD []).lookup (lit "lotId") with
  | some (.str lotId) => some lotId
  | _ => none

def featureCodeTarget (ix : Index) (r : Recur) (entry : FeatureCodeInput) :
    Compiler (Option PlanNodeId) :=
  match lotIdParam entry with
  | some lotId =>
    if entry.action = .callPark && 0 < lotId.length then
      targetNode ix.parkLotsById (lit "park lot") (·.name) (·.enabled) (parkNode ix r) lotId
        ⟨lit "feature-code", entry.id, some entry.code⟩ (lit "params.lotId")
    else pure none
  | none => pure none

def compileFeatureCode (ix : Index) (r : Recur) (entry : FeatureCodeInput) :
    Compiler (Option CompiledFeatureCode) :=
  if !isWellFormedFeatureCode entry.code then pure none
  else do
    let targetNodeId ← featureCodeTarget ix r entry
    let nodeId ← claimNode (lit "feature-code:" ++ entry.id) (pure (.featureCode
      { label := entry.label.toOption.getD entry.code
        featureCodeId := entry.id
        code := entry.code
        action := entry.action
        params := entry.params.toOption
        targetNodeId := targetNodeId }))
    pure (some
      { id := entry.id
        code := entry.code
        action := entry.action
        argumentMode := featureCodeArgumentMode entry.action
        params := entry.params.toOption
        label := entry.label.toOption
        nodeId := nodeId })

variable (p : Platform)

def compileFeatureCodes (s : OrgRoutingSnapshot) (ix : Index) :
    Compiler (List CompiledFeatureCode) := do
  let enabled := (sortById (·.id) s.featureCodes).filter (·.enabled)
  Prog.each (reportFeatureCodeIssue enabled) (featureCodeIssues p enabled)
  let compiled ← Prog.collect (compileFeatureCode ix (build p ix)) enabled
  pure (sortOn (fun c => toLex (-(c.code.length : Int), c.code)) compiled)

variable (s : OrgRoutingSnapshot)

def configuredPrefixes : List VoicemailPrefixEntry :=
  let entry (digits : Option JsString) (mode : VoicemailMode) : List VoicemailPrefixEntry :=
    match digits with
    | some digits => if 0 < digits.length then [⟨digits, mode⟩] else []
    | none => []
  entry (s.settings.bind (·.voicemailPrefix.toOption)) .leave ++
    entry (s.settings.bind (·.voicemailCheckPrefix.toOption)) .check

def compileVoicemailPrefixes (featureCodes : List CompiledFeatureCode) :
    Compiler (List VoicemailPrefixEntry) := do
  let configured := configuredPrefixes s
  Prog.each (fun entry =>
    match featureCodes.find? (fun code =>
        code.code = entry.digits || startsWith entry.digits code.code) with
    | some clash =>
      reportWarning .conflictingFeatureCode
        (lit "Voicemail prefix " ++ quoted entry.digits ++ lit " overlaps feature code " ++
          quoted clash.code ++ lit "; the feature code wins.")
        (some ⟨lit "feature-code", clash.id, some clash.code⟩)
        (some (lit "settings.voicemailPrefix"))
    | none => pure ()) configured
  pure (sortOn (fun entry => -(entry.digits.length : Int)) configured)

def claimNumber (number : JsString) (kind : InternalNumberKind) (entityId : JsString)
    (nodeId : PlanNodeId) (name : JsString) : Compiler Unit := do
  let s ← Prog.get
  match s.internalNumbers.get? number with
  | some existing =>
    reportError .duplicateInternalNumber
      (lit "Internal number " ++ number ++ lit " is claimed by both " ++ existing.kind.text ++
        lit " " ++ quoted existing.entityId ++ lit " and " ++ kind.text ++ lit " " ++
        quoted name ++ lit "; dialing it would be ambiguous.")
      (some ⟨kind.text, entityId, some name⟩) (some (lit "extensionNumber"))
  | none =>
    Prog.modify (fun s =>
      { s with internalNumbers := s.internalNumbers.set number ⟨number, kind, entityId, nodeId⟩ })

def claimRowNumber {α : Type} (kind : InternalNumberKind) (number : α → Option JsString)
    (entityId name : α → JsString) (node : α → Compiler PlanNodeId) (row : α) : Compiler Unit :=
  match number row with
  | some value => do
    let nodeId ← node row
    claimNumber value kind (entityId row) nodeId (name row)
  | none => pure ()

def claimNumbers {α : Type} (kind : InternalNumberKind) (number : α → Option JsString)
    (entityId name : α → JsString) (node : α → Compiler PlanNodeId) (rows : List α) :
    Compiler Unit :=
  Prog.each (claimRowNumber kind number entityId name node) rows

def ownNumber (enabled : Bool) (number : Nullable JsString) : Option JsString :=
  if enabled then number.toOption.filter (fun value => 0 < value.length) else none

def claimInternalNumbers (s : OrgRoutingSnapshot) (ix : Index) : Compiler Unit := do
  let r := build p ix
  claimNumbers .extension (fun e : ExtensionInput => if e.enabled then some e.number else none)
    (·.id) (·.number) (extensionNode ix r) (sortById (·.id) s.extensions)
  claimNumbers .ringGroup (fun g : RingGroupInput => ownNumber g.enabled g.extensionNumber)
    (·.id) (·.name) (ringGroupNode ix r) (sortById (·.id) s.ringGroups)
  claimNumbers .ivrMenu (fun m : IvrMenuInput => ownNumber m.enabled m.extensionNumber)
    (·.id) (·.name) (ivrNode p ix r) (sortById (·.id) s.ivrMenus)
  claimNumbers .queue (fun q : QueueInput => ownNumber q.enabled q.extensionNumber)
    (·.id) (·.name) (queueNode ix r) (sortById (·.id) s.queues)
  claimNumbers .conference (fun c : ConferenceInput => if c.enabled then some c.roomNumber else none)
    (·.id) (·.name) (conferenceNode ix) (sortById (·.id) s.conferences)

def reportEmergencyShadowing (emergency : Record EmergencyRule) : Compiler Unit := do
  let s ← Prog.get
  Prog.each (fun dialed => match s.internalNumbers.get? dialed with
    | some claimed =>
      reportWarning .emergencyNumberShadowed
        (lit "Internal number " ++ dialed ++ lit " is claimed by " ++ claimed.kind.text ++
          lit " " ++ quoted claimed.entityId ++ lit ", but " ++ dialed ++
          lit " is an emergency number and is matched first; the " ++ claimed.kind.text ++
          lit " is no longer reachable by dialing it.")
        (some ⟨claimed.kind.text, claimed.entityId, some claimed.number⟩)
        (some (lit "extensionNumber"))
    | none => pure ()) (sortOn id emergency.keys)

def reportSlotClashes (lot : ParkLotInput) (subject : DiagnosticSubject) : Compiler Unit := do
  let s ← Prog.get
  Prog.each (fun number => match canonicalInt number with
    | some value =>
      if lot.slotStart ≤ value && value ≤ lot.slotEnd then
        reportWarning .duplicateInternalNumber
          (lit "Park lot " ++ quoted lot.name ++ lit " covers slot " ++ number ++
            lit ", which is also a dialable internal number; the internal number wins.")
          (some subject) (some (lit "slotStart"))
      else pure ()
    | none => pure ()) s.internalNumbers.keys

def compileParkSlot (ix : Index) (r : Recur) (ranges : List ParkSlotRange) (lot : ParkLotInput) :
    Compiler (List ParkSlotRange) :=
  if !lot.enabled then pure ranges
  else
    let subject : DiagnosticSubject := ⟨lit "park-lot", lot.id, some lot.name⟩
    if lot.slotEnd < lot.slotStart then do
      reportError .invalidPattern
        (lit "Park lot " ++ quoted lot.name ++ lit " ends (" ++ intText lot.slotEnd ++
          lit ") before it starts (" ++ intText lot.slotStart ++ lit ").")
        (some subject) (some (lit "slotEnd"))
      pure ranges
    else if ranges.any (fun range =>
        lot.slotStart ≤ range.slotEnd && range.slotStart ≤ lot.slotEnd) then do
      reportError .duplicateInternalNumber
        (lit "Park lot " ++ quoted lot.name ++ lit " (" ++ intText lot.slotStart ++ lit "-" ++
          intText lot.slotEnd ++ lit ") overlaps another lot's slot range.")
        (some subject) (some (lit "slotStart"))
      pure ranges
    else do
      reportSlotClashes lot subject
      let nodeId ← parkNode ix r lot
      pure (ranges ++ [⟨lot.id, lot.slotStart, lot.slotEnd, nodeId⟩])

def compileParkSlots (s : OrgRoutingSnapshot) (ix : Index) :
    Compiler (List ParkSlotRange) := do
  let ranges ← Prog.fold (compileParkSlot ix (build p ix)) [] (sortById (·.id) s.parkLots)
  pure (sortOn (·.slotStart) ranges)

def mailboxNames (_ : MailboxEntry) : List JsString :=
  [lit "voicemailBoxId", lit "mailboxNumber", lit "leaveNodeId", lit "checkNodeId"]

def compileMailbox (ix : Index) (mailboxes : Record MailboxEntry) (box : VoicemailBoxInput) :
    Compiler (Record MailboxEntry) :=
  if !box.enabled then pure mailboxes
  else if (mailboxes.lookup box.mailboxNumber).isDefined then do
    reportError .duplicateInternalNumber (lit "Mailbox number " ++ box.mailboxNumber ++
        lit " is claimed by more than one voicemail box.")
      (some ⟨lit "voicemail-box", box.id, some box.mailboxNumber⟩) (some (lit "mailboxNumber"))
    pure mailboxes
  else do
    let leaveNodeId ← voicemailNode ix box .leave
    let checkNodeId ← voicemailNode ix box .check
    pure (mailboxes.assign mailboxNames box.mailboxNumber
      ⟨box.id, box.mailboxNumber, leaveNodeId, checkNodeId⟩)

def compileMailboxes (ix : Index) : Compiler (Record MailboxEntry) := do
  let mailboxes ← Prog.fold (compileMailbox ix) Record.empty (sortById (·.id) s.voicemailBoxes)
  pure (mailboxes.sorted mailboxNames)

/-- An empty emergency table is left out of the tables that embed it. -/
def embedded (emergency : Record EmergencyRule) : Option (Record EmergencyRule) :=
  if emergency.keys.isEmpty then none else some emergency

def compileInternal (s : OrgRoutingSnapshot) (ix : Index)
    (emergency : Record EmergencyRule) : Compiler InternalMatchTable := do
  let featureCodes ← compileFeatureCodes p s ix
  let voicemailPrefixes ← compileVoicemailPrefixes s featureCodes
  claimInternalNumbers p s ix
  reportEmergencyShadowing emergency
  let parkSlots ← compileParkSlots p s ix
  let mailboxes ← compileMailboxes s ix
  let state ← Prog.get
  let noMatchNodeId ← hangupNode .unallocatedNumber
  pure
    { emergency := embedded emergency
      featureCodes := featureCodes
      voicemailPrefixes := voicemailPrefixes
      mailboxes := mailboxes
      numbers := Record.fromEntries state.internalNumbers
      parkSlots := parkSlots
      noMatchNodeId := noMatchNodeId }

end OptimiqVoice.Routing.Compile

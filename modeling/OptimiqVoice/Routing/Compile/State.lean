import OptimiqVoice.Lib.Prog
import OptimiqVoice.Routing.Artifact

namespace OptimiqVoice.Routing.Compile

open Lib Telephony

structure CompilerState where
  diagnostics : List Diagnostic
  nodes : Dict PlanNodeId PlanNode
  claimed : List PlanNodeId
  internalNumbers : Dict JsString InternalNumberEntry
  timeConditionsById : Dict JsString CompiledTimeCondition

def CompilerState.initial : CompilerState := ⟨[], Dict.empty, [], Dict.empty, Dict.empty⟩

abbrev Compiler (α : Type) := Prog CompilerState α

def addDiagnostic (d : Diagnostic) : Compiler Unit :=
  Prog.modify (fun s => { s with diagnostics := s.diagnostics ++ [d] })

def reportError (code : DiagnosticCode) (message : JsString) (subject : Option DiagnosticSubject)
    (path : Option JsString) : Compiler Unit :=
  addDiagnostic ⟨.error, code, message, subject, path⟩

def reportWarning (code : DiagnosticCode) (message : JsString) (subject : Option DiagnosticSubject)
    (path : Option JsString) : Compiler Unit :=
  addDiagnostic ⟨.warning, code, message, subject, path⟩

variable (id : PlanNodeId)

def claim : Compiler Unit :=
  Prog.modify (fun s => { s with claimed := id :: s.claimed })

def setNode (body : PlanBody) : Compiler Unit :=
  Prog.modify (fun s => { s with nodes := s.nodes.set id ⟨id, body⟩ })

/-- Every node is built once. Its id is claimed before the body is built, which
is what stops a cycle of destinations from recursing forever. -/
def claimNode (build : Compiler PlanBody) : Compiler PlanNodeId := do
  let s ← Prog.get
  if id ∈ s.claimed then pure id
  else do
    claim id
    let body ← build
    setNode id body
    pure id

def sortById {α : Type} (id : α → JsString) (rows : List α) : List α := sortOn id rows

def sortByOrdinal {α : Type} (ordinal : α → Int) (id : α → JsString) (rows : List α) : List α :=
  sortOn (fun row => toLex (ordinal row, id row)) rows

def greetingKey (voicemailBoxId : JsString) (kind : VoicemailGreetingKind) : JsString :=
  voicemailBoxId ++ lit ":" ++ kind.text

structure Index where
  (extensionsById extensionsByNumber : Dict JsString ExtensionInput)
  ivrMenusById : Dict JsString IvrMenuInput
  ringGroupsById : Dict JsString RingGroupInput
  queuesById : Dict JsString QueueInput
  (voicemailById voicemailByExtension : Dict JsString VoicemailBoxInput)
  conferencesById : Dict JsString ConferenceInput
  parkLotsById : Dict JsString ParkLotInput
  phoneNumbersById : Dict JsString PhoneNumberInput
  trunksById : Dict JsString TrunkInput
  timeConditionInputsById : Dict JsString TimeConditionInput
  /-- Whether the snapshot has a `mohClasses` collection at all. -/
  mohClassesLoaded : Bool
  mohClassesById : Dict JsString MohClassInput
  emergencyAddressesById : Dict JsString EmergencyAddressInput
  activeGreetings : Dict JsString VoicemailGreetingInput
  ivrOptionsByMenu : Dict JsString (List IvrMenuOptionInput)
  ringMembersByGroup : Dict JsString (List RingGroupDestinationInput)
  timeRulesByCondition : Dict JsString (List TimeConditionRuleInput)

/-- The mailboxes that belong to an extension, by that extension. -/
def indexOwnedBoxes (boxes : List VoicemailBoxInput) : Dict JsString VoicemailBoxInput :=
  boxes.foldl (fun d box => match box.extensionId.toOption with
      | some extensionId => if box.enabled then d.set extensionId box else d
      | none => d) Dict.empty

/-- The first active greeting of each kind, for the mailboxes that exist. -/
def indexGreetings (boxes : Dict JsString VoicemailBoxInput)
    (greetings : List VoicemailGreetingInput) : Dict JsString VoicemailGreetingInput :=
  greetings.foldl (fun d g =>
      let key := greetingKey g.voicemailBoxId g.kind
      if g.active && boxes.has g.voicemailBoxId && !d.has key then d.set key g else d) Dict.empty

def groupBy {α : Type} (key : α → JsString) (rows : List α) : Dict JsString (List α) :=
  rows.foldl (fun d row => d.push (key row) row) Dict.empty

def index (s : OrgRoutingSnapshot) : Index :=
  let extensions := sortById (·.id) s.extensions
  let boxes := sortById (·.id) s.voicemailBoxes
  let voicemailById := Dict.indexBy (·.id) boxes
  { extensionsById := Dict.indexBy (·.id) extensions
    extensionsByNumber := Dict.indexBy (·.number) (extensions.filter (·.enabled))
    ivrMenusById := Dict.indexBy (·.id) (sortById (·.id) s.ivrMenus)
    ringGroupsById := Dict.indexBy (·.id) (sortById (·.id) s.ringGroups)
    queuesById := Dict.indexBy (·.id) (sortById (·.id) s.queues)
    voicemailById := voicemailById
    voicemailByExtension := indexOwnedBoxes boxes
    conferencesById := Dict.indexBy (·.id) (sortById (·.id) s.conferences)
    parkLotsById := Dict.indexBy (·.id) (sortById (·.id) s.parkLots)
    phoneNumbersById := Dict.indexBy (·.id) (sortById (·.id) s.phoneNumbers)
    trunksById := Dict.indexBy (·.id) (sortById (·.id) s.trunks)
    timeConditionInputsById := Dict.indexBy (·.id) (sortById (·.id) s.timeConditions)
    mohClassesLoaded := s.mohClasses.isSome
    mohClassesById := Dict.indexBy (·.id) (sortById (·.id) (s.mohClasses.getD []))
    emergencyAddressesById :=
      Dict.indexBy (·.id) (sortById (·.id) (s.emergencyAddresses.getD []))
    activeGreetings :=
      indexGreetings voicemailById (sortById (·.id) (s.voicemailGreetings.getD []))
    ivrOptionsByMenu := groupBy (·.ivrMenuId) (sortByOrdinal (·.ordinal) (·.id) s.ivrMenuOptions)
    ringMembersByGroup :=
      groupBy (·.ringGroupId) (sortByOrdinal (·.ordinal) (·.id) s.ringGroupDestinations)
    timeRulesByCondition :=
      groupBy (·.timeConditionId) (sortByOrdinal (·.ordinal) (·.id) s.timeConditionRules) }

/-- The diagnostics of the indexing pass. -/
def indexVoicemailGreetings (s : OrgRoutingSnapshot) (ix : Index) : Compiler Unit :=
  Prog.each (fun g =>
      if g.active && !ix.voicemailById.has g.voicemailBoxId then
        reportWarning .danglingVoicemailGreeting
          (lit "Voicemail greeting " ++ quoted g.id ++ lit " belongs to mailbox " ++
            quoted g.voicemailBoxId ++ lit ", which is not in this snapshot; it was ignored.")
          (some ⟨lit "voicemail-greeting", g.id, none⟩) (some (lit "voicemailBoxId"))
      else pure ()) (sortById (·.id) (s.voicemailGreetings.getD []))

end OptimiqVoice.Routing.Compile

import OptimiqVoice.Routing.Compile.Entities

namespace OptimiqVoice.Routing.Compile

open Lib Telephony

inductive DestinationKind where
  | entity | value | terminal

def destinationKind : DestinationType → DestinationKind
  | .external => .value
  | .application => .value
  | .hangup => .terminal
  | .unknown _ => .terminal
  | _ => .entity

def isDestinationType : DestinationType → Bool
  | .unknown _ => false
  | _ => true

inductive DestinationShapeIssue where
  | unknownType | missingRef | unexpectedRef | missingValue

def DestinationShapeIssue.text : DestinationShapeIssue → JsString
  | .unknownType => lit "unknown-type"
  | .missingRef => lit "missing-ref"
  | .unexpectedRef => lit "unexpected-ref"
  | .missingValue => lit "missing-value"

variable (d : DestinationInput)

def hasValue : Bool :=
  (d.destinationData.toOption.bind (·.value)).any (fun value => 0 < (trim value).length)

def destinationShapeIssues : List DestinationShapeIssue :=
  if !isDestinationType d.destinationType then [.unknownType]
  else
    let ref := d.destinationRef.toOption
    match destinationKind d.destinationType with
    | .entity => if ref.all (·.length = 0) then [.missingRef] else []
    | .value =>
      (if ref.isSome then [.unexpectedRef] else []) ++ (if hasValue d then [] else [.missingValue])
    | .terminal => if ref.isSome then [.unexpectedRef] else []

/-- A release with the cause the destination names, or a normal clearing. -/
def hangupDestination (subject : DiagnosticSubject) (path : JsString) :
    Compiler (Option PlanNodeId) :=
  match d.destinationData.toOption.bind (·.cause) with
  | none => do
    let id ← hangupNode .normalClearing
    pure (some id)
  | some text => match HangupCause.ofText? text with
    | some cause => do
      let id ← hangupNode cause
      pure (some id)
    | none => do
      reportError .invalidDestinationShape
        (lit "Hangup destination names an unknown cause " ++ quoted text ++ lit ".")
        (some subject) (some path)
      pure none

def destinationNode (p : Platform) (ix : Index) (r : Recur) (d : DestinationInput)
    (subject : DiagnosticSubject) (path : JsString) : Compiler (Option PlanNodeId) :=
  if !isDestinationType d.destinationType then do
    reportError .unknownDestinationType
      (lit "Destination type " ++ stringify d.destinationType.text ++
        lit " is not a routing destination.") (some subject) (some path)
    pure none
  else
    let shapeIssues := destinationShapeIssues d
    if !shapeIssues.isEmpty then do
      reportError .invalidDestinationShape
        (lit "Destination of type " ++ quoted d.destinationType.text ++ lit " is malformed (" ++
          join (lit ", ") (shapeIssues.map (·.text)) ++ lit ").") (some subject) (some path)
      pure none
    else
      let ref := d.destinationRef.toOption.getD []
      let value := (d.destinationData.toOption.bind (·.value)).getD []
      match d.destinationType with
      | .extension => targetNode ix.extensionsById (lit "extension") (·.number) (·.enabled)
          (extensionNode ix r) ref subject path
      | .ivr => targetNode ix.ivrMenusById (lit "IVR menu") (·.name) (·.enabled)
          (ivrNode p ix r) ref subject path
      | .ringGroup => targetNode ix.ringGroupsById (lit "ring group") (·.name) (·.enabled)
          (ringGroupNode ix r) ref subject path
      | .queue => targetNode ix.queuesById (lit "queue") (·.name) (·.enabled)
          (queueNode ix r) ref subject path
      | .voicemail => targetNode ix.voicemailById (lit "voicemail box") (·.mailboxNumber)
          (·.enabled) (fun box => voicemailNode ix box .leave) ref subject path
      | .conference => targetNode ix.conferencesById (lit "conference") (·.name) (·.enabled)
          (conferenceNode ix) ref subject path
      | .park => targetNode ix.parkLotsById (lit "park lot") (·.name) (·.enabled)
          (parkNode ix r) ref subject path
      | .timeCondition => targetNode ix.timeConditionInputsById (lit "time condition") (·.name)
          (·.enabled) (timeConditionNode r) ref subject path
      | .external => do
        let id ← externalNode value true
        pure (some id)
      | .application => do
        let id ← applicationNode value (d.destinationData.toOption.bind (·.args))
        pure (some id)
      | .hangup => hangupDestination d subject path
      | .unknown _ => hangupDestination d subject path

/-- The constructors with `n` levels of recursion available. Every level below
the first is entered with one more id claimed, so a bound on the number of
entities is enough. -/
def recur (p : Platform) (ix : Index) : Nat → Recur
  | 0 => ⟨fun _ _ _ => Prog.stop, fun _ => Prog.stop⟩
  | n + 1 => ⟨destinationNode p ix (recur p ix n), extensionNode ix (recur p ix n)⟩

def recursiveIds (ix : Index) : List PlanNodeId :=
  ix.extensionsById.values.map extensionId ++ ix.extensionsByNumber.values.map extensionId ++
    ix.ivrMenusById.values.map ivrMenuId ++
    ix.ringGroupsById.values.map (fun group => lit "ring-group:" ++ group.id) ++
    ix.queuesById.values.map (fun entry => lit "queue:" ++ entry.id) ++
    ix.parkLotsById.values.map (fun lot => lit "park:" ++ lot.id) ++
    ix.timeConditionInputsById.values.map (fun condition => lit "time-condition:" ++ condition.id)

def build (p : Platform) (ix : Index) : Recur := recur p ix ((recursiveIds ix).length + 1)

end OptimiqVoice.Routing.Compile

import OptimiqVoice.Routing.Compile.State
import OptimiqVoice.Routing.VoicemailPin

namespace OptimiqVoice.Routing.Compile

open Lib Telephony

def hangupId (cause : HangupCause) : PlanNodeId := lit "hangup:" ++ cause.text

def hangupNode (cause : HangupCause) : Compiler PlanNodeId :=
  claimNode (hangupId cause) (pure (.hangup cause))

def nodeOrHangup (node : Option PlanNodeId) (cause : HangupCause) : Compiler PlanNodeId :=
  match node with
  | some id => pure id
  | none => hangupNode cause

def missingTarget (kind ref : JsString) (subject : DiagnosticSubject) (path : JsString) :
    Compiler (Option PlanNodeId) := do
  reportError .danglingDestination (lit "Destination points at " ++ kind ++ lit " " ++ quoted ref ++
      lit ", which is not in this organization's configuration.") (some subject) (some path)
  pure none

def disabledTarget (kind name : JsString) (subject : DiagnosticSubject) (path : JsString) :
    Compiler (Option PlanNodeId) := do
  reportWarning .disabledEntity (lit "Destination points at " ++ kind ++ lit " " ++ quoted name ++
      lit ", which is disabled; calls reaching it are released.") (some subject) (some path)
  let id ← hangupNode .serviceUnavailable
  pure (some id)

/-- The shape every lookup by reference has: a missing row is an error, a
disabled one releases the call, an enabled one gets its node. -/
def targetNode {α : Type} (rows : Dict JsString α) (kind : JsString) (name : α → JsString)
    (enabled : α → Bool) (build : α → Compiler PlanNodeId) (ref : JsString)
    (subject : DiagnosticSubject) (path : JsString) : Compiler (Option PlanNodeId) :=
  match rows.get? ref with
  | none => missingTarget kind ref subject path
  | some row =>
    if enabled row then do
      let id ← build row
      pure (some id)
    else disabledTarget kind (name row) subject path

variable (ix : Index)

def mohClassName (mohClassId : Nullable JsString) (subject : DiagnosticSubject)
    (path : JsString) : Compiler (Option JsString) :=
  match mohClassId.toOption with
  | none => pure none
  | some id =>
    if trim id = [] then pure none
    else if !ix.mohClassesLoaded then pure none
    else match ix.mohClassesById.get? id with
      | none => do
        reportWarning .danglingMohClass (lit "Music-on-hold class " ++ quoted id ++
            lit " is not in this snapshot; callers hear the media server's default class.")
          (some subject) (some path)
        pure none
      | some mohClass =>
        if mohClass.enabled then pure (some mohClass.name)
        else do
          reportWarning .danglingMohClass (lit "Music-on-hold class " ++ quoted mohClass.name ++
              lit " is disabled; callers hear the media server's default class.")
            (some subject) (some path)
          pure none

def externalNode (value : JsString) (viaOutboundRouting : Bool) : Compiler PlanNodeId :=
  let destination := trim value
  claimNode (lit "external:" ++ destination) (pure (.external ⟨destination, viaOutboundRouting⟩))

def argsKey (args : Option Args) : JsString :=
  match args with
  | none => []
  | some args =>
    lit "|" ++ join (lit ",") ((sortOn (·.1) args).map (fun a => a.1 ++ lit "=" ++ a.2.text))

def applicationNode (name : JsString) (args : Option Args) : Compiler PlanNodeId :=
  claimNode (lit "application:" ++ (name ++ argsKey args)) (pure (.application ⟨name, args⟩))

def objectMediaRef (objectKey : JsString) : JsString :=
  lit "object://" ++ (trim objectKey).dropWhile (· = unit '/')

/-- A temporary greeting is played before the unavailable one. -/
def activeLeaveGreeting (voicemailBoxId : JsString) : Option VoicemailGreetingInput :=
  [VoicemailGreetingKind.temporary, .unavailable].findSome? (fun kind =>
    (ix.activeGreetings.get? (greetingKey voicemailBoxId kind)).filter
      (fun g => 0 < (trim g.objectKey).length))

/-- A digest that cannot be read is reported and left out. -/
def readPinHash (raw : Nullable JsString) (message : VoicemailPinHashIssue → JsString)
    (subject : DiagnosticSubject) (path : JsString) : Compiler (Option JsString) :=
  match raw.toOption with
  | none => pure none
  | some value =>
    if trim value = [] then pure none
    else match voicemailPinHashIssue value with
      | some issue => do
        reportWarning .invalidPinHash (message issue) (some subject) (some path)
        pure none
      | none => pure (some (trim value))

def voicemailPinHash (box : VoicemailBoxInput) (subject : DiagnosticSubject) :
    Compiler (Option JsString) :=
  readPinHash box.pinHash (fun issue =>
    lit "Mailbox " ++ box.mailboxNumber ++ lit " has a PIN digest this release cannot read (" ++
      issue.text ++ lit "); the PIN is NOT enforced and the mailbox falls back to " ++
      lit "authenticating by the calling extension.") subject (lit "pinHash")

def voicemailNode (box : VoicemailBoxInput) (mode : VoicemailMode) :
    Compiler PlanNodeId :=
  claimNode (lit "voicemail:" ++ (box.id ++ lit ":" ++ mode.text)) do
    let greeting := match mode with
      | .leave => activeLeaveGreeting ix box.id
      | .check => none
    let pinHash ← voicemailPinHash box ⟨lit "voicemail-box", box.id, some box.mailboxNumber⟩
    pure (.voicemail
      { label := box.label.toOption.getD box.mailboxNumber
        voicemailBoxId := box.id
        mailboxNumber := box.mailboxNumber
        mode := mode
        maxMessageSeconds := box.maxMessageSeconds
        mwiEnabled := box.mwiEnabled
        greetingMedia := greeting.map (fun g => objectMediaRef g.objectKey)
        greetingKind := greeting.map (·.kind)
        pinHash := pinHash })

def conferencePinHash (room : ConferenceInput) (raw : Nullable JsString) (which path : JsString)
    (subject : DiagnosticSubject) : Compiler (Option JsString) :=
  readPinHash raw (fun issue =>
    lit "Conference room " ++ room.roomNumber ++ lit " has a " ++ which ++
      lit " PIN digest this release cannot read (" ++ issue.text ++
      lit "); the room is refused rather than admitted without a PIN.") subject path

def conferenceNode (room : ConferenceInput) : Compiler PlanNodeId :=
  claimNode (lit "conference:" ++ room.id) do
    let subject : DiagnosticSubject := ⟨lit "conference", room.id, some room.name⟩
    let mohClass ← mohClassName ix room.mohClassId subject (lit "mohClassId")
    let pinHash ← conferencePinHash room room.pinHash (lit "participant") (lit "pinHash") subject
    let moderatorPinHash ← conferencePinHash room room.moderatorPinHash (lit "moderator")
      (lit "moderatorPinHash") subject
    pure (.conference
      { label := room.name
        conferenceId := room.id
        roomNumber := room.roomNumber
        requiresPin := room.requiresPin
        maxMembers := room.maxMembers
        waitForModerator := room.waitForModerator
        recordEnabled := room.recordEnabled
        mohClassId := room.mohClassId.toOption
        mohClass := mohClass
        pinHash := pinHash
        moderatorPinHash := moderatorPinHash
        requiresModeratorPin :=
          room.requiresModeratorPin.getD room.moderatorPinHash.toOption.isSome })

/-- The two constructors the others call back into. Tying this knot with a
bounded number of unfoldings replaces the mutual recursion of the source. -/
structure Recur where
  destinationNode : DestinationInput → DiagnosticSubject → JsString → Compiler (Option PlanNodeId)
  extensionNode : ExtensionInput → Compiler PlanNodeId

def namedDestinationNode (r : Recur) (named : NamedDestination) (name : JsString)
    (subject : DiagnosticSubject) : Compiler (Option PlanNodeId) :=
  match named.type.toOption with
  | none => pure none
  | some type => r.destinationNode ⟨type, named.ref, named.data⟩ subject (name ++ lit "Destination")

end OptimiqVoice.Routing.Compile

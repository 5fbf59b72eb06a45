import OptimiqVoice.Engine.Bridge

namespace OptimiqVoice.Engine.PlanWalker

open Lib Telephony Routing

variable (k : PlanWalker)

variable (plan : VoicemailPlan)

def leaveGreetingFor : JsString :=
  match plan.greetingMedia with
  | none => k.settings.voicemailGreeting
  | some ref => (translateMediaRef ref k.settings.mediaRefs).getD k.settings.voicemailGreeting

def fileVoicemailMessage (recordingId : Nat) (durationMs : Int) : Walk Unit :=
  if k.wiring.voicemail then do
    let messageId ← Walk.newId
    let _ ← Walk.ask (.fileMessage
      { voicemailBoxId := plan.voicemailBoxId
        mailboxNumber := plan.mailboxNumber
        messageId := messageId
        recordingId := recordingId
        durationMs := durationMs
        mwiEnabled := plan.mwiEnabled
        callerIdNumber := k.callerIdNumber
        callerIdName := k.callerIdName })
    pure ()
  else pure ()

def leaveVoicemail : Walk StepResult := do
  let _ ← Walk.execute (.play (k.leaveGreetingFor plan))
  let recordingId ← Walk.newId
  let maxSeconds := orElse plan.maxMessageSeconds 120
  let a ← Walk.ask (.record
    { name := recordingId
      format := k.settings.recordingFormat
      maxDurationSeconds := maxSeconds
      maxSilenceSeconds := 5
      beep := true
      terminateOn := lit "#" })
  if a.rejected then pure (.hangup .normalTemporaryFailure)
  else do
    Walk.publish (.recordStarted recordingId)
    let b ← Walk.ask (.awaitRecording recordingId ((maxSeconds + 5) * 1000))
    Walk.publish (.recordStopped recordingId b.durationMs b.recording)
    if b.recording = .failed ∨ b.durationMs ≤ 0 then pure (.hangup .normalClearing)
    else do
      k.fileVoicemailMessage plan recordingId b.durationMs
      pure (.hangup .normalClearing)

/-- Play one recording after the other while the leg is up; `false` when it went
down in between. -/
def playWhileUp : List JsString → Walk Bool
  | [] => pure true
  | media :: rest => do
    let c ← Walk.caller
    if c.isTearingDown then pure false
    else do
      let _ ← Walk.execute (.play media)
      playWhileUp rest

def mailboxFor (caller : Option JsString) (input : WalkInput) : Option JsString :=
  match nonBlank caller with
  | none => none
  | some number =>
    if plan.mailboxNumber = number then some plan.mailboxNumber
    else match input.mailboxes with
      | none => none
      | some mailboxes => (mailboxes.lookup number).field fun entry => some entry.mailboxNumber

/-- A challenge lets the caller in, or says how the node ends. -/
inductive Admission where
  | granted (moderator : Bool)
  | denied (result : StepResult)

def pinGather : GatherRequest where
  maxDigits := k.settings.voicemailPinMaxDigits
  terminators := [lit "#"]
  timeoutMs := k.settings.voicemailPinTimeoutMs
  interDigitTimeoutMs := k.settings.voicemailPinInterDigitTimeoutMs
  media := some k.settings.voicemailPinPrompt

def voicemailPinRounds (hash : JsString) : Nat → Walk Admission
  | 0 => pure (.denied (.hangup .callRejected))
  | left + 1 => do
    let c ← Walk.caller
    if c.isTearingDown then pure (.denied .aborted)
    else do
      let a ← Walk.execute (.gather k.pinGather)
      if !a.granted then pure (.denied (.hangup .normalTemporaryFailure))
      else if a.hangup then pure (.denied .aborted)
      else do
        let b ← Walk.ask (.verifyPin a.digits hash)
        match b.pin with
        | .ok => pure (.granted false)
        | .malformedHash | .kdfError => do
          let result ← k.unavailable .normalTemporaryFailure
          pure (.denied result)
        | .mismatch => do
          let _ ← Walk.execute (.play k.settings.voicemailPinInvalidPrompt)
          voicemailPinRounds hash left

def challengeVoicemailPin : Walk Admission :=
  match plan.pinHash with
  | none => pure (.granted false)
  | some hash => k.voicemailPinRounds hash k.settings.voicemailPinAttempts

def menuGather (media : JsString) : GatherRequest where
  maxDigits := 1
  terminators := [lit "#"]
  timeoutMs := k.settings.voicemailMenuTimeoutMs
  interDigitTimeoutMs := k.settings.voicemailMenuTimeoutMs
  media := some media

/-- The messages still to be played, and how often the first of them was replayed. -/
structure Playing where
  messages : List JsString
  replays : Nat

def playNext (p : Playing) : Walk (Playing ⊕ StepResult) :=
  match p.messages with
  | [] => pure (.inr (.hangup .normalClearing))
  | message :: rest => do
    let c ← Walk.caller
    if c.isTearingDown then pure (.inr .aborted)
    else match translateMediaRef message k.settings.mediaRefs with
      | none => pure (.inl ⟨rest, p.replays⟩)
      | some media => do
        let a ← Walk.execute (.gather (k.menuGather media))
        if !a.granted then pure (.inr (.hangup .normalTemporaryFailure))
        else if a.hangup then pure (.inr .aborted)
        else if a.digits = lit "*" then pure (.inr (.hangup .normalClearing))
        else if a.digits = lit "2" ∧ p.replays < k.settings.voicemailMaxReplays then
          pure (.inl ⟨p.messages, p.replays + 1⟩)
        else pure (.inl ⟨rest, 0⟩)

def playTurns : Nat → Playing → Walk StepResult
  | 0, _ => pure (.hangup .normalClearing)
  | n + 1, p => do
    match ← k.playNext p with
    | .inl p' => playTurns n p'
    | .inr result => pure result

/-- A message is played once and replayed a bounded number of times, which
bounds the turns of the loop. -/
def playVoicemailMessages (messages : List JsString) : Walk StepResult :=
  k.playTurns (messages.length * (k.settings.voicemailMaxReplays + 1) + 1) ⟨messages, 0⟩

def voicemailMenu (mailbox : JsString) : Walk StepResult :=
  if k.wiring.mailbox then do
    let a ← Walk.ask (.listMailbox plan.voicemailBoxId mailbox)
    match if a.rejected then none else a.messages with
    | none => k.unavailable .normalClearing
    | some messages => do
      let up ← playWhileUp (k.spellNumber (natText messages.length))
      if !up then pure .aborted
      else if messages.isEmpty then pure (.hangup .normalClearing)
      else k.playVoicemailMessages messages
  else k.unavailable .normalClearing

def voicemailCheck (input : WalkInput) : Walk StepResult :=
  match mailboxFor plan (input.callerIdNumber.or k.callerIdNumber) input with
  | none => k.unavailable .invalidNumberFormat
  | some mailbox => do
    match ← k.challengeVoicemailPin plan with
    | .denied result => pure result
    | .granted _ => do
      let up ← playWhileUp (k.spellNumber mailbox)
      if !up then pure .aborted else k.voicemailMenu plan mailbox

def voicemailNode (input : WalkInput) : Walk StepResult := do
  let answered ← k.ensureAnswered
  if !answered then pure .aborted
  else match plan.mode with
    | .check => k.voicemailCheck plan input
    | .leave => k.leaveVoicemail plan

end OptimiqVoice.Engine.PlanWalker

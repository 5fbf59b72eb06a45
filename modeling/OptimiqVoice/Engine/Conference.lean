import OptimiqVoice.Engine.Voicemail

namespace OptimiqVoice.Engine.PlanWalker

open Lib Telephony Routing

variable (k : PlanWalker)

def conferencePinGather : GatherRequest where
  maxDigits := k.settings.conferencePinMaxDigits
  terminators := [lit "#"]
  timeoutMs := k.settings.conferencePinTimeoutMs
  interDigitTimeoutMs := k.settings.conferencePinInterDigitTimeoutMs
  media := some k.settings.conferencePinPrompt

def verifyAgainst (digits : JsString) : Option JsString → Walk PinVerdict
  | none => pure .mismatch
  | some hash => do
    let a ← Walk.ask (.verifyPin digits hash)
    pure a.pin

/-- A digest that cannot be verified refuses the room. -/
def judgePin (moderator : Bool) (verdict : PinVerdict) (next : Walk Admission) : Walk Admission :=
  match verdict with
  | .ok => pure (.granted moderator)
  | .malformedHash | .kdfError => do
    let result ← k.unavailable .normalTemporaryFailure
    pure (.denied result)
  | .mismatch => next

def conferencePinRounds (plan : ConferencePlan) : Nat → Walk Admission
  | 0 => pure (.denied (.hangup .callRejected))
  | left + 1 => do
    let c ← Walk.caller
    if c.isTearingDown then pure (.denied .aborted)
    else do
      let a ← Walk.execute (.gather k.conferencePinGather)
      if !a.granted then pure (.denied (.hangup .normalTemporaryFailure))
      else if a.hangup then pure (.denied .aborted)
      else if (trim a.digits).isEmpty && plan.pinHash.isNone then pure (.granted false)
      else do
        let asModerator ← verifyAgainst a.digits plan.moderatorPinHash
        k.judgePin true asModerator do
          let asParticipant ← verifyAgainst a.digits plan.pinHash
          k.judgePin false asParticipant do
            let _ ← Walk.execute (.play k.settings.conferencePinInvalidPrompt)
            conferencePinRounds plan left

variable (plan : ConferencePlan)

def challengeConferencePin : Walk Admission :=
  if plan.requiresPin && plan.pinHash.isNone then do
    let result ← k.unavailable .normalTemporaryFailure
    pure (.denied result)
  else if plan.pinHash.isNone && plan.moderatorPinHash.isNone then pure (.granted false)
  else k.conferencePinRounds plan k.settings.conferencePinAttempts

/-- Wait on hold for a moderator. The wait is over when one arrives, when the
caller hangs up or when the budget is spent. -/
def holdForModerator : Walk Bool := do
  let _ ← Walk.call (.startMusicOnHold plan.mohClass)
  let a ← Walk.ask (.awaitModerator plan.conferenceId k.settings.conferenceModeratorWaitMs)
  let _ ← Walk.ask .stopMusicOnHold
  let c ← Walk.caller
  if a.event = some .callerEnded || c.isTearingDown then pure false
  else do
    let r ← Walk.ask (.roomOf plan.conferenceId)
    if r.room.any (·.moderatorPresent) then pure true
    else do
      let b ← Walk.call (.refreshConference plan.conferenceId)
      pure b.granted

def awaitAdmission (moderator : Bool) (room : ConferenceRoom) : Walk Bool :=
  if plan.waitForModerator && !moderator && !room.moderatorPresent then k.holdForModerator plan
  else pure true

def enterConference (moderator : Bool) (bridgeId : BridgeId)
    (room : ConferenceRoom) : Walk StepResult := do
  let joined ← joinBridge bridgeId none
  if !joined then do
    let _ ← Walk.call (.leaveConference plan.conferenceId)
    pure (.hangup .normalTemporaryFailure)
  else do
    Walk.tell (.setBridge bridgeId)
    Walk.tell (.moveTo .exchangingMedia)
    let r ← Walk.ask (.roomOf plan.conferenceId)
    Walk.publish (.conferenceJoined plan.conferenceId bridgeId moderator
      ((r.room.getD room).memberCount))
    Walk.tell (.leaveOnEnd plan.conferenceId bridgeId)
    pure .bridged

def joinConference (moderator : Bool) : Walk StepResult := do
  let newBridgeId ← Walk.newId
  let a ← Walk.call (.joinConference plan.conferenceId moderator newBridgeId plan.maxMembers)
  match a.admission with
  | .full => k.announceAndHangup k.settings.conferenceFullAnnouncement .userBusy
  | .claimsUnavailable => k.unavailable .normalTemporaryFailure
  | .joined bridgeId room => do
    let admitted ← k.awaitAdmission plan moderator room
    if !admitted then do
      let _ ← Walk.call (.leaveConference plan.conferenceId)
      pure .aborted
    else enterConference plan moderator bridgeId room

def conferenceNode : Walk StepResult :=
  if !k.wiring.conferences then k.unavailable .facilityNotImplemented
  else do
    let answered ← k.ensureAnswered
    if !answered then pure .aborted
    else do
      match ← k.challengeConferencePin plan with
      | .denied result => pure result
      | .granted moderator => k.joinConference plan moderator

end OptimiqVoice.Engine.PlanWalker

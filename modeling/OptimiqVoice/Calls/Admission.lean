import OptimiqVoice.Calls.ChannelAggregate
import OptimiqVoice.Lib.Machine

namespace OptimiqVoice.Calls

open Lib Telephony

inductive ChannelClaimResult where
  | claimed | owned | unavailable
deriving DecidableEq

/-- Where `onLegArrived` waits. -/
inductive Arriving where
  | idle
  | recording
  | rejecting
  | reading
  | attributing
  | claiming
  | watching
  | publishing
  | mirroring
  | executing
  | done
deriving DecidableEq

/-- Where `onLegEnded` waits. -/
inductive Ending where
  | idle
  | controlling (cause : HangupCause)
  | reporting
  | done
deriving DecidableEq

inductive Note where
  | entered
  | admitted
  | ended
  | walkStarted
  | reportingStarted
deriving DecidableEq

/-- One leg, and the two handlers that arrive and end it. -/
structure Desk where
  (isWatched isAccepting routingEnabled : Bool)
  /-- The aggregate, from the moment it is built. -/
  aggregate : Option ChannelSnapshot
  registered : Bool
  arriving : Arriving
  ending : Ending
  notes : List Note
deriving DecidableEq

/-- The two deliveries, and the awaits of the handlers that are over. -/
inductive DeskEvent where
  | arrived
  | legEnded (cause : HangupCause)
  | recorded
  | hungUp
  | readVariables (isOriginated : Bool)
  | attributed (organization : Option JsString)
  | claimed (result : ChannelClaimResult)
  | failed
  | subscribed
  | published
  | mirrored
  | executed
  | released (at_ : Int)
  | reported (written : Bool)
deriving DecidableEq

namespace Desk

variable (d : Desk)

def note (n : Note) : Desk := { d with notes := d.notes ++ [n] }

def byAriChannelId : Option ChannelSnapshot := if d.registered then d.aggregate else none

def onLegArrived : Desk :=
  if d.isWatched then { d.note .entered with arriving := .recording }
  else if d.byAriChannelId.isSome then { d with arriving := .recording }
  else if !d.isAccepting then { d with arriving := .rejecting }
  else { d with arriving := .reading }

def afterVariables (isOriginated : Bool) : Desk :=
  if isOriginated then { d.note .entered with arriving := .done } else { d with arriving := .attributing }

def afterAttribution : Option JsString → Desk
  | none => { d with arriving := .rejecting }
  | some _ => { d with aggregate := some {}, arriving := .claiming }

def afterClaim : ChannelClaimResult → Desk
  | .claimed => { d.note .admitted with registered := true, arriving := .watching }
  | .owned | .unavailable => { d with arriving := .done }

/-- `created → initializing → routing`; a leg that is being torn down throws. -/
def afterSubscribe : Desk :=
  match d.aggregate.bind fun a => (a.transitionTo .initializing).bind (·.transitionTo .routing) with
  | none => { d with arriving := .done }
  | some a => { d with aggregate := some a, arriving := .publishing }

def afterMirror : Desk :=
  match d.aggregate.bind (·.transitionTo .executing) with
  | none => { d with arriving := .done }
  | some a =>
    if d.routingEnabled then { d.note .walkStarted with aggregate := some a, arriving := .done }
    else { d with aggregate := some a, arriving := .executing }

def finishReporting (a : ChannelSnapshot) : Desk :=
  let a := (if a.state = .hangup then a.transitionTo .reporting else none).getD a
  if a.state = .reporting then
    { d.note .reportingStarted with aggregate := some a, ending := .reporting }
  else { d with aggregate := some a, ending := .done }

def onLegEnded (d : Desk) (cause : HangupCause) : Desk :=
  match d.byAriChannelId with
  | none => { d.note .ended with ending := .done }
  | some a =>
    if a.state = .reporting then (d.note .ended).finishReporting a
    else if a.state = .destroyed then { d.note .ended with ending := .done }
    else { d.note .ended with ending := .controlling cause }

/-- The rest of `onLegEnded`, once call control has let go of the leg. -/
def afterControl (cause : HangupCause) (at_ : Int) : Desk :=
  match d.aggregate with
  | none => { d with ending := .done }
  | some a => d.finishReporting ((a.markHangup cause at_ false).tryTransitionTo .hangup)

/-- Reporting is deferred, or the record is written and the leg leaves the registry. -/
def afterReport (written : Bool) : Desk :=
  if written then
    { d with
      aggregate := d.aggregate.map fun a => (a.transitionTo .destroyed).getD a
      registered := false
      ending := .done }
  else { d with ending := .done }

def step : DeskEvent → Option Desk
  | .arrived => if d.arriving = .idle then some d.onLegArrived else none
  | .legEnded cause =>
    if d.arriving ≠ .idle ∧ d.ending = .idle then some (d.onLegEnded cause) else none
  | .recorded => if d.arriving = .recording then some { d with arriving := .done } else none
  | .hungUp => if d.arriving = .rejecting then some { d with arriving := .done } else none
  | .readVariables b => if d.arriving = .reading then some (d.afterVariables b) else none
  | .attributed o => if d.arriving = .attributing then some (d.afterAttribution o) else none
  | .claimed r => if d.arriving = .claiming then some (d.afterClaim r) else none
  | .failed =>
    if d.arriving = .attributing ∨ d.arriving = .claiming then some { d with arriving := .done }
    else none
  | .subscribed => if d.arriving = .watching then some d.afterSubscribe else none
  | .published => if d.arriving = .publishing then some { d with arriving := .mirroring } else none
  | .mirrored => if d.arriving = .mirroring then some d.afterMirror else none
  | .executed => if d.arriving = .executing then some { d with arriving := .done } else none
  | .released at_ =>
    match d.ending with
    | .controlling cause => some (d.afterControl cause at_)
    | _ => none
  | .reported written => if d.ending = .reporting then some (d.afterReport written) else none

end Desk

end OptimiqVoice.Calls

import OptimiqVoice.Engine.Settings

namespace OptimiqVoice.Engine

open Lib Telephony

/-- A sequential dial tries no further leg after it. -/
def DialOutcome.stops (stopOnCauses : List HangupCause) : DialOutcome → Bool
  | .failed cause _ => cause ∈ stopOnCauses
  | .answered _ _ | .aborted => true
  | .timeout => false

inductive ConfirmVerdict where
  | accepted | declined | legGone | callerGone | unplayable
deriving DecidableEq

inductive ConfirmStep where
  | digit (digit : JsString)
  | timeout
  | terminal (verdict : ConfirmVerdict)
deriving DecidableEq

/-- Where a confirmation round stands: the prompt is being started, the round is
open, or the prompt is being stopped after the round was decided. -/
inductive ConfirmPhase where
  | prompting
  | asking
  | stopping (step : ConfirmStep)
deriving DecidableEq

structure Confirming where
  left : Nat
  terminal : Option ConfirmVerdict
  phase : ConfirmPhase

/-- What `confirmAnswer` does next: wait, begin the next turn of its loop, or return. -/
inductive ConfirmNext where
  | waiting (c : Confirming) (commands : List Request)
  | round (left : Nat) (terminal : Option ConfirmVerdict)
  | over (verdict : ConfirmVerdict)

namespace Confirming

variable (leg : LegId) (confirm : ConfirmRequest)

def decide (c : Confirming) (step : ConfirmStep) : ConfirmNext :=
  .waiting { c with phase := .stopping step } [.stopPrompt leg]

/-- The leg or the caller is gone. An open round is decided by it; a prompt that
is being started or stopped is first seen through. -/
def settleTerminal (c : Confirming) (verdict : ConfirmVerdict) : ConfirmNext :=
  let settled := c.terminal.getD verdict
  let c' := { c with terminal := some settled }
  if c.phase = .asking then decide leg c' (.terminal settled) else .waiting c' []

def afterPrompt (c : Confirming) (ok : Bool) : ConfirmNext :=
  if !ok then .over .unplayable
  else match c.terminal with
    | some verdict => decide leg c (.terminal verdict)
    | none => .waiting { c with phase := .asking } []

def afterStop (c : Confirming) : ConfirmStep → ConfirmNext
  | .terminal verdict => .over verdict
  | .digit digit => if digit = confirm.acceptDigit then .over .accepted else .round c.left c.terminal
  | .timeout => .round c.left c.terminal

def hear (c : Confirming) (e : Event) : ConfirmNext :=
  match e, c.phase with
  | .signal l (.ended _), _ => if l = leg then settleTerminal leg c .legGone else .waiting c []
  | .callerEnded, _ => settleTerminal leg c .callerGone
  | .prompted l ok, .prompting => if l = leg then afterPrompt leg c ok else .waiting c []
  | .signal l (.dtmf digit), .asking => if l = leg then decide leg c (.digit digit) else .waiting c []
  | .confirmTimer l, .asking => if l = leg then decide leg c .timeout else .waiting c []
  | .promptStopped l, .stopping step => if l = leg then afterStop confirm c step else .waiting c []
  | _, _ => .waiting c []

end Confirming

inductive LegPhase where
  | delayed | claiming | originating | placed
deriving DecidableEq

/-- The first step of `originate`: the leg is claimed before the media port is
asked for it, where claims are wired. -/
def placing (legs : Bool) (destination : Option PlanDestination) (leg : LegId)
    (attempt : DialAttempt) : LegPhase × Request :=
  if legs then (.claiming, .claim leg attempt destination) else (.originating, .originate leg attempt)

structure OneDial where
  phase : LegPhase
  outcome : Option DialOutcome
  armed : Bool

namespace OneDial

def resolve (d : OneDial) (outcome : DialOutcome) : OneDial :=
  { d with outcome := d.outcome.or (some outcome) }

variable (leg : LegId) (attempt : DialAttempt) (index : Nat)

def hearSignal (d : OneDial) : LegSignal → OneDial
  | .ringing | .progress => { d with armed := false }
  | .answered | .entered => { d with armed := false }.resolve (.answered leg index)
  | .dtmf _ => d
  | .ended cause => d.resolve (.failed cause index)

def hear (watching : Bool) (d : OneDial) (e : Event) : OneDial × List Request :=
  match e, d.phase with
  | .claimed l true, .claiming =>
    if l = leg then ({ d with phase := .originating }, [.originate leg attempt]) else (d, [])
  | .claimed l false, .claiming =>
    if l = leg then ({ d with phase := .placed }.resolve (.failed .userNotRegistered index), [])
    else (d, [])
  | .originated l true, .originating =>
    if l = leg then ({ d with phase := .placed }, []) else (d, [])
  | .originated l false, .originating =>
    if l = leg then ({ d with phase := .placed }.resolve (.failed .userNotRegistered index), [])
    else (d, [])
  | .signal l s, _ => if l = leg then (d.hearSignal leg index s, []) else (d, [])
  | .progressTimer l, _ =>
    if l = leg && d.armed then ({ d with armed := false }.resolve .timeout, []) else (d, [])
  | .ringTimer, _ => (d.resolve .timeout, [])
  | .callerEnded, _ => if watching then (d.resolve .aborted, []) else (d, [])
  | _, _ => (d, [])

def result (d : OneDial) : Option DialOutcome := if d.phase = .placed then d.outcome else none

/-- The end of the caller's leg would now be enough for the dial to be over. -/
def watched (watching : Bool) (d : OneDial) : Bool :=
  watching && d.phase = .placed && d.outcome.isNone

end OneDial

namespace PlanWalker

variable (k : PlanWalker)

def hangupQuietly (leg : LegId) (cause : HangupCause) : Walk Unit := do
  let _ ← Walk.ask (.hangupLeg leg cause)
  pure ()

def waitForOne (leg : LegId) (attempt : DialAttempt) (index : Nat) (watching : Bool) (d : OneDial) :
    Walk (OneDial ⊕ DialOutcome) :=
  match d.result with
  | some outcome => pure (.inr outcome)
  | none => do
    let a ← Walk.ask (.awaitLegs (d.watched watching))
    match a.event with
    | none => pure (.inl d)
    | some e => do
      Async.each Walk.tell (d.hear leg attempt index watching e).2
      pure (.inl (d.hear leg attempt index watching e).1)

def confirmTurn (leg : LegId) (confirm : ConfirmRequest) :
    ConfirmNext → Walk (ConfirmNext ⊕ ConfirmVerdict)
  | .over verdict => pure (.inr verdict)
  | .round 0 terminal => pure (.inr (terminal.getD .declined))
  | .round (_ + 1) (some verdict) => pure (.inr verdict)
  | .round (left + 1) none => do
    let abandoned ← Walk.abandoned
    if abandoned then pure (.inr .callerGone)
    else pure (.inl (.waiting ⟨left, none, .prompting⟩ [.promptLeg leg confirm.media]))
  | .waiting c commands => do
    Async.each Walk.tell commands
    let a ← Walk.ask (.awaitConfirm leg)
    match a.event with
    | none => pure (.inl (.waiting c []))
    | some e => pure (.inl (c.hear leg confirm e))

def confirmAnswer (leg : LegId) (confirm : ConfirmRequest) : Walk ConfirmVerdict :=
  Async.loop (confirmTurn leg confirm) (.round confirm.attempts none)

def settleConfirm (verdict : ConfirmVerdict) (answered : DialOutcome) : DialOutcome :=
  match verdict with
  | .accepted => answered
  | .callerGone => .aborted
  | _ => .timeout

def confirmed (attempt : DialAttempt) : DialOutcome → Walk DialOutcome
  | .answered leg index =>
    match attempt.confirm with
    | none => pure (.answered leg index)
    | some confirm => do
      let verdict ← confirmAnswer leg confirm
      pure (settleConfirm verdict (.answered leg index))
  | outcome => pure outcome

def closeDial (leg : LegId) : DialOutcome → Walk DialOutcome
  | .answered winner index => pure (.answered winner index)
  | outcome => do
    hangupQuietly leg .originatorCancel
    pure outcome

def dialOne (attempt : DialAttempt) (index : Nat) (watching : Bool) : Walk DialOutcome := do
  let leg ← Walk.newId
  let destination ← Walk.destination
  let (phase, first) := placing k.wiring.legs destination leg attempt
  Walk.tell first
  let outcome ← Async.loop (waitForOne leg attempt index watching)
    ⟨phase, none, 0 < k.settings.progressTimeoutSeconds⟩
  let settled ← confirmed attempt outcome
  closeDial leg settled

def startDelay (attempt : DialAttempt) : Walk Unit :=
  if 0 < attempt.delaySeconds then do
    let _ ← Walk.ask (.delay (attempt.delaySeconds * 1000))
    pure ()
  else pure ()

def dialSequentialFrom (stopOnCauses : List HangupCause) :
    Nat → DialOutcome → List DialAttempt → Walk DialOutcome
  | _, last, [] => pure last
  | index, _, attempt :: rest => do
    let abandoned ← Walk.abandoned
    if abandoned then pure .aborted
    else do
      startDelay attempt
      let outcome ← k.dialOne attempt index false
      if outcome.stops stopOnCauses then pure outcome
      else dialSequentialFrom stopOnCauses (index + 1) outcome rest

def dialSequential (attempts : List DialAttempt) (stopOnCauses : List HangupCause) :
    Walk DialOutcome :=
  k.dialSequentialFrom stopOnCauses 0 .timeout attempts

end PlanWalker

end OptimiqVoice.Engine

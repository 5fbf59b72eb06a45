import OptimiqVoice.Telephony.ChannelState
import OptimiqVoice.Telephony.HangupCauses

namespace OptimiqVoice.Calls

open Lib Telephony

/-- The channel variables that the engine reads back, each as its parsed value. -/
structure ChannelVariables where
  ownerInstanceId : Option JsString := none
  ownerExpiresAt : Option Int := none
  leg : Option JsString := none
  hangupInitiatedByEngine : Option Bool := none
  cdrId : Option Nat := none
  cdrHangupCauseCode : Option Int := none
  terminalHangupEventId : Option Nat := none
  terminalDestroyedEventId : Option Nat := none
  terminalEventsPublished : Bool := false
deriving DecidableEq

structure ChannelSnapshot where
  state : ChannelState := .created
  hangupCause : Option HangupCause := none
  hangupAt : Option Int := none
  createdAt : Int := 0
  vars : ChannelVariables := {}
deriving DecidableEq

namespace ChannelSnapshot

variable (s : ChannelSnapshot)

def isTearingDown : Bool := s.state.isTeardown

/-- A transition that is not in the table throws. -/
def transitionTo (next : ChannelState) : Option ChannelSnapshot :=
  if s.state.isValidTransition next then some { s with state := next } else none

def tryTransitionTo (next : ChannelState) : ChannelSnapshot :=
  if s.state = next then s else (s.transitionTo next).getD s

/-- The first cause stays. -/
def markHangup (cause : HangupCause) (at_ : Int) (initiatedByEngine : Bool) : ChannelSnapshot :=
  if s.hangupCause.isSome then s
  else { s with
    hangupCause := some cause
    hangupAt := some at_
    vars := { s.vars with hangupInitiatedByEngine := some initiatedByEngine } }

def wasHungUpByEngine : Bool := s.vars.hangupInitiatedByEngine = some true

@[simp]
theorem markHangup_state (cause : HangupCause) (at_ : Int) (engine : Bool) :
    (s.markHangup cause at_ engine).state = s.state := by
  unfold markHangup
  split <;> rfl

theorem tryTransitionTo_hangup : (s.tryTransitionTo .hangup).state =
    if s.isTearingDown then s.state else .hangup := by
  cases hs : s.state <;>
    simp [tryTransitionTo, transitionTo, isTearingDown, ChannelState.isTeardown, hs,
      ChannelState.isValidTransition, ChannelState.transitionsFrom]

end ChannelSnapshot

end OptimiqVoice.Calls

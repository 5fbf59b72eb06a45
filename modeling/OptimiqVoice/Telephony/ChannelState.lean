namespace OptimiqVoice.Telephony

inductive ChannelState where
  | created | initializing | routing | executing | exchangingMedia | parked | consumingMedia
  | softExecuting | hibernating | hangup | reporting | destroyed
deriving DecidableEq

namespace ChannelState

def transitionsFrom : ChannelState → List ChannelState
  | created => [initializing, hangup]
  | initializing => [routing, executing, parked, consumingMedia, hibernating, hangup]
  | routing =>
    [executing, exchangingMedia, parked, consumingMedia, softExecuting, hibernating, hangup]
  | executing =>
    [routing, exchangingMedia, parked, consumingMedia, softExecuting, hibernating, hangup]
  | exchangingMedia =>
    [routing, executing, parked, consumingMedia, softExecuting, hibernating, hangup]
  | parked => [routing, executing, exchangingMedia, consumingMedia, hibernating, hangup]
  | consumingMedia =>
    [routing, executing, exchangingMedia, parked, softExecuting, hibernating, hangup]
  | softExecuting =>
    [routing, executing, exchangingMedia, parked, consumingMedia, hibernating, hangup]
  | hibernating =>
    [routing, executing, exchangingMedia, parked, consumingMedia, softExecuting, hangup]
  | hangup => [reporting]
  | reporting => [destroyed]
  | destroyed => []

def isValidTransition (source target : ChannelState) : Bool := target ∈ source.transitionsFrom

def isTeardown : ChannelState → Bool
  | hangup | reporting | destroyed => true
  | _ => false

theorem isTeardown_of_transition {s t : ChannelState} (hs : s.isTeardown = true)
    (h : s.isValidTransition t = true) : t.isTeardown = true := by
  cases s <;> cases t <;> simp_all [isValidTransition, transitionsFrom, isTeardown]

end ChannelState

end OptimiqVoice.Telephony

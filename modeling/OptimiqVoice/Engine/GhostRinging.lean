import OptimiqVoice.Engine.Detachment

namespace OptimiqVoice.Engine

open Lib Telephony Routing

/-- Once the end of the caller's leg is delivered, nobody is rung any more:
no leg is placed and none of those placed is waited for. -/
def NoGhost (log : WalkLog) : Prop :=
  ∀ pre a post, log = pre ++ .got a :: post → a.event = some .callerEnded →
    ∀ q, .sent q ∈ post → q.isDialing = false

def stopsFirst : WalkLog → Bool := holdsUntil (· = .check true) Request.isDialing

/-- Every end of the caller's leg was delivered to a dial that watches for it
and has nothing left to place, or was read off the flags before anybody was
rung again. -/
def EndsNoticed (log : WalkLog) : Prop :=
  ∀ pre a post, log = pre ++ .got a :: post → a.event = some .callerEnded →
    [.sent (.awaitLegs true)] <:+ pre ∨ stopsFirst post = true

/-- The caller hangs up while the phone rings, and it rings on until the ring
timer. -/
def hungUpReplies : List Reply :=
  [{}, {}, { event := some (.claimed 0 true) }, { event := some (.originated 0 true) },
    { isTearingDown := true, event := some .callerEnded }, { event := some .ringTimer }, {}]

end OptimiqVoice.Engine

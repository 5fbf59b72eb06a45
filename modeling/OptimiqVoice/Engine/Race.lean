import OptimiqVoice.Engine.Dial

namespace OptimiqVoice.Engine

open Lib Telephony

structure Racer where
  leg : LegId
  index : Nat
  attempt : DialAttempt
  phase : LegPhase
  /-- In the set of legs that are out of the race. -/
  out : Bool := false
  armed : Bool
  asked : Bool := false
  confirming : Option Confirming := none
  /-- A hangup is under way after which the leg is out. -/
  dropping : Bool := false

structure Race where
  racers : List Racer
  settled : Option DialOutcome := none
  lastCause : Option HangupCause := none
  /-- The race's own watchers are installed, one for each leg. -/
  listening : Bool := true

namespace Race

def find (race : Race) (leg : LegId) : Option Racer := race.racers.find? (·.leg = leg)

def put (race : Race) (leg : LegId) (f : Racer → Racer) : Race :=
  { race with racers := race.racers.map fun r => if r.leg = leg then f r else r }

def resolveOutcome (race : Race) (outcome : DialOutcome) : Race :=
  { race with settled := race.settled.or (some outcome) }

def legIsOut (race : Race) (r : Racer) (cause : Option HangupCause) : Race :=
  let race := { race.put r.leg ({ · with out := true }) with lastCause := cause.or race.lastCause }
  if race.racers.all (·.out) then
    race.resolveOutcome (match race.lastCause with
        | none => .timeout
        | some last => .failed last r.index)
  else race

def confirmOver (race : Race) (r : Racer) (verdict : ConfirmVerdict) : Race × List Request :=
  let race := race.put r.leg ({ · with confirming := none })
  match verdict with
  | .accepted => (race.resolveOutcome (.answered r.leg r.index), [])
  | .callerGone => (race.resolveOutcome .aborted, [])
  | _ => (race.put r.leg ({ · with dropping := true }), [.hangupLeg r.leg .originatorCancel])

/-- Carry a confirmation on up to its next wait. -/
def confirmNext (abandoned : Bool) (race : Race) (r : Racer) (confirm : ConfirmRequest) :
    ConfirmNext → Race × List Request
  | .waiting c commands => (race.put r.leg ({ · with confirming := some c }), commands)
  | .over verdict => race.confirmOver r verdict
  | .round 0 terminal => race.confirmOver r (terminal.getD .declined)
  | .round (_ + 1) (some verdict) => race.confirmOver r verdict
  | .round (left + 1) none =>
    if abandoned then race.confirmOver r .callerGone
    else (race.put r.leg ({ · with confirming := some ⟨left, none, .prompting⟩ }),
      [.promptLeg r.leg confirm.media])

/-- Let the confirmation of one leg, if it is open, take a step. -/
def confirmStep (abandoned : Bool) (next : LegId → ConfirmRequest → Confirming → ConfirmNext)
    (race : Race) (r : Racer) : Race × List Request :=
  match r.confirming, r.attempt.confirm with
  | some c, some confirm => race.confirmNext abandoned r confirm (next r.leg confirm c)
  | _, _ => (race, [])

def confirmHears (abandoned : Bool) (e : Event) (race : Race) (r : Racer) : Race × List Request :=
  race.confirmStep abandoned (fun leg confirm c => c.hear leg confirm e) r

def abortConfirm (abandoned : Bool) (race : Race) (r : Racer) : Race × List Request :=
  race.confirmStep abandoned (fun leg _ c => c.settleTerminal leg .legGone) r

def forEach (f : Race → Racer → Race × List Request) : List Racer → Race → Race × List Request
  | [], race => (race, [])
  | r :: rest, race => ((forEach f rest (f race r).1).1, (f race r).2 ++ (forEach f rest (f race r).1).2)

def answered (abandoned : Bool) (race : Race) (r : Racer) : Race × List Request :=
  let race' := race.put r.leg ({ · with armed := false })
  match r.attempt.confirm with
  | none => (race'.resolveOutcome (.answered r.leg r.index), [])
  | some confirm =>
    if r.asked || r.out || race.settled.isSome then (race', [])
    else (race'.put r.leg ({ · with asked := true })).confirmNext abandoned r confirm
      (.round confirm.attempts none)

def hearSignal (abandoned : Bool) (race : Race) (r : Racer) (s : LegSignal) : Race × List Request :=
  match s with
  | .ringing | .progress => (race.put r.leg ({ · with armed := false }), [])
  | .answered | .entered => race.answered abandoned r
  | .dtmf _ => race.confirmHears abandoned (.signal r.leg s) r
  | .ended cause => (race.legIsOut r (some cause)).confirmHears abandoned (.signal r.leg s) r

/-- The next step of placing a leg. A leg whose delay is over is placed only in
a race that is not settled; one that is claimed is originated in any case. -/
def place (legs : Bool) (destination : Option PlanDestination) (race : Race) (r : Racer)
    (e : Event) : Race × List Request :=
  match e, r.phase with
  | .delayOver _, .delayed =>
    if race.settled.isSome then (race.put r.leg ({ · with phase := .placed }), [])
    else
      let (phase, first) := placing legs destination r.leg r.attempt
      (race.put r.leg ({ · with phase := phase }), [first])
  | .claimed _ true, .claiming =>
    (race.put r.leg ({ · with phase := .originating }), [.originate r.leg r.attempt])
  | .claimed _ false, .claiming | .originated _ false, .originating =>
    ((race.put r.leg ({ · with phase := .placed })).legIsOut r (some .userNotRegistered), [])
  | .originated _ true, .originating => (race.put r.leg ({ · with phase := .placed }), [])
  | _, _ => (race, [])

/-- No progress was seen: the leg is dropped from the race. -/
def silent (race : Race) (r : Racer) : Race × List Request :=
  let race' := race.put r.leg ({ · with armed := false })
  if !r.armed || race.settled.isSome || r.out then (race', [])
  else (race'.put r.leg ({ · with dropping := true }), [.hangupLeg r.leg .originatorCancel])

def hearLeg (legs : Bool) (destination : Option PlanDestination) (abandoned : Bool) (race : Race)
    (r : Racer) (e : Event) : Race × List Request :=
  match e with
  | .signal _ s => race.hearSignal abandoned r s
  | .delayOver _ | .claimed _ _ | .originated _ _ => race.place legs destination r e
  | .progressTimer _ => race.silent r
  | .hungUp _ => (if r.dropping then race.legIsOut r none else race, [])
  | _ => race.confirmHears abandoned e r

def eventLeg : Event → Option LegId
  | .signal leg _ | .delayOver leg | .claimed leg _ | .originated leg _ | .prompted leg _
  | .promptStopped leg | .hungUp leg | .confirmTimer leg | .progressTimer leg => some leg
  | .callerAnswered | .callerEnded | .moderatorArrived | .ringTimer => none

def hear (legs : Bool) (destination : Option PlanDestination) (watching abandoned : Bool)
    (race : Race) (e : Event) : Race × List Request :=
  match e with
  | .ringTimer => (race.resolveOutcome .timeout, [])
  | .callerEnded =>
    let race := if watching then race.resolveOutcome .aborted else race
    forEach (confirmHears abandoned e) race.racers race
  | e =>
    match (eventLeg e).bind race.find with
    | none => (race, [])
    | some r => race.hearLeg legs destination abandoned r e

def watchers (race : Race) : List LegId :=
  ((race.racers.filter fun r => race.listening || r.confirming.isSome).map (·.leg))

/-- What can still be heard once the race has taken its own watchers back. -/
def hearClosing (abandoned : Bool) (race : Race) (e : Event) : Race × List Request :=
  match e with
  | .callerEnded => forEach (confirmHears abandoned e) race.racers race
  | e =>
    match (eventLeg e).bind race.find with
    | none => (race, [])
    | some r =>
      match e with
      | .hungUp _ => (if r.dropping then race.legIsOut r none else race, [])
      | e => race.confirmHears abandoned e r

def allPlaced (race : Race) : Bool := race.racers.all (·.phase = .placed)

def result (race : Race) : Option DialOutcome := if race.allPlaced then race.settled else none

/-- The mark that the race has been decided by its last event. -/
def settling (race next : Race) : List Request :=
  match race.settled, next.settled with
  | none, some outcome => [.settled outcome]
  | _, _ => []

def watched (watching : Bool) (race : Race) : Bool :=
  watching && race.allPlaced && race.settled.isNone

end Race

namespace PlanWalker

variable (k : PlanWalker)

/-- The legs of a race, each with an id of its own; those without a delay are
placed at once. -/
def enterRace (destination : Option PlanDestination) : Nat → List DialAttempt → Walk (List Racer)
  | _, [] => pure []
  | index, attempt :: rest => do
    let leg ← Walk.newId
    let racers ← enterRace destination (index + 1) rest
    let (phase, _) := placing k.wiring.legs destination leg attempt
    pure ({ leg := leg, index := index, attempt := attempt,
            phase := if 0 < attempt.delaySeconds then .delayed else phase,
            armed := 0 < k.settings.progressTimeoutSeconds } :: racers)

def firstRequest (destination : Option PlanDestination) (r : Racer) : Option Request :=
  if r.phase = .delayed then none else some (placing k.wiring.legs destination r.leg r.attempt).2

def waitForRace (destination : Option PlanDestination) (watching : Bool) (race : Race) :
    Walk (Race ⊕ (Race × DialOutcome)) :=
  match race.result with
  | some outcome => pure (.inr (race, outcome))
  | none => do
    let a ← Walk.ask (.awaitLegs (race.watched watching))
    match a.event with
    | none => pure (.inl race)
    | some e => do
      let caller ← Walk.caller
      let next := race.hear k.wiring.legs destination watching caller.abandoned e
      Async.each Walk.tell (race.settling next.1 ++ next.2)
      pure (.inl next.1)

def isWinner (outcome : DialOutcome) (leg : LegId) : Bool :=
  match outcome with
  | .answered winner _ => leg = winner
  | _ => false

def loserCause : DialOutcome → HangupCause
  | .answered _ _ => .loseRace
  | _ => .originatorCancel

/-- Wait for the hangup of one leg; what is left of the confirmations goes on meanwhile. -/
def awaitHangup (leg : LegId) (race : Race) : Walk (Race ⊕ Race) := do
  let a ← Walk.ask (.awaitHangup leg)
  match a.event with
  | none => pure (.inl race)
  | some e => do
    let caller ← Walk.caller
    let next := race.hearClosing caller.abandoned e
    Async.each Walk.tell next.2
    pure (if e = .hungUp leg then .inr next.1 else .inl next.1)

/-- Hang up every leg that has neither won nor left the race. -/
def dropLosers (outcome : DialOutcome) : List LegId → Race → Walk Race
  | [], race => pure race
  | leg :: rest, race =>
    if isWinner outcome leg || (race.find leg).any (·.out) then dropLosers outcome rest race
    else do
      Walk.tell (.hangupLeg leg (loserCause outcome))
      let race ← Async.loop (awaitHangup leg) race
      dropLosers outcome rest race

def settleRace (race : Race) (outcome : DialOutcome) : DialOutcome :=
  match outcome, race.lastCause with
  | .timeout, some cause => if race.racers.all (·.out) then .failed cause 0 else .timeout
  | outcome, _ => outcome

/-- From the settled race to its end: the watchers go, open confirmations are
cut short, the losers are hung up. -/
def closeRace (race : Race) (outcome : DialOutcome) : Walk Race := do
  let caller ← Walk.caller
  let closing := { race with listening := false }
  let aborted := Race.forEach (Race.abortConfirm caller.abandoned) closing.racers closing
  Async.each Walk.tell aborted.2
  dropLosers outcome (race.racers.map (·.leg)) aborted.1

def raceToEnd (attempts : List DialAttempt) (watching : Bool) : Walk (Race × DialOutcome) := do
  let destination ← Walk.destination
  let racers ← k.enterRace destination 0 attempts
  Async.each Walk.tell (racers.filterMap (k.firstRequest destination))
  let (race, outcome) ← Async.loop (k.waitForRace destination watching) { racers := racers }
  let final ← closeRace race outcome
  pure (final, settleRace final outcome)

def dialSimultaneous (attempts : List DialAttempt) (watching : Bool) : Walk DialOutcome := do
  let (_, outcome) ← k.raceToEnd attempts watching
  pure outcome

end PlanWalker

end OptimiqVoice.Engine

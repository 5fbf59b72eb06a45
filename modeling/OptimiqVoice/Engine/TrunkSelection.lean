import OptimiqVoice.Engine.Ports

namespace OptimiqVoice.Engine

open Lib Routing

/-- The trunks of a node grouped by order, the groups in ascending order. -/
def groupsByOrder (attempts : List TrunkAttempt) : List (List TrunkAttempt) :=
  let byOrder : Dict Int (List TrunkAttempt) :=
    attempts.foldl (fun d attempt => d.push attempt.order attempt) Dict.empty
  (sortOn Prod.fst byOrder.entries).map Prod.snd

def shareOf (attempt : TrunkAttempt) : Int :=
  match attempt.weight with
  | none => 0
  | some weight => if weight ≤ 0 then 0 else weight

/-- Take the trunk whose share of the total the target falls in; the last one
when it falls in none. -/
def draw (target : Rat) : List TrunkAttempt → Option (TrunkAttempt × List TrunkAttempt)
  | [] => none
  | attempt :: rest =>
    if rest.isEmpty || target - shareOf attempt < 0 then some (attempt, rest)
    else (draw (target - shareOf attempt) rest).map fun (taken, left) => (taken, attempt :: left)

def drawTrunks : Nat → List TrunkAttempt → Walk (List TrunkAttempt)
  | 0, remaining => pure remaining
  | n + 1, remaining => do
    let a ← Walk.ask .random
    let total := (remaining.map shareOf).sum
    match draw (a.random * total) remaining with
    | none => pure []
    | some (taken, left) => do
      let sampled ← drawTrunks n left
      pure (taken :: sampled)

def weightedSample (group : List TrunkAttempt) : Walk (List TrunkAttempt) :=
  let weighted := group.filter fun attempt => 0 < shareOf attempt
  let unweighted := group.filter fun attempt => shareOf attempt = 0
  if weighted.length < 2 then pure group
  else do
    let sampled ← drawTrunks (weighted.length - 1) weighted
    pure (sampled ++ unweighted)

def sampleGroups : List (List TrunkAttempt) → Walk (List TrunkAttempt)
  | [] => pure []
  | group :: rest => do
    let front ← weightedSample group
    let back ← sampleGroups rest
    pure (front ++ back)

def orderTrunkAttempts (attempts : List TrunkAttempt) : Walk (List TrunkAttempt) :=
  if attempts.length < 2 then pure attempts else sampleGroups (groupsByOrder attempts)

end OptimiqVoice.Engine

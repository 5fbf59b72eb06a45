import OptimiqVoice.Calls.EmergencyWalk

namespace OptimiqVoice.Calls

open Lib Routing Engine

section gates

variable (k : PlanWalker) (plan : TimeConditionPlan)

def gateAt (condition : CompiledTimeCondition) (instant : Int) : StepResult :=
  branch (if (evaluateTimeCondition k.platform condition instant).matched then some plan.matchNodeId
    else plan.noMatchNodeId) .normalClearing

/-- A walk that began at `start` comes to the node at `instant`, and the node is
judged then. -/
def JudgedWhenReached (artifact : RoutingArtifact) (entry : Entry) (route : ResolvedRoute) (start instant : Int)
    (w : WalkWorld) : Prop :=
  ∀ condition, artifact.timeConditions.lookup plan.timeConditionId = .own condition →
    k.step (entry.input artifact start route) (some (.timeCondition plan)) w =
      (.done (gateAt k plan condition instant), w)

/-- The two instants are on one side of every boundary of the condition, or both
branches of the node lead to one place. -/
def SameBranch (artifact : RoutingArtifact) (start instant : Int) : Prop :=
  ∀ condition, artifact.timeConditions.lookup plan.timeConditionId = .own condition →
    (evaluateTimeCondition k.platform condition start).matched =
      (evaluateTimeCondition k.platform condition instant).matched ∨
    plan.noMatchNodeId = some plan.matchNodeId

variable {k plan} {artifact : RoutingArtifact} {condition : CompiledTimeCondition} {start instant : Int}

theorem step_timeCondition (h : artifact.timeConditions.lookup plan.timeConditionId = .own condition)
    (entry : Entry) (route : ResolvedRoute) (w : WalkWorld) :
    k.step (entry.input artifact start route) (some (.timeCondition plan)) w =
      (.done (gateAt k plan condition start), w) := by
  cases entry <;>
    simp only [PlanWalker.step, PlanWalker.timeConditionNode, Entry.input, routedInput, routeLegInput,
      Option.map_some, Option.getD_some, h] <;> rfl

theorem gateAt_inj : gateAt k plan condition start = gateAt k plan condition instant ↔
    (evaluateTimeCondition k.platform condition start).matched =
      (evaluateTimeCondition k.platform condition instant).matched ∨
    plan.noMatchNodeId = some plan.matchNodeId := by
  unfold gateAt
  cases (evaluateTimeCondition k.platform condition start).matched <;>
    cases (evaluateTimeCondition k.platform condition instant).matched <;>
    cases plan.noMatchNodeId <;> simp [branch, eq_comm]

end gates

section sample

def hourly : PlanWalker where
  platform := { Compile.samplePlatform with
    formatToParts := fun instant _ => ⟨2026, 1, 5, (instant / 3600000 % 24).toNat, 0, 1⟩ }
  callId := lit "call-1"

def office : CompiledTimeCondition where
  id := lit "office"
  name := lit "Office"
  timezone := lit "UTC"
  rules := [⟨lit "r1", 0, none, [⟨none, none, none, none, some ⟨lit "09:00", lit "17:00"⟩, none⟩]⟩]

def officeArtifact : RoutingArtifact :=
  { oneTrunkArtifact with timeConditions := Record.fromEntries (Dict.empty.set (lit "office") office) }

def nightService : TimeConditionPlan := ⟨lit "Night service", lit "office", lit "desk", some (lit "night")⟩

end sample

end OptimiqVoice.Calls

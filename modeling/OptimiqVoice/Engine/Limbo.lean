import OptimiqVoice.Engine.WalkConduct
import OptimiqVoice.Routing.Compile.Run

namespace OptimiqVoice.Engine

open Lib Telephony Routing

namespace PlanWalker

/-- At most `maxPlanSteps` nodes are executed. A walk that returns has connected
its caller or hung up, unless the caller is gone, as long as whatever made the
walk believe that the caller is gone came from one that is by then. -/
theorem run_settles (k : PlanWalker) (input : WalkInput) (caller : Caller) (replies : List Reply) :
    entered (k.run input caller replies).2.log ≤ k.settings.maxPlanSteps ∧
      ((Misled (k.run input caller replies).2.log → Gone (k.run input caller replies).2) →
        ∀ o, (k.run input caller replies).1 = .done o → ¬Gone (k.run input caller replies).2 →
          Connected (k.run input caller replies).2 ∨ Dismissed (k.run input caller replies).2.log) := by
  refine ⟨(run_conducted input caller replies).entered, ?_⟩
  intro hbacked o ho hlive
  have hend := run_sat (k := k) input caller replies
  rw [ho] at hend
  obtain hgone | hsettled := hend.settled fun hm => hlive (hbacked hm)
  · exact absurd hgone hlive
  · exact hsettled

end PlanWalker

def onlyNode (node : PlanNode) : ExecutionPlan where
  entryNodeId := some node.id
  nodes := Record.fromEntries (Dict.empty.set node.id node)

def sampleWalker : PlanWalker where
  platform := Compile.samplePlatform
  callId := lit "call-1"

def busyTone : PlanNode := ⟨lit "hangup:USER_BUSY", .hangup .userBusy⟩

/-- A caller who is sent to a busy tone is hung up. -/
theorem run_settles_busyTone :
    Connected (sampleWalker.run { plan := onlyNode busyTone } ⟨false, false, false⟩ [{}]).2 ∨
      Dismissed (sampleWalker.run { plan := onlyNode busyTone } ⟨false, false, false⟩ [{}]).2.log := by
  apply (PlanWalker.run_settles sampleWalker { plan := onlyNode busyTone } ⟨false, false, false⟩ [{}]).2
    _ ⟨.hangup, some .userBusy, none, [lit "hangup:USER_BUSY"]⟩
  · decide
  · unfold Gone
    decide
  · rintro ⟨q, a, hin, ht⟩
    exact absurd (anyReply_of_infixOf ht hin) (by decide)

def waitingRoom : PlanNode where
  id := lit "conference:c1"
  body := .conference
    { label := lit "Standup", conferenceId := lit "c1", roomNumber := lit "700",
      requiresPin := false, maxMembers := 0, waitForModerator := true, recordEnabled := false,
      mohClassId := none, mohClass := none, pinHash := none, moderatorPinHash := none,
      requiresModeratorPin := false }

/-- The caller has joined, nobody else comes, and the wait for the moderator
runs out. -/
def lonelyReplies : List Reply :=
  [{}, { admission := .joined 0 ⟨false, 1⟩ }, {}, {}, {}, { room := some ⟨false, 1⟩ },
    { granted := false }, {}]

def isDismissal : Moment Request Reply → Bool
  | .sent (.verb (.hangup _)) => true
  | _ => false

/-- The walk is over, and the caller is there, neither connected nor hung up. -/
theorem lonely_limbo : planNodeReferences waitingRoom = [] ∧
      (sampleWalker.run { plan := onlyNode waitingRoom } ⟨true, false, false⟩ lonelyReplies).1 =
        .done ⟨.aborted, none, some ⟨lit "conference", some (lit "c1")⟩, [lit "conference:c1"]⟩ ∧
      ¬Gone (sampleWalker.run { plan := onlyNode waitingRoom } ⟨true, false, false⟩ lonelyReplies).2 ∧
      ¬Connected (sampleWalker.run { plan := onlyNode waitingRoom } ⟨true, false, false⟩
        lonelyReplies).2 ∧
      ¬Dismissed (sampleWalker.run { plan := onlyNode waitingRoom } ⟨true, false, false⟩
        lonelyReplies).2.log := by
  refine ⟨by decide, by decide, ?_, ?_, ?_⟩
  · unfold Gone
    decide
  · rintro ⟨q, a, hin, hc⟩
    exact absurd (anyReply_of_infixOf hc hin) (by decide)
  · rintro ⟨cause, hin⟩
    have hall : (sampleWalker.run { plan := onlyNode waitingRoom } ⟨true, false, false⟩
        lonelyReplies).2.log.all (!isDismissal ·) = true := by decide
    exact absurd (List.all_eq_true.mp hall _ hin) (by simp [isDismissal])

end OptimiqVoice.Engine

import OptimiqVoice.Engine.Steady

namespace OptimiqVoice.Engine

open Lib Telephony Routing
open Async (Sat ends)

def Dismissed (log : WalkLog) : Prop := ∃ cause, .sent (.verb (.hangup cause)) ∈ log

structure Conducted (bound : Nat) (w : WalkWorld) : Prop where
  entered : entered w.log ≤ bound
  obeys : Obeys w.log

structure WalkEnd (bound : Nat) (o : WalkOutcome) (w : WalkWorld) : Prop where
  conducted : Conducted bound w
  visited : o.visited.length = entered w.log
  quiet : Quiet w.log
  settled : ¬Misled w.log → Gone w ∨ Connected w ∨ Dismissed w.log

structure WalkThrown (bound : Nat) (w : WalkWorld) : Prop where
  conducted : Conducted bound w
  quiet : Quiet w.log

section ended

variable {n bound : Nat} {w : WalkWorld}

theorem Stalled.conducted (h : Stalled n w) (hb : n ≤ bound) : Conducted bound w :=
  ⟨h.entered ▸ hb, h.obeys⟩

theorem Hushed.thrown (h : Hushed n w) (hb : n ≤ bound) : WalkThrown bound w :=
  ⟨h.stalled.conducted hb, h.quiet⟩

theorem Free.enter (h : Free n w) (id : PlanNodeId) : Free (n + 1) (sent w (.enter id)) where
  fresh :=
    { heeded := by
        intro hh
        obtain hh | hh := heeded_sent.mp hh
        · exact h.fresh.heeded hh
        · cases hh
      told := told_sent.not.mpr h.fresh.told
      entered := by
        rw [← h.fresh.entered]
        exact entered_sent }
  quiet := h.quiet.sent rfl

end ended

namespace PlanWalker

variable {k : PlanWalker} {n : Nat}

variable (input : WalkInput)

theorem step_behaves (body : Option PlanBody) : Behaves n (k.step input body) := by
  unfold step
  split
  · exact behaves_pure (accounted_hangup _)
  · exact (playbackNode_keeps closed_free _).behaves
  · exact (timeConditionNode_keeps closed_free _ input).behaves
  · exact extensionNode_behaves _ input
  · exact ringGroupNode_behaves _ input
  · exact (ivrMenuNode_keeps closed_free _).behaves
  · exact (voicemailNode_keeps closed_free _ input).behaves
  · exact trunkDialNode_behaves _ input
  · exact externalNode_behaves _ input
  · exact (featureCodeNode_keeps closed_free _ input).behaves
  · exact queueNode_behaves
  · exact (conferenceNode_keeps closed_free (still_free.rooms _)).behaves
  · exact (parkNode_keeps closed_free _ input).behaves
  · exact (unavailable_keeps closed_free _).behaves
  · exact (unavailable_keeps closed_free _).behaves

section ending

variable {bound : Nat} {visited : List PlanNodeId}

theorem outcome_sat {P : WalkWorld → Prop} (status : WalkStatus) (cause : Option HangupCause)
    (h : ∀ w d, P w → WalkEnd bound ⟨status, cause, d, visited⟩ w) :
    Sat P (outcome status cause visited)
      (ends (WalkEnd bound) (WalkThrown bound) (Conducted bound)) :=
  fun w hw => h w w.state.destination hw

theorem terminate_sat (cause : HangupCause) (status : WalkStatus) (hv : visited.length = n)
    (hb : n ≤ bound) : Sat (Hushed n) (terminate cause status visited)
      (ends (WalkEnd bound) (WalkThrown bound) (Conducted bound)) := by
  apply sat_caller.bind
  intro c
  apply Sat.ite
  · intro hc
    apply outcome_sat
    rintro w d ⟨heq, hh⟩
    exact ⟨hh.stalled.conducted hb, hv.trans hh.entered.symm, hh.quiet,
      fun hm => .inl (excused_of_tearingDown heq hc hm)⟩
  · intro _
    have hcut : ∀ w, (c = w.state.caller ∧ Hushed n w) →
        Conducted bound (sent w (.verb (.hangup cause))) := by
      rintro w ⟨-, hh⟩
      exact (closed_hushed.sent w _ rfl hh).stalled.conducted hb
    apply (sat_asked hcut).bind
    intro a
    apply outcome_sat
    rintro _ d ⟨w, rest, ⟨-, hh⟩, rfl⟩
    have hh' : Hushed n (replied w (.verb (.hangup cause)) a rest) :=
      closed_hushed.replied w _ a rest rfl hh
    exact ⟨hh'.stalled.conducted hb, hv.trans hh'.entered.symm, hh'.quiet,
      fun _ => .inr (.inr ⟨cause, List.mem_append_right _ (by simp)⟩)⟩

theorem noteDestination_calmly {I : WalkWorld → Prop} (hI : Closed (·.isCalm) I)
    (body : Option PlanBody) : Calmly I (k.noteDestination body) := by
  unfold noteDestination
  split
  · exact calmly_pure
  · apply calmly_destination.bind
    intro current
    apply Calmly.ite
    · exact calmly_pure
    · apply Calmly.bind (keeps_state hI _)
      · intro _
        exact Calmly.ite ((calmly_call hI rfl).bind fun _ => calmly_pure) calmly_pure
      · exact fun _ => rfl

end ending

theorem afterNode_sat {visited : List PlanNodeId} {nodeId : PlanNodeId} {bound : Nat}
    {go : PlanNodeId → Walk WalkOutcome} (hb : visited.length + 1 ≤ bound)
    (hgo : ∀ target, Sat (Free (visited.length + 1)) (go target)
      (ends (WalkEnd bound) (WalkThrown bound) (Conducted bound))) (r : Option StepResult) :
    Sat (fun w => (∀ a, r = some a → Verdict (visited.length + 1) a w) ∧
        (r = none → Hushed (visited.length + 1) w)) (match r with
        | none => terminate .normalTemporaryFailure .hangup (visited ++ [nodeId])
        | some (.goto target) => go target
        | some (.hangup cause) => terminate cause .hangup (visited ++ [nodeId])
        | some .bridged => outcome .bridged none (visited ++ [nodeId])
        | some .aborted => outcome .aborted none (visited ++ [nodeId]))
      (ends (WalkEnd bound) (WalkThrown bound) (Conducted bound)) := by
  have hlen : (visited ++ [nodeId]).length = visited.length + 1 := by simp
  cases r with
  | none => exact (terminate_sat _ _ hlen hb).pre fun w h => h.2 rfl
  | some r =>
    cases r with
    | goto target =>
      apply (hgo target).pre
      intro w h
      have hv := h.1 _ rfl
      exact ⟨hv.fresh target rfl, hv.quiet⟩
    | hangup cause =>
      apply (terminate_sat _ _ hlen hb).pre
      intro w h
      have hv := h.1 _ rfl
      exact ⟨hv.entered, hv.obeys, hv.heeded (by simp), hv.quiet⟩
    | bridged =>
      apply outcome_sat
      intro w d h
      have hv := h.1 _ rfl
      exact ⟨⟨hv.entered ▸ hb, hv.obeys⟩, hlen.trans hv.entered.symm, hv.quiet,
        fun _ => .inr (.inl (hv.accounted.bridged rfl))⟩
    | aborted =>
      apply outcome_sat
      intro w d h
      have hv := h.1 _ rfl
      exact ⟨⟨hv.entered ▸ hb, hv.obeys⟩, hlen.trans hv.entered.symm, hv.quiet,
        fun hm => .inl (hv.accounted.aborted rfl hm)⟩

theorem walkFrom_sat (left : Nat) (visited : List PlanNodeId) (next : Option PlanNodeId) :
    Sat (Free visited.length) (k.walkFrom input left visited next)
      (ends (WalkEnd (visited.length + left)) (WalkThrown (visited.length + left))
        (Conducted (visited.length + left))) := by
  induction left generalizing visited next with
  | zero => exact (terminate_sat _ _ rfl (Nat.le_add_right _ _)).pre fun w h => h.hushed
  | succ left ih =>
    have hle : visited.length ≤ visited.length + (left + 1) := Nat.le_add_right _ _
    have hle' : visited.length + 1 ≤ visited.length + (left + 1) := by omega
    unfold walkFrom
    intro w₀ hw₀
    have hcheck : Sat (fun w => Free visited.length w ∧ Grows w₀ w) Walk.abandoned
        (ends (fun b w => (b = false → Free visited.length w ∧ Grows w₀ w) ∧
          (b = true → Noted visited.length w₀ w))
          (WalkThrown (visited.length + (left + 1))) (Conducted (visited.length + (left + 1)))) :=
      abandoned_sat.post (fun _ _ => id) (fun _ h => h.thrown hle) fun _ h => h.conducted hle
    refine hcheck.bind (fun b => ?_) w₀ ⟨hw₀, Grows.refl w₀⟩
    apply Sat.ite
    · intro hb
      apply outcome_sat
      intro w d h
      have hn := h.2 hb
      exact ⟨⟨hn.entered ▸ hle, hn.obeys⟩, hn.entered.symm, hn.quiet, fun _ => .inl hn.gone⟩
    · intro hb
      apply Sat.pre _ fun w h => (h.1 (by simpa using hb)).1
      split
      · exact (terminate_sat _ _ rfl hle).pre fun w h => h.hushed
      · split
        · exact (terminate_sat _ _ rfl hle).pre fun w h => h.hushed
        · rename_i nodeId _ _
          have henter : Sat (Free visited.length) (Walk.tell (.enter nodeId))
              (ends (fun _ => Free (visited.length + 1)) (WalkThrown (visited.length + (left + 1)))
                (Conducted (visited.length + (left + 1)))) :=
            fun w h => h.enter nodeId
          apply henter.bind
          intro _
          apply Sat.bind ((noteDestination_calmly closed_free _).free.post (fun _ _ => id)
            (fun _ h => h.thrown hle') fun _ h => h.conducted hle')
          intro _
          have hstep := (step_behaves (k := k) (n := visited.length + 1) input
            ((input.plan.nodes.lookup nodeId).field fun v => some v.body))
          have htry : Sat (Free (visited.length + 1)) (Async.attempt (k.step input
              ((input.plan.nodes.lookup nodeId).field fun v => some v.body)))
              (ends _ (WalkThrown (visited.length + (left + 1)))
                (Conducted (visited.length + (left + 1)))) :=
            (hstep.post (fun _ _ => id) (fun _ => id) fun _ h => h.conducted hle').attempt
          apply htry.bind
          apply afterNode_sat hle'
          intro target
          have hnext := ih (visited ++ [nodeId]) (some target)
          have hlen : (visited ++ [nodeId]).length = visited.length + 1 := by simp
          rw [hlen, Nat.add_assoc, Nat.add_comm 1 left] at hnext
          exact hnext

theorem run_sat (caller : Caller) (replies : List Reply) :
    ends (WalkEnd k.settings.maxPlanSteps) (WalkThrown k.settings.maxPlanSteps)
      (Conducted k.settings.maxPlanSteps) (k.run input caller replies).1
      (k.run input caller replies).2 := by
  have hfree : Free 0 ⟨⟨caller, 0, none, {}⟩, replies, []⟩ := by
    refine ⟨⟨?_, ?_, rfl⟩, ?_⟩
    · simp [Heeded]
    · simp [Told]
    · rintro leg ⟨⟨attempt, h⟩, -⟩
      cases h
  have hwalk := walkFrom_sat (k := k) input k.settings.maxPlanSteps [] input.plan.entryNodeId
    ⟨⟨caller, 0, none, {}⟩, replies, []⟩ hfree
  rw [List.length_nil, Nat.zero_add] at hwalk
  exact hwalk

theorem run_conducted (caller : Caller) (replies : List Reply) :
    Conducted k.settings.maxPlanSteps (k.run input caller replies).2 := by
  have h := run_sat (k := k) input caller replies
  cases hr : (k.run input caller replies).1 with
  | done _ | thrown =>
    rw [hr] at h
    exact h.conducted
  | cut =>
    rw [hr] at h
    exact h

end PlanWalker

end OptimiqVoice.Engine

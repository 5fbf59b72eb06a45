import OptimiqVoice.Engine.Limbo

namespace OptimiqVoice.Engine

open Lib Telephony Routing

def Detached (caller : Caller) (log : WalkLog) : Prop :=
  caller.isDetached = true ∨ ∃ a, .got a ∈ log ∧ a.isDetached = true

/-- From the moment it is detached, the leg gets no command and nobody is
offered it or rung for it. -/
def LeftAlone (caller : Caller) (log : WalkLog) : Prop :=
  ∀ pre q post, log = pre ++ .sent q :: post → Detached caller pre → q.isCommand = false

def readsFirst : WalkLog → Bool := holdsUntil Request.isCheck Request.isCommand

/-- Every detach came where the walk was about to read its flags. -/
def Timely (caller : Caller) (log : WalkLog) : Prop :=
  (caller.isDetached = true → readsFirst log = true) ∧
    ∀ pre a post, log = pre ++ .got a :: post → a.isDetached = true → readsFirst post = true

structure Truthful (caller : Caller) (w : WalkWorld) : Prop where
  state : Detached caller w.log → w.state.caller.isDetached = true
  checks : ∀ pre b post, w.log = pre ++ .sent (.check b) :: post → Detached caller pre → b = true

variable {q : Request}

section truthful

variable {caller : Caller}

theorem split_concat {α : Type} {log pre post : List α} {m x : α}
    (h : log ++ [m] = pre ++ x :: post) :
    (pre = log ∧ x = m ∧ post = []) ∨ ∃ post', post = post' ++ [m] ∧ log = pre ++ x :: post' := by
  obtain rfl | ⟨post', y, rfl⟩ := List.eq_nil_or_concat post
  · obtain ⟨rfl, hlast⟩ := List.append_inj' h rfl
    exact .inl ⟨rfl, (List.cons.inj hlast).1.symm, rfl⟩
  · rw [List.concat_eq_append, ← List.cons_append, ← List.append_assoc] at h
    obtain ⟨rfl, hlast⟩ := List.append_inj' h rfl
    cases hlast
    exact .inr ⟨post', by simp, rfl⟩

theorem detached_sent {log : WalkLog} :
    Detached caller (log ++ [.sent q]) ↔ Detached caller log := by
  simp [Detached]

theorem Truthful.sent {w : WalkWorld} (h : Truthful caller w)
    (hq : ∀ b, q = .check b → Detached caller w.log → b = true) : Truthful caller (sent w q) where
  state hd := h.state (detached_sent.mp hd)
  checks pre b post hlog hd := by
    obtain ⟨rfl, hm, -⟩ | ⟨post', -, hlog⟩ := split_concat hlog
    · cases hm
      exact hq b rfl hd
    · exact h.checks pre b post' hlog hd

theorem Truthful.got {w : WalkWorld} {a : Reply} {rest : List Reply} (h : Truthful caller w) :
    Truthful caller
      ⟨{ w.state with caller := a.raise w.state.caller }, rest, w.log ++ [.got a]⟩ where
  state := by
    rintro (hc | ⟨b, hb, hd⟩)
    · simp [Reply.raise, h.state (.inl hc)]
    · obtain hb | hb := List.mem_append.mp hb
      · simp [Reply.raise, h.state (.inr ⟨b, hb, hd⟩)]
      · obtain rfl : b = a := by simpa using hb
        simp [Reply.raise, hd]
  checks pre b post hlog hd := by
    obtain ⟨-, hm, -⟩ | ⟨post', -, hlog⟩ := split_concat hlog
    · cases hm
    · exact h.checks pre b post' hlog hd

theorem closed_truthful : Closed (fun q => q.isCheck = false) (Truthful caller) where
  sent w q hq h := by
    apply h.sent
    rintro b rfl
    cases hq
  replied w q a rest hq h := by
    have hsent : Truthful caller (sent w q) := by
      apply h.sent
      rintro b rfl
      cases hq
    have hgot : Truthful caller ⟨(replied w q a rest).state, rest, (sent w q).log ++ [.got a]⟩ :=
      hsent.got
    have hlog : (replied w q a rest).log = (sent w q).log ++ [.got a] := by simp [replied, sent]
    exact ⟨fun hd => hgot.state (hlog ▸ hd), fun pre b post heq => hgot.checks pre b post (hlog ▸ heq)⟩
  state w s hs h := ⟨fun hd => hs ▸ h.state hd, h.checks⟩

theorem steady_truthful : Steady (Truthful caller) where
  sent w q hq := closed_truthful.sent w q hq.1
  checked w h := by
    apply h.sent
    intro b hb hd
    cases hb
    simp [Caller.abandoned, h.state hd]
  replied w q a rest hq := closed_truthful.replied w q a rest hq.1
  state := closed_truthful.state

theorem still_truthful : Closed Request.Still (Truthful caller) where
  sent w q hq := closed_truthful.sent w q (isCheck_of_isMark hq.mark)
  replied w q a rest hq := closed_truthful.replied w q a rest (isCheck_of_isMark hq.mark)
  state := closed_truthful.state

theorem run_truthful (k : PlanWalker) (input : WalkInput) (replies : List Reply) :
    Truthful caller (k.run input caller replies).2 := by
  apply PlanWalker.run_steady steady_truthful fun _ =>
    (PlanWalker.conferenceNode_keeps still_truthful.calm (still_truthful.rooms _)).calmly
  constructor
  · rintro (hc | ⟨a, ha, -⟩)
    · exact hc
    · cases ha
  · intro pre b post hlog
    simp at hlog

end truthful

theorem check_of_readsFirst {mid post : WalkLog}
    (h : readsFirst (mid ++ .sent q :: post) = true) (hq : q.isCommand = true) :
    ∃ front b back, mid = front ++ .sent (.check b) :: back := by
  have hm : q.isCheck = false := by
    cases q with
    | check b => cases hq
    | _ => rfl
  obtain ⟨front, r, back, rfl, hr⟩ := marked_of_holdsUntil h hm hq
  cases r with
  | check b => exact ⟨front, b, back, rfl⟩
  | _ => cases hr

def deskPhone : PlanNode where
  id := lit "extension:e1"
  body := .extension
    { label := lit "Desk", extensionId := lit "e1", number := lit "101", callerIdName := none,
      callerIdNumber := none, tollClass := .national, recordPolicy := .none, timeoutSeconds := 20,
      doNotDisturb := false, pickupGroup := none, mohClassId := none, mohClass := none,
      forwardAllNodeId := none, busyNodeId := none, noAnswerNodeId := none,
      notRegisteredNodeId := none, followMe := none }

/-- While the phone rings, a colleague picks the call up: the caller's leg is
detached and the ringing one is hung up. -/
def pickedOffReplies : List Reply :=
  [{}, {}, { event := some (.claimed 0 true) }, { event := some (.originated 0 true) },
    { isDetached := true, event := some (.signal 0 (.ended .pickedOff)) }, {}, {}]

end OptimiqVoice.Engine

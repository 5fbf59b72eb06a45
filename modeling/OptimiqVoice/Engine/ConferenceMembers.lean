import OptimiqVoice.Engine.GhostRinging

namespace OptimiqVoice.Engine

open Lib Telephony Routing
open Async (Sat ends sat_ask sat_pure sat_throw)

/-- The place of the walked leg in a room: the registry counts it once it is
taken, and a watcher for the end of the leg gives it back once it is watched. -/
inductive Seat where
  | absent | taken | watched
deriving DecidableEq

/-- What a log says about the walked leg and one room. -/
structure Sitting where
  seat : Seat := .absent
  ended : Bool := false
  /-- With the place taken, hold music, the last look for a moderator or the
  report of the join was refused. -/
  failed : Bool := false
  /-- With the place taken, the leg was added to the room's bridge. -/
  bridged : Bool := false
  last : Option Request := none

namespace Sitting

variable (conferenceId : JsString)

def afterRequest (seat : Seat) : Request → Seat
  | .leaveConference id => if id = conferenceId then .absent else seat
  | .leaveOnEnd id _ => if id = conferenceId ∧ seat = .taken then .watched else seat
  | _ => seat

def admits (last : Option Request) (a : Reply) : Bool :=
  match last, a.admission with
  | some (.joinConference id _ _ _), .joined _ _ => id = conferenceId && !a.rejected
  | _, _ => false

variable (s : Sitting)

/-- The watcher of a watched place removes the member when the leg ends. -/
def afterReply (a : Reply) : Seat :=
  if admits conferenceId s.last a then .taken
  else if s.seat = .watched ∧ a.event = some .callerEnded then .absent
  else s.seat

def isFatal : Option Request → Bool
  | some (.startMusicOnHold _) | some (.refreshConference _) | some (.publish _) => true
  | _ => false

def isAdd : Option Request → Bool
  | some (.addToBridge _ _) => true
  | _ => false

def hear : Moment Request Reply → Sitting
  | .sent q => { s with seat := afterRequest conferenceId s.seat q, last := some q }
  | .got a =>
    { s with
      seat := s.afterReply conferenceId a
      ended := s.ended || a.event = some .callerEnded
      failed := s.failed || (s.seat = .taken && a.rejected && isFatal s.last)
      bridged := s.bridged || (s.seat = .taken && !a.rejected && isAdd s.last) }

def ofLog (log : WalkLog) : Sitting := log.foldl (hear conferenceId) {}

/-- The registry counts the member although its leg has ended. -/
def isGhost : Bool :=
  match s.seat with
  | .absent => false
  | .taken => true
  | .watched => s.ended

end Sitting

section seats

variable {id : JsString}

theorem ofLog_sent (log : WalkLog) (q : Request) :
    Sitting.ofLog id (log ++ [.sent q]) = (Sitting.ofLog id log).hear id (.sent q) := by
  simp [Sitting.ofLog]

theorem ofLog_asked (log : WalkLog) (q : Request) (a : Reply) :
    Sitting.ofLog id (log ++ [.sent q, .got a]) =
      ((Sitting.ofLog id log).hear id (.sent q)).hear id (.got a) := by
  simp [Sitting.ofLog]

structure Sits (id : JsString) (seat : Seat) (failed bridged : Bool) (w : WalkWorld) : Prop where
  seat : (Sitting.ofLog id w.log).seat = seat
  failed : (Sitting.ofLog id w.log).failed = failed
  bridged : (Sitting.ofLog id w.log).bridged = bridged

abbrev Clean (id : JsString) : WalkWorld → Prop := Sits id .absent false false

def Stuck (id : JsString) (w : WalkWorld) : Prop := ∃ bridged, Sits id .taken true bridged w

variable {seat : Seat} {failed bridged : Bool} {w : WalkWorld} {q : Request} {a : Reply}
variable {rest : List Reply}

theorem afterRequest_of_room (h : q.room ≠ some id) (seat : Seat) :
    Sitting.afterRequest id seat q = seat := by
  cases q with
  | leaveConference _ => exact if_neg fun heq => h (congrArg some heq)
  | leaveOnEnd _ _ => exact if_neg fun heq => h (congrArg some heq.1)
  | _ => rfl

theorem admits_of_room (h : q.room ≠ some id) (a : Reply) :
    Sitting.admits id (some q) a = false := by
  cases q with
  | joinConference c _ _ _ =>
    have hc : c ≠ id := fun heq => h (congrArg some heq)
    unfold Sitting.admits
    split <;> simp_all
  | _ => rfl

attribute [local simp] Sitting.hear Engine.sent ofLog_sent

theorem Sits.sent (h : Sits id seat failed bridged w) (hq : q.room ≠ some id) :
    Sits id seat failed bridged (sent w q) := by
  constructor
  · simp [afterRequest_of_room hq, h.seat]
  · simp [h.failed]
  · simp [h.bridged]

attribute [local simp] ofLog_asked replied Sitting.afterReply

theorem Sits.absentReplied (h : Sits id .absent failed bridged w) (hq : q.room ≠ some id) :
    Sits id .absent failed bridged (replied w q a rest) := by
  constructor
  · simp [admits_of_room hq,
      afterRequest_of_room hq, h.seat]
  · simp [afterRequest_of_room hq, h.seat, h.failed]
  · simp [afterRequest_of_room hq, h.seat, h.bridged]

theorem Sits.takenReplied (h : Sits id .taken failed bridged w) (hq : q.room ≠ some id) :
    Sits id .taken (failed || (a.rejected && Sitting.isFatal (some q)))
      (bridged || (!a.rejected && Sitting.isAdd (some q))) (replied w q a rest) := by
  constructor
  · simp [admits_of_room hq,
      afterRequest_of_room hq, h.seat]
  · simp [afterRequest_of_room hq, h.seat, h.failed]
  · simp [afterRequest_of_room hq, h.seat, h.bridged]

theorem Sits.takenPlain (h : Sits id .taken failed bridged w) (hq : q.room ≠ some id)
    (hf : Sitting.isFatal (some q) = false) (ha : Sitting.isAdd (some q) = false) :
    Sits id .taken failed bridged (replied w q a rest) := by
  have ht : Sits id .taken (failed || (a.rejected && Sitting.isFatal (some q)))
      (bridged || (!a.rejected && Sitting.isAdd (some q))) (replied w q a rest) := h.takenReplied hq
  simpa [hf, ha] using ht

theorem closed_clean : Closed (fun q => q.room ≠ some id) (Clean id) where
  sent _ _ hq h := h.sent hq
  replied _ _ _ _ hq h := h.absentReplied hq
  state _ _ _ h := ⟨h.seat, h.failed, h.bridged⟩

theorem closed_stuck : Closed (fun q => q.room ≠ some id) (Stuck id) where
  sent w q hq := by
    rintro ⟨b, h⟩
    exact ⟨b, h.sent hq⟩
  replied w q a rest hq := by
    rintro ⟨b, h⟩
    have ht : Sits id .taken (true || (a.rejected && Sitting.isFatal (some q)))
        (b || (!a.rejected && Sitting.isAdd (some q))) (replied w q a rest) := h.takenReplied hq
    exact ⟨_, by simpa using ht⟩
  state _ s _ := by
    rintro ⟨b, h⟩
    exact ⟨b, h.seat, h.failed, h.bridged⟩

theorem room_ne {q : Request} (h : q.isRoom = false) : q.room ≠ some id := by
  intro heq
  simp [Request.isRoom, heq] at h

theorem steady_clean : Steady (Clean id) where
  sent w q hq := closed_clean.sent w q (room_ne hq.2)
  checked w h := h.sent (by simp [Request.room])
  replied w q a rest hq := closed_clean.replied w q a rest (room_ne hq.2)
  state := closed_clean.state

attribute [local simp] Sitting.afterRequest

theorem Sits.leftReplied (h : Sits id seat failed bridged w) :
    Sits id .absent failed bridged (replied w (.leaveConference id) a rest) := by
  constructor
  · simp [Sitting.admits]
  · simp [h.failed]
  · simp [h.bridged]

theorem Sits.watch (h : Sits id .taken failed bridged w) (bridgeId : BridgeId) :
    Sits id .watched failed bridged (Engine.sent w (.leaveOnEnd id bridgeId)) := by
  constructor
  · simp [h.seat]
  · simp [h.failed]
  · simp [h.bridged]

theorem Sits.joined {moderator : Bool} {newBridgeId bridgeId : BridgeId} {maxMembers : Int}
    {room : ConferenceRoom} (h : Clean id w) (ha : a.admission = .joined bridgeId room)
    (hr : a.rejected = false) :
    Sits id .taken false false (replied w (.joinConference id moderator newBridgeId maxMembers) a rest) := by
  constructor
  · simp [Sitting.admits, ha, hr]
  · simp [h.seat, h.failed]
  · simp [h.seat, h.bridged]

theorem Sits.refused {moderator : Bool} {newBridgeId : BridgeId} {maxMembers : Int} (h : Clean id w)
    (ha : a.rejected = true ∨ ∀ bridgeId room, a.admission ≠ .joined bridgeId room) :
    Clean id (replied w (.joinConference id moderator newBridgeId maxMembers) a rest) := by
  have hadmits : Sitting.admits id (some (.joinConference id moderator newBridgeId maxMembers)) a =
      false := by
    unfold Sitting.admits
    split
    · rename_i heq
      obtain ha | ha := ha
      · simp [ha]
      · exact absurd heq (ha _ _)
    · rfl
  constructor
  · simp [hadmits,
      h.seat]
  · simp [h.seat, h.failed]
  · simp [h.seat, h.bridged]

end seats

namespace PlanWalker

variable {k : PlanWalker} {plan : ConferencePlan} {id : JsString}

def Placed (id : JsString) (r : StepResult) (w : WalkWorld) : Prop :=
  Clean id w ∨ (r = .bridged ∧ Sits id .watched false true w)

def Dropped (id : JsString) (w : WalkWorld) : Prop := Clean id w ∨ Stuck id w

theorem calm_clean : Closed (·.isCalm) (Clean id) := steady_clean.closed

theorem clean_of_keeps {α : Type} {m : Walk α} {Q : α → WalkWorld → Prop}
    (h : Keeps (Clean id) (fun _ => True) m Q) :
    Sat (Clean id) m (ends (fun _ => Clean id) (Dropped id) fun _ => True) := by
  intro w hw
  apply (h w).post _ (fun _ h => .inl h.1) (fun _ _ => trivial) w ⟨rfl, hw, trivial⟩
  exact fun _ _ h => h.1

theorem placed_of_keeps {m : Walk StepResult} {Q : StepResult → WalkWorld → Prop}
    (h : Keeps (Clean id) (fun _ => True) m Q) :
    Sat (Clean id) m (ends (Placed id) (Dropped id) fun _ => True) :=
  (clean_of_keeps h).post (fun _ _ h => .inl h) (fun _ h => h) fun _ h => h

section room

theorem taken_ask {bridged : Bool} {q : Request} (hq : q.room ≠ some id)
    (hf : Sitting.isFatal (some q) = false) (ha : Sitting.isAdd (some q) = false) :
    Sat (Sits id .taken false bridged) (Walk.ask q)
      (ends (fun _ => Sits id .taken false bridged) (Dropped id) fun _ => True) := by
  apply sat_ask
  · exact fun _ _ => trivial
  · exact fun w a rest h => h.takenPlain hq hf ha

theorem taken_call {bridged : Bool} {q : Request} (hq : q.room ≠ some id)
    (hf : Sitting.isFatal (some q) = true) (ha : Sitting.isAdd (some q) = false) :
    Sat (Sits id .taken false bridged) (Walk.call q)
      (ends (fun _ => Sits id .taken false bridged) (Dropped id) fun _ => True) := by
  have hask : Sat (Sits id .taken false bridged) (Walk.ask q)
      (ends (fun a w => Sits id .taken a.rejected bridged w) (Dropped id) fun _ => True) := by
    apply sat_ask
    · exact fun _ _ => trivial
    · intro w a rest h
      have ht : Sits id .taken (false || (a.rejected && Sitting.isFatal (some q)))
          (bridged || (!a.rejected && Sitting.isAdd (some q))) (replied w q a rest) := h.takenReplied hq
      rw [hf, ha, Bool.false_or, Bool.and_true, Bool.and_false, Bool.or_false] at ht
      exact ht
  apply hask.bind
  intro a
  apply Sat.ite
  · intro hr
    apply sat_throw
    intro w h
    rw [hr] at h
    exact .inr ⟨bridged, h⟩
  · intro hr
    apply sat_pure
    intro w h
    rw [Bool.not_eq_true] at hr
    rw [hr] at h
    exact h

theorem leave_call {bridged : Bool} :
    Sat (Sits id .taken false bridged) (Walk.call (.leaveConference id))
      (ends (fun _ => Sits id .absent false bridged) (Sits id .absent false bridged) fun _ => True) := by
  have hask : Sat (Sits id .taken false bridged) (Walk.ask (.leaveConference id))
      (ends (fun _ => Sits id .absent false bridged) (Sits id .absent false bridged) fun _ => True) := by
    apply sat_ask
    · exact fun _ _ => trivial
    · exact fun w a rest h => h.leftReplied
  apply hask.bind
  intro a
  apply Sat.ite
  · exact fun _ => sat_throw fun w h => h
  · exact fun _ => sat_pure fun w h => h

theorem leave_clean : Sat (Sits id .taken false false) (Walk.call (.leaveConference id))
    (ends (fun _ => Clean id) (Dropped id) fun _ => True) :=
  leave_call.post (fun _ _ h => h) (fun _ h => .inl h) fun _ h => h

theorem taken_tell {bridged : Bool} {q : Request} (hq : q.room ≠ some id) :
    Sat (Sits id .taken false bridged) (Walk.tell q)
      (ends (fun _ => Sits id .taken false bridged) (Dropped id) fun _ => True) :=
  fun _ h => h.sent hq

variable (moderator : Bool)

theorem awaitAdmission_sat (room : ConferenceRoom) :
    Sat (Sits id .taken false false) (k.awaitAdmission plan moderator room)
      (ends (fun _ => Sits id .taken false false) (Dropped id) fun _ => True) := by
  apply Sat.ite
  · intro _
    apply (taken_call (by simp [Request.room]) rfl rfl).bind
    intro _
    apply (taken_ask (by simp [Request.room]) rfl rfl).bind
    intro a
    apply (taken_ask (by simp [Request.room]) rfl rfl).bind
    intro _
    have hcaller : Sat (Sits id .taken false false) Walk.caller
        (ends (fun _ => Sits id .taken false false) (Dropped id) fun _ => True) := fun _ h => h
    apply hcaller.bind
    intro c
    apply Sat.ite
    · exact fun _ => sat_pure fun w h => h
    · intro _
      apply (taken_ask (by simp [Request.room]) rfl rfl).bind
      intro r
      apply Sat.ite
      · exact fun _ => sat_pure fun w h => h
      · intro _
        apply (taken_call (by simp [Request.room]) rfl rfl).bind
        exact fun b => sat_pure fun w h => h
  · exact fun _ => sat_pure fun w h => h

variable (bridgeId : BridgeId)

theorem addToBridge_ask :
    Sat (Sits id .taken false false) (Walk.ask (.addToBridge bridgeId none))
      (ends (fun a w => Sits id .taken false (!a.rejected) w) (Dropped id) fun _ => True) := by
  apply sat_ask
  · exact fun _ _ => trivial
  · intro w a rest h
    have hq : (Request.addToBridge bridgeId none).room ≠ some id := by simp [Request.room]
    have ht : Sits id .taken (false || (a.rejected && false)) (false || (!a.rejected && true))
        (replied w (.addToBridge bridgeId none) a rest) := h.takenReplied hq
    rw [Bool.false_or, Bool.and_false, Bool.false_or, Bool.and_true] at ht
    exact ht

theorem joinBridge_sat :
    Sat (Sits id .taken false false) (joinBridge bridgeId none)
      (ends (fun joined w => Sits id .taken false joined w) (Dropped id) fun _ => True) := by
  apply (taken_ask (by simp [Request.room]) rfl rfl).bind
  intro a
  apply Sat.ite
  · exact fun _ => sat_pure fun w h => h
  · intro _
    apply (addToBridge_ask bridgeId).bind
    exact fun b => sat_pure fun w h => h

theorem enterConference_sat (room : ConferenceRoom) :
    Sat (Sits plan.conferenceId .taken false false) (enterConference plan moderator bridgeId room)
      (ends (Placed plan.conferenceId) (Dropped plan.conferenceId) fun _ => True) := by
  apply (joinBridge_sat bridgeId).bind
  intro joined
  cases joined with
  | false =>
    apply leave_clean.bind
    exact fun _ => sat_pure fun w h => .inl h
  | true =>
    apply (taken_tell (by simp [Request.room])).bind
    intro _
    apply (taken_tell (by simp [Request.room])).bind
    intro _
    apply (taken_ask (by simp [Request.room]) rfl rfl).bind
    intro r
    have hpublish : Sat (Sits plan.conferenceId .taken false true)
        (Walk.publish (.conferenceJoined plan.conferenceId bridgeId moderator
          ((r.room.getD room).memberCount)))
        (ends (fun _ => Sits plan.conferenceId .taken false true) (Dropped plan.conferenceId)
          fun _ => True) :=
      (taken_call (by simp [Request.room]) rfl rfl).bind fun _ => sat_pure fun w h => h
    apply hpublish.bind
    intro _
    have hwatch : Sat (Sits plan.conferenceId .taken false true)
        (Walk.tell (.leaveOnEnd plan.conferenceId bridgeId))
        (ends (fun _ => Sits plan.conferenceId .watched false true) (Dropped plan.conferenceId)
          fun _ => True) :=
      fun _ h => h.watch bridgeId
    apply hwatch.bind
    exact fun _ => sat_pure fun w h => .inr ⟨rfl, h⟩

theorem joinConference_sat :
    Sat (Clean plan.conferenceId) (k.joinConference plan moderator)
      (ends (Placed plan.conferenceId) (Dropped plan.conferenceId) fun _ => True) := by
  have hid : Sat (Clean plan.conferenceId) Walk.newId
      (ends (fun _ => Clean plan.conferenceId) (Dropped plan.conferenceId) fun _ => True) :=
    fun w h => ⟨h.seat, h.failed, h.bridged⟩
  apply hid.bind
  intro newBridgeId
  have hjoin : Sat (Clean plan.conferenceId)
      (Walk.call (.joinConference plan.conferenceId moderator newBridgeId plan.maxMembers))
      (ends (fun a w => (∀ bridgeId room, a.admission = .joined bridgeId room →
          Sits plan.conferenceId .taken false false w) ∧
          ((∀ bridgeId room, a.admission ≠ .joined bridgeId room) → Clean plan.conferenceId w))
        (Dropped plan.conferenceId) fun _ => True) := by
    have hask : Sat (Clean plan.conferenceId)
        (Walk.ask (.joinConference plan.conferenceId moderator newBridgeId plan.maxMembers))
        (ends (fun a w => (∀ bridgeId room, a.rejected = false → a.admission = .joined bridgeId room →
            Sits plan.conferenceId .taken false false w) ∧
            ((a.rejected = true ∨ ∀ bridgeId room, a.admission ≠ .joined bridgeId room) →
              Clean plan.conferenceId w)) (Dropped plan.conferenceId) fun _ => True) := by
      apply sat_ask
      · exact fun _ _ => trivial
      · exact fun w a rest h => ⟨fun bridgeId room hr ha => h.joined ha hr, h.refused⟩
    apply hask.bind
    intro a
    apply Sat.ite
    · exact fun hr => sat_throw fun w h => .inl (h.2 (.inl hr))
    · intro hr
      apply sat_pure
      intro w h
      exact ⟨fun bridgeId room ha => h.1 bridgeId room (by simpa using hr) ha, fun ha => h.2 (.inr ha)⟩
  apply hjoin.bind
  intro a
  split
  · rename_i ha
    apply Sat.pre (placed_of_keeps (announceAndHangup_keeps calm_clean _ _))
    exact fun w h => h.2 fun bridgeId room heq => by simp [ha] at heq
  · rename_i ha
    apply Sat.pre (placed_of_keeps (unavailable_keeps calm_clean _))
    exact fun w h => h.2 fun bridgeId room heq => by simp [ha] at heq
  · rename_i bridgeId room ha
    apply Sat.pre _ fun w h => h.1 bridgeId room ha
    apply (awaitAdmission_sat moderator room).bind
    intro admitted
    apply Sat.ite
    · intro _
      apply leave_clean.bind
      exact fun _ => sat_pure fun w h => .inl h
    · exact fun _ => enterConference_sat moderator bridgeId room

end room

theorem conferenceNode_sat (plan : ConferencePlan) (id : JsString) :
    Sat (Clean id) (k.conferenceNode plan) (ends (Placed id) (Dropped id) fun _ => True) := by
  by_cases hid : plan.conferenceId = id
  · subst hid
    apply Sat.ite
    · exact fun _ => placed_of_keeps (unavailable_keeps calm_clean _)
    intro _
    apply (clean_of_keeps (ensureAnswered_keeps calm_clean)).bind
    intro up
    apply Sat.ite
    · exact fun _ => sat_pure fun w h => .inl h
    intro _
    apply (clean_of_keeps (challengeConferencePin_keeps calm_clean plan)).bind
    intro r
    cases r with
    | denied result => exact sat_pure fun w h => .inl h
    | granted moderator => exact joinConference_sat moderator
  · have hrooms : Closed (fun q => q.room = some plan.conferenceId) (Clean id) :=
      ⟨fun w q hq => closed_clean.sent w q (by simp [hq, hid]),
        fun w q a rest hq => closed_clean.replied w q a rest (by simp [hq, hid]), closed_clean.state⟩
    exact placed_of_keeps (conferenceNode_keeps calm_clean hrooms)

theorem step_sat (input : WalkInput) (body : Option PlanBody) (id : JsString) :
    Sat (Clean id) (k.step input body) (ends (Placed id) (Dropped id) fun _ => True) := by
  by_cases hb : ∃ plan, body = some (.conference plan)
  · obtain ⟨plan, rfl⟩ := hb
    exact conferenceNode_sat plan id
  · exact placed_of_keeps (step_steady steady_clean input body fun plan heq => absurd ⟨plan, heq⟩ hb)

/-- A walk that is over counts a ghost exactly for one of these two reasons. -/
def Settled (id : JsString) (w : WalkWorld) : Prop :=
  (Sitting.ofLog id w.log).isGhost = ((Sitting.ofLog id w.log).failed ||
      ((Sitting.ofLog id w.log).bridged && (Sitting.ofLog id w.log).ended))

attribute [local simp] Sitting.isGhost Settled

theorem settled_of_clean {w : WalkWorld} (h : Clean id w) : Settled id w := by
  simp [h.seat, h.failed, h.bridged]

theorem settled_of_dropped {w : WalkWorld} (h : Dropped id w) : Settled id w := by
  obtain h | ⟨b, h⟩ := h
  · exact settled_of_clean h
  · simp [h.seat, h.failed]

theorem settled_of_watched {w : WalkWorld} (h : Sits id .watched false true w) : Settled id w := by
  simp [h.seat, h.failed, h.bridged]

theorem closed_dropped : Closed (fun q => q.room ≠ some id) (Dropped id) where
  sent w q hq := by
    rintro (h | h)
    · exact .inl (closed_clean.sent w q hq h)
    · exact .inr (closed_stuck.sent w q hq h)
  replied w q a rest hq := by
    rintro (h | h)
    · exact .inl (closed_clean.replied w q a rest hq h)
    · exact .inr (closed_stuck.replied w q a rest hq h)
  state w s hs := by
    rintro (h | h)
    · exact .inl (closed_clean.state w s hs h)
    · exact .inr (closed_stuck.state w s hs h)

theorem terminate_dropped (cause : HangupCause) (status : WalkStatus) (visited : List PlanNodeId) :
    Sat (Dropped id) (terminate cause status visited)
      (ends (fun _ => Settled id) (Settled id) fun _ => True) := by
  have hkeeps : Calmly (Dropped id) (terminate cause status visited) := by
    apply calmly_caller.bind
    intro c
    apply Calmly.ite
    · exact outcome_calmly _ _ _
    · exact (calmly_ask closed_dropped (by simp [Request.room])).bind fun _ => outcome_calmly _ _ _
  intro w h
  apply (hkeeps w).post _ (fun _ h => settled_of_dropped h.1) (fun _ _ => trivial) w ⟨rfl, h, trivial⟩
  exact fun _ _ h => settled_of_dropped h.1

theorem walkFrom_seats (input : WalkInput) (left : Nat) (visited : List PlanNodeId)
    (next : Option PlanNodeId) (id : JsString) : Sat (Clean id) (k.walkFrom input left visited next)
      (ends (fun _ => Settled id) (Settled id) fun _ => True) := by
  have hout : ∀ status visited, Sat (Settled id) (outcome status none visited)
      (ends (fun _ => Settled id) (Settled id) fun _ => True) := fun _ _ _ h => h
  induction left generalizing visited next with
  | zero => exact (terminate_dropped _ _ _).pre fun w h => .inl h
  | succ left ih =>
    have hclean : ∀ {α : Type} {m : Walk α}, Calmly (Clean id) m →
        Sat (Clean id) m (ends (fun _ => Clean id) (Settled id) fun _ => True) := fun h =>
      (clean_of_keeps h).post (fun _ _ h => h) (fun _ h => settled_of_dropped h) fun _ h => h
    apply (hclean (abandoned_calmly steady_clean)).bind
    intro abandoned
    apply Sat.ite
    · exact fun _ => (hout _ _).pre fun w h => settled_of_clean h
    · intro _
      split
      · exact (terminate_dropped _ _ _).pre fun w h => .inl h
      · split
        · exact (terminate_dropped _ _ _).pre fun w h => .inl h
        · rename_i nodeId _ _
          apply (hclean (keeps_tell closed_clean (by simp [Request.room]))).bind
          intro _
          apply (hclean (noteDestination_steady steady_clean _)).bind
          intro _
          have htry : Sat (Clean id) (Async.attempt (k.step input
              ((input.plan.nodes.lookup nodeId).field fun v => some v.body)))
              (ends _ (Settled id) fun _ => True) := (step_sat input _ id).attempt
          apply htry.bind
          intro r
          have hplaced : ∀ a, r = some a → a ≠ .bridged → ∀ w,
              ((∀ a, r = some a → Placed id a w) ∧ (r = none → Dropped id w)) → Clean id w := by
            intro a ha hne w h
            obtain h | ⟨hb, -⟩ := h.1 a ha
            · exact h
            · exact absurd hb hne
          split
          · exact (terminate_dropped _ _ _).pre fun w h => h.2 rfl
          · exact (ih _ _).pre fun w h => hplaced _ rfl (by simp) w h
          · exact (terminate_dropped _ _ _).pre fun w h => .inl (hplaced _ rfl (by simp) w h)
          · apply (hout _ _).pre
            intro w h
            obtain h | ⟨-, h⟩ := h.1 _ rfl
            · exact settled_of_clean h
            · exact settled_of_watched h
          · exact (hout _ _).pre fun w h => settled_of_clean (hplaced _ rfl (by simp) w h)

/-- Once a walk has returned and the end of its leg has been delivered, no room
counts the leg, exactly when nothing was refused between the join and the
watcher and no end was delivered to a leg that came into the bridge. -/
theorem run_noGhostMember_iff (k : PlanWalker) (input : WalkInput) (caller : Caller)
    (replies : List Reply) (id : JsString) (o : WalkOutcome)
    (h : (k.run input caller replies).1 = .done o) :
    (Sitting.ofLog id (k.run input caller replies).2.log).isGhost = false ↔
      (Sitting.ofLog id (k.run input caller replies).2.log).failed = false ∧
        ¬((Sitting.ofLog id (k.run input caller replies).2.log).bridged = true ∧
          (Sitting.ofLog id (k.run input caller replies).2.log).ended = true) := by
  have hstart : Clean id ⟨⟨caller, 0, none, {}⟩, replies, []⟩ := ⟨rfl, rfl, rfl⟩
  have hwalk := walkFrom_seats (k := k) input k.settings.maxPlanSteps [] input.plan.entryNodeId id
    ⟨⟨caller, 0, none, {}⟩, replies, []⟩ hstart
  change ends _ _ _ (k.run input caller replies).1 (k.run input caller replies).2 at hwalk
  rw [h] at hwalk
  have hghost : (Sitting.ofLog id (k.run input caller replies).2.log).isGhost = _ := hwalk
  rw [hghost]
  simp

end PlanWalker

def openRoom : PlanNode where
  id := lit "conference:c1"
  body := .conference
    { label := lit "Standup", conferenceId := lit "c1", roomNumber := lit "700",
      requiresPin := false, maxMembers := 0, waitForModerator := false, recordEnabled := false,
      mohClassId := none, mohClass := none, pinHash := none, moderatorPinHash := none,
      requiresModeratorPin := false }

def joinReplies (end_ : Option Event) : List Reply :=
  [{}, { admission := .joined 0 ⟨false, 1⟩ }, {}, {}, { room := some ⟨false, 1⟩ },
    { isTearingDown := end_.isSome, event := end_ }]

/-- A member who stays until after the walk is no ghost. -/
theorem run_noGhostMember_stays :
    (Sitting.ofLog (lit "c1") (sampleWalker.run { plan := onlyNode openRoom } ⟨true, false, false⟩
      (joinReplies none)).2.log).isGhost = false := by
  apply (PlanWalker.run_noGhostMember_iff sampleWalker { plan := onlyNode openRoom }
    ⟨true, false, false⟩ (joinReplies none) (lit "c1")
    ⟨.bridged, none, some ⟨lit "conference", some (lit "c1")⟩, [lit "conference:c1"]⟩
    (by decide)).mpr
  decide

/-- The member hangs up while the join is being reported: the watcher comes too late. -/
theorem ghostMember : (sampleWalker.run { plan := onlyNode openRoom } ⟨true, false, false⟩
        (joinReplies (some .callerEnded))).1 =
        .done ⟨.bridged, none, some ⟨lit "conference", some (lit "c1")⟩, [lit "conference:c1"]⟩ ∧
      (Sitting.ofLog (lit "c1") (sampleWalker.run { plan := onlyNode openRoom } ⟨true, false, false⟩
        (joinReplies (some .callerEnded))).2.log).isGhost = true := by
  decide

end OptimiqVoice.Engine

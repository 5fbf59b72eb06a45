import OptimiqVoice.Engine.QueueConduct
import OptimiqVoice.Engine.Walk

namespace OptimiqVoice.Engine

open Lib Telephony Routing

/-- An invariant that every single step of a walk keeps, those of a conference
room apart: every request, every reply, every reading of the flags. -/
structure Steady (I : WalkWorld → Prop) : Prop where
  sent : ∀ w q, q.isCheck = false ∧ q.isRoom = false → I w → I (sent w q)
  checked : ∀ w, I w → I (Engine.sent w (.check w.state.caller.abandoned))
  replied : ∀ w q a rest, q.isCheck = false ∧ q.isRoom = false → I w → I (replied w q a rest)
  state : ∀ w s, s.caller = w.state.caller → I w → I { w with state := s }

section steady

variable {I : WalkWorld → Prop} (hI : Steady I)

include hI

theorem Steady.open : Closed (fun q => (q.isCheck || q.isRoom) = false) I where
  sent w q hq := hI.sent w q (by simpa using hq)
  replied w q a rest hq := hI.replied w q a rest (by simpa using hq)
  state := hI.state

omit hI in
theorem isCheck_of_isMark {q : Request} (h : q.isMark = false) : q.isCheck = false := by
  cases q with
  | check b => cases h
  | _ => rfl

omit hI in
theorem steady_of_isCalm {q : Request} (h : q.isCalm) : q.isCheck = false ∧ q.isRoom = false :=
  ⟨isCheck_of_isMark (Request.calm_of_isCalm h).mark, (Request.calm_of_isCalm h).room⟩

theorem Steady.closed : Closed (·.isCalm) I where
  sent w q hq := hI.sent w q (steady_of_isCalm hq)
  replied w q a rest hq := hI.replied w q a rest (steady_of_isCalm hq)
  state := hI.state

theorem abandoned_calmly : Calmly I Walk.abandoned := by
  rintro w₀ w ⟨rfl, hw, -⟩
  exact ⟨hI.checked w hw, grows_sent w _, trivial⟩

omit hI in
theorem Calmly.loop {α β : Type} {body : β → Walk (β ⊕ α)} (h : ∀ b, Calmly I (body b)) (b : β) :
    Calmly I (Async.loop body b) := by
  apply Keeps.loop (J := fun _ _ => True)
  intro b
  apply (h b).weaken (fun _ _ => id)
  intro r w _ _
  cases r with
  | inl _ | inr _ => trivial

omit hI in
theorem Calmly.attempt {α : Type} {m : Walk α} (h : Calmly I m) : Calmly I (Async.attempt m) :=
  (Keeps.attempt h).calmly

theorem tellAll_calmly {qs : List Request} (h : ∀ q ∈ qs, q.isMark = false ∧ q.isRoom = false) :
    Calmly I (Async.each Walk.tell qs) :=
  Calmly.each fun q hq => keeps_tell hI.open (by simp [isCheck_of_isMark (h q hq).1, (h q hq).2])

end steady

namespace PlanWalker

variable {k : PlanWalker} {I : WalkWorld → Prop} (hI : Steady I)

include hI

section dialling

variable (leg : LegId)

theorem waitForOne_steady (attempt : DialAttempt) (index : Nat) (watching : Bool)
    (d : OneDial) : Calmly I (waitForOne leg attempt index watching d) := by
  unfold waitForOne
  split
  · exact calmly_pure
  · apply (calmly_ask hI.open rfl).bind
    intro a
    split
    · exact calmly_pure
    · rename_i e _
      apply (tellAll_calmly hI _).bind
      · exact fun _ => calmly_pure
      · intro q hq
        obtain ⟨hc, -⟩ := OneDial.hear_commands (List.ne_nil_of_mem hq)
        rw [hc] at hq
        obtain rfl : q = .originate leg attempt := by simpa using hq
        exact ⟨rfl, rfl⟩

theorem confirmTurn_steady (confirm : ConfirmRequest) (next : ConfirmNext) :
    Keeps I (fun _ => next.Soft leg) (confirmTurn leg confirm next)
      fun r _ => ∀ next, r = .inl next → next.Soft leg := by
  unfold confirmTurn
  split
  · exact keeps_pure fun w _ _ next h => nomatch h
  · exact keeps_pure fun w _ _ next h => nomatch h
  · exact keeps_pure fun w _ _ next h => nomatch h
  · apply (abandoned_calmly hI).then
    intro abandoned
    apply Keeps.ite
    · exact fun _ => keeps_pure nofun
    · intro _
      apply keeps_pure
      rintro w _ _ next ⟨⟩ q hq
      exact .inr ⟨_, by simpa using hq⟩
  · rename_i c commands
    by_cases hs : (ConfirmNext.waiting c commands).Soft leg
    · apply (tellAll_calmly hI _).then
      · intro _
        apply (calmly_ask hI.open rfl).then
        intro a
        split
        · apply keeps_pure
          rintro w _ _ next ⟨⟩ q hq
          cases hq
        · apply keeps_pure
          rintro w _ _ next ⟨⟩
          exact Confirming.hear_soft
      · intro q hq
        have hcalm := Request.calm_of_isCalm (calm_of_soft (hs q hq))
        exact ⟨hcalm.mark, hcalm.room⟩
    · rintro w₀ w ⟨-, -, h⟩
      exact absurd h hs

theorem confirmAnswer_steady (confirm : ConfirmRequest) :
    Calmly I (confirmAnswer leg confirm) := by
  have hloop : Keeps I (fun _ => (ConfirmNext.round confirm.attempts none).Soft leg)
      (confirmAnswer leg confirm) fun _ _ => True := by
    have hturn : ∀ next, Keeps I (fun _ => ConfirmNext.Soft leg next) (confirmTurn leg confirm next)
        fun r w => Sum.elim (fun next _ => ConfirmNext.Soft leg next) (fun _ _ => True) r w := by
      intro next
      apply (confirmTurn_steady hI leg confirm next).weaken (fun _ _ => id)
      intro r w _ h
      cases r with
      | inl next' => exact h next' rfl
      | inr v => trivial
    exact .loop hturn _
  exact hloop.weaken (fun _ _ _ => trivial) fun _ _ _ => id

theorem dialOne_steady (attempt : DialAttempt) (index : Nat) (watching : Bool) :
    Calmly I (k.dialOne attempt index watching) := by
  apply (calmly_newId hI.open).bind
  intro leg
  apply calmly_destination.bind
  intro destination
  have hfirst : Calmly I (Walk.tell (placing k.wiring.legs destination leg attempt).2) := by
    refine keeps_tell hI.open ?_
    unfold placing
    split <;> rfl
  apply hfirst.bind
  intro _
  apply (Calmly.loop (waitForOne_steady hI leg attempt index watching) _).bind
  intro outcome
  have hconfirmed : Calmly I (confirmed attempt outcome) := by
    unfold confirmed
    split
    · split
      · exact calmly_pure
      · exact (confirmAnswer_steady hI _ _).bind fun _ => calmly_pure
    · exact calmly_pure
  apply hconfirmed.bind
  intro settled
  unfold closeDial
  split
  · exact calmly_pure
  · exact (hangupQuietly_calmly hI.closed leg _).bind fun _ => calmly_pure

theorem dialSequentialFrom_steady (stopOnCauses : List HangupCause) (attempts : List DialAttempt)
    (index : Nat) (last : DialOutcome) :
    Calmly I (k.dialSequentialFrom stopOnCauses index last attempts) := by
  induction attempts generalizing index last with
  | nil => exact calmly_pure
  | cons attempt rest ih =>
    apply (abandoned_calmly hI).bind
    intro abandoned
    apply Calmly.ite
    · exact calmly_pure
    · have hdelay : Calmly I (startDelay attempt) :=
        Calmly.ite ((calmly_ask hI.open rfl).bind fun _ => calmly_pure) calmly_pure
      apply hdelay.bind
      intro _
      apply (dialOne_steady hI attempt index false).bind
      intro outcome
      exact .ite calmly_pure (ih _ _)

theorem enterRace_steady (destination : Option PlanDestination) (attempts : List DialAttempt)
    (index : Nat) : Calmly I (k.enterRace destination index attempts) := by
  induction attempts generalizing index with
  | nil => exact calmly_pure
  | cons attempt rest ih =>
    apply (calmly_newId hI.open).bind
    intro leg
    apply (ih (index + 1)).bind
    exact fun racers => calmly_pure

theorem waitForRace_steady (destination : Option PlanDestination) (watching : Bool) (race : Race) :
    Calmly I (k.waitForRace destination watching race) := by
  unfold waitForRace
  split
  · exact calmly_pure
  · apply (calmly_ask hI.open rfl).bind
    intro a
    split
    · exact calmly_pure
    · apply calmly_caller.bind
      intro caller
      apply (tellAll_calmly hI _).bind
      · exact fun _ => calmly_pure
      · intro q hq
        obtain hq | hq := List.mem_append.mp hq
        · exact ⟨(Race.gentle_settling hq).mark, (Race.gentle_settling hq).room⟩
        · obtain hq | ⟨hq, -⟩ := Race.commands_hear q hq
          · exact ⟨hq.mark, hq.room⟩
          · exact ⟨hq.isMark, hq.isRoom⟩

theorem dropLosers_steady (o : DialOutcome) (todo : List LegId) (race : Race) :
    Calmly I (dropLosers o todo race) := by
  induction todo generalizing race with
  | nil => exact calmly_pure
  | cons leg rest ih =>
    apply Calmly.ite
    · exact ih race
    · apply (keeps_tell hI.open rfl).bind
      intro _
      have hwait : ∀ race, Calmly I (awaitHangup leg race) := by
        intro race
        apply (calmly_ask hI.open rfl).bind
        intro a
        split
        · exact calmly_pure
        · apply calmly_caller.bind
          intro caller
          apply (tellAll_calmly hI _).bind
          · exact fun _ => calmly_pure
          · exact fun q hq => ⟨(Race.modest_hearClosing q hq).mark, (Race.modest_hearClosing q hq).room⟩
      exact (Calmly.loop hwait race).bind ih

theorem raceToEnd_steady (attempts : List DialAttempt) (watching : Bool) :
    Calmly I (k.raceToEnd attempts watching) := by
  apply calmly_destination.bind
  intro destination
  apply (enterRace_steady hI destination attempts 0).bind
  intro racers
  apply (tellAll_calmly hI fun q hq =>
    ⟨(places_firstRequest hq).isMark, (places_firstRequest hq).isRoom⟩).bind
  intro _
  apply (Calmly.loop (waitForRace_steady hI destination watching) _).bind
  rintro ⟨race, outcome⟩
  have hclose : Calmly I (closeRace race outcome) := by
    apply calmly_caller.bind
    intro caller
    apply (tellAll_calmly hI _).bind
    · exact fun _ => dropLosers_steady hI outcome _ _
    · intro q hq
      have hmodest := Race.modest_forEach (fun _ _ => Race.modest_abortConfirm) _ _ q hq
      exact ⟨hmodest.mark, hmodest.room⟩
  exact hclose.bind fun _ => calmly_pure

theorem dialSimultaneous_steady (attempts : List DialAttempt) (watching : Bool) :
    Calmly I (k.dialSimultaneous attempts watching) :=
  (raceToEnd_steady hI attempts watching).bind fun _ => calmly_pure

theorem dialAll_steady (strategy : RingGroupStrategy) (ignoreBusy : Bool)
    (attempts : List DialAttempt) : Calmly I (k.dialAll strategy ignoreBusy attempts) := by
  cases strategy with
  | sequential => exact dialSequentialFrom_steady hI _ attempts 0 _
  | simultaneous => exact dialSimultaneous_steady hI attempts false

theorem settleDial_steady (branches : DialBranches) (o : DialOutcome) :
    Calmly I (k.settleDial branches o) := by
  cases o with
  | answered leg i => exact (bridgeWith_keeps hI.closed leg).calmly
  | aborted | timeout | failed _ _ => exact calmly_pure

theorem dial_steady {d : Walk DialOutcome} (h : Calmly I d) (branches : DialBranches) :
    Calmly I (do startRinging; let outcome ← d; k.settleDial branches outcome) :=
  (startRinging_calmly hI.closed).bind fun _ => h.bind (settleDial_steady hI branches)

theorem extensionNode_steady (plan : ExtensionPlan) (input : WalkInput) :
    Calmly I (k.extensionNode plan input) := by
  unfold extensionNode
  split
  · exact calmly_pure
  · apply Calmly.ite
    · exact calmly_pure
    · split
      · apply (followMeAttempts_calmly hI.closed plan input _).bind
        intro attempts
        apply Calmly.ite
        · exact calmly_pure
        · apply (abandoned_calmly hI).bind
          intro abandoned
          exact .ite calmly_pure (dial_steady hI (dialAll_steady hI _ _ _) _)
      · exact dial_steady hI (dialSequentialFrom_steady hI _ _ 0 _) _

theorem trunkChain_steady (plan : TrunkDialPlan) (input : WalkInput) (number : JsString)
    (attempts : List TrunkAttempt) (last : HangupCause) :
    Calmly I (k.trunkChain plan input number last attempts) := by
  induction attempts generalizing last with
  | nil => exact calmly_pure
  | cons attempt rest ih =>
    apply calmly_caller.bind
    intro c
    apply Calmly.ite
    · exact calmly_pure
    · apply (reserveTrunk_calmly hI.closed attempt).bind
      intro reserved
      apply Calmly.ite
      · exact ih _
      · apply (dialOne_steady hI _ 0 false).bind
        intro outcome
        split
        · apply (keeps_tell hI.open rfl).bind
          exact fun _ => (bridgeWith_keeps hI.closed _).calmly
        · apply (keeps_tell hI.open rfl).bind
          exact fun _ => calmly_pure
        · apply (keeps_tell hI.open rfl).bind
          exact fun _ => .ite (ih _) calmly_pure

theorem trunkDialNode_steady (plan : TrunkDialPlan) (input : WalkInput) :
    Calmly I (k.trunkDialNode plan input) := by
  unfold trunkDialNode
  split
  · exact calmly_pure
  · apply (orderTrunkAttempts_calmly hI.closed _).bind
    intro attempts
    apply Calmly.ite
    · exact calmly_pure
    · apply (startRinging_calmly hI.closed).bind
      intro _
      apply (notifyEmergency_calmly hI.closed plan input _ _).bind
      exact fun _ => trunkChain_steady hI plan input _ attempts _

end dialling

section queue

variable {plan : QueuePlan}

theorem offer_steady (candidates : List QueueCandidate) : Calmly I (k.offer plan candidates) := by
  have hdial : ∀ agents fanOutAll, Calmly I (k.dialQueueAgents agents fanOutAll) := by
    intro agents fanOutAll
    unfold dialQueueAgents
    split
    · exact calmly_pure
    · apply Calmly.ite
      · exact (dialSimultaneous_steady hI _ true).bind fun _ => calmly_pure
      · exact (dialOne_steady hI _ 0 true).bind fun _ => calmly_pure
  have hsettle : ∀ o, Calmly I (k.settleOffer plan o) := by
    intro o
    have hagain : ∀ cause, Calmly I (do k.releaseAll plan cause; startMusic plan; pure none :
        Walk (Option QueueOutcome)) := fun cause =>
      (releaseAll_calmly hI.closed cause).bind fun _ =>
        (startMusic_calmly hI.closed).bind fun _ => calmly_pure
    cases o with
    | answered agentId leg => exact (answered_keeps hI.closed agentId leg).calmly.bind fun _ => calmly_pure
    | aborted =>
      apply (releaseAll_calmly hI.closed none).bind
      intro _
      exact (abandon_keeps hI.closed .callerHangup).calmly.bind fun _ => calmly_pure
    | failed agentId cause => exact hagain (some cause)
    | timeout => exact hagain (some .noAnswer)
  have hoffer : Calmly I (k.offerTo plan candidates) := by
    apply (reserveAll_calmly hI.closed candidates).bind
    intro reserved
    apply Calmly.ite
    · exact (calmly_ask hI.open rfl).bind fun _ => calmly_pure
    · apply (calmly_ask hI.open rfl).bind
      intro _
      exact (hdial reserved _).bind hsettle
  apply (calmly_updateSession hI.open _).bind
  intro _
  apply hoffer.attempt.bind
  intro r
  split
  · exact (releaseAll_calmly hI.closed none).bind fun _ => calmly_pure
  · exact (releaseAll_calmly hI.closed none).bind fun _ => keeps_throw

theorem queueTurn_steady (u : Unit) : Calmly I (k.queueTurn plan u) := by
  have hdistribute : ∀ waited, Calmly I (k.distribute plan waited) := by
    intro waited
    apply (nextCandidates_calmly hI.closed waited).bind
    intro candidates
    apply Calmly.ite
    · apply (announceIfDue_calmly hI.closed).bind
      intro _
      exact (calmly_ask hI.open rfl).bind fun _ => calmly_pure
    · apply (offer_steady hI candidates).bind
      intro r
      split
      · exact calmly_pure
      · exact calmly_pure
  apply calmly_caller.bind
  intro c
  apply Calmly.ite
  · exact (abandon_keeps hI.closed .callerHangup).calmly.bind fun _ => calmly_pure
  · apply (waitedMs_calmly hI.closed).bind
    intro waited
    apply (calmly_call hI.open rfl).bind
    intro m
    split
    · exact calmly_pure
    · apply (calmly_call hI.open rfl).bind
      intro a
      split
      · rename_i hr
        exact (timeOut_keeps hI.closed (deadlineReached_ne hr)).calmly.bind fun _ => calmly_pure
      · exact hdistribute waited

theorem queueNode_steady : Calmly I (k.queueNode plan) := by
  have hwait : Calmly I (k.waitInQueue plan) := by
    apply (playPrompt_calmly hI.closed _).bind
    intro _
    apply (startMusic_calmly hI.closed).bind
    exact fun _ => .loop (queueTurn_steady hI) ()
  have hrun : Calmly I (k.runQueue plan) := by
    apply (ensureAnswered_keeps hI.closed).calmly.bind
    intro up
    apply Calmly.ite
    · exact calmly_pure
    · apply (nowMs_calmly hI.closed).bind
      intro now
      apply (calmly_ask hI.open rfl).bind
      intro p
      apply (calmly_updateSession hI.open _).bind
      intro _
      apply (calmly_publish hI.open rfl).bind
      intro _
      apply hwait.attempt.bind
      intro r
      exact (keeps_tell hI.open rfl).bind fun _ => calmly_pure
  apply Calmly.ite
  · exact (unavailable_keeps hI.closed _).calmly
  · exact hrun.bind fun _ => calmly_pure

end queue

theorem step_steady (input : WalkInput) (body : Option PlanBody)
    (hroom : ∀ plan, body = some (.conference plan) → Calmly I (k.conferenceNode plan)) :
    Calmly I (k.step input body) := by
  unfold step
  split
  · exact calmly_pure
  · exact (playbackNode_keeps hI.closed _).calmly
  · exact (timeConditionNode_keeps hI.closed _ input).calmly
  · exact extensionNode_steady hI _ input
  · exact .ite calmly_pure (dial_steady hI (dialAll_steady hI _ _ _) _)
  · exact (ivrMenuNode_keeps hI.closed _).calmly
  · exact (voicemailNode_keeps hI.closed _ input).calmly
  · exact trunkDialNode_steady hI _ input
  · exact .ite calmly_pure (dial_steady hI (dialOne_steady hI _ 0 false) _)
  · exact (featureCodeNode_keeps hI.closed _ input).calmly
  · exact queueNode_steady hI
  · exact hroom _ rfl
  · exact (parkNode_keeps hI.closed _ input).calmly
  · exact (unavailable_keeps hI.closed _).calmly
  · exact (unavailable_keeps hI.closed _).calmly

omit hI in
theorem outcome_calmly (status : WalkStatus) (cause : Option HangupCause)
    (visited : List PlanNodeId) : Calmly I (outcome status cause visited) :=
  calmly_destination.bind fun _ => calmly_pure

theorem terminate_steady (cause : HangupCause) (status : WalkStatus) (visited : List PlanNodeId) :
    Calmly I (terminate cause status visited) := by
  apply calmly_caller.bind
  intro c
  apply Calmly.ite
  · exact outcome_calmly _ _ _
  · exact (calmly_ask hI.open rfl).bind fun _ => outcome_calmly _ _ _

theorem noteDestination_steady (body : Option PlanBody) : Calmly I (k.noteDestination body) := by
  unfold noteDestination
  split
  · exact calmly_pure
  · apply calmly_destination.bind
    intro current
    apply Calmly.ite
    · exact calmly_pure
    · apply Calmly.bind (keeps_state hI.open _)
      · intro _
        exact .ite ((calmly_call hI.open rfl).bind fun _ => calmly_pure) calmly_pure
      · exact fun _ => rfl

theorem walkFrom_steady (hroom : ∀ plan, Calmly I (k.conferenceNode plan)) (input : WalkInput)
    (n : Nat) (visited : List PlanNodeId) (next : Option PlanNodeId) :
    Calmly I (k.walkFrom input n visited next) := by
  induction n generalizing visited next with
  | zero => exact terminate_steady hI _ _ _
  | succ n ih =>
    apply (abandoned_calmly hI).bind
    intro abandoned
    apply Calmly.ite
    · exact outcome_calmly _ _ _
    · split
      · exact terminate_steady hI _ _ _
      · split
        · exact terminate_steady hI _ _ _
        · apply (keeps_tell hI.open rfl).bind
          intro _
          apply (noteDestination_steady hI _).bind
          intro _
          apply (step_steady hI input _ fun plan _ => hroom plan).attempt.bind
          intro r
          split
          · exact terminate_steady hI _ _ _
          · exact ih _ _
          · exact terminate_steady hI _ _ _
          · exact outcome_calmly _ _ _
          · exact outcome_calmly _ _ _

theorem run_steady (hroom : ∀ plan, Calmly I (k.conferenceNode plan)) (input : WalkInput)
    (caller : Caller) (replies : List Reply)
    (h : I ⟨⟨caller, 0, none, {}⟩, replies, []⟩) : I (k.run input caller replies).2 := by
  have hwalk := walkFrom_steady hI hroom input k.settings.maxPlanSteps [] input.plan.entryNodeId
    ⟨⟨caller, 0, none, {}⟩, replies, []⟩ ⟨⟨caller, 0, none, {}⟩, replies, []⟩ ⟨rfl, h, trivial⟩
  change I (k.walk input ⟨⟨caller, 0, none, {}⟩, replies, []⟩).2
  unfold walk
  cases he : (k.walkFrom input k.settings.maxPlanSteps [] input.plan.entryNodeId
      ⟨⟨caller, 0, none, {}⟩, replies, []⟩).1 with
  | done o =>
    rw [he] at hwalk
    exact hwalk.1
  | thrown =>
    rw [he] at hwalk
    exact hwalk.1
  | cut =>
    rw [he] at hwalk
    exact hwalk.1

end PlanWalker

end OptimiqVoice.Engine

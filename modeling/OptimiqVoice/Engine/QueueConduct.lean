import OptimiqVoice.Engine.NodeConduct

namespace OptimiqVoice.Engine.PlanWalker

open Lib Telephony Routing
open Async (Sat ends sat_pure)

variable {k : PlanWalker} {plan : QueuePlan}

variable {reason : AbandonReason}

section calm

variable {I P : WalkWorld → Prop} (hI : Closed (·.isCalm) I)

include hI

theorem waitedMs_calmly : Calmly I waitedMs := by
  apply (nowMs_calmly hI).bind
  intro now
  exact calmly_session.bind fun s => calmly_pure

theorem startMusic_calmly : Calmly I (startMusic plan) := by
  apply calmly_caller.bind
  intro c
  exact .ite calmly_pure ((calmly_ask hI rfl).bind fun _ => calmly_pure)

theorem announcePosition_calmly : Calmly I (k.announcePosition plan) := by
  apply (calmly_ask hI rfl).bind
  intro p
  apply (calmly_updateSession hI _).bind
  intro _
  apply (calmly_ask hI rfl).bind
  intro _
  apply (playPrompt_calmly hI _).bind
  intro _
  apply (playWhileUp_keeps hI _).calmly.bind
  intro up
  exact .ite (startMusic_calmly hI) calmly_pure

theorem announceIfDue_calmly : Calmly I (k.announceIfDue plan) := by
  apply Calmly.ite
  · exact calmly_pure
  · apply (nowMs_calmly hI).bind
    intro now
    apply calmly_session.bind
    intro s
    apply Calmly.ite
    · exact calmly_pure
    · exact (calmly_updateSession hI _).bind fun _ => announcePosition_calmly hI

theorem nextCandidates_calmly (waited : Int) : Calmly I (nextCandidates plan waited) := by
  apply (nowMs_calmly hI).bind
  intro now
  apply calmly_session.bind
  intro s
  apply (calmly_ask hI rfl).bind
  intro a
  apply Calmly.ite
  · exact calmly_pure
  · apply Calmly.ite
    · exact (calmly_updateSession hI _).bind fun _ => calmly_pure
    · exact calmly_pure

theorem tryOwnedTransition_calmly (request : AgentTransition) :
    Calmly I (k.tryOwnedTransition request) := by
  apply (calmly_call hI rfl).bind
  intro a
  apply Calmly.ite
  · exact calmly_pure
  · apply (calmly_call hI rfl).bind
    intro b
    split
    · exact calmly_pure
    · exact calmly_pure
    · exact calmly_pure

theorem releaseFor_calmly (candidate : QueueCandidate) (cause : Option HangupCause) :
    Calmly I (releaseFor plan candidate cause) := by
  cases cause with
  | none => exact calmly_pure
  | some cause =>
    apply (nowMs_calmly hI).bind
    intro now
    exact (calmly_updateSession hI _).bind fun _ => calmly_pure

theorem releaseOne_calmly (cause : Option HangupCause) (candidate : QueueCandidate) :
    Calmly I (k.releaseOne plan cause candidate) := by
  apply (calmly_ask hI rfl).bind
  intro a
  apply Calmly.ite
  · exact calmly_pure
  · apply (releaseFor_calmly hI candidate cause).bind
    intro request
    apply (tryOwnedTransition_calmly hI request).bind
    intro r
    split
    · exact keeps_tell hI rfl
    · exact calmly_updateSession hI _

theorem releaseAll_calmly (cause : Option HangupCause) : Calmly I (k.releaseAll plan cause) := by
  apply calmly_session.bind
  intro s
  exact .each fun candidate _ => releaseOne_calmly hI cause candidate

theorem reserveAll_calmly (candidates : List QueueCandidate) :
    Calmly I (k.reserveAll plan candidates) := by
  induction candidates with
  | nil => exact calmly_pure
  | cons candidate rest ih =>
    apply (nowMs_calmly hI).bind
    intro now
    apply (calmly_call hI rfl).bind
    intro a
    apply Calmly.ite
    · apply (calmly_updateSession hI _).bind
      intro _
      exact ih.bind fun _ => calmly_pure
    · exact ih

theorem abandon_keeps (reason : AbandonReason) : Keeps I P (abandon plan reason) fun o _ =>
      (reason = .callerHangup → o = .abandoned) ∧ (reason ≠ .callerHangup → o = .timeout reason) := by
  apply (waitedMs_calmly hI).then
  intro waitMs
  apply calmly_session.then
  intro s
  apply (calmly_publish hI rfl).then
  intro _
  cases reason with
  | callerHangup => exact keeps_pure fun w _ _ => ⟨fun _ => rfl, fun h => absurd rfl h⟩
  | noAgents | timeout => exact keeps_pure fun w _ _ => ⟨nofun, fun _ => rfl⟩

theorem abandon_hangup : Keeps I Excused (abandon plan .callerHangup)
    fun o w => o = .abandoned ∧ Excused w :=
  ((abandon_keeps hI .callerHangup).keep stable_excused).weaken (fun _ _ h => ⟨h, h⟩)
    fun _ _ _ h => ⟨h.1.1 rfl, h.2⟩

theorem timeOut_keeps (hr : reason ≠ .callerHangup) :
    Keeps I P (timeOut plan reason) fun o _ => o = .timeout reason := by
  apply (calmly_ask hI rfl).then
  intro _
  exact (abandon_keeps hI reason).weaken (fun _ _ => id) fun _ _ _ h => h.2 hr

theorem connectAgent_keeps (agentId : JsString) (leg : LegId) (waitMs : Int) :
    Keeps I P (k.connectAgent plan agentId leg waitMs) fun o w =>
      o = .failed ∨ (o = .answered agentId waitMs ∧ Connected w) := by
  apply (calmly_updateSession hI _).then
  intro _
  apply (keeps_tell hI rfl).then
  intro _
  apply (releaseAll_calmly hI none).then
  intro _
  apply (calmly_publish hI rfl).then
  intro _
  apply (bridgeWith_keeps hI leg).bind
  intro result
  apply Keeps.ite
  · exact fun hr => keeps_pure fun w _ h => .inr ⟨rfl, h.bridged hr⟩
  · intro _
    apply (keeps_tell hI rfl).then
    exact fun _ => keeps_pure fun w _ _ => .inl rfl

theorem answered_keeps (agentId : JsString) (leg : LegId) :
    Keeps I P (k.answered plan agentId leg) fun o w =>
      o = .failed ∨ ∃ waitMs, o = .answered agentId waitMs ∧ Connected w := by
  apply (waitedMs_calmly hI).then
  intro waitMs
  apply (calmly_call hI rfl).then
  intro a
  apply Keeps.ite
  · intro _
    apply (connectAgent_keeps hI agentId leg waitMs).weaken (fun _ _ => id)
    rintro o w _ (h | h)
    · exact .inl h
    · exact .inr ⟨waitMs, h⟩
  · intro _
    apply (hangupQuietly_calmly hI leg _).then
    exact fun _ => keeps_pure fun w _ _ => .inl rfl

end calm

variable {n : Nat} {w : WalkWorld}

structure QueueEnd (n : Nat) (o : QueueOutcome) (w : WalkWorld) : Prop where
  hushed : Hushed n w
  excused : o = .abandoned ∨ o = .aborted → Excused w
  connected : ∀ agentId waitMs, o = .answered agentId waitMs → Connected w
  free : ∀ reason, o = .timeout reason → Free n w

/-- An offer leaves the caller waiting, or ends the wait other than by a timeout. -/
def Offered (n : Nat) (r : Option QueueOutcome) (w : WalkWorld) : Prop :=
  match r with
  | none => Free n w
  | some o => QueueEnd n o w ∧ ∀ reason, o ≠ .timeout reason

theorem offered_failed (h : Hushed n w) : Offered n (some .failed) w := by
  refine ⟨⟨h, ?_, ?_, ?_⟩, ?_⟩ <;> simp

theorem offered_abandoned (h : Hushed n w) (he : Excused w) : Offered n (some .abandoned) w := by
  refine ⟨⟨h, fun _ => he, ?_, ?_⟩, ?_⟩ <;> simp

theorem offered_answered {agentId : JsString} {waitMs : Int} (h : Hushed n w)
    (hc : Connected w) : Offered n (some (.answered agentId waitMs)) w := by
  refine ⟨⟨h, ?_, fun _ _ _ => hc, ?_⟩, ?_⟩ <;> simp

/-- The dial of an offer, as the offer reads it. -/
structure Dialed (n : Nat) (o : QueueDialOutcome) (w : WalkWorld) : Prop where
  aborted : o = .aborted → Hushed n w ∧ Excused w
  free : o ≠ .aborted → Free n w

theorem dialQueueAgents_sat (agents : List QueueCandidate) (fanOutAll : Bool) :
    Sat (Free n) (k.dialQueueAgents agents fanOutAll) (heeding n (Dialed n)) := by
  have hdial : ∀ d : Walk DialOutcome, Dials n False d →
      Sat (Free n) (do let outcome ← d; pure (queueOutcome agents outcome))
        (heeding n (Dialed n)) := by
    intro d hd
    apply hd.free.bind
    intro o
    apply sat_pure
    rintro w ⟨w₀, h⟩
    constructor
    · intro ho
      refine ⟨h.hushed, h.excused ?_⟩
      cases o with
      | aborted => rfl
      | _ => cases ho
    · intro ho
      apply h.free
      rintro rfl
      exact ho rfl
  unfold dialQueueAgents
  split
  · exact sat_pure fun w h => ⟨nofun, fun _ => h⟩
  · apply Sat.ite
    · exact fun _ => hdial _ (dialSimultaneous_dials _)
    · exact fun _ => hdial _ (dialOne_dials.weaken nofun)

theorem settleOffer_sat (o : QueueDialOutcome) :
    Sat (Dialed n o) (k.settleOffer plan o) (heeding n (Offered n)) := by
  have hagain : ∀ cause : Option HangupCause, Sat (Free n)
      (do k.releaseAll plan cause; startMusic plan; pure none) (heeding n (Offered n)) := by
    intro cause
    apply (releaseAll_calmly closed_free cause).free.bind
    intro _
    apply (startMusic_calmly closed_free).free.bind
    exact fun _ => sat_pure fun w h => h
  cases o with
  | answered agentId leg =>
    have hans : Sat (Free n) (k.answered plan agentId leg)
        (heeding n (fun o w => Offered n (some o) w)) := by
      apply (answered_keeps closed_free agentId leg).free.post _ (fun _ => id) fun _ => id
      rintro o w ⟨hf, rfl | ⟨waitMs, rfl, hc⟩⟩
      · exact offered_failed hf.hushed
      · exact offered_answered hf.hushed hc
    apply Sat.pre (hans.bind fun o => sat_pure fun w h => h)
    exact fun w h => h.free (by simp)
  | aborted =>
    have hrun : Keeps (Hushed n) Excused (k.settleOffer plan .aborted)
        fun r w => r = some .abandoned ∧ Excused w := by
      apply ((releaseAll_calmly closed_hushed none).keep stable_excused).bind
      intro _
      apply (abandon_hangup closed_hushed).bind
      intro o
      exact keeps_pure fun w _ h => ⟨congrArg some h.1, h.2⟩
    intro w h
    obtain ⟨hh, he⟩ := h.aborted rfl
    apply (hrun w).post _ (fun _ h => h.1) (fun _ h => h.1.stalled) w ⟨rfl, hh, he⟩
    rintro r w' ⟨hh', -, rfl, he'⟩
    exact offered_abandoned hh' he'
  | failed agentId cause => exact (hagain (some cause)).pre fun w h => h.free (by simp)
  | timeout => exact (hagain (some .noAnswer)).pre fun w h => h.free (by simp)

theorem offerTo_sat (candidates : List QueueCandidate) :
    Sat (Free n) (k.offerTo plan candidates) (heeding n (Offered n)) := by
  apply (reserveAll_calmly closed_free candidates).free.bind
  intro reserved
  apply Sat.ite
  · intro _
    apply (calmly_ask closed_free rfl).free.bind
    exact fun _ => sat_pure fun w h => h
  · intro _
    apply (calmly_ask closed_free rfl).free.bind
    intro _
    apply (dialQueueAgents_sat reserved _).bind
    exact settleOffer_sat

theorem hushed_of_calmly {m : Walk Unit} (h : Calmly (Hushed n) m) :
    Sat (Hushed n) m (heeding n (fun _ => Hushed n)) := by
  intro w hw
  apply (h w).post _ (fun _ h => h.1) (fun _ h => h.1.stalled) w ⟨rfl, hw, trivial⟩
  exact fun _ w' h => h.1

theorem Offered.calmly {m : Walk Unit} (hf : Calmly (Free n) m) (hh : Calmly (Hushed n) m)
    (r : Option QueueOutcome) : Sat (Offered n r) m (heeding n (fun _ => Offered n r)) := by
  cases r with
  | none => exact hf.free
  | some o =>
    rintro w ⟨h, hne⟩
    apply (hh w).post _ (fun _ hw => hw.1) (fun _ hw => hw.1.stalled) w ⟨rfl, h.hushed, trivial⟩
    rintro _ w' ⟨hw, hg, -⟩
    refine ⟨⟨hw, fun ho => hg.excused (h.excused ho), ?_, ?_⟩, hne⟩
    · exact fun agentId waitMs ho => stable_connected w w' hg (h.connected agentId waitMs ho)
    · exact fun reason ho => absurd ho (hne reason)

theorem offer_sat (candidates : List QueueCandidate) :
    Sat (Free n) (k.offer plan candidates) (heeding n (Offered n)) := by
  apply (calmly_updateSession closed_free _).free.bind
  intro _
  have htry : Sat (Free n) (Async.attempt (k.offerTo plan candidates))
      (heeding n _) := (offerTo_sat candidates).attempt
  apply htry.bind
  intro r
  cases r with
  | none =>
    have hrelease : Calmly (Hushed n) (k.releaseAll plan none) := releaseAll_calmly closed_hushed none
    apply Sat.pre ((hushed_of_calmly hrelease).bind fun _ => Async.sat_throw fun w h => h)
    exact fun w h => h.2 rfl
  | some r =>
    apply Sat.pre ((Offered.calmly (releaseAll_calmly closed_free none)
      (releaseAll_calmly closed_hushed none) r).bind fun _ => sat_pure fun w h => h)
    exact fun w h => h.1 r rfl

theorem deadlineReached_ne {waited : Int} {membership : QueueMembership}
    {states : Dict JsString AgentStateEntry}
    (h : deadlineReached plan waited membership states = some reason) : reason ≠ .callerHangup := by
  unfold deadlineReached at h
  split at h
  · cases h
    simp
  · split at h
    · cases h
      simp
    · cases h

abbrev Turned (n : Nat) : Unit ⊕ QueueOutcome → WalkWorld → Prop :=
  Sum.elim (fun _ => Free n) (QueueEnd n)

theorem distribute_sat (waited : Int) :
    Sat (Free n) (k.distribute plan waited) (heeding n (Turned n)) := by
  apply (nextCandidates_calmly closed_free waited).free.bind
  intro candidates
  apply Sat.ite
  · intro _
    apply (announceIfDue_calmly closed_free).free.bind
    intro _
    apply (calmly_ask closed_free rfl).free.bind
    exact fun _ => sat_pure fun w h => h
  · intro _
    apply (offer_sat candidates).bind
    intro r
    cases r with
    | none => exact sat_pure fun w h => h
    | some o => exact sat_pure fun w h => h.1

theorem hangup_turn : Keeps (Free n) Excused
    (do let outcome ← abandon plan .callerHangup; pure (Sum.inr outcome : Unit ⊕ QueueOutcome))
    (Turned n) := by
  apply (abandon_hangup closed_free).bind
  intro o
  apply keeps_pure
  rintro w hf ⟨rfl, he⟩
  exact (offered_abandoned hf.hushed he).1

theorem timeOut_turn (hr : reason ≠ .callerHangup) : Keeps (Free n) (fun _ => True)
      (do let outcome ← timeOut plan reason; pure (Sum.inr outcome : Unit ⊕ QueueOutcome))
      (Turned n) := by
  apply (timeOut_keeps closed_free hr).bind
  intro o
  apply keeps_pure
  rintro w hf rfl
  refine ⟨hf.hushed, ?_, ?_, fun _ _ => hf⟩ <;> simp

theorem queueTurn_sat : Sat (Free n) (k.queueTurn plan ()) (heeding n (Turned n)) := by
  have hcaller : Sat (Free n) Walk.caller
      (heeding n (fun c w => c = w.state.caller ∧ Free n w)) := sat_caller
  apply hcaller.bind
  intro c
  apply Sat.ite
  · rintro hc w ⟨heq, hf⟩
    apply (hangup_turn w).post _ (fun _ h => h.1.hushed) (fun _ h => h.1.stalled) w
      ⟨rfl, hf, excused_of_tearingDown heq hc⟩
    exact fun _ _ h => h.2.2
  · intro _
    apply Sat.pre _ fun w h => h.2
    apply (waitedMs_calmly closed_free).free.bind
    intro waited
    apply (calmly_call closed_free rfl).free.bind
    intro m
    split
    · exact sat_pure fun w h => (offered_failed h.hushed).1
    · apply (calmly_call closed_free rfl).free.bind
      intro a
      split
      · rename_i hr
        exact (timeOut_turn (deadlineReached_ne hr)).free.post (fun _ _ h => h.2) (fun _ => id)
          fun _ => id
      · exact distribute_sat waited

theorem waitInQueue_sat : Sat (Free n) (k.waitInQueue plan) (heeding n (QueueEnd n)) := by
  apply (playPrompt_calmly closed_free _).free.bind
  intro _
  apply (startMusic_calmly closed_free).free.bind
  intro _
  exact .loop (I := fun _ => Free n) (fun _ w h => h.stalled) (fun _ => queueTurn_sat) ()

theorem QueueEnd.left {o : QueueOutcome} (h : QueueEnd n o w) :
    QueueEnd n o (sent w (.leaveQueue plan.queueId)) where
  hushed := closed_hushed.sent w _ rfl h.hushed
  excused ho := (grows_sent w _).excused (h.excused ho)
  connected agentId waitMs ho := stable_connected w _ (grows_sent w _) (h.connected agentId waitMs ho)
  free reason ho := closed_free.sent w _ rfl (h.free reason ho)

theorem runQueue_sat : Sat (Free n) (k.runQueue plan) (heeding n (QueueEnd n)) := by
  apply (ensureAnswered_keeps closed_free).free.bind
  intro up
  apply Sat.ite
  · intro hdown
    apply sat_pure
    rintro w ⟨hf, he⟩
    refine ⟨hf.hushed, fun _ => he (by simpa using hdown), ?_, ?_⟩ <;> simp
  · intro _
    apply Sat.pre _ fun w h => h.1
    apply (nowMs_calmly closed_free).free.bind
    intro now
    apply (calmly_ask closed_free rfl).free.bind
    intro p
    apply (calmly_updateSession closed_free _).free.bind
    intro _
    apply (calmly_publish closed_free rfl).free.bind
    intro _
    have htry : Sat (Free n) (Async.attempt (k.waitInQueue plan))
        (heeding n _) := waitInQueue_sat.attempt
    apply htry.bind
    intro r
    rintro w ⟨hsome, hnone⟩
    -- a wait that threw counts as failed
    have hend : QueueEnd n (r.getD .failed) w := by
      cases r with
      | none => exact (offered_failed (hnone rfl)).1
      | some o => exact hsome o rfl
    exact hend.left

theorem queueNode_behaves : Behaves n (k.queueNode plan) := by
  apply Behaves.ite
  · exact fun _ => (unavailable_keeps closed_free _).behaves
  · intro _
    apply runQueue_sat.bind
    intro o
    apply sat_pure
    intro w h
    cases o with
    | answered agentId waitMs =>
      exact h.hushed.verdict (accounted_bridged (h.connected agentId waitMs rfl)) nofun
    | timeout reason => exact (h.free reason rfl).verdict (accounted_branch _ _ w)
    | abandoned =>
      exact h.hushed.verdict (accounted_aborted (h.excused (.inl rfl))) nofun
    | aborted =>
      exact h.hushed.verdict (accounted_aborted (h.excused (.inr rfl))) nofun
    | failed => exact h.hushed.verdict (accounted_hangup _ w) nofun

end OptimiqVoice.Engine.PlanWalker

import OptimiqVoice.Engine.Nodes
import OptimiqVoice.Engine.TrunkOrder

namespace OptimiqVoice.Engine

open Lib Telephony Routing
open Async (Adds Says Tame adds_pure says_pure says_tell tame_pure tame_tell)

namespace Request

def isReserve : Request → Bool
  | .reserveTrunk _ _ => true
  | _ => false

/-- What a node asks for before it dials. -/
def isPreparatory : Request → Bool
  | .random | .verb .ringing | .moveTo _ | .publish _ => true
  | _ => false

end Request

def refusal : Moment Request Reply → Option (Moment Request Reply) → Bool
  | .sent q, some (.got a) => q.isReserve && !a.granted
  | _, _ => false

def refused : WalkLog → Bool
  | [] => false
  | m :: rest => refusal m rest.head? || refused rest

/-- Everything but the asking for a channel. -/
structure Unreserved (q : Request) : Prop where
  reserve : q.isReserve = false

structure Preparatory (q : Request) : Prop where
  preparatory : q.isPreparatory = true

variable {q : Request}

theorem Preparatory.unreserved (h : Preparatory q) : Unreserved q := by
  refine ⟨?_⟩
  have hq := h.preparatory
  cases q <;> first | rfl | exact nomatch hq

section log

variable {front back : WalkLog}

theorem refusal_of_unreserved (h : Unreserved q) (next : Option (Moment Request Reply)) :
    refusal (.sent q) next = false := by
  cases next with
  | none => rfl
  | some m => cases m <;> simp [refusal, h.reserve]

theorem refused_append (back : WalkLog) (h : ∀ q, .sent q ∈ front → Unreserved q) : refused (front ++ back) = refused back := by
  induction front with
  | nil => rfl
  | cons m rest ih =>
    have hm : refusal m (rest ++ back).head? = false := by
      cases m with
      | sent q => exact refusal_of_unreserved (h q (.head _)) _
      | got a => rfl
    rw [List.cons_append, refused, hm, ih fun q hq => h q (.tail _ hq), Bool.false_or]

theorem refused_of_unreserved (h : ∀ q, .sent q ∈ front → Unreserved q) : refused front = false := by
  have := refused_append [] h
  rwa [List.append_nil] at this

end log

/-- Nobody answered, for a cause that may let the next one be tried. -/
def DialOutcome.hasFailed : DialOutcome → Bool
  | .failed _ _ | .timeout => true
  | .answered _ _ | .aborted => false

namespace PlanWalker

variable {k : PlanWalker} {plan : TrunkDialPlan} {input : WalkInput} {number : JsString}

section unreserved

theorem tame_asked {S : Request → Prop} (hq : S q) : Tame S (Walk.ask q) := Async.tame_ask hq

theorem tame_tells {S : Request → Prop} {l : List Request} (h : ∀ q ∈ l, S q) : Tame S (Async.each Walk.tell l) :=
  Tame.each fun q hq => tame_tell (h q hq)

theorem hear_unreserved {leg : LegId} {attempt : DialAttempt} {index : Nat} {watching : Bool} {d : OneDial}
    {e : Event} (h : q ∈ (d.hear leg attempt index watching e).2) : Unreserved q := by
  unfold OneDial.hear at h
  split at h <;> (try split at h) <;> simp at h
  rw [h]
  exact ⟨rfl⟩

theorem waitForOne_tame {leg : LegId} {attempt : DialAttempt} {index : Nat} {watching : Bool} (d : OneDial) :
    Tame Unreserved (waitForOne leg attempt index watching d) := by
  unfold waitForOne
  split
  · exact tame_pure
  · apply (tame_asked ⟨rfl⟩).bind
    intro a
    split
    · exact tame_pure
    · exact (tame_tells fun q hq => hear_unreserved hq).bind fun _ => tame_pure

theorem hangupQuietly_tame (leg : LegId) (cause : HangupCause) : Tame Unreserved (hangupQuietly leg cause) :=
  (tame_asked ⟨rfl⟩).bind fun _ => tame_pure

theorem closeDial_tame (leg : LegId) (outcome : DialOutcome) : Tame Unreserved (closeDial leg outcome) := by
  cases outcome with
  | answered winner index => exact tame_pure
  | failed _ _ | timeout | aborted => exact (hangupQuietly_tame leg _).bind fun _ => tame_pure

theorem dialOne_tame (attempt : DialAttempt) (index : Nat) (watching : Bool) (hc : attempt.confirm = none) :
    Tame Unreserved (k.dialOne attempt index watching) := by
  apply Tame.bind (m := Walk.newId)
  · exact Async.tame_get fun _ => Async.tame_modify.bind fun _ => tame_pure
  · intro leg
    apply Tame.bind (m := Walk.destination)
    · exact Async.tame_get fun _ => tame_pure
    · intro destination
      apply Tame.bind (m := Walk.tell (placing k.wiring.legs destination leg attempt).2)
      · apply tame_tell
        unfold placing
        split <;> exact ⟨rfl⟩
      · intro _
        apply (Tame.loop waitForOne_tame _).bind
        intro outcome
        apply Tame.bind _ (closeDial_tame leg)
        unfold confirmed
        rw [hc]
        split <;> exact tame_pure

theorem ensureAnswered_unreserved : Says Unreserved k.ensureAnswered := by
  apply says_caller.bind
  intro c
  apply Says.ite says_pure
  apply Says.ite says_pure
  apply Says.bind (says_asked ⟨rfl⟩)
  intro a
  apply Says.ite says_pure
  apply Says.bind (says_asked ⟨rfl⟩)
  intro b
  exact says_caller.bind fun _ => says_pure

theorem joinBridge_unreserved (bridgeId : BridgeId) (peer : Option LegId) :
    Says Unreserved (joinBridge bridgeId peer) := by
  apply Says.bind (says_asked ⟨rfl⟩)
  intro a
  exact .ite says_pure (Says.bind (says_asked ⟨rfl⟩) fun _ => says_pure)

theorem bridgeWith_unreserved (peer : LegId) : Says Unreserved (k.bridgeWith peer) := by
  apply ensureAnswered_unreserved.bind
  intro answered
  apply Says.ite
  · exact (hangupQuietly_tame peer _).speaks.bind fun _ => says_pure
  · apply says_newId.bind
    intro bridgeId
    apply Says.bind
    · exact .ite (Says.bind (says_asked ⟨rfl⟩) fun _ => says_pure) says_pure
    · intro _
      apply (joinBridge_unreserved bridgeId (some peer)).bind
      intro joined
      apply Says.ite
      · exact (hangupQuietly_tame peer _).speaks.bind fun _ => says_pure
      · apply Says.bind (says_tell ⟨rfl⟩)
        intro _
        apply Says.bind (says_tell ⟨rfl⟩)
        intro _
        apply Says.bind (says_tell ⟨rfl⟩)
        intro _
        apply Says.bind
        · exact (says_call ⟨rfl⟩).bind fun _ => says_pure
        · exact fun _ => .bind (says_tell ⟨rfl⟩) fun _ => says_pure

end unreserved

section offers

variable (k plan input number)

/-- The call is offered to the trunks, in their order and to each of them, until
one answers, one fails with a cause that ends the search, or the caller is gone.
A trunk with a ceiling gives a channel before it is dialled. -/
inductive TrunksOffered : List TrunkAttempt → WalkWorld → Exit StepResult × WalkWorld → Prop where
  | ended {w : WalkWorld} {e : Exit StepResult} : TrunksOffered [] w (e, w)
  | gone {trunk rest w} (h : w.state.caller.isTearingDown = true) : TrunksOffered (trunk :: rest) w (.done .aborted, w)
  | reserving {trunk rest w w'} (hr : k.reserveTrunk trunk w = (.cut, w')) : TrunksOffered (trunk :: rest) w (.cut, w')
  | dialling {trunk rest w w' w''} (hr : k.reserveTrunk trunk w = (.done true, w'))
      (hd : k.dialOne (k.trunkAttempt plan input number trunk) 0 false w' = (.cut, w'')) :
      TrunksOffered (trunk :: rest) w (.cut, w'')
  | answered {trunk rest w w' w'' leg index} (hr : k.reserveTrunk trunk w = (.done true, w'))
      (hd : k.dialOne (k.trunkAttempt plan input number trunk) 0 false w' = (.done (.answered leg index), w'')) :
      TrunksOffered (trunk :: rest) w ((do Walk.tell (.bindTrunk trunk.trunkId leg); k.bridgeWith leg) w'')
  | aborted {trunk rest w w' w''} (hr : k.reserveTrunk trunk w = (.done true, w'))
      (hd : k.dialOne (k.trunkAttempt plan input number trunk) 0 false w' = (.done .aborted, w'')) :
      TrunksOffered (trunk :: rest) w ((do Walk.tell (.releaseTrunk trunk.trunkId); pure StepResult.aborted) w'')
  | stopped {trunk rest w w' w'' outcome} (hr : k.reserveTrunk trunk w = (.done true, w'))
      (hd : k.dialOne (k.trunkAttempt plan input number trunk) 0 false w' = (.done outcome, w''))
      (hf : outcome.hasFailed = true) (hc : failureCause outcome ∉ continueOn plan) :
      TrunksOffered (trunk :: rest) w ((do
        Walk.tell (.releaseTrunk trunk.trunkId)
        pure (branch plan.failoverNodeId (failureCause outcome))) w'')
  | next {trunk rest w w' w'' outcome r} (hr : k.reserveTrunk trunk w = (.done true, w'))
      (hd : k.dialOne (k.trunkAttempt plan input number trunk) 0 false w' = (.done outcome, w''))
      (hf : outcome.hasFailed = true) (hc : failureCause outcome ∈ continueOn plan)
      (h : TrunksOffered rest (Walk.tell (.releaseTrunk trunk.trunkId) w'').2 r) : TrunksOffered (trunk :: rest) w r

variable {k plan input number} {trunk : TrunkAttempt} {rest : List TrunkAttempt} {w w' w'' : WalkWorld}
variable {r : Exit StepResult × WalkWorld}

/-- How the asking for a channel goes: it is given, refused, or not answered yet. -/
inductive Reservation : Exit Bool → WalkLog → Prop where
  | given {more} (h : ∀ back, refused (more ++ back) = refused back) : Reservation (.done true) more
  | refused {more} (h : ∀ back, refused (more ++ back) = true) : Reservation (.done false) more
  | waiting {more} (h : refused more = false) : Reservation .cut more

theorem reserveTrunk_adds (trunk : TrunkAttempt) : Adds (k.reserveTrunk trunk) Reservation := by
  unfold reserveTrunk
  split
  · exact adds_pure (.given fun _ => rfl)
  · apply Adds.ite
    · intro _
      apply asked_adds (T := fun a e back => e = .done a.granted ∧ back = [])
      · exact fun a => adds_pure ⟨rfl, rfl⟩
      · exact .waiting rfl
      · rintro a e back ⟨rfl, rfl⟩
        cases ha : a.granted with
        | true => exact .given fun back => by simp [refused, refusal, ha]
        | false => exact .refused fun back => by simp [refused, refusal, ha, Request.isReserve]
    · exact fun _ => adds_pure (.given fun _ => rfl)

theorem told_unreserved (hq : Unreserved q) {m : Walk StepResult} (hm : Says Unreserved m) :
    Says Unreserved (do Walk.tell q; m) :=
  Says.bind (says_tell hq) fun _ => hm

theorem reserved_log (hr : k.reserveTrunk trunk w = (.done true, w')) :
    ∃ front, w'.log = w.log ++ front ∧ ∀ back, refused (front ++ back) = refused back := by
  obtain ⟨front, hfront, hres⟩ := reserveTrunk_adds (k := k) trunk w
  rw [hr] at hfront hres
  cases hres with
  | given h => exact ⟨front, hfront, h⟩

theorem dialled_log (r : Exit StepResult × WalkWorld) (back : WalkLog) {e : Exit DialOutcome}
    (hr : k.reserveTrunk trunk w = (.done true, w'))
    (hd : k.dialOne (k.trunkAttempt plan input number trunk) 0 false w' = (e, w''))
    (hlog : r.2.log = w''.log ++ back) : ∃ more, r.2.log = w.log ++ more ∧ refused more = refused back := by
  obtain ⟨front, hfront, h⟩ := reserved_log hr
  obtain ⟨mid, hmid, -, hq⟩ := dialOne_tame (k := k) (k.trunkAttempt plan input number trunk) 0 false rfl w'
  rw [hd] at hmid
  refine ⟨front ++ (mid ++ back), ?_, by rw [h, refused_append _ hq]⟩
  rw [hlog, hmid, hfront, List.append_assoc, List.append_assoc]

attribute [local simp] Async.tell Walk.tell

theorem TrunksOffered.unrefused {trunks : List TrunkAttempt} (h : TrunksOffered k plan input number trunks w r) :
    ∃ more, r.2.log = w.log ++ more ∧ refused more = false := by
  induction h with
  | ended | gone _ => exact ⟨[], (List.append_nil _).symm, rfl⟩
  | @reserving trunk _ w w' hr =>
    obtain ⟨front, hfront, hres⟩ := reserveTrunk_adds (k := k) trunk w
    rw [hr] at hfront hres
    cases hres with
    | waiting h => exact ⟨front, hfront, h⟩
  | dialling hr hd => exact dialled_log (.cut, _) [] hr hd (List.append_nil _).symm
  | @answered trunk _ w w' w'' leg index hr hd =>
    obtain ⟨back, hback, hq⟩ := told_unreserved (q := .bindTrunk trunk.trunkId leg) ⟨rfl⟩
      (bridgeWith_unreserved (k := k) leg) w''
    obtain ⟨more, hlog, he⟩ := dialled_log _ back hr hd hback
    exact ⟨more, hlog, he.trans (refused_of_unreserved hq)⟩
  | @aborted trunk _ w w' w'' hr hd =>
    obtain ⟨back, hback, hq⟩ := told_unreserved (q := .releaseTrunk trunk.trunkId) ⟨rfl⟩
      (says_pure (a := StepResult.aborted)) w''
    obtain ⟨more, hlog, he⟩ := dialled_log _ back hr hd hback
    exact ⟨more, hlog, he.trans (refused_of_unreserved hq)⟩
  | @stopped trunk _ w w' w'' outcome hr hd _ _ =>
    obtain ⟨back, hback, hq⟩ := told_unreserved (q := .releaseTrunk trunk.trunkId) ⟨rfl⟩
      (says_pure (a := branch plan.failoverNodeId (failureCause outcome))) w''
    obtain ⟨more, hlog, he⟩ := dialled_log _ back hr hd hback
    exact ⟨more, hlog, he.trans (refused_of_unreserved hq)⟩
  | @next trunk _ w w' w'' outcome r hr hd _ _ _ ih =>
    obtain ⟨back, hback, hb⟩ := ih
    have htold : r.2.log = w''.log ++ .sent (.releaseTrunk trunk.trunkId) :: back := by
      rw [hback]
      simp
    obtain ⟨more, hlog, he⟩ := dialled_log _ _ hr hd htold
    refine ⟨more, hlog, he.trans ?_⟩
    rw [refused, refusal_of_unreserved ⟨rfl⟩, Bool.false_or, hb]

attribute [local simp] Walk.caller trunkChain Async.get pure bind

section turn

variable {outcome : DialOutcome} {last : HangupCause} (hgone : w.state.caller.isTearingDown = false)
variable (hr : k.reserveTrunk trunk w = (.done true, w'))
variable (hd : k.dialOne (k.trunkAttempt plan input number trunk) 0 false w' = (.done outcome, w''))
include hgone hr hd

theorem trunkChain_of_next (hf : outcome.hasFailed = true) (hc : failureCause outcome ∈ continueOn plan) :
    k.trunkChain plan input number last (trunk :: rest) w =
      k.trunkChain plan input number (failureCause outcome) rest (Walk.tell (.releaseTrunk trunk.trunkId) w'').2 := by
  cases outcome with
  | answered _ _ | aborted => exact nomatch hf
  | failed _ _ | timeout =>
    simp [hgone, hr, hd, hc]

theorem trunkChain_of_stopped (hf : outcome.hasFailed = true) (hc : failureCause outcome ∉ continueOn plan) :
    k.trunkChain plan input number last (trunk :: rest) w = (do
      Walk.tell (.releaseTrunk trunk.trunkId)
      pure (branch plan.failoverNodeId (failureCause outcome))) w'' := by
  cases outcome with
  | answered _ _ | aborted => exact nomatch hf
  | failed _ _ | timeout =>
    simp [hgone, hr, hd, hc]

theorem trunkChain_offered_given
    (ih : ∀ last w, ∃ more, (k.trunkChain plan input number last rest w).2.log = w.log ++ more ∧
      (refused more = false → TrunksOffered k plan input number rest w (k.trunkChain plan input number last rest w))) :
    ∃ more, (k.trunkChain plan input number last (trunk :: rest) w).2.log = w.log ++ more ∧
      (refused more = false →
        TrunksOffered k plan input number (trunk :: rest) w (k.trunkChain plan input number last (trunk :: rest) w)) := by
  by_cases hf : outcome.hasFailed = true
  · by_cases hc : failureCause outcome ∈ continueOn plan
    · rw [trunkChain_of_next hgone hr hd hf hc]
      obtain ⟨back, hback, hoff⟩ := ih (failureCause outcome) (Walk.tell (.releaseTrunk trunk.trunkId) w'').2
      obtain ⟨more, hlog, he⟩ := dialled_log
        (k.trunkChain plan input number (failureCause outcome) rest (Walk.tell (.releaseTrunk trunk.trunkId) w'').2)
        (.sent (.releaseTrunk trunk.trunkId) :: back) hr hd (by rw [hback]; simp)
      rw [refused, refusal_of_unreserved ⟨rfl⟩, Bool.false_or] at he
      exact ⟨more, hlog, fun h => .next hr hd hf hc (hoff (he.symm.trans h))⟩
    · have hoff : TrunksOffered k plan input number (trunk :: rest) w
          (k.trunkChain plan input number last (trunk :: rest) w) := by
        rw [trunkChain_of_stopped hgone hr hd hf hc]
        exact .stopped hr hd hf hc
      obtain ⟨more, hlog, -⟩ := hoff.unrefused
      exact ⟨more, hlog, fun _ => hoff⟩
  · have hoff : TrunksOffered k plan input number (trunk :: rest) w
        (k.trunkChain plan input number last (trunk :: rest) w) := by
      cases outcome with
      | answered leg index =>
        have hrun : k.trunkChain plan input number last (trunk :: rest) w =
            (do Walk.tell (.bindTrunk trunk.trunkId leg); k.bridgeWith leg) w'' := by
          simp [hgone, hr, hd]
        rw [hrun]
        exact .answered hr hd
      | aborted =>
        have hrun : k.trunkChain plan input number last (trunk :: rest) w =
            (do Walk.tell (.releaseTrunk trunk.trunkId); pure StepResult.aborted) w'' := by
          simp [hgone, hr, hd]
        rw [hrun]
        exact .aborted hr hd
      | failed _ _ | timeout => exact absurd rfl hf
    obtain ⟨more, hlog, -⟩ := hoff.unrefused
    exact ⟨more, hlog, fun _ => hoff⟩

end turn

theorem trunkChain_offered (last : HangupCause) (trunks : List TrunkAttempt) (w : WalkWorld) :
    ∃ more, (k.trunkChain plan input number last trunks w).2.log = w.log ++ more ∧
      (refused more = false → TrunksOffered k plan input number trunks w (k.trunkChain plan input number last trunks w)) := by
  induction trunks generalizing last w with
  | nil => exact ⟨[], (List.append_nil _).symm, fun _ => .ended⟩
  | cons trunk rest ih =>
    cases hgone : w.state.caller.isTearingDown with
    | true =>
      have hrun : k.trunkChain plan input number last (trunk :: rest) w = (.done .aborted, w) := by
        simp [hgone]
      rw [hrun]
      exact ⟨[], (List.append_nil _).symm, fun _ => .gone hgone⟩
    | false =>
      obtain ⟨front, hfront, hres⟩ := reserveTrunk_adds (k := k) trunk w
      obtain ⟨e, w', hr⟩ : ∃ e w', k.reserveTrunk trunk w = (e, w') := ⟨_, _, rfl⟩
      rw [hr] at hfront hres
      cases hres with
      | refused h =>
        have hrun : k.trunkChain plan input number last (trunk :: rest) w =
            k.trunkChain plan input number .switchCongestion rest w' := by
          simp [hgone, hr]
        obtain ⟨back, hback, -⟩ := ih .switchCongestion w'
        refine ⟨front ++ back, ?_, fun hb => absurd ((h back).symm.trans hb) (by decide)⟩
        rw [hrun, hback, hfront, List.append_assoc]
      | waiting h =>
        have hrun : k.trunkChain plan input number last (trunk :: rest) w = (.cut, w') := by
          simp [hgone, hr]
        rw [hrun]
        exact ⟨front, hfront, fun _ => .reserving hr⟩
      | given h =>
        obtain ⟨mid, -, hcalm, -⟩ :=
          dialOne_tame (k := k) (k.trunkAttempt plan input number trunk) 0 false rfl w'
        obtain ⟨e, w'', hd⟩ :
            ∃ e w'', k.dialOne (k.trunkAttempt plan input number trunk) 0 false w' = (e, w'') := ⟨_, _, rfl⟩
        rw [hd] at hcalm
        cases e with
        | thrown => exact absurd rfl hcalm
        | cut =>
          have hrun : k.trunkChain plan input number last (trunk :: rest) w = (.cut, w'') := by
            simp [hgone, hr, hd]
          have hoff : TrunksOffered k plan input number (trunk :: rest) w (.cut, w'') := .dialling hr hd
          rw [hrun]
          obtain ⟨more, hlog, -⟩ := hoff.unrefused
          exact ⟨more, hlog, fun _ => hoff⟩
        | done outcome => exact trunkChain_offered_given hgone hr hd ih

end offers

section node

/-- The walk only got ready between the two. -/
def Prepares (w w' : WalkWorld) : Prop :=
  ∃ more, w'.log = w.log ++ more ∧ ∀ q, .sent q ∈ more → Preparatory q

theorem Prepares.trans {w w' w'' : WalkWorld} (h : Prepares w w') (h' : Prepares w' w'') : Prepares w w'' := by
  obtain ⟨front, hfront, hf⟩ := h
  obtain ⟨back, hback, hb⟩ := h'
  exact ⟨front ++ back, by rw [hback, hfront, List.append_assoc], Async.sent_append hf hb⟩

theorem Prepares.of_tame {α : Type} {m : Walk α} {w w' : WalkWorld} {e : Exit α} (h : Tame Preparatory m)
    (hm : m w = (e, w')) : Prepares w w' := by
  obtain ⟨more, hlog, -, hq⟩ := h w
  rw [hm] at hlog
  exact ⟨more, hlog, hq⟩

theorem orderTrunkAttempts_tame (attempts : List TrunkAttempt) : Tame Preparatory (orderTrunkAttempts attempts) :=
  (orderTrunkAttempts_adds attempts).mono fun _ _ h => ⟨h.thrown, fun q hq => h.random q hq ▸ ⟨rfl⟩⟩

theorem startRinging_tame : Tame Preparatory startRinging :=
  Tame.bind (tame_asked ⟨rfl⟩) fun _ => tame_tell ⟨rfl⟩

theorem notifyEmergency_tame (name : Option JsString) : Tame Preparatory (notifyEmergency plan input number name) :=
  Tame.ite (Tame.bind (tame_asked ⟨rfl⟩) fun _ => tame_pure) tame_pure

variable (k plan input)

/-- What a trunk node owes a call: the trunks in the order of their tiers, and the
number to each of them in its turn. -/
inductive Served (w : WalkWorld) : Exit StepResult × WalkWorld → Prop where
  | nobody {r} (h : plan.attempts = []) : Served w r
  | preparing {w'} (h : Prepares w w') : Served w (.cut, w')
  | offered {number ordered w' r} (hn : input.dialedNumber = some number) (hne : number ≠ [])
      (ho : InTiers plan.attempts ordered) (hp : Prepares w w') (h : TrunksOffered k plan input number ordered w' r) :
      Served w r

def dialable : Bool := input.dialedNumber.any (!·.isEmpty)

variable {k plan input} {w w' : WalkWorld} {r : Exit StepResult × WalkWorld}

theorem Served.unrefused (h : Served k plan input w r) (hsome : plan.attempts ≠ []) :
    ∃ more, r.2.log = w.log ++ more ∧ refused more = false := by
  cases h with
  | nobody h => exact absurd h hsome
  | preparing h =>
    obtain ⟨more, hlog, hq⟩ := h
    exact ⟨more, hlog, refused_of_unreserved fun q hm => (hq q hm).unreserved⟩
  | offered _ _ _ hp h =>
    obtain ⟨front, hfront, hq⟩ := hp
    obtain ⟨back, hback, hb⟩ := h.unrefused
    refine ⟨front ++ back, by rw [hback, hfront, List.append_assoc], ?_⟩
    rw [refused_append _ fun q hm => (hq q hm).unreserved, hb]

variable (k plan input) in
def ServedUnlessRefused (w : WalkWorld) (r : Exit StepResult × WalkWorld) : Prop :=
  ∃ more, r.2.log = w.log ++ more ∧ (refused more = false → Served k plan input w r)

theorem Prepares.cut (hp : Prepares w w') : ServedUnlessRefused k plan input w (.cut, w') := by
  have ⟨more, hlog, _⟩ := hp
  exact ⟨more, hlog, fun _ => .preparing hp⟩

theorem Prepares.bind {α : Type} {m : Walk α} {f : α → Walk StepResult} (hp : Prepares w w') (hm : Tame Preparatory m)
    (hf : ∀ a w'', Prepares w w'' → m w' = (.done a, w'') → ServedUnlessRefused k plan input w (f a w'')) :
    ServedUnlessRefused k plan input w ((m >>= f) w') := by
  obtain ⟨_, _, hcalm, _⟩ := hm w'
  obtain ⟨e, w'', hrun⟩ : ∃ e w'', m w' = (e, w'') := ⟨_, _, rfl⟩
  have hp' := hp.trans (.of_tame hm hrun)
  rw [hrun] at hcalm
  cases e with
  | thrown => exact absurd rfl hcalm
  | cut =>
    rw [Async.bind_of_cut hrun]
    exact hp'.cut
  | done a =>
    rw [Async.bind_of_done hrun]
    exact hf a w'' hp' hrun

theorem Prepares.chain {ordered : List TrunkAttempt} (hp : Prepares w w') (hn : input.dialedNumber = some number)
    (hne : number ≠ []) (ho : InTiers plan.attempts ordered) (last : HangupCause) :
    ServedUnlessRefused k plan input w (k.trunkChain plan input number last ordered w') := by
  have ⟨front, hfront, hq⟩ := hp
  obtain ⟨back, hback, h⟩ := trunkChain_offered (k := k) last ordered w'
  refine ⟨front ++ back, by rw [hback, hfront, List.append_assoc], ?_⟩
  rw [refused_append _ fun q hm => (hq q hm).unreserved]
  exact fun hb => .offered hn hne ho hp (h hb)

theorem trunkDialNode_served (hn : input.dialedNumber = some number) (hne : number ≠ []) (w : WalkWorld) :
    ServedUnlessRefused k plan input w (k.trunkDialNode plan input w) := by
  have hfilter : input.dialedNumber.filter (!·.isEmpty) = some number := by
    rw [hn]
    simp [hne]
  unfold trunkDialNode
  rw [hfilter]
  have hp : Prepares w w := ⟨[], (List.append_nil _).symm, nofun⟩
  apply hp.bind (orderTrunkAttempts_tame _)
  intro ordered w₁ hp₁ ho
  obtain ⟨_, _, hsampling⟩ := orderTrunkAttempts_adds plan.attempts w
  have htiers := hsampling.yields ordered (by rw [ho])
  by_cases hempty : ordered = []
  · have hnone : plan.attempts = [] := (hempty ▸ htiers.perm).symm.eq_nil
    have ⟨more, hlog, _⟩ := hp₁
    refine ⟨more, ?_, fun _ => .nobody hnone⟩
    rw [hempty]
    exact hlog
  · rw [if_neg (by simpa using hempty)]
    apply hp₁.bind startRinging_tame
    intro _ w₂ hp₂ _
    apply hp₂.bind (notifyEmergency_tame _)
    intro _ w₃ hp₃ _
    exact hp₃.chain hn hne htiers _

theorem trunkDialNode_of_not_dialable (h : dialable input = false) (w : WalkWorld) :
    k.trunkDialNode plan input w = (.done (branch plan.failoverNodeId .invalidNumberFormat), w) := by
  have hfilter : input.dialedNumber.filter (!·.isEmpty) = none := by
    unfold dialable at h
    cases hd : input.dialedNumber with
    | none => rfl
    | some number =>
      rw [hd] at h
      simpa using h
  unfold trunkDialNode
  rw [hfilter]
  rfl

theorem served_iff (hsome : plan.attempts ≠ []) (state : WalkState) (replies : List Reply) :
    Served k plan input ⟨state, replies, []⟩ (k.trunkDialNode plan input ⟨state, replies, []⟩) ↔
      dialable input = true ∧ refused (k.trunkDialNode plan input ⟨state, replies, []⟩).2.log = false := by
  cases hd : dialable input with
  | true =>
    obtain ⟨number, hn, hne⟩ : ∃ number, input.dialedNumber = some number ∧ number ≠ [] := by
      unfold dialable at hd
      cases hn : input.dialedNumber with
      | none => simp [hn] at hd
      | some number => exact ⟨number, rfl, by simpa [hn] using hd⟩
    have hserved : ServedUnlessRefused k plan input ⟨state, replies, []⟩ _ := trunkDialNode_served hn hne _
    obtain ⟨more, hlog, hserved⟩ := hserved
    rw [List.nil_append] at hlog
    rw [hlog]
    refine ⟨fun h => ⟨rfl, ?_⟩, fun h => hserved h.2⟩
    obtain ⟨more', hlog', hr⟩ := h.unrefused hsome
    obtain rfl : more = more' := hlog.symm.trans hlog'
    exact hr
  | false =>
    rw [trunkDialNode_of_not_dialable hd]
    refine iff_of_false ?_ (fun h => nomatch h.1)
    intro h
    cases h with
    | nobody h => exact hsome h
    | offered hn hne _ _ _ =>
      unfold dialable at hd
      rw [hn] at hd
      simp [hne] at hd

end node

end PlanWalker

end OptimiqVoice.Engine

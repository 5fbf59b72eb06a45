import OptimiqVoice.Engine.RaceRuns

namespace OptimiqVoice.Engine

open Lib Telephony Routing
open Async (Sat ends sat_pure)

/-- How a node leaves the walk. It goes on to a node, or hangs up, only as long
as it has not read that the walk is abandoned. -/
structure Verdict (n : Nat) (r : StepResult) (w : WalkWorld) : Prop where
  entered : entered w.log = n
  obeys : Obeys w.log
  quiet : Quiet w.log
  accounted : Accounted r w
  heeded : r ≠ .aborted → ¬Heeded w.log
  fresh : ∀ id, r = .goto id → Fresh n w.log

def Behaves (n : Nat) (m : Walk StepResult) : Prop :=
  Sat (Free n) m (ends (Verdict n) (Hushed n) (Stalled n))

variable {asks : Prop} {d : Walk DialOutcome}

section behaves

variable {α : Type} {n : Nat} {w₀ w : WalkWorld} {m m' : Walk StepResult}

variable {r : StepResult}

theorem Free.verdict (h : Free n w) (ha : Accounted r w) : Verdict n r w :=
  ⟨h.fresh.entered, h.fresh.obeys, h.quiet, ha, fun _ => h.fresh.heeded, fun _ _ => h.fresh⟩

theorem Hushed.verdict (h : Hushed n w) (ha : Accounted r w)
    (hr : ∀ id, r ≠ .goto id) : Verdict n r w :=
  ⟨h.entered, h.obeys, h.quiet, ha, fun _ => h.heeded, fun id heq => absurd heq (hr id)⟩

theorem Noted.verdict (h : Noted n w₀ w) : Verdict n .aborted w :=
  ⟨h.entered, h.obeys, h.quiet, accounted_aborted fun _ => h.gone, fun hne => absurd rfl hne,
    nofun⟩

theorem Hushed.stalled (h : Hushed n w) : Stalled n w := ⟨h.entered, h.obeys⟩

theorem Keeps.free {m : Walk α} {Q : α → WalkWorld → Prop}
    (h : Keeps (Free n) (fun _ => True) m Q) :
    Sat (Free n) m (heeding n (fun a w => Free n w ∧ Q a w)) := by
  intro w hw
  apply (h w).post _ (fun _ h => h.1.hushed) (fun _ h => h.1.stalled) w ⟨rfl, hw, trivial⟩
  exact fun _ w' h => ⟨h.1, h.2.2⟩

theorem Calmly.free {m : Walk α} (h : Calmly (Free n) m) :
    Sat (Free n) m (heeding n (fun _ => Free n)) :=
  (Keeps.free h).post (fun _ _ h => h.1) (fun _ => id) fun _ => id

theorem Keeps.behaves (h : Keeps (Free n) (fun _ => True) m Accounted) : Behaves n m :=
  h.free.post (fun _ _ h => h.1.verdict h.2) (fun _ => id) fun _ => id

theorem Calmly.behaves {m : Walk α} {f : α → Walk StepResult} (h : Calmly (Free n) m)
    (k : ∀ a, Behaves n (f a)) : Behaves n (m >>= f) :=
  h.free.bind k

theorem Behaves.ite {c : Prop} [Decidable c] (h : c → Behaves n m) (h' : ¬c → Behaves n m') :
    Behaves n (if c then m else m') :=
  Sat.ite h h'

theorem behaves_pure (h : ∀ w, Accounted r w) : Behaves n (pure r) :=
  sat_pure fun w hw => hw.verdict (h w)

theorem behaves_checked (h : Behaves n m) :
    Behaves n (do let abandoned ← Walk.abandoned; if abandoned then pure .aborted else m) := by
  intro w₀ hw₀
  have hcheck : Sat (FreeSince n w₀) Walk.abandoned _ := abandoned_sat
  refine hcheck.bind (fun b => ?_) w₀ ⟨hw₀, Grows.refl w₀⟩
  apply Sat.ite
  · exact fun hb => sat_pure fun w hw => (hw.2 hb).verdict
  · exact fun hb => h.pre fun w hw => (hw.1 (by simpa using hb)).1

theorem Dials.sat (h : Dials n asks d) (w₀ : WalkWorld) :
    Sat (FreeSince n w₀) d (heeding n (DialEnd n asks w₀)) := by
  rintro w ⟨hf, hg⟩
  apply (h w).post _ (fun _ => id) (fun _ => id) w ⟨rfl, hf⟩
  exact fun o w' he => ⟨he.entered, he.obeys, he.quiet, hg.trans he.grows, he.heeded, he.excused,
    he.fresh⟩

theorem Dials.free (h : Dials n asks d) :
    Sat (Free n) d (heeding n (fun o w => ∃ w₀, DialEnd n asks w₀ o w)) := by
  intro w hw
  apply (h w).post _ (fun _ => id) (fun _ => id) w ⟨rfl, hw⟩
  exact fun o w' he => ⟨w, he⟩

theorem Dials.weaken {asks' : Prop} (h : Dials n asks d) (hi : asks → asks') : Dials n asks' d := by
  intro w₀
  apply (h w₀).post _ (fun _ => id) (fun _ => id)
  exact fun o w he => ⟨he.entered, he.obeys, he.quiet, he.grows, fun hn => he.heeded fun ha => hn (hi ha),
    he.excused, he.fresh⟩

variable {o : DialOutcome}

theorem DialEnd.free (h : DialEnd n asks w₀ o w) (ho : o ≠ .aborted) : Free n w :=
  ⟨h.fresh ho, h.quiet⟩

theorem DialEnd.hushed (h : DialEnd n False w₀ o w) : Hushed n w :=
  ⟨h.entered, h.obeys, h.heeded id, h.quiet⟩

theorem DialEnd.verdict (h : DialEnd n asks w₀ .aborted w) : Verdict n .aborted w :=
  ⟨h.entered, h.obeys, h.quiet, accounted_aborted (h.excused rfl), fun hne => absurd rfl hne,
    nofun⟩

theorem dials_pure (ho : o ≠ .aborted) : Dials n asks (pure o) := by
  intro w₀
  apply sat_pure
  rintro w ⟨rfl, hf⟩
  exact ⟨hf.fresh.entered, hf.fresh.obeys, hf.quiet, Grows.refl w, fun _ => hf.fresh.heeded,
    fun heq => absurd heq ho, fun _ => hf.fresh⟩

theorem Dials.behaves {f : DialOutcome → Walk StepResult}
    (h : Dials n asks d) (hf : ∀ o, o ≠ .aborted → Behaves n (f o))
    (ha : f .aborted = pure .aborted) : Behaves n (d >>= f) := by
  apply h.free.bind
  intro o
  by_cases ho : o = .aborted
  · subst ho
    rw [ha]
    apply sat_pure
    rintro w ⟨w₀, hw⟩
    exact hw.verdict
  · apply (hf o ho).pre
    rintro w ⟨w₀, hw⟩
    exact hw.free ho

end behaves

namespace PlanWalker

variable {k : PlanWalker} {n : Nat}

theorem dialSequentialFrom_dials (stopOnCauses : List HangupCause) (attempts : List DialAttempt)
    (index : Nat) {last : DialOutcome} (hl : last ≠ .aborted) :
    Dials n True (k.dialSequentialFrom stopOnCauses index last attempts) := by
  induction attempts generalizing index last with
  | nil => exact dials_pure hl
  | cons attempt rest ih =>
    intro w₀
    unfold dialSequentialFrom
    have hcheck : Sat (FreeSince n w₀) Walk.abandoned _ := abandoned_sat
    apply Sat.pre (hcheck.bind fun b => ?_)
    · rintro w ⟨rfl, hf⟩
      exact ⟨hf, Grows.refl w⟩
    apply Sat.ite
    · intro hb
      apply sat_pure
      intro w hw
      have hn := hw.2 hb
      exact ⟨hn.entered, hn.obeys, hn.quiet, hn.grows, fun h => absurd trivial h, fun _ _ => hn.gone,
        fun h => absurd rfl h⟩
    · intro hb
      have hdelay : Calmly (Free n) (startDelay attempt) :=
        Calmly.ite ((calmly_ask closed_free rfl).bind fun _ => calmly_pure) calmly_pure
      have hwait : Sat (FreeSince n w₀) (startDelay attempt)
          (heeding n (fun _ => FreeSince n w₀)) := by
        apply Sat.pre ((Keeps.sat hdelay w₀).post _ (fun _ h => h.hushed) fun _ h => h.stalled)
        · exact fun w h => ⟨h.1, h.2, trivial⟩
        · exact fun _ w h => ⟨h.1, h.2.1⟩
      apply Sat.pre (hwait.bind fun _ => ?_)
      · exact fun w hw => hw.1 (by simpa using hb)
      apply ((dialOne_dials.weaken fun _ => trivial).sat w₀).bind
      intro outcome
      apply Sat.ite
      · exact fun _ => sat_pure fun w hw => hw
      · intro hstops
        have ho : outcome ≠ .aborted := by
          rintro rfl
          exact hstops rfl
        exact ((ih (index + 1) ho).sat w₀).pre fun w hw => ⟨hw.free ho, hw.grows⟩

theorem dialSequential_dials (attempts : List DialAttempt) (stopOnCauses : List HangupCause) :
    Dials n True (k.dialSequential attempts stopOnCauses) :=
  dialSequentialFrom_dials stopOnCauses attempts 0 (by simp)

theorem dialAll_dials (strategy : RingGroupStrategy) (ignoreBusy : Bool)
    (attempts : List DialAttempt) : Dials n True (k.dialAll strategy ignoreBusy attempts) := by
  cases strategy with
  | sequential => exact dialSequential_dials attempts _
  | simultaneous => exact (dialSimultaneous_dials attempts).weaken fun _ => trivial

theorem settleDial_behaves (branches : DialBranches) (o : DialOutcome) (ho : o ≠ .aborted) :
    Behaves n (k.settleDial branches o) := by
  cases o with
  | answered leg i => exact (bridgeWith_keeps closed_free leg).behaves
  | aborted => exact absurd rfl ho
  | timeout => exact behaves_pure (accounted_branch _ _)
  | failed cause i =>
    apply behaves_pure
    intro w
    unfold settleFailure
    split
    · exact accounted_branch _ _ w
    · split
      · exact accounted_branch _ _ w
      · exact accounted_branch _ _ w

theorem dial_behaves (h : Dials n asks d) (branches : DialBranches) :
    Behaves n (do startRinging; let outcome ← d; k.settleDial branches outcome) :=
  (startRinging_calmly closed_free).behaves fun _ =>
    h.behaves (settleDial_behaves branches) rfl

theorem followMeNode_behaves (plan : ExtensionPlan) (followMe : FollowMePlan) (input : WalkInput) :
    Behaves n (k.followMeNode plan followMe input) := by
  apply (followMeAttempts_calmly closed_free plan input _).behaves
  intro attempts
  apply Behaves.ite
  · exact fun _ => behaves_pure (accounted_branch _ _)
  · exact fun _ => behaves_checked (dial_behaves (dialAll_dials _ _ _) _)

theorem extensionNode_behaves (plan : ExtensionPlan) (input : WalkInput) :
    Behaves n (k.extensionNode plan input) := by
  unfold extensionNode
  split
  · exact behaves_pure (accounted_goto _)
  · apply Behaves.ite
    · exact fun _ => behaves_pure (accounted_branch _ _)
    · intro _
      split
      · exact followMeNode_behaves plan _ input
      · exact dial_behaves (dialSequential_dials _ _) _

theorem ringGroupNode_behaves (plan : RingGroupPlan) (input : WalkInput) :
    Behaves n (k.ringGroupNode plan input) := by
  apply Behaves.ite
  · exact fun _ => behaves_pure (accounted_branch _ _)
  · exact fun _ => dial_behaves (dialAll_dials _ _ _) _

theorem externalNode_behaves (plan : ExternalPlan) (input : WalkInput) :
    Behaves n (k.externalNode plan input) := by
  apply Behaves.ite
  · exact fun _ => behaves_pure (accounted_hangup _)
  · exact fun _ => dial_behaves dialOne_dials _

theorem dialTrunk_dials {plan : TrunkDialPlan} {input : WalkInput} {number : JsString}
    {attempt : TrunkAttempt} {index : Nat} {watching : Bool} :
    Dials n False (k.dialOne (k.trunkAttempt plan input number attempt) index watching) :=
  dialOne_dials.weaken nofun

theorem released_sat {trunkId : JsString} : Sat (fun w => ∃ w₀, DialEnd n False w₀ .aborted w)
      (do Walk.tell (.releaseTrunk trunkId); pure StepResult.aborted) (heeding n (Verdict n)) := by
  rintro w ⟨w₀, hw⟩
  have hh : Hushed n (sent w (.releaseTrunk trunkId)) :=
    closed_hushed.sent w _ rfl hw.hushed
  have he := (grows_sent w (.releaseTrunk trunkId)).excused (hw.excused rfl)
  exact hh.verdict (accounted_aborted he) nofun

theorem trunkChain_behaves (plan : TrunkDialPlan) (input : WalkInput) (number : JsString)
    (attempts : List TrunkAttempt) (last : HangupCause) :
    Behaves n (k.trunkChain plan input number last attempts) := by
  induction attempts generalizing last with
  | nil => exact behaves_pure (accounted_branch _ _)
  | cons attempt rest ih =>
    unfold trunkChain
    have hcaller : Sat (Free n) Walk.caller
        (heeding n (fun c w => c = w.state.caller ∧ Free n w)) := sat_caller
    apply hcaller.bind
    intro c
    apply Sat.ite
    · intro hc
      apply sat_pure
      rintro w ⟨heq, hf⟩
      exact hf.verdict (accounted_aborted (excused_of_tearingDown heq hc))
    · intro _
      apply Sat.pre _ fun w hw => hw.2
      apply (reserveTrunk_calmly closed_free attempt).behaves
      intro reserved
      apply Behaves.ite
      · exact fun _ => ih _
      · intro _
        apply dialTrunk_dials.free.bind
        intro outcome
        have hrelease : Calmly (Free n) (Walk.tell (.releaseTrunk attempt.trunkId)) :=
          keeps_tell closed_free rfl
        have hfail : ∀ cause : HangupCause, Behaves n (do
            Walk.tell (.releaseTrunk attempt.trunkId)
            if cause ∈ continueOn plan then k.trunkChain plan input number cause rest
            else pure (branch plan.failoverNodeId cause)) := by
          intro cause
          apply hrelease.behaves
          intro _
          apply Behaves.ite
          · exact fun _ => ih _
          · exact fun _ => behaves_pure (accounted_branch _ _)
        have hfree : ∀ w o, o ≠ .aborted → (∃ w₀, DialEnd n False w₀ o w) → Free n w := by
          rintro w o ho ⟨w₀, hw⟩
          exact hw.free ho
        cases outcome with
        | answered leg i =>
          have hbind : Calmly (Free n) (Walk.tell (.bindTrunk attempt.trunkId leg)) :=
            keeps_tell closed_free rfl
          have hbridge : Behaves n (do Walk.tell (.bindTrunk attempt.trunkId leg); k.bridgeWith leg) :=
            hbind.behaves fun _ => (bridgeWith_keeps closed_free leg).behaves
          exact .pre hbridge fun w => hfree w _ (by simp)
        | aborted => exact released_sat
        | timeout => exact .pre (hfail _) fun w => hfree w _ (by simp)
        | failed cause i => exact .pre (hfail cause) fun w => hfree w _ (by simp)

theorem trunkDialNode_behaves (plan : TrunkDialPlan) (input : WalkInput) :
    Behaves n (k.trunkDialNode plan input) := by
  unfold trunkDialNode
  split
  · exact behaves_pure (accounted_branch _ _)
  · apply (orderTrunkAttempts_calmly closed_free _).behaves
    intro attempts
    apply Behaves.ite
    · exact fun _ => behaves_pure (accounted_branch _ _)
    · intro _
      apply (startRinging_calmly closed_free).behaves
      intro _
      apply (notifyEmergency_calmly closed_free plan input _ _).behaves
      exact fun _ => trunkChain_behaves plan input _ attempts _

end PlanWalker

end OptimiqVoice.Engine

import OptimiqVoice.Engine.PlainConduct

namespace OptimiqVoice.Engine

open Lib Telephony
open Async (Sat ends sat_pure)

/-- A dial as it is over: unless it was aborted, the walk knows nothing that
would have to stop it. `asks` says whether a leg may have been asked to confirm. -/
structure DialEnd (n : Nat) (asks : Prop) (w₀ : WalkWorld) (o : DialOutcome) (w : WalkWorld) :
    Prop where
  entered : entered w.log = n
  obeys : Obeys w.log
  quiet : Quiet w.log
  grows : Grows w₀ w
  heeded : ¬asks → ¬Heeded w.log
  excused : o = .aborted → Excused w
  fresh : o ≠ .aborted → Fresh n w.log

def Dials (n : Nat) (asks : Prop) (m : Walk DialOutcome) : Prop :=
  ∀ w₀, Sat (fun w => w = w₀ ∧ Free n w) m (ends (DialEnd n asks w₀) (Hushed n) (Stalled n))

variable {o : DialOutcome}

namespace OneDial

variable {leg : LegId} {attempt : DialAttempt} {index : Nat} {watching : Bool} {d : OneDial}
variable {e : Event}

theorem outcome_resolve {o' : DialOutcome} (h : (d.resolve o).outcome = some o') :
    d.outcome = some o' ∨ o = o' := by
  unfold resolve at h
  cases hd : d.outcome with
  | none =>
    rw [hd] at h
    exact .inr (Option.some.inj h)
  | some o'' =>
    rw [hd] at h
    exact .inl h

theorem hear_commands (h : (d.hear leg attempt index watching e).2 ≠ []) :
    (d.hear leg attempt index watching e).2 = [.originate leg attempt] ∧ e = .claimed leg true := by
  unfold hear at h ⊢
  split at h
  all_goals first
    | (split at h
       · rename_i hl
         simp_all
       · simp_all)
    | simp_all

def Brings (leg : LegId) (index : Nat) (e : Event) (o : DialOutcome) : Prop :=
  (∃ c i, o = .failed c i) ∨ o = .timeout ∨ (o = .answered leg index ∧ e.reports leg = true) ∨
    (o = .aborted ∧ e = .callerEnded)

theorem hearSignal_outcome {s : LegSignal} (h : (d.hearSignal leg index s).outcome = some o) :
    d.outcome = some o ∨ Brings leg index (.signal leg s) o := by
  cases s with
  | ringing | progress | dtmf _ => exact .inl h
  | answered | entered =>
    obtain h | rfl := outcome_resolve h
    · exact .inl h
    · exact .inr (.inr (.inr (.inl ⟨rfl, by simp [Event.reports]⟩)))
  | ended cause =>
    obtain h | rfl := outcome_resolve h
    · exact .inl h
    · exact .inr (.inl ⟨cause, index, rfl⟩)

theorem hear_outcome (h : (d.hear leg attempt index watching e).1.outcome = some o) :
    d.outcome = some o ∨ Brings leg index e o := by
  unfold hear at h
  split at h
  · split at h <;> exact .inl h
  · split at h
    · obtain h | rfl := outcome_resolve h
      · exact .inl h
      · exact .inr (.inl ⟨_, _, rfl⟩)
    · exact .inl h
  · split at h <;> exact .inl h
  · split at h
    · obtain h | rfl := outcome_resolve h
      · exact .inl h
      · exact .inr (.inl ⟨_, _, rfl⟩)
    · exact .inl h
  · split at h
    · rename_i hl
      subst hl
      exact hearSignal_outcome h
    · exact .inl h
  · split at h
    · obtain h | rfl := outcome_resolve h
      · exact .inl h
      · exact .inr (.inr (.inl rfl))
    · exact .inl h
  · obtain h | rfl := outcome_resolve h
    · exact .inl h
    · exact .inr (.inr (.inl rfl))
  · split at h
    · obtain h | rfl := outcome_resolve h
      · exact .inl h
      · exact .inr (.inr (.inr (.inr ⟨rfl, rfl⟩)))
    · exact .inl h
  · exact .inl h

theorem hear_watched (h : d.watched watching = true) :
    (d.hear leg attempt index watching .callerEnded).1.result = some .aborted := by
  simp only [watched, Bool.and_eq_true, decide_eq_true_eq, Option.isNone_iff_eq_none] at h
  obtain ⟨⟨hw, hp⟩, ho⟩ := h
  simp [hear, hw, result, resolve, hp, ho]

end OneDial

namespace Confirming

def Blames (c : Confirming) : Prop :=
  c.terminal = some .callerGone ∨ c.phase = .stopping (.terminal .callerGone)

end Confirming

namespace ConfirmNext

def Blames : ConfirmNext → Prop
  | .waiting c _ => c.Blames
  | .round _ terminal => terminal = some .callerGone
  | .over verdict => verdict = .callerGone

/-- The commands only start or stop the prompt of the leg. -/
def Soft (leg : LegId) : ConfirmNext → Prop
  | .waiting _ commands => ∀ q ∈ commands, q = .stopPrompt leg ∨ ∃ media, q = .promptLeg leg media
  | _ => True

end ConfirmNext

variable {v : ConfirmVerdict}

namespace Confirming

variable {leg : LegId} {confirm : ConfirmRequest} {c : Confirming} {e : Event}

theorem settleTerminal_blames (h : (c.settleTerminal leg v).Blames) :
    c.Blames ∨ (c.terminal = none ∧ v = .callerGone) := by
  have hget : c.terminal.getD v = .callerGone →
      c.Blames ∨ (c.terminal = none ∧ v = .callerGone) := by
    intro hg
    cases ht : c.terminal with
    | none =>
      rw [ht] at hg
      exact .inr ⟨rfl, hg⟩
    | some v' =>
      rw [ht] at hg
      exact .inl (.inl (ht.trans (congrArg some hg)))
  unfold settleTerminal at h
  dsimp only at h
  split at h
  · obtain h | h := h
    · exact hget (Option.some.inj h)
    · exact hget (by simpa using h)
  · obtain h | h := h
    · exact hget (Option.some.inj h)
    · exact .inl (.inr h)

theorem afterPrompt_blames {ok : Bool} (h : (c.afterPrompt leg ok).Blames) : c.Blames := by
  unfold afterPrompt at h
  split at h
  · cases h
  · split at h
    · rename_i verdict ht
      obtain h | h := h
      · exact .inl h
      · left
        rw [ht]
        exact congrArg some (by simpa using h)
    · obtain h | h := h
      · exact .inl h
      · cases h

theorem afterStop_blames {step : ConfirmStep} (hc : c.phase = .stopping step)
    (h : (c.afterStop confirm step).Blames) : c.Blames := by
  cases step with
  | terminal verdict =>
    right
    rw [hc]
    exact congrArg _ (congrArg _ h)
  | timeout => exact .inl h
  | digit digit =>
    simp only [afterStop] at h
    split at h
    · cases h
    · exact .inl h

/-- Nothing but the end of the caller's leg makes a confirmation blame the caller. -/
theorem hear_blames (h : (c.hear leg confirm e).Blames) : c.Blames ∨ e = .callerEnded := by
  unfold hear at h
  split at h
  · split at h
    · obtain h | ⟨-, h⟩ := settleTerminal_blames h
      · exact .inl h
      · cases h
    · exact .inl h
  · exact .inr rfl
  · split at h
    · exact .inl (afterPrompt_blames h)
    · exact .inl h
  · split at h
    · obtain h | h := h
      · exact .inl (.inl h)
      · cases h
    · exact .inl h
  · split at h
    · obtain h | h := h
      · exact .inl (.inl h)
      · cases h
    · exact .inl h
  · rename_i hc
    split at h
    · exact .inl (afterStop_blames hc h)
    · exact .inl h
  · exact .inl h

theorem decide_soft {step : ConfirmStep} : (c.decide leg step).Soft leg := by
  intro q hq
  exact .inl (by simpa using hq)

theorem settleTerminal_soft : (c.settleTerminal leg v).Soft leg := by
  unfold settleTerminal
  dsimp only
  split
  · exact decide_soft
  · exact nofun

theorem hear_soft : (c.hear leg confirm e).Soft leg := by
  have hwait : (ConfirmNext.waiting c []).Soft leg := nofun
  unfold hear
  split
  · split
    · exact settleTerminal_soft
    · exact hwait
  · exact settleTerminal_soft
  · split
    · unfold afterPrompt
      split
      · trivial
      · split
        · exact decide_soft
        · exact nofun
    · exact hwait
  · split
    · exact decide_soft
    · exact hwait
  · split
    · exact decide_soft
    · exact hwait
  · split
    · unfold afterStop
      split
      · trivial
      · split <;> trivial
      · trivial
    · exact hwait
  · exact hwait

end Confirming

structure OneInv (n : Nat) (w₀ : WalkWorld) (leg : LegId) (d : OneDial) (w : WalkWorld) : Prop where
  entered : entered w.log = n
  obeys : Obeys w.log
  heeded : ¬Heeded w.log
  grows : Grows w₀ w
  told : Told w.log → d.result = some .aborted
  ringing : ∀ l, Ringing w.log l → l = leg
  answered : ∀ l i, d.outcome = some (.answered l i) → l = leg ∧ Reported w.log leg
  aborted : d.outcome = some .aborted → Excused w

variable {q : Request}

namespace OneInv

variable {n : Nat} {w₀ w : WalkWorld} {leg : LegId} {d d' : OneDial}

section

variable (h : OneInv n w₀ leg d w)

include h

theorem stalled : Stalled n w := ⟨h.entered, h.obeys⟩

theorem fresh (hr : d.result ≠ some .aborted) : Fresh n w.log :=
  ⟨h.heeded, fun ht => hr (h.told ht), h.entered⟩

theorem replied {a : Reply} {rest : List Reply}
    (hr : d.result = none) (hm : q.isMark = false) (ho : ∀ l attempt, q ≠ .originate l attempt)
    (htold : q = .awaitLegs true → a.event = some .callerEnded → d'.result = some .aborted)
    (hans : ∀ l i, d'.outcome = some (.answered l i) →
      d.outcome = some (.answered l i) ∨ (l = leg ∧ ∃ e, a.event = some e ∧ e.reports leg = true))
    (habort : d'.outcome = some .aborted →
      d.outcome = some .aborted ∨ a.event = some .callerEnded) :
    OneInv n w₀ leg d' (replied w q a rest) where
  entered := (entered_asked hm).trans h.entered
  obeys := ((h.fresh (by simp [hr])).sent hm).obeys.asked
  heeded := (heeded_asked hm).not.mpr h.heeded
  grows := h.grows.trans (grows_replied w q a rest)
  told ht := by
    obtain ht | ⟨hq, ha⟩ := told_asked ht
    · have := h.told ht
      rw [hr] at this
      cases this
    · exact htold hq ha
  ringing l hl := by
    obtain hl | ⟨attempt, hl⟩ := hl.of_append
    · exact h.ringing l hl
    · simp only [List.mem_cons, Moment.sent.injEq, reduceCtorEq, List.not_mem_nil, or_false] at hl
      exact absurd hl.symm (ho l attempt)
  answered l i hd := by
    obtain hd | ⟨hl, e, he, hr⟩ := hans l i hd
    · exact ⟨(h.answered l i hd).1, (h.answered l i hd).2.append _⟩
    · refine ⟨hl, a, e, ?_, he, hr⟩
      exact List.mem_append_right _ (by simp)
  aborted hd := by
    obtain hd | ha := habort hd
    · exact (grows_replied w q a rest).excused (h.aborted hd)
    · exact excused_replied (by simp [tells, ha])

theorem sent (ht : ¬Told w.log) (hm : q.isMark = false)
    (ho : ∀ l attempt, q = .originate l attempt → l = leg) : OneInv n w₀ leg d (sent w q) where
  entered := (entered_unmarked hm).trans h.entered
  obeys := h.obeys.sent (fun hh => absurd hh h.heeded) fun htold => absurd htold ht
  heeded := (heeded_unmarked hm).not.mpr h.heeded
  grows := h.grows.trans (grows_sent w q)
  told hold := absurd (told_sent.mp hold) ht
  ringing l hl := by
    obtain hl | ⟨attempt, hl⟩ := hl.of_append
    · exact h.ringing l hl
    · simp only [List.mem_singleton, Moment.sent.injEq] at hl
      exact ho l attempt hl.symm
  answered l i hd := ⟨(h.answered l i hd).1, (h.answered l i hd).2.append _⟩
  aborted hd := (grows_sent w q).excused (h.aborted hd)

end

end OneInv

theorem sat_asked {P : WalkWorld → Prop} {err cut : WalkWorld → Prop}
    (hcut : ∀ w, P w → cut (sent w q)) :
    Sat P (Walk.ask q) (ends (fun a w => ∃ u rest, P u ∧ w = replied u q a rest) err cut) :=
  Async.sat_ask hcut fun u _ rest hu => ⟨u, rest, hu, rfl⟩

namespace PlanWalker

variable {k : PlanWalker} {n : Nat} {w₀ : WalkWorld} {leg : LegId} {attempt : DialAttempt}
variable {index : Nat} {watching : Bool}

theorem ne_callerEnded_of_reply {d : OneDial} {w : WalkWorld} {a : Reply} {rest : List Reply}
    (h : OneInv n w₀ leg d w) (hr : d.result = none) (ha : a.event ≠ some .callerEnded) :
    ¬Told (replied w (.awaitLegs (d.watched watching)) a rest).log := by
  intro ht
  obtain ht | ⟨-, he⟩ := told_asked ht
  · have := h.told ht
    rw [hr] at this
    cases this
  · exact ha he

theorem waitForOne_turn (d : OneDial) :
    Sat (OneInv n w₀ leg d) (waitForOne leg attempt index watching d)
      (heeding n (Sum.elim (OneInv n w₀ leg) fun o w => ∃ d, d.result = some o ∧ OneInv n w₀ leg d w)) := by
  unfold waitForOne
  split
  · rename_i outcome hr
    exact sat_pure fun w h => ⟨d, hr, h⟩
  rename_i hr
  have hcut : ∀ w, OneInv n w₀ leg d w → Stalled n (sent w (.awaitLegs (d.watched watching))) := by
    intro w h
    have hf := (h.fresh (by simp [hr])).sent (q := .awaitLegs (d.watched watching)) rfl
    exact ⟨hf.entered, hf.obeys⟩
  apply (sat_asked hcut).bind
  intro a
  cases he : a.event with
  | none =>
    apply sat_pure
    rintro _ ⟨w, rest, h, rfl⟩
    apply h.replied hr rfl (by simp) (by simp [he])
    · exact fun l i hd => .inl hd
    · exact .inl
  | some e =>
    have hheard : ∀ w rest, OneInv n w₀ leg d w →
        OneInv n w₀ leg (d.hear leg attempt index watching e).1
          (replied w (.awaitLegs (d.watched watching)) a rest) := by
      intro w rest h
      apply h.replied hr rfl (by simp)
      · intro hq hc
        rw [he] at hc
        cases hc
        exact OneDial.hear_watched (by simpa using hq)
      · intro l i hd
        obtain hd | ⟨_, _, hd⟩ | hd | ⟨hd, hrep⟩ | ⟨hd, -⟩ := OneDial.hear_outcome hd
        · exact .inl hd
        · cases hd
        · cases hd
        · cases hd
          exact .inr ⟨rfl, e, he, hrep⟩
        · cases hd
      · intro hd
        obtain hd | ⟨_, _, hd⟩ | hd | ⟨hd, -⟩ | ⟨-, hd⟩ := OneDial.hear_outcome hd
        · exact .inl hd
        · cases hd
        · cases hd
        · cases hd
        · exact .inr (he.trans (congrArg some hd))
    have htell : Sat (fun w => ∃ u rest, OneInv n w₀ leg d u ∧
          w = replied u (.awaitLegs (d.watched watching)) a rest)
        (Async.each Walk.tell (d.hear leg attempt index watching e).2)
        (heeding n (fun _ => OneInv n w₀ leg (d.hear leg attempt index watching e).1)) := by
      by_cases hc : (d.hear leg attempt index watching e).2 = []
      · rw [hc]
        apply sat_pure
        rintro _ ⟨w, rest, h, rfl⟩
        exact hheard w rest h
      · obtain ⟨hc, hclaimed⟩ := OneDial.hear_commands hc
        rw [hc]
        have hplace : Sat (fun w => ∃ u rest, OneInv n w₀ leg d u ∧
              w = replied u (.awaitLegs (d.watched watching)) a rest)
            (Walk.tell (.originate leg attempt))
            (heeding n (fun _ => OneInv n w₀ leg (d.hear leg attempt index watching e).1)) := by
          apply Async.sat_tell
          rintro _ ⟨w, rest, h, rfl⟩
          apply (hheard w rest h).sent _ rfl
          · rintro l attempt' heq
            cases heq
            rfl
          · exact ne_callerEnded_of_reply h hr (by simp [he, hclaimed])
        exact hplace.bind fun _ => sat_pure fun w h => h
    apply htell.bind
    exact fun _ => sat_pure fun w h => h

structure ConfirmInv (n : Nat) (w₀ : WalkWorld) (leg : LegId) (next : ConfirmNext) (w : WalkWorld) :
    Prop where
  free : Free n w
  grows : Grows w₀ w
  soft : next.Soft leg
  blames : next.Blames → Excused w

structure ConfirmEnd (n : Nat) (w₀ : WalkWorld) (v : ConfirmVerdict) (w : WalkWorld) : Prop where
  entered : entered w.log = n
  obeys : Obeys w.log
  quiet : Quiet w.log
  grows : Grows w₀ w
  excused : v = .callerGone → Excused w
  fresh : v ≠ .callerGone → Fresh n w.log

theorem confirmEnd_of_free {w : WalkWorld} (hf : Free n w) (hg : Grows w₀ w)
    (he : v = .callerGone → Excused w) : ConfirmEnd n w₀ v w :=
  ⟨hf.fresh.entered, hf.fresh.obeys, hf.quiet, hg, he, fun _ => hf.fresh⟩

theorem calm_of_soft (h : q = .stopPrompt leg ∨ ∃ media, q = .promptLeg leg media) : q.isCalm := by
  obtain rfl | ⟨media, rfl⟩ := h <;> rfl

theorem confirmWait_keeps (confirm : ConfirmRequest) {c : Confirming} {commands : List Request}
    (hs : (ConfirmNext.waiting c commands).Soft leg) :
    Keeps (Free n) (fun w => c.Blames → Excused w) (confirmTurn leg confirm (.waiting c commands))
      fun r w => ∃ next, r = .inl next ∧ next.Soft leg ∧ (next.Blames → Excused w) := by
  have hstable : Stable fun w => c.Blames → Excused w := fun w w' hg he hb => hg.excused (he hb)
  have htell : Calmly (Free n) (Async.each Walk.tell commands) :=
    Calmly.each fun q hq => keeps_tell closed_free (calm_of_soft (hs q hq))
  apply (htell.keep hstable).bind
  intro _
  apply ((keeps_ask closed_free rfl).keep hstable).weaken (fun w _ h => ⟨trivial, h⟩)
    (fun _ _ _ => id) |>.bind
  intro a
  cases he : a.event with
  | none =>
    apply keeps_pure
    exact fun w _ h => ⟨_, rfl, nofun, h.2⟩
  | some e =>
    apply keeps_pure
    intro w _ h
    refine ⟨_, rfl, Confirming.hear_soft, ?_⟩
    intro hb
    obtain hb | rfl := Confirming.hear_blames hb
    · exact h.2 hb
    · exact h.1.excused (by simp [tells, he])

theorem confirmTurn_sat (confirm : ConfirmRequest) (next : ConfirmNext) :
    Sat (ConfirmInv n w₀ leg next) (confirmTurn leg confirm next)
      (heeding n (Sum.elim (ConfirmInv n w₀ leg) (ConfirmEnd n w₀))) := by
  unfold confirmTurn
  split
  · exact sat_pure fun w h => confirmEnd_of_free h.free h.grows h.blames
  · apply sat_pure
    rename_i terminal
    intro w h
    apply confirmEnd_of_free h.free h.grows
    intro hv
    apply h.blames
    cases ht : terminal with
    | none =>
      rw [ht] at hv
      cases hv
    | some v =>
      rw [ht] at hv
      exact congrArg some hv
  · exact sat_pure fun w h =>
      confirmEnd_of_free h.free h.grows fun hv => h.blames (congrArg some hv)
  · apply (abandoned_sat.pre fun w h => ⟨h.free, h.grows⟩).bind
    intro abandoned
    apply Sat.ite
    · intro hb
      apply sat_pure
      intro w h
      have hn := h.2 hb
      exact ⟨hn.entered, hn.obeys, hn.quiet, hn.grows, fun _ _ => hn.gone, fun hv => absurd rfl hv⟩
    · intro hb
      apply sat_pure
      intro w h
      obtain ⟨hf, hg⟩ := h.1 (by simpa using hb)
      refine ⟨hf, hg, ?_, ?_⟩
      · intro q hq
        exact .inr ⟨_, by simpa using hq⟩
      · rintro (hb | hb)
        · cases hb
        · cases hb
  · rename_i c commands
    by_cases hs : (ConfirmNext.waiting c commands).Soft leg
    · have hsat := (confirmWait_keeps (n := n) confirm hs).sat w₀
      apply Sat.pre (hsat.post _ (fun _ h => h.hushed) fun _ h => h.stalled)
      · exact fun w h => ⟨h.free, h.grows, h.blames⟩
      · rintro _ w ⟨hf, hg, next, rfl, hsoft, hb⟩
        exact ⟨hf, hg, hsoft, hb⟩
    · exact fun w h => absurd h.soft hs

theorem confirmAnswer_sat (confirm : ConfirmRequest) :
    Sat (FreeSince n w₀) (confirmAnswer leg confirm) (heeding n (ConfirmEnd n w₀)) := by
  apply Sat.pre (P := ConfirmInv n w₀ leg (.round confirm.attempts none))
  · apply Sat.loop (I := ConfirmInv n w₀ leg)
    · exact fun _ w h => h.free.stalled
    · exact confirmTurn_sat confirm
  · exact fun w h => ⟨h.1, h.2, trivial, nofun⟩

theorem quiet_of_ringing {w : WalkWorld} (hr : ∀ l, Ringing w.log l → l = leg)
    (hl : Reported w.log leg ∨ HungUp w.log leg) : Quiet w.log := by
  intro l h
  obtain rfl := hr l h
  obtain hl | hl := hl
  · exact h.2.1 hl
  · exact h.2.2 hl

/-- A dial before its leg is given up. -/
structure DialOpen (n : Nat) (asks : Prop) (w₀ : WalkWorld) (leg : LegId) (o : DialOutcome)
    (w : WalkWorld) : Prop where
  entered : entered w.log = n
  obeys : Obeys w.log
  ringing : ∀ l, Ringing w.log l → l = leg
  grows : Grows w₀ w
  heeded : ¬asks → ¬Heeded w.log
  answered : ∀ l i, o = .answered l i → Quiet w.log
  excused : o = .aborted → Excused w
  fresh : o ≠ .aborted → Fresh n w.log

variable {asks : Prop}

theorem dialOpen_of_inv {d : OneDial} {w : WalkWorld}
    (hr : d.result = some o) (h : OneInv n w₀ leg d w) : DialOpen n asks w₀ leg o w := by
  have ho : d.outcome = some o := by
    unfold OneDial.result at hr
    split at hr
    · exact hr
    · cases hr
  refine ⟨h.entered, h.obeys, h.ringing, h.grows, fun _ => h.heeded, ?_, ?_, ?_⟩
  · rintro l i rfl
    exact quiet_of_ringing h.ringing (.inl (h.answered l i ho).2)
  · rintro rfl
    exact h.aborted ho
  · intro hne
    apply h.fresh
    rw [hr]
    exact fun heq => hne (Option.some.inj heq)

theorem confirmed_sat (o : DialOutcome) :
    Sat (DialOpen n attempt.confirm.isSome w₀ leg o) (confirmed attempt o)
      (heeding n (DialOpen n attempt.confirm.isSome w₀ leg)) := by
  cases o with
  | failed _ _ | timeout | aborted => exact sat_pure fun w h => h
  | answered l i =>
    cases hc : attempt.confirm with
    | none =>
      simp only [confirmed, hc]
      exact sat_pure fun w h => h
    | some confirm =>
      simp only [confirmed, hc]
      apply Sat.pre ((confirmAnswer_sat confirm).bind fun verdict => ?_)
        (fun w h => ⟨⟨h.fresh (by simp), h.answered l i rfl⟩, h.grows⟩)
      apply sat_pure
      intro w h
      refine ⟨h.entered, h.obeys, fun l hl => absurd hl (h.quiet l), h.grows, ?_, fun _ _ _ => h.quiet,
        ?_, ?_⟩
      · exact fun hn => absurd rfl hn
      · intro hv
        apply h.excused
        cases verdict with
        | callerGone => rfl
        | _ => cases hv
      · intro hv
        apply h.fresh
        rintro rfl
        exact hv rfl

theorem DialOpen.hungUp {w : WalkWorld} (cause : HangupCause)
    (h : DialOpen n asks w₀ leg o w) (a : Reply) (rest : List Reply) :
    DialEnd n asks w₀ o (replied w (.hangupLeg leg cause) a rest) where
  entered := (entered_asked rfl).trans h.entered
  obeys := (h.obeys.sent (fun _ => ⟨rfl, rfl⟩) fun _ => rfl).asked
  quiet := by
    apply quiet_of_ringing
    · intro l hl
      obtain hl | ⟨_, hl⟩ := hl.of_append
      · exact h.ringing l hl
      · simp at hl
    · exact .inr ⟨cause, List.mem_append_right _ (by simp)⟩
  grows := h.grows.trans (grows_replied w _ a rest)
  heeded ha := (heeded_asked rfl).not.mpr (h.heeded ha)
  excused ho := (grows_replied w _ a rest).excused (h.excused ho)
  fresh ho := (h.fresh ho).asked rfl (by simp)

theorem hangupQuietly_sat (cause : HangupCause) :
    Sat (DialOpen n asks w₀ leg o) (hangupQuietly leg cause)
      (heeding n (fun _ => DialEnd n asks w₀ o)) := by
  have hcut : ∀ w, DialOpen n asks w₀ leg o w → Stalled n (sent w (.hangupLeg leg cause)) := by
    intro w h
    exact ⟨(entered_unmarked rfl).trans h.entered, h.obeys.sent (fun _ => ⟨rfl, rfl⟩) fun _ => rfl⟩
  apply (sat_asked hcut).bind
  intro a
  apply sat_pure
  rintro _ ⟨w, rest, h, rfl⟩
  exact h.hungUp cause a rest

theorem closeDial_sat (o : DialOutcome) : Sat (DialOpen n asks w₀ leg o) (closeDial leg o)
      (heeding n (DialEnd n asks w₀)) := by
  cases o with
  | answered l i =>
    apply sat_pure
    exact fun w h => ⟨h.entered, h.obeys, h.answered l i rfl, h.grows, h.heeded, h.excused, h.fresh⟩
  | failed _ _ | timeout | aborted =>
    exact (hangupQuietly_sat _).bind fun _ => sat_pure fun w h => h

theorem oneInv_placed {w : WalkWorld} {destination : Option PlanDestination} {armed : Bool}
    (hf : Free n w) (hg : Grows w₀ w) :
    OneInv n w₀ leg ⟨(placing k.wiring.legs destination leg attempt).1, none, armed⟩
      (sent w (placing k.wiring.legs destination leg attempt).2) := by
  have hstart : OneInv n w₀ leg ⟨(placing k.wiring.legs destination leg attempt).1, none, armed⟩ w :=
    { entered := hf.fresh.entered
      obeys := hf.fresh.obeys
      heeded := hf.fresh.heeded
      grows := hg
      told := fun ht => absurd ht hf.fresh.told
      ringing := fun l hl => absurd hl (hf.quiet l)
      answered := nofun
      aborted := nofun }
  apply hstart.sent hf.fresh.told
  · unfold placing
    split <;> rfl
  · intro l attempt' h
    unfold placing at h
    split at h
    · cases h
    · cases h
      rfl

theorem dialOne_dials : Dials n attempt.confirm.isSome (k.dialOne attempt index watching) := by
  intro w₀
  unfold dialOne
  have hid : Sat (fun w => w = w₀ ∧ Free n w) Walk.newId (heeding n (fun _ => FreeSince n w₀)) := by
    apply Sat.pre (((calmly_newId closed_free).sat w₀).post _ (fun _ h => h.hushed)
      fun _ h => h.stalled)
    · rintro w ⟨rfl, hf⟩
      exact ⟨hf, Grows.refl w, trivial⟩
    · exact fun _ w h => ⟨h.1, h.2.1⟩
  apply hid.bind
  intro leg
  have hdest : Sat (FreeSince n w₀) Walk.destination (heeding n (fun _ => FreeSince n w₀)) :=
    fun w h => h
  apply hdest.bind
  intro destination
  have hplace : Sat (FreeSince n w₀) (Walk.tell (placing k.wiring.legs destination leg attempt).2)
      (heeding n (fun _ => OneInv n w₀ leg ⟨(placing k.wiring.legs destination leg attempt).1, none,
        0 < k.settings.progressTimeoutSeconds⟩)) :=
    fun w h => oneInv_placed h.1 h.2
  apply hplace.bind
  intro _
  apply Sat.bind (Sat.loop (fun _ w h => h.stalled) waitForOne_turn _)
  intro outcome
  apply Sat.pre ((confirmed_sat outcome).bind closeDial_sat)
  rintro w ⟨d, hr, h⟩
  exact dialOpen_of_inv hr h

end PlanWalker

end OptimiqVoice.Engine

import OptimiqVoice.Engine.RaceConduct

namespace OptimiqVoice.Engine

open Lib Telephony
open Async (Sat ends sat_pure)

section telling

variable {w : WalkWorld} {log : WalkLog} {qs : List Request}

def sentAll (w : WalkWorld) (qs : List Request) : WalkWorld :=
  { w with log := w.log ++ qs.map .sent }

theorem each_tell (qs : List Request) (w : WalkWorld) :
    Async.each Walk.tell qs w = (.done (), sentAll w qs) := by
  induction qs generalizing w with
  | nil => simp [Async.each, sentAll, pure]
  | cons q rest ih =>
    have hbind : Async.each Walk.tell (q :: rest) w = Async.each Walk.tell rest (sent w q) := rfl
    rw [hbind, ih]
    simp [sentAll, sent]

theorem sat_told {P : WalkWorld → Prop} {err cut : WalkWorld → Prop}
    {R : Unit → WalkWorld → Prop} (h : ∀ w, P w → R () (sentAll w qs)) :
    Sat P (Async.each Walk.tell qs) (ends R err cut) := by
  intro w hw
  rw [each_tell]
  exact h w hw

theorem sat_caller {P : WalkWorld → Prop} {err cut : WalkWorld → Prop} :
    Sat P Walk.caller (ends (fun c w => c = w.state.caller ∧ P w) err cut) :=
  fun _ hw => ⟨rfl, hw⟩

theorem grows_sentAll (w : WalkWorld) (qs : List Request) : Grows w (sentAll w qs) :=
  ⟨List.prefix_append _ _, id⟩

theorem entered_sentAll (hm : ∀ q ∈ qs, q.isMark = false) :
    entered (log ++ qs.map .sent) = entered log := by
  induction qs generalizing log with
  | nil => simp
  | cons q rest ih =>
    have hrest : entered ((log ++ [.sent q]) ++ rest.map .sent) = entered (log ++ [.sent q]) :=
      ih fun q' hq => hm q' (by simp [hq])
    rw [entered_unmarked (hm q (by simp))] at hrest
    simpa using hrest

theorem heeded_sentAll (hm : ∀ q ∈ qs, q.isMark = false) :
    Heeded (log ++ qs.map .sent) ↔ Heeded log := by
  induction qs generalizing log with
  | nil => simp
  | cons q rest ih =>
    have hrest : Heeded ((log ++ [.sent q]) ++ rest.map .sent) ↔ Heeded (log ++ [.sent q]) :=
      ih fun q' hq => hm q' (by simp [hq])
    rw [heeded_unmarked (hm q (by simp))] at hrest
    simpa using hrest

theorem told_sentAll : Told (log ++ qs.map .sent) ↔ Told log := by
  induction qs generalizing log with
  | nil => simp
  | cons q rest ih =>
    have hrest : Told ((log ++ [.sent q]) ++ rest.map .sent) ↔ Told (log ++ [.sent q]) := ih
    rw [told_sent] at hrest
    simpa using hrest

theorem Obeys.sentAll (h : Obeys log) (hh : ¬Heeded log) (hm : ∀ q ∈ qs, q.isMark = false)
    (ht : ∀ q ∈ qs, Told log → q.isDialing = false) : Obeys (log ++ qs.map .sent) := by
  induction qs generalizing log with
  | nil => simpa using h
  | cons q rest ih =>
    have hone : Obeys (log ++ [.sent q]) := h.sent (fun hc => absurd hc hh) (ht q (by simp))
    have hrest := ih hone ((heeded_unmarked (hm q (by simp))).not.mpr hh)
      (fun q' hq => hm q' (by simp [hq]))
      fun q' hq htold => ht q' (by simp [hq]) (told_sent.mp htold)
    simpa using hrest

end telling

namespace Race

variable {race next : Race} {q : Request}

theorem gentle_settling (h : q ∈ race.settling next) : q.Gentle := by
  unfold settling at h
  split at h
  · obtain rfl : q = .settled _ := by simpa using h
    exact ⟨rfl, rfl, rfl⟩
  · cases h

theorem Places.isMark (h : race.Places q) : q.isMark = false := by
  obtain ⟨leg, attempt, -, rfl | ⟨_, rfl⟩⟩ := h
  · rfl
  · rfl

theorem Places.isRoom (h : race.Places q) : q.isRoom = false := by
  obtain ⟨leg, attempt, -, rfl | ⟨_, rfl⟩⟩ := h
  · rfl
  · rfl

end Race

/-- Only these legs may be ringing, and the walk has read nothing. -/
structure Racing (n : Nat) (w₀ : WalkWorld) (legs : List LegId) (w : WalkWorld) : Prop where
  entered : entered w.log = n
  obeys : Obeys w.log
  heeded : ¬Heeded w.log
  grows : Grows w₀ w
  ringing : ∀ l, Ringing w.log l → l ∈ legs

namespace Racing

variable {n : Nat} {w₀ w : WalkWorld} {legs legs' : List LegId} {race : Race} {qs : List Request}
variable {q : Request} {a : Reply} {rest : List Reply}

theorem stalled (h : Racing n w₀ legs w) : Stalled n w := ⟨h.entered, h.obeys⟩

theorem subset (h : Racing n w₀ legs w) (hs : ∀ l ∈ legs, Ringing w.log l → l ∈ legs') :
    Racing n w₀ legs' w :=
  ⟨h.entered, h.obeys, h.heeded, h.grows, fun l hl => hs l (h.ringing l hl) hl⟩

theorem sentAll (h : Racing n w₀ race.legs w)
    (hqs : ∀ q ∈ qs, q.Gentle ∨ (race.Places q ∧ ¬Told w.log)) :
    Racing n w₀ race.legs (sentAll w qs) := by
  have hm : ∀ q ∈ qs, q.isMark = false := by
    intro q hq
    obtain hq | ⟨hq, -⟩ := hqs q hq
    · exact hq.mark
    · exact hq.isMark
  refine ⟨(entered_sentAll hm).trans h.entered, h.obeys.sentAll h.heeded hm ?_,
    (heeded_sentAll hm).not.mpr h.heeded, h.grows.trans (grows_sentAll w qs), ?_⟩
  · intro q hq ht
    obtain hq | ⟨-, hq⟩ := hqs q hq
    · exact hq.dialing
    · exact absurd ht hq
  · intro l hl
    obtain hl | ⟨attempt, hl⟩ := hl.of_append
    · exact h.ringing l hl
    · obtain ⟨q, hq, heq⟩ := List.mem_map.mp hl
      cases heq
      obtain hq | ⟨⟨leg, _, hleg, heq | ⟨_, heq⟩⟩, -⟩ := hqs _ hq
      · exact absurd hq.dialing (by simp [Request.isDialing])
      · cases heq
        exact hleg
      · cases heq

section

variable (h : Racing n w₀ legs w)

include h

theorem sentGentle (hqs : ∀ q ∈ qs, q.Gentle) :
    Racing n w₀ legs (Engine.sentAll w qs) := by
  have hm : ∀ q ∈ qs, q.isMark = false := fun q hq => (hqs q hq).mark
  refine ⟨(entered_sentAll hm).trans h.entered,
    h.obeys.sentAll h.heeded hm fun q hq _ => (hqs q hq).dialing,
    (heeded_sentAll hm).not.mpr h.heeded, h.grows.trans (grows_sentAll w qs), ?_⟩
  intro l hl
  obtain hl | ⟨attempt, hl⟩ := hl.of_append
  · exact h.ringing l hl
  · obtain ⟨q, hq, heq⟩ := List.mem_map.mp hl
    cases heq
    exact absurd (hqs _ hq).dialing (by simp [Request.isDialing])

theorem sent (hm : q.isMark = false)
    (ho : ∀ l attempt, q ≠ .originate l attempt) (ht : Told w.log → q.isDialing = false) :
    Racing n w₀ legs (sent w q) where
  entered := (entered_unmarked hm).trans h.entered
  obeys := h.obeys.sent (fun hh => absurd hh h.heeded) ht
  heeded := (heeded_unmarked hm).not.mpr h.heeded
  grows := h.grows.trans (grows_sent w q)
  ringing l hl := by
    obtain hl | ⟨attempt, hl⟩ := hl.of_append
    · exact h.ringing l hl
    · simp only [List.mem_singleton, Moment.sent.injEq] at hl
      exact absurd hl.symm (ho l attempt)

theorem replied (hm : q.isMark = false)
    (ho : ∀ l attempt, q ≠ .originate l attempt) (ht : Told w.log → q.isDialing = false) :
    Racing n w₀ legs (replied w q a rest) where
  entered := (entered_asked hm).trans h.entered
  obeys := (h.sent hm ho ht).obeys.asked
  heeded := (heeded_asked hm).not.mpr h.heeded
  grows := h.grows.trans (grows_replied w q a rest)
  ringing l hl := by
    obtain hl | ⟨attempt, hl⟩ := hl.of_append
    · exact h.ringing l hl
    · simp only [List.mem_cons, Moment.sent.injEq, reduceCtorEq, List.not_mem_nil, or_false] at hl
      exact absurd hl.symm (ho l attempt)

end

end Racing

namespace PlanWalker

variable {k : PlanWalker} {destination : Option PlanDestination} {watching : Bool}

/-- What is kept by every step of a race that is open, and of one that is decided
and whose losers are being hung up. -/
structure RaceRules (k : PlanWalker) (destination : Option PlanDestination) (watching : Bool)
    (Open : Race → WalkWorld → Prop) (Closing : DialOutcome → List LegId → Race → WalkWorld → Prop)
    (cut : WalkWorld → Prop) : Prop where
  stalled : ∀ {race w}, Open race w → cut w
  asked : ∀ {race w}, Open race w → race.result = none →
    cut (sent w (.awaitLegs (race.watched watching)))
  waited : ∀ {race w a rest}, Open race w → race.result = none → a.event = none →
    Open race (replied w (.awaitLegs (race.watched watching)) a rest)
  heard : ∀ {race w a e rest}, Open race w → race.result = none → a.event = some e →
    let u := replied w (.awaitLegs (race.watched watching)) a rest
    let next := race.hear k.wiring.legs destination watching u.state.caller.abandoned e
    Open next.1 (sentAll u (race.settling next.1 ++ next.2))
  aborted : ∀ {race w o}, Open race w → race.result = some o →
    let next := Race.forEach (Race.abortConfirm w.state.caller.abandoned) race.racers
      { race with listening := false }
    Closing o race.legs next.1 (sentAll w next.2)
  closingStalled : ∀ {o todo race w}, Closing o todo race w → cut w
  closingAsked : ∀ {o todo race w} leg, Closing o todo race w → cut (sent w (.awaitHangup leg))
  closingWaited : ∀ {o todo race w a rest} leg, Closing o todo race w → a.event = none →
    Closing o todo race (replied w (.awaitHangup leg) a rest)
  closingHeard : ∀ {o todo race w a e rest} leg, Closing o todo race w → a.event = some e →
    let u := replied w (.awaitHangup leg) a rest
    let next := race.hearClosing u.state.caller.abandoned e
    Closing o todo next.1 (sentAll u next.2)
  skipped : ∀ {o leg todo race w}, Closing o (leg :: todo) race w →
    (isWinner o leg || (race.find leg).any (·.out)) = true → Closing o todo race w
  dropped : ∀ {o leg todo race w}, Closing o (leg :: todo) race w →
    Closing o todo race (sentAll w [.hangupLeg leg (loserCause o)])

namespace RaceRules

variable {Open : Race → WalkWorld → Prop}
variable {Closing : DialOutcome → List LegId → Race → WalkWorld → Prop} {err cut : WalkWorld → Prop}
variable (h : RaceRules k destination watching Open Closing cut)

include h

theorem waitForRace (race : Race) : Sat (Open race) (k.waitForRace destination watching race)
    (ends (Sum.elim Open fun r w => r.1.result = some r.2 ∧ Open r.1 w) err cut) := by
  unfold PlanWalker.waitForRace
  split
  · rename_i outcome hr
    exact sat_pure fun w hw => ⟨hr, hw⟩
  rename_i hr
  apply (sat_asked fun w hw => h.asked hw hr).bind
  intro a
  cases he : a.event with
  | none =>
    apply sat_pure
    rintro _ ⟨w, rest, hw, rfl⟩
    exact h.waited hw hr he
  | some e =>
    apply sat_caller.bind
    intro caller
    refine (sat_told (R := fun _ =>
      Open (race.hear k.wiring.legs destination watching caller.abandoned e).1) ?_).bind ?_
    · rintro _ ⟨rfl, w, rest, hw, rfl⟩
      exact h.heard hw hr he
    · exact fun _ => sat_pure fun w hw => hw

variable {o : DialOutcome} {todo : List LegId}

theorem awaitHangup (leg : LegId) (race : Race) : Sat (Closing o todo race)
    (PlanWalker.awaitHangup leg race)
    (ends (Sum.elim (Closing o todo) (Closing o todo)) err cut) := by
  apply (sat_asked fun w hw => h.closingAsked leg hw).bind
  intro a
  cases he : a.event with
  | none =>
    apply sat_pure
    rintro _ ⟨w, rest, hw, rfl⟩
    exact h.closingWaited leg hw he
  | some e =>
    apply sat_caller.bind
    intro caller
    refine (sat_told (R := fun _ =>
      Closing o todo (race.hearClosing caller.abandoned e).1) ?_).bind ?_
    · rintro _ ⟨rfl, w, rest, hw, rfl⟩
      exact h.closingHeard leg hw he
    · intro _
      apply sat_pure
      intro w hw
      split
      · exact hw
      · exact hw

theorem dropLosers (todo : List LegId) (race : Race) : Sat (Closing o todo race)
    (PlanWalker.dropLosers o todo race) (ends (Closing o []) err cut) := by
  induction todo generalizing race with
  | nil => exact sat_pure fun w hw => hw
  | cons leg rest ih =>
    unfold PlanWalker.dropLosers
    apply Sat.ite
    · intro hs
      exact (ih race).pre fun w hw => h.skipped hw hs
    · intro _
      have hdrop : Sat (Closing o (leg :: rest) race) (Walk.tell (.hangupLeg leg (loserCause o)))
          (ends (fun _ => Closing o rest race) err cut) := fun w hw => h.dropped hw
      apply hdrop.bind
      · intro _
        apply Sat.bind (Sat.loop (fun _ _ hw => h.closingStalled hw) (h.awaitHangup leg) race)
        exact ih

theorem run (race : Race) : Sat (Open race) (do
      let (race, outcome) ← Async.loop (k.waitForRace destination watching) race
      let final ← closeRace race outcome
      pure (final, settleRace final outcome))
    (ends (fun r w => ∃ o, r.2 = settleRace r.1 o ∧ Closing o [] r.1 w) err cut) := by
  apply Sat.bind (Sat.loop (fun _ _ hw => h.stalled hw) h.waitForRace race)
  rintro ⟨race, o⟩
  refine Sat.bind (show Sat _ (closeRace race o) (ends (Closing o []) err cut) from ?_) ?_
  · apply sat_caller.bind
    intro caller
    refine (sat_told (R := fun _ => Closing o race.legs (Race.forEach
      (Race.abortConfirm caller.abandoned) race.racers { race with listening := false }).1) ?_).bind ?_
    · rintro w ⟨rfl, hr, hw⟩
      exact h.aborted hw hr
    · exact fun _ => h.dropLosers _ _
  · exact fun final => sat_pure fun w hw => ⟨o, rfl, hw⟩

end RaceRules

end PlanWalker

structure RaceInv (n : Nat) (w₀ : WalkWorld) (race : Race) (w : WalkWorld) : Prop where
  racing : Racing n w₀ race.legs w
  told : Told w.log → race.result = some .aborted
  ok : RaceOk w.log (Excused w) race

theorem RaceInv.unaware {n : Nat} {w₀ w : WalkWorld} {race : Race} (h : RaceInv n w₀ race w)
    (hr : race.result = none) : ¬Told w.log := by
  intro ht
  have := h.told ht
  rw [hr] at this
  cases this

namespace PlanWalker

variable {k : PlanWalker} {n : Nat} {w₀ w : WalkWorld} {race : Race} {watching : Bool}
variable {destination : Option PlanDestination}

theorem raceInv_heard {a : Reply} {e : Event} {rest : List Reply} (h : RaceInv n w₀ race w)
    (hr : race.result = none) (he : a.event = some e) :
    let u := replied w (.awaitLegs (race.watched watching)) a rest
    let next := race.hear k.wiring.legs destination watching u.state.caller.abandoned e
    RaceInv n w₀ next.1 (sentAll u (race.settling next.1 ++ next.2)) := by
  intro u next
  have hunaware := h.unaware hr
  have htold : Told u.log → race.watched watching = true ∧ e = .callerEnded := by
    intro ht
    obtain ht | ⟨hq, ha⟩ := told_asked ht
    · exact absurd ht hunaware
    · refine ⟨by simpa using hq, ?_⟩
      rw [he] at ha
      exact Option.some.inj ha
  have hracing : Racing n w₀ race.legs u :=
    h.racing.replied rfl (fun _ _ => by simp) fun ht => absurd ht hunaware
  have hcommands : ∀ q ∈ race.settling next.1 ++ next.2,
      q.Gentle ∨ (race.Places q ∧ ¬Told u.log) := by
    intro q hq
    obtain hq | hq := List.mem_append.mp hq
    · exact .inl (Race.gentle_settling hq)
    · obtain hq | ⟨hq, hne⟩ := Race.commands_hear q hq
      · exact .inl hq.toGentle
      · exact .inr ⟨hq, fun ht => hne (htold ht).2⟩
  have hstep := hracing.sentAll hcommands
  have hgrows := grows_sentAll u (race.settling next.1 ++ next.2)
  refine ⟨?_, ?_, ?_⟩
  · have hlegs : next.1.legs = race.legs := Race.legs_hear
    rw [hlegs]
    exact hstep
  · intro ht
    obtain ⟨hw, rfl⟩ := htold (told_sentAll.mp ht)
    exact Race.result_hear_callerEnded hw
  · -- the replies' effect on the caller comes before the race hears of the event
    have hbase : RaceOk (sentAll u (race.settling next.1 ++ next.2)).log
        (Excused (sentAll u (race.settling next.1 ++ next.2))) race :=
      (h.ok.mono (grows_replied w _ a rest).excused).mono hgrows.excused
    apply hbase.hear (a := a) _ he
    · rintro rfl
      apply hgrows.excused
      exact excused_replied (by simp [tells, he])
    · exact fun hab => hgrows.excused fun _ => hab
    · intro q hq
      exact List.mem_append_right _ (List.mem_map_of_mem (List.mem_append_right _ hq))
    · exact List.mem_append_left _ (List.mem_append_right _ (by simp))

/-- A decided race whose losers are being hung up: only those still `todo` may ring. -/
structure CloseInv (n : Nat) (w₀ : WalkWorld) (o : DialOutcome) (todo : List LegId) (race : Race)
    (w : WalkWorld) : Prop where
  racing : Racing n w₀ todo w
  ok : RaceOk w.log (Excused w) race
  answered : ∀ l i, o = .answered l i → Answered w.log l
  excused : o = .aborted → Excused w
  told : o ≠ .aborted → ¬Told w.log

section closing

variable {o : DialOutcome} {todo : List LegId} {leg : LegId}

theorem CloseInv.skip (h : CloseInv n w₀ o (leg :: todo) race w) (hl : ¬Ringing w.log leg) :
    CloseInv n w₀ o todo race w := by
  refine ⟨h.racing.subset ?_, h.ok, h.answered, h.excused, h.told⟩
  intro l hmem hr
  obtain rfl | hmem := List.mem_cons.mp hmem
  · exact absurd hr hl
  · exact hmem

section

variable (h : CloseInv n w₀ o todo race w)

include h

theorem CloseInv.sentAll {race' : Race} {qs : List Request}
    (hqs : ∀ q ∈ qs, q.Gentle)
    (hok : RaceOk (Engine.sentAll w qs).log (Excused (Engine.sentAll w qs)) race') :
    CloseInv n w₀ o todo race' (Engine.sentAll w qs) where
  racing := h.racing.sentGentle hqs
  ok := hok
  answered l i ho := (h.answered l i ho).append _
  excused ho := (grows_sentAll w qs).excused (h.excused ho)
  told ho := told_sentAll.not.mpr (h.told ho)

theorem CloseInv.replied {q : Request} {a : Reply} {rest : List Reply}
    (hq : q.Gentle) :
    CloseInv n w₀ o todo race (replied w q a rest) where
  racing := by
    apply h.racing.replied hq.mark
    · rintro l attempt rfl
      exact absurd hq.dialing (by simp [Request.isDialing])
    · exact fun _ => hq.dialing
  ok := h.ok.mono (grows_replied w q a rest).excused
  answered l i ho := (h.answered l i ho).append _
  excused ho := (grows_replied w q a rest).excused (h.excused ho)
  told ho ht := by
    obtain ht | ⟨rfl, -⟩ := told_asked ht
    · exact h.told ho ht
    · exact absurd hq.dialing (by decide)

theorem not_ringing_of_skipped
    (hs : (isWinner o leg || (race.find leg).any (·.out)) = true) : ¬Ringing w.log leg := by
  obtain hwin | hout := Bool.or_eq_true_iff.mp hs
  · cases o with
    | answered l i =>
      obtain rfl : leg = l := by simpa [isWinner] using hwin
      exact (h.answered leg i rfl).not_ringing
    | _ => cases hwin
  · cases hf : race.find leg with
    | none =>
      rw [hf] at hout
      cases hout
    | some r =>
      rw [hf] at hout
      obtain ⟨hm, rfl⟩ := Race.find_mem hf
      exact ((h.ok.racers r hm).out hout).not_ringing

end

theorem CloseInv.heard {a : Reply} {e : Event} {rest : List Reply} (leg : LegId)
    (h : CloseInv n w₀ o todo race w) (he : a.event = some e) :
    let u := Engine.replied w (.awaitHangup leg) a rest
    let next := race.hearClosing u.state.caller.abandoned e
    CloseInv n w₀ o todo next.1 (Engine.sentAll u next.2) := by
  intro u next
  have h' : CloseInv n w₀ o todo race u := h.replied ⟨rfl, rfl, rfl⟩
  have hgrows := grows_sentAll u next.2
  apply h'.sentAll fun q hq => (Race.modest_hearClosing q hq).toGentle
  apply (h'.ok.mono hgrows.excused).hearClosing
  · rintro rfl
    exact hgrows.excused (excused_replied (by simp [tells, he]))
  · exact fun hab => hgrows.excused fun _ => hab
  · exact fun q hq => List.mem_append_right _ (List.mem_map_of_mem hq)

theorem raceInv_aborted (h : RaceInv n w₀ race w) (hr : race.result = some o) :
    let next := Race.forEach (Race.abortConfirm w.state.caller.abandoned) race.racers
      { race with listening := false }
    CloseInv n w₀ o race.legs next.1 (sentAll w next.2) := by
  intro next
  have hs : race.settled = some o := by
    unfold Race.result at hr
    split at hr
    · exact hr
    · cases hr
  have hopen : CloseInv n w₀ o race.legs { race with listening := false } w := by
    refine ⟨h.racing, ⟨h.ok.racers, h.ok.answered, h.ok.aborted⟩, ?_, ?_, ?_⟩
    · rintro l i rfl
      exact h.ok.answered l i hs
    · rintro rfl
      exact h.ok.aborted hs
    · intro hne ht
      have := h.told ht
      rw [hr] at this
      exact hne (Option.some.inj this)
  have hok : RaceOk (sentAll w next.2).log (Excused (sentAll w next.2)) { race with listening := false } :=
    hopen.ok.mono (grows_sentAll w next.2).excused
  apply hopen.sentAll
  · exact fun q hq => (Race.modest_forEach (fun _ _ => Race.modest_abortConfirm) _ _ q hq).toGentle
  · apply RaceOk.forEach _ hok hok.racers
    · exact fun q hq => List.mem_append_right _ (List.mem_map_of_mem hq)
    · intro race' r hrace hracer hc
      exact hrace.abortConfirm hracer (fun hab => (grows_sentAll w _).excused fun _ => hab) hc

theorem raceInv_rules : RaceRules k destination watching (RaceInv n w₀) (CloseInv n w₀) (Stalled n) where
  stalled h := h.racing.stalled
  asked h hr := (h.racing.sent rfl (fun _ _ => by simp) fun ht => absurd ht (h.unaware hr)).stalled
  waited {_ w a rest} h hr he := by
    refine ⟨?_, ?_, h.ok.mono (grows_replied w _ a rest).excused⟩
    · exact h.racing.replied rfl (fun _ _ => by simp) fun ht => absurd ht (h.unaware hr)
    · intro ht
      obtain ht | ⟨-, ha⟩ := told_asked ht
      · exact absurd ht (h.unaware hr)
      · rw [he] at ha
        cases ha
  heard h hr he := raceInv_heard h hr he
  aborted h hr := raceInv_aborted h hr
  closingStalled h := h.racing.stalled
  closingAsked _ h := (h.racing.sent rfl (fun _ _ => by simp) fun _ => rfl).stalled
  closingWaited _ h _ := h.replied ⟨rfl, rfl, rfl⟩
  closingHeard leg h he := h.heard leg he
  skipped h hs := h.skip (not_ringing_of_skipped h hs)
  dropped {o leg todo race w} h := by
    have h' : CloseInv n w₀ o (leg :: todo) race (sentAll w [.hangupLeg leg (loserCause o)]) := by
      apply h.sentAll
      · intro q hq
        obtain rfl : q = .hangupLeg leg (loserCause o) := by simpa using hq
        exact ⟨rfl, rfl, rfl⟩
      · exact h.ok.mono (grows_sentAll w _).excused
    apply h'.skip
    rintro ⟨-, -, hh⟩
    exact hh ⟨loserCause o, List.mem_append_right _ (by simp)⟩

end closing

structure Racer.Plain (r : Racer) : Prop where
  out : r.out = false
  dropping : r.dropping = false
  confirming : r.confirming = none

theorem enterRace_sat (index : Nat) (attempts : List DialAttempt) :
    Sat (FreeSince n w₀) (k.enterRace destination index attempts)
      (heeding n (fun racers w => FreeSince n w₀ w ∧ ∀ r ∈ racers, Racer.Plain r)) := by
  induction attempts generalizing index with
  | nil => exact sat_pure fun w h => ⟨h, fun r hr => nomatch hr⟩
  | cons attempt rest ih =>
    unfold enterRace
    have hid : Sat (FreeSince n w₀) Walk.newId (heeding n (fun _ => FreeSince n w₀)) :=
      fun w h => ⟨closed_free.state w _ rfl h.1, h.2.log, h.2.gone⟩
    apply hid.bind
    intro leg
    apply (ih (index + 1)).bind
    intro racers
    apply sat_pure
    rintro w ⟨h, hplain⟩
    refine ⟨h, ?_⟩
    intro r hr
    obtain rfl | hr := List.mem_cons.mp hr
    · exact ⟨rfl, rfl, rfl⟩
    · exact hplain r hr

theorem places_firstRequest {racers : List Racer} {q : Request}
    (h : q ∈ racers.filterMap (k.firstRequest destination)) :
    Race.Places { racers := racers } q := by
  obtain ⟨r, hr, hq⟩ := List.mem_filterMap.mp h
  have hl : r.leg ∈ Race.legs { racers := racers } := List.mem_map_of_mem hr
  unfold firstRequest at hq
  split at hq
  · cases hq
  · cases hq
    unfold placing
    split
    · exact ⟨r.leg, r.attempt, hl, .inr ⟨_, rfl⟩⟩
    · exact ⟨r.leg, r.attempt, hl, .inl rfl⟩

theorem raceInv_entered {racers : List Racer} (hf : Free n w) (hg : Grows w₀ w)
    (hp : ∀ r ∈ racers, Racer.Plain r) : RaceInv n w₀ { racers := racers }
      (sentAll w (racers.filterMap (k.firstRequest destination))) where
  racing := by
    have hstart : Racing n w₀ (Race.legs { racers := racers }) w :=
      ⟨hf.fresh.entered, hf.fresh.obeys, hf.fresh.heeded, hg, fun l hl => absurd hl (hf.quiet l)⟩
    exact hstart.sentAll fun q hq => .inr ⟨places_firstRequest hq, hf.fresh.told⟩
  told ht := absurd (told_sentAll.mp ht) hf.fresh.told
  ok :=
    { racers := by
        intro r hr
        have := hp r hr
        refine ⟨?_, ?_, ?_⟩
        · simp [this.out]
        · simp [this.dropping]
        · simp [this.confirming]
      answered := nofun
      aborted := nofun }

theorem settleRace_aborted {o : DialOutcome} : settleRace race o = .aborted ↔ o = .aborted := by
  unfold settleRace
  split
  · split <;> simp
  · rfl

theorem raceToEnd_sat (attempts : List DialAttempt) :
    Sat (fun w => w = w₀ ∧ Free n w) (k.raceToEnd attempts watching)
      (heeding n (fun r => DialEnd n False w₀ r.2)) := by
  unfold raceToEnd
  have hdest : Sat (fun w => w = w₀ ∧ Free n w) Walk.destination
      (heeding n (fun _ => FreeSince n w₀)) := by
    rintro w ⟨rfl, hf⟩
    exact ⟨hf, Grows.refl w⟩
  apply hdest.bind
  intro destination
  apply (enterRace_sat 0 attempts).bind
  intro racers
  have hplace : Sat (fun w => FreeSince n w₀ w ∧ ∀ r ∈ racers, Racer.Plain r)
      (Async.each Walk.tell (racers.filterMap (k.firstRequest destination)))
      (heeding n (fun _ => RaceInv n w₀ { racers := racers })) := by
    apply sat_told
    rintro w ⟨⟨hf, hg⟩, hp⟩
    exact raceInv_entered hf hg hp
  apply hplace.bind
  intro _
  apply (raceInv_rules.run _).post _ (fun _ => id) fun _ => id
  rintro r w ⟨outcome, hr, h⟩
  rw [hr]
  have hquiet : Quiet w.log := fun l hl => nomatch h.racing.ringing l hl
  refine ⟨h.racing.entered, h.racing.obeys, hquiet, h.racing.grows, fun _ => h.racing.heeded, ?_, ?_⟩
  · exact fun ho => h.excused (settleRace_aborted.mp ho)
  · intro ho
    exact ⟨h.racing.heeded, h.told (settleRace_aborted.not.mp ho), h.racing.entered⟩

theorem dialSimultaneous_dials (attempts : List DialAttempt) :
    Dials n False (k.dialSimultaneous attempts watching) := by
  intro w₀
  apply (raceToEnd_sat attempts).bind
  exact fun r => sat_pure fun w h => h

end PlanWalker

end OptimiqVoice.Engine

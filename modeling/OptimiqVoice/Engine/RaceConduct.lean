import OptimiqVoice.Engine.DialConduct

namespace OptimiqVoice.Engine

open Lib Telephony
open Async (Sat ends)

/-- The event says that the leg is out: it ended or could not be placed. -/
def Event.ends (leg : LegId) : Event → Bool
  | .signal l (.ended _) | .claimed l false | .originated l false => l = leg
  | _ => false

def Event.answers (leg : LegId) : Event → Bool
  | .signal l .answered | .signal l .entered => l = leg
  | _ => false

def Over (log : WalkLog) (leg : LegId) : Prop :=
  (∃ a e, .got a ∈ log ∧ a.event = some e ∧ e.ends leg = true) ∨ HungUp log leg

def Answered (log : WalkLog) (leg : LegId) : Prop :=
  ∃ a e, .got a ∈ log ∧ a.event = some e ∧ e.answers leg = true

section reports

variable {log : WalkLog} {leg : LegId}

theorem Event.reports_of_ends {e : Event} (h : e.ends leg = true) : e.reports leg = true := by
  unfold Event.ends at h
  split at h
  · exact h
  · exact h
  · exact h
  · cases h

theorem Event.reports_of_answers {e : Event} (h : e.answers leg = true) : e.reports leg = true := by
  unfold Event.answers at h
  split at h
  · exact h
  · exact h
  · cases h

theorem Over.not_ringing (h : Over log leg) : ¬Ringing log leg := by
  rintro ⟨-, hr, hh⟩
  obtain ⟨a, e, ha, he, hend⟩ | h := h
  · exact hr ⟨a, e, ha, he, Event.reports_of_ends hend⟩
  · exact hh h

theorem Answered.not_ringing (h : Answered log leg) : ¬Ringing log leg := by
  rintro ⟨-, hr, -⟩
  obtain ⟨a, e, ha, he, hans⟩ := h
  exact hr ⟨a, e, ha, he, Event.reports_of_answers hans⟩

theorem Over.append (h : Over log leg) (more : WalkLog) : Over (log ++ more) leg := by
  obtain ⟨a, e, ha, he⟩ | h := h
  · exact .inl ⟨a, e, List.mem_append_left _ ha, he⟩
  · exact .inr (h.append more)

theorem Answered.append (h : Answered log leg) (more : WalkLog) : Answered (log ++ more) leg := by
  obtain ⟨a, e, ha, he⟩ := h
  exact ⟨a, e, List.mem_append_left _ ha, he⟩

end reports

structure RacerOk (log : WalkLog) (exc : Prop) (r : Racer) : Prop where
  out : r.out = true → Over log r.leg
  dropping : r.dropping = true → HungUp log r.leg
  confirming : ∀ c, r.confirming = some c → Answered log r.leg ∧ (c.Blames → exc)

/-- What a race keeps of its legs is backed by what was heard and done. -/
structure RaceOk (log : WalkLog) (exc : Prop) (race : Race) : Prop where
  racers : ∀ r ∈ race.racers, RacerOk log exc r
  answered : ∀ l i, race.settled = some (.answered l i) → Answered log l
  aborted : race.settled = some .aborted → exc

def Race.legs (race : Race) : List LegId := race.racers.map (·.leg)

/-- A request that neither rings anybody nor is about a room. -/
structure Request.Gentle (q : Request) : Prop where
  mark : q.isMark = false
  dialing : q.isDialing = false
  room : q.isRoom = false

def Request.isSettled : Request → Bool
  | .settled _ => true
  | _ => false

/-- Such a request that is not the mark of a decision either. -/
structure Request.Modest (q : Request) : Prop extends Request.Gentle q where
  settled : q.isSettled = false

variable {cause : Option HangupCause} {v : ConfirmVerdict} {confirm : ConfirmRequest}
variable {next : LegId → ConfirmRequest → Confirming → ConfirmNext}
variable {step : Race → Racer → Race × List Request} {legs watching : Bool}
variable {destination : Option PlanDestination}

namespace Race

variable {log : WalkLog} {exc : Prop} {race : Race} {leg : LegId} {f : Racer → Racer}

theorem find_mem {r : Racer} (h : race.find leg = some r) : r ∈ race.racers ∧ r.leg = leg :=
  ⟨List.mem_of_find?_eq_some h, by simpa using List.find?_some h⟩

theorem mem_put {r : Racer} (h : r ∈ (race.put leg f).racers) :
    ∃ s ∈ race.racers, (s.leg = leg ∧ r = f s) ∨ (s.leg ≠ leg ∧ r = s) := by
  simp only [put, List.mem_map] at h
  obtain ⟨s, hs, rfl⟩ := h
  refine ⟨s, hs, ?_⟩
  by_cases hl : s.leg = leg
  · exact .inl ⟨hl, if_pos hl⟩
  · exact .inr ⟨hl, if_neg hl⟩

theorem legs_put (hf : ∀ r, (f r).leg = r.leg) : (race.put leg f).legs = race.legs := by
  simp only [legs, put, List.map_map]
  apply List.map_congr_left
  intro r _
  simp only [Function.comp_apply]
  split
  · exact hf r
  · rfl

theorem legs_legIsOut {r : Racer} : (race.legIsOut r cause).legs = race.legs := by
  have hput : (race.put r.leg ({ · with out := true })).legs = race.legs := legs_put fun _ => rfl
  unfold legIsOut
  dsimp only
  split
  · exact hput
  · exact hput

/-- A step that is only about confirmations: no leg is placed by it, and what is
decided stays decided. -/
structure Confirms (race race' : Race) : Prop where
  legs : race'.legs = race.legs
  placed : race'.allPlaced = race.allPlaced
  listening : race'.listening = race.listening
  settled : ∀ o, race.settled = some o → race'.settled = some o

theorem Confirms.refl (race : Race) : Confirms race race := ⟨rfl, rfl, rfl, fun _ => id⟩

theorem Confirms.trans {race' race'' : Race} (h : Confirms race race') (h' : Confirms race' race'') :
    Confirms race race'' :=
  ⟨h'.legs.trans h.legs, h'.placed.trans h.placed, h'.listening.trans h.listening,
    fun o ho => h'.settled o (h.settled o ho)⟩

theorem confirms_put (hl : ∀ r, (f r).leg = r.leg) (hp : ∀ r, (f r).phase = r.phase) :
    Confirms race (race.put leg f) := by
  refine ⟨legs_put hl, ?_, rfl, fun _ => id⟩
  simp only [allPlaced, put, List.all_map]
  congr 1
  funext r
  simp only [Function.comp_apply]
  split
  · rw [hp r]
  · rfl

theorem confirms_resolve {o : DialOutcome} : Confirms race (race.resolveOutcome o) := by
  refine ⟨rfl, rfl, rfl, ?_⟩
  intro o' ho
  simp [resolveOutcome, ho]

theorem confirms_legIsOut {r : Racer} : Confirms race (race.legIsOut r cause) := by
  have hput : Confirms race (race.put r.leg ({ · with out := true })) :=
    confirms_put (fun _ => rfl) fun _ => rfl
  have hlast : Confirms race { race.put r.leg ({ · with out := true }) with
      lastCause := cause.or race.lastCause } :=
    ⟨hput.legs, hput.placed, hput.listening, hput.settled⟩
  unfold legIsOut
  dsimp only
  split
  · exact hlast.trans confirms_resolve
  · exact hlast

theorem confirms_confirmOver {r : Racer} : Confirms race (race.confirmOver r v).1 := by
  have hput : Confirms race (race.put r.leg ({ · with confirming := none })) :=
    confirms_put (fun _ => rfl) fun _ => rfl
  unfold confirmOver
  cases v with
  | accepted | callerGone => exact hput.trans confirms_resolve
  | _ => exact hput.trans (confirms_put (fun _ => rfl) fun _ => rfl)

theorem confirms_confirmNext {abandoned : Bool} {r : Racer}
    {next : ConfirmNext} : Confirms race (race.confirmNext abandoned r confirm next).1 := by
  unfold confirmNext
  split
  · exact confirms_put (fun _ => rfl) fun _ => rfl
  · exact confirms_confirmOver
  · exact confirms_confirmOver
  · exact confirms_confirmOver
  · split
    · exact confirms_confirmOver
    · exact confirms_put (fun _ => rfl) fun _ => rfl

theorem confirms_confirmStep {abandoned : Bool} {r : Racer}
    : Confirms race (race.confirmStep abandoned next r).1 := by
  unfold confirmStep
  split
  · exact confirms_confirmNext
  · exact .refl race

theorem confirms_forEach
    (hstep : ∀ race r, Confirms race (step race r).1) (rs : List Racer) (race : Race) :
    Confirms race (forEach step rs race).1 := by
  induction rs generalizing race with
  | nil => exact .refl race
  | cons r rest ih => exact (hstep race r).trans (ih _)

theorem confirms_hearClosing {abandoned : Bool} {e : Event} :
    Confirms race (race.hearClosing abandoned e).1 := by
  unfold hearClosing
  split
  · exact confirms_forEach (fun _ _ => confirms_confirmStep) _ _
  · split
    · exact .refl race
    · split
      · dsimp only
        split
        · exact confirms_legIsOut
        · exact .refl race
      · exact confirms_confirmStep

section commands

theorem modest_confirmOver {r : Racer} : ∀ q ∈ (race.confirmOver r v).2, q.Modest := by
  intro q hq
  unfold confirmOver at hq
  cases v with
  | accepted | callerGone => cases hq
  | _ =>
    obtain rfl : q = .hangupLeg r.leg .originatorCancel := by simpa using hq
    exact ⟨⟨rfl, rfl, rfl⟩, rfl⟩

theorem modest_confirmNext {abandoned : Bool} {r : Racer}
    {next : ConfirmNext} (hs : next.Soft r.leg) :
    ∀ q ∈ (race.confirmNext abandoned r confirm next).2, q.Modest := by
  intro q hq
  unfold confirmNext at hq
  split at hq
  · obtain rfl | ⟨media, rfl⟩ := hs q hq
    · exact ⟨⟨rfl, rfl, rfl⟩, rfl⟩
    · exact ⟨⟨rfl, rfl, rfl⟩, rfl⟩
  · exact modest_confirmOver q hq
  · exact modest_confirmOver q hq
  · exact modest_confirmOver q hq
  · split at hq
    · exact modest_confirmOver q hq
    · obtain rfl : q = .promptLeg r.leg confirm.media := by simpa using hq
      exact ⟨⟨rfl, rfl, rfl⟩, rfl⟩

theorem modest_confirmStep {abandoned : Bool} {r : Racer}

    (hs : ∀ confirm c, (next r.leg confirm c).Soft r.leg) :
    ∀ q ∈ (race.confirmStep abandoned next r).2, q.Modest := by
  intro q hq
  unfold confirmStep at hq
  split at hq
  · exact modest_confirmNext (hs _ _) q hq
  · cases hq

theorem modest_confirmHears {abandoned : Bool} {e : Event} {r : Racer} :
    ∀ q ∈ (race.confirmHears abandoned e r).2, q.Modest :=
  modest_confirmStep fun _ _ => Confirming.hear_soft

theorem modest_abortConfirm {abandoned : Bool} {r : Racer} :
    ∀ q ∈ (race.abortConfirm abandoned r).2, q.Modest :=
  modest_confirmStep fun _ _ => Confirming.settleTerminal_soft

theorem modest_forEach
    (hstep : ∀ race r, ∀ q ∈ (step race r).2, q.Modest) (rs : List Racer) (race : Race) :
    ∀ q ∈ (forEach step rs race).2, q.Modest := by
  induction rs generalizing race with
  | nil => exact nofun
  | cons r rest ih =>
    intro q hq
    obtain hq | hq := List.mem_append.mp hq
    · exact hstep race r q hq
    · exact ih _ q hq

theorem modest_hearClosing {abandoned : Bool} {e : Event} :
    ∀ q ∈ (race.hearClosing abandoned e).2, q.Modest := by
  intro q hq
  unfold hearClosing at hq
  split at hq
  · exact modest_forEach (fun _ _ => modest_confirmHears) _ _ q hq
  · split at hq
    · cases hq
    · split at hq
      · cases hq
      · exact modest_confirmHears q hq

def Places (race : Race) (q : Request) : Prop :=
  ∃ leg attempt, leg ∈ race.legs ∧
    (q = .originate leg attempt ∨ ∃ destination, q = .claim leg attempt destination)

theorem places_place {r : Racer} {e : Event}
    (hr : r ∈ race.racers) : ∀ q ∈ (race.place legs destination r e).2, race.Places q := by
  have hl : r.leg ∈ race.legs := List.mem_map_of_mem hr
  intro q hq
  unfold place at hq
  split at hq
  · split at hq
    · cases hq
    · obtain rfl : q = (placing legs destination r.leg r.attempt).2 := by simpa using hq
      unfold placing
      split
      · exact ⟨r.leg, r.attempt, hl, .inr ⟨destination, rfl⟩⟩
      · exact ⟨r.leg, r.attempt, hl, .inl rfl⟩
  · obtain rfl : q = .originate r.leg r.attempt := by simpa using hq
    exact ⟨r.leg, r.attempt, hl, .inl rfl⟩
  · cases hq
  · cases hq
  · cases hq
  · cases hq

theorem commands_hearLeg {abandoned : Bool}
    {r : Racer} {e : Event} (hr : r ∈ race.racers) :
    ∀ q ∈ (race.hearLeg legs destination abandoned r e).2, q.Modest ∨ race.Places q := by
  intro q hq
  cases e with
  | signal l s =>
    left
    cases s with
    | ringing | progress => cases hq
    | dtmf _ | ended _ => exact modest_confirmHears q hq
    | _ =>
      simp only [hearLeg, hearSignal, answered] at hq
      split at hq
      · cases hq
      · split at hq
        · cases hq
        · rename_i confirm _ _
          have hs : (ConfirmNext.round confirm.attempts none).Soft r.leg := trivial
          exact modest_confirmNext hs q hq
  | delayOver _ | claimed _ _ | originated _ _ => exact .inr (places_place hr q hq)
  | progressTimer l =>
    left
    simp only [hearLeg, silent] at hq
    split at hq
    · cases hq
    · obtain rfl : q = .hangupLeg r.leg .originatorCancel := by simpa using hq
      exact ⟨⟨rfl, rfl, rfl⟩, rfl⟩
  | hungUp l => cases hq
  | _ => exact .inl (modest_confirmHears q hq)

theorem commands_hear
    {abandoned : Bool} {e : Event} : ∀ q ∈ (race.hear legs destination watching abandoned e).2,
      q.Modest ∨ (race.Places q ∧ e ≠ .callerEnded) := by
  intro q hq
  unfold hear at hq
  split at hq
  · cases hq
  · left
    dsimp only at hq
    exact modest_forEach (fun _ _ => modest_confirmHears) _ _ q hq
  · rename_i hne
    split at hq
    · cases hq
    · rename_i r hr
      obtain ⟨l, -, hf⟩ := Option.bind_eq_some_iff.mp hr
      obtain hq | hq := commands_hearLeg (find_mem hf).1 q hq
      · exact .inl hq
      · exact .inr ⟨hq, hne⟩

end commands

theorem legs_hearLeg {abandoned : Bool}
    {r : Racer} {e : Event} : (race.hearLeg legs destination abandoned r e).1.legs = race.legs := by
  have hplace : (race.place legs destination r e).1.legs = race.legs := by
    unfold place
    split
    · split
      · exact legs_put fun _ => rfl
      · exact legs_put fun _ => rfl
    · exact legs_put fun _ => rfl
    · exact legs_legIsOut.trans (legs_put fun _ => rfl)
    · exact legs_legIsOut.trans (legs_put fun _ => rfl)
    · exact legs_put fun _ => rfl
    · rfl
  cases e with
  | signal l s =>
    cases s with
    | ringing | progress => exact legs_put fun _ => rfl
    | dtmf digit => exact confirms_confirmStep.legs
    | ended cause => exact confirms_confirmStep.legs.trans legs_legIsOut
    | _ =>
      have harm : (race.put r.leg ({ · with armed := false })).legs = race.legs :=
        legs_put fun _ => rfl
      simp only [hearLeg, hearSignal, answered]
      split
      · exact harm
      · split
        · exact harm
        · refine confirms_confirmNext.legs.trans (Eq.trans ?_ harm)
          exact legs_put fun _ => rfl
  | delayOver _ | claimed _ _ | originated _ _ => exact hplace
  | progressTimer l =>
    have harm : (race.put r.leg ({ · with armed := false })).legs = race.legs :=
      legs_put fun _ => rfl
    simp only [hearLeg, silent]
    split
    · exact harm
    · refine Eq.trans ?_ harm
      exact legs_put fun _ => rfl
  | hungUp l =>
    simp only [hearLeg]
    split
    · exact legs_legIsOut
    · rfl
  | _ => exact confirms_confirmStep.legs

theorem legs_hear {abandoned : Bool}
    {e : Event} : (race.hear legs destination watching abandoned e).1.legs = race.legs := by
  unfold hear
  split
  · rfl
  · dsimp only
    refine (confirms_forEach (fun _ _ => confirms_confirmStep) _ _).legs.trans ?_
    split <;> rfl
  · split
    · rfl
    · exact legs_hearLeg

theorem result_hear_callerEnded
    {abandoned : Bool} (h : race.watched watching = true) :
    (race.hear legs destination watching abandoned .callerEnded).1.result = some .aborted := by
  simp only [watched, Bool.and_eq_true, Option.isNone_iff_eq_none] at h
  obtain ⟨⟨hw, hp⟩, hs⟩ := h
  have hconf : Confirms (race.resolveOutcome .aborted)
      (race.hear legs destination watching abandoned .callerEnded).1 := by
    simp only [hear, hw, if_true]
    exact confirms_forEach (fun _ _ => confirms_confirmStep) _ _
  have hplaced : (race.hear legs destination watching abandoned .callerEnded).1.allPlaced = true :=
    hconf.placed.trans hp
  rw [result, if_pos hplaced]
  exact hconf.settled _ (by simp [resolveOutcome, hs])

end Race

namespace RaceOk

variable {log : WalkLog} {exc : Prop} {race : Race} {leg : LegId} {f : Racer → Racer}

section

variable (h : RaceOk log exc race)

include h

theorem put (hf : ∀ r, r.leg = leg → RacerOk log exc r → RacerOk log exc (f r)) :
    RaceOk log exc (race.put leg f) where
  racers r hr := by
    obtain ⟨s, hs, ⟨hl, rfl⟩ | ⟨-, rfl⟩⟩ := Race.mem_put hr
    · exact hf s hl (h.racers s hs)
    · exact h.racers r hs
  answered := h.answered
  aborted := h.aborted

theorem resolve {o : DialOutcome}
    (ha : ∀ l i, o = .answered l i → Answered log l) (hb : o = .aborted → exc) :
    RaceOk log exc (race.resolveOutcome o) where
  racers := h.racers
  answered l i hs := by
    cases hr : race.settled with
    | none =>
      simp only [Race.resolveOutcome, hr, Option.none_or, Option.some.injEq] at hs
      exact ha l i hs
    | some o' =>
      apply h.answered l i
      simpa only [Race.resolveOutcome, hr, Option.some_or] using hs
  aborted hs := by
    cases hr : race.settled with
    | none =>
      simp only [Race.resolveOutcome, hr, Option.none_or, Option.some.injEq] at hs
      exact hb hs
    | some o' =>
      apply h.aborted
      simpa only [Race.resolveOutcome, hr, Option.some_or] using hs

theorem legIsOut {r : Racer} (ho : Over log r.leg) : RaceOk log exc (race.legIsOut r cause) := by
  have hput : RaceOk log exc
      { race.put r.leg ({ · with out := true }) with lastCause := cause.or race.lastCause } := by
    have hout : RaceOk log exc (race.put r.leg ({ · with out := true })) :=
      h.put fun s hs hok => ⟨fun _ => hs ▸ ho, hok.dropping, hok.confirming⟩
    exact ⟨hout.racers, hout.answered, hout.aborted⟩
  unfold Race.legIsOut
  dsimp only
  split
  · apply hput.resolve
    · intro l i heq
      split at heq <;> cases heq
    · intro heq
      split at heq <;> cases heq
  · exact hput

theorem confirmOver {r : Racer} (ha : Answered log r.leg) (hb : v = .callerGone → exc)
    (hc : ∀ q ∈ (race.confirmOver r v).2, .sent q ∈ log) :
    RaceOk log exc (race.confirmOver r v).1 := by
  have hput : RaceOk log exc (race.put r.leg ({ · with confirming := none })) :=
    h.put fun s _ hok => ⟨hok.out, hok.dropping, nofun⟩
  unfold Race.confirmOver at hc ⊢
  cases v with
  | accepted =>
    apply hput.resolve
    · intro l i heq
      cases heq
      exact ha
    · exact nofun
  | callerGone =>
    apply hput.resolve
    · exact nofun
    · exact fun _ => hb rfl
  | _ =>
    apply hput.put
    intro s hs hok
    refine ⟨hok.out, fun _ => ?_, hok.confirming⟩
    rw [hs]
    exact ⟨.originatorCancel, hc _ (by simp)⟩

theorem confirmNext {abandoned : Bool} {r : Racer}
    {next : ConfirmNext} (ha : Answered log r.leg) (hb : next.Blames → exc) (hab : abandoned = true → exc)
    (hc : ∀ q ∈ (race.confirmNext abandoned r confirm next).2, .sent q ∈ log) :
    RaceOk log exc (race.confirmNext abandoned r confirm next).1 := by
  have hopen : ∀ c : Confirming, (c.Blames → exc) →
      RaceOk log exc (race.put r.leg ({ · with confirming := some c })) := by
    intro c hblame
    apply h.put
    intro s hs hok
    refine ⟨hok.out, hok.dropping, fun c' hc' => ?_⟩
    cases hc'
    exact ⟨hs ▸ ha, hblame⟩
  unfold Race.confirmNext at hc ⊢
  split at hc
  · exact hopen _ hb
  · exact h.confirmOver ha hb hc
  · rename_i terminal
    apply h.confirmOver ha _ hc
    intro hv
    apply hb
    cases ht : terminal with
    | none =>
      rw [ht] at hv
      cases hv
    | some v =>
      rw [ht] at hv
      exact congrArg some hv
  · exact h.confirmOver ha (fun hv => hb (congrArg some hv)) hc
  · split at hc
    · rename_i hab'
      rw [if_pos hab']
      exact h.confirmOver ha (fun _ => hab hab') hc
    · rename_i hab'
      rw [if_neg hab']
      apply hopen
      rintro (hb | hb)
      · cases hb
      · cases hb

theorem confirmStep {abandoned : Bool} {r : Racer} (hr : RacerOk log exc r)
    (hb : ∀ confirm c, (next r.leg confirm c).Blames → c.Blames ∨ exc) (hab : abandoned = true → exc)
    (hc : ∀ q ∈ (race.confirmStep abandoned next r).2, .sent q ∈ log) :
    RaceOk log exc (race.confirmStep abandoned next r).1 := by
  unfold Race.confirmStep at hc ⊢
  split at hc
  · rename_i c confirm hconf _
    obtain ⟨ha, hblame⟩ := hr.confirming c hconf
    apply h.confirmNext ha _ hab hc
    intro hnext
    obtain hnext | hnext := hb confirm c hnext
    · exact hblame hnext
    · exact hnext
  · exact h

theorem confirmHears {abandoned : Bool} {e : Event} {r : Racer}
    (hr : RacerOk log exc r) (he : e = .callerEnded → exc) (hab : abandoned = true → exc)
    (hc : ∀ q ∈ (race.confirmHears abandoned e r).2, .sent q ∈ log) :
    RaceOk log exc (race.confirmHears abandoned e r).1 := by
  apply h.confirmStep hr _ hab hc
  intro confirm c hb
  obtain hb | hb := Confirming.hear_blames hb
  · exact .inl hb
  · exact .inr (he hb)

theorem abortConfirm {abandoned : Bool} {r : Racer}
    (hr : RacerOk log exc r) (hab : abandoned = true → exc)
    (hc : ∀ q ∈ (race.abortConfirm abandoned r).2, .sent q ∈ log) :
    RaceOk log exc (race.abortConfirm abandoned r).1 := by
  apply h.confirmStep hr _ hab hc
  intro confirm c hb
  obtain hb | ⟨-, hb⟩ := Confirming.settleTerminal_blames hb
  · exact .inl hb
  · cases hb

end

theorem forEach {rs : List Racer} (hstep : ∀ race r, RaceOk log exc race → RacerOk log exc r →
      (∀ q ∈ (step race r).2, .sent q ∈ log) → RaceOk log exc (step race r).1)
    (h : RaceOk log exc race) (hrs : ∀ r ∈ rs, RacerOk log exc r)
    (hc : ∀ q ∈ (Race.forEach step rs race).2, .sent q ∈ log) :
    RaceOk log exc (Race.forEach step rs race).1 := by
  induction rs generalizing race with
  | nil => exact h
  | cons r rest ih =>
    have hone : RaceOk log exc (step race r).1 :=
      hstep race r h (hrs r (by simp)) fun q hq => hc q (List.mem_append_left _ hq)
    exact ih hone (fun s hs => hrs s (by simp [hs])) fun q hq => hc q (List.mem_append_right _ hq)

theorem mono {more : WalkLog} {exc' : Prop} (h : RaceOk log exc race) (he : exc → exc') :
    RaceOk (log ++ more) exc' race where
  racers r hr :=
    { out := fun ho => ((h.racers r hr).out ho).append more
      dropping := fun hd => ((h.racers r hr).dropping hd).append more
      confirming := fun c hc =>
        ⟨((h.racers r hr).confirming c hc).1.append more,
          fun hb => he (((h.racers r hr).confirming c hc).2 hb)⟩ }
  answered l i hs := (h.answered l i hs).append more
  aborted hs := he (h.aborted hs)

theorem putPlain (h : RaceOk log exc race) {leg : LegId} {f : Racer → Racer}
    (hf : ∀ r, (f r).leg = r.leg ∧ (f r).out = r.out ∧ (f r).dropping = r.dropping ∧
      (f r).confirming = r.confirming) : RaceOk log exc (race.put leg f) := by
  apply h.put
  intro r _ hr
  obtain ⟨hl, ho, hd, hc⟩ := hf r
  exact ⟨fun h => hl ▸ hr.out (ho ▸ h), fun h => hl ▸ hr.dropping (hd ▸ h),
    fun c h => hl ▸ hr.confirming c (hc ▸ h)⟩

section events

variable {a : Reply} {e : Event} {abandoned : Bool} {r : Racer}

variable (h : RaceOk log exc race)

include h

theorem answeredStep (ha : Answered log r.leg) (hab : abandoned = true → exc)
    (hc : ∀ q ∈ (race.answered abandoned r).2, .sent q ∈ log) :
    RaceOk log exc (race.answered abandoned r).1 := by
  have hput : RaceOk log exc (race.put r.leg ({ · with armed := false })) :=
    h.putPlain fun _ => ⟨rfl, rfl, rfl, rfl⟩
  unfold Race.answered at hc ⊢
  dsimp only at hc ⊢
  split at hc
  · apply hput.resolve
    · intro l i heq
      cases heq
      exact ha
    · exact nofun
  · split at hc
    · rename_i hout
      rw [if_pos hout]
      exact hput
    · rename_i hout
      rw [if_neg hout]
      apply RaceOk.confirmNext _ ha nofun hab hc
      exact hput.putPlain fun _ => ⟨rfl, rfl, rfl, rfl⟩

theorem hearSignal {s : LegSignal} (hr : RacerOk log exc r)
    (hin : .got a ∈ log) (he : a.event = some (.signal r.leg s)) (hab : abandoned = true → exc)
    (hc : ∀ q ∈ (race.hearSignal abandoned r s).2, .sent q ∈ log) :
    RaceOk log exc (race.hearSignal abandoned r s).1 := by
  cases s with
  | ringing | progress => exact h.putPlain fun _ => ⟨rfl, rfl, rfl, rfl⟩
  | answered | entered => exact h.answeredStep ⟨a, _, hin, he, by simp [Event.answers]⟩ hab hc
  | dtmf digit => exact h.confirmHears hr nofun hab hc
  | ended cause =>
    have hover : Over log r.leg := .inl ⟨a, _, hin, he, by simp [Event.ends]⟩
    exact (h.legIsOut hover).confirmHears hr nofun hab hc

theorem place (hin : .got a ∈ log) (he : a.event = some e) (hl : Race.eventLeg e = some r.leg) :
    RaceOk log exc (race.place legs destination r e).1 := by
  unfold Race.place
  split
  · split
    · exact h.putPlain fun _ => ⟨rfl, rfl, rfl, rfl⟩
    · exact h.putPlain fun _ => ⟨rfl, rfl, rfl, rfl⟩
  · exact h.putPlain fun _ => ⟨rfl, rfl, rfl, rfl⟩
  · apply RaceOk.legIsOut
    · exact h.putPlain fun _ => ⟨rfl, rfl, rfl, rfl⟩
    · exact .inl ⟨a, _, hin, he, by simpa [Event.ends, Race.eventLeg] using hl⟩
  · apply RaceOk.legIsOut
    · exact h.putPlain fun _ => ⟨rfl, rfl, rfl, rfl⟩
    · exact .inl ⟨a, _, hin, he, by simpa [Event.ends, Race.eventLeg] using hl⟩
  · exact h.putPlain fun _ => ⟨rfl, rfl, rfl, rfl⟩
  · exact h

theorem silent (hc : ∀ q ∈ (race.silent r).2, .sent q ∈ log) :
    RaceOk log exc (race.silent r).1 := by
  have hput : RaceOk log exc (race.put r.leg ({ · with armed := false })) :=
    h.putPlain fun _ => ⟨rfl, rfl, rfl, rfl⟩
  unfold Race.silent at hc ⊢
  dsimp only at hc ⊢
  split at hc
  · rename_i hs
    rw [if_pos hs]
    exact hput
  · rename_i hs
    rw [if_neg hs]
    apply hput.put
    intro s hs hok
    refine ⟨hok.out, fun _ => ?_, hok.confirming⟩
    rw [hs]
    exact ⟨.originatorCancel, hc _ (by simp)⟩

theorem hungUp (hr : RacerOk log exc r) :
    RaceOk log exc (if r.dropping then race.legIsOut r none else race) := by
  split
  · rename_i hd
    exact h.legIsOut (.inr (hr.dropping hd))
  · exact h

theorem hearLeg (hr : RacerOk log exc r) (hin : .got a ∈ log) (he : a.event = some e)
    (hl : Race.eventLeg e = some r.leg) (hcaller : e = .callerEnded → exc) (hab : abandoned = true → exc)
    (hc : ∀ q ∈ (race.hearLeg legs destination abandoned r e).2, .sent q ∈ log) :
    RaceOk log exc (race.hearLeg legs destination abandoned r e).1 := by
  cases e with
  | signal l s =>
    have hl' : l = r.leg := by simpa [Race.eventLeg] using hl
    subst hl'
    exact h.hearSignal hr hin he hab hc
  | delayOver _ | claimed _ _ | originated _ _ => exact h.place hin he hl
  | progressTimer l => exact h.silent hc
  | hungUp l => exact h.hungUp hr
  | _ => exact h.confirmHears hr hcaller hab hc

theorem hear (hin : .got a ∈ log) (he : a.event = some e) (hcaller : e = .callerEnded → exc)
    (hab : abandoned = true → exc)
    (hc : ∀ q ∈ (race.hear legs destination watching abandoned e).2, .sent q ∈ log) :
    RaceOk log exc (race.hear legs destination watching abandoned e).1 := by
  have hleg : ∀ r, (Race.eventLeg e).bind race.find = some r →
      r ∈ race.racers ∧ Race.eventLeg e = some r.leg := by
    intro r hr
    obtain ⟨l, hl, hf⟩ := Option.bind_eq_some_iff.mp hr
    obtain ⟨hm, rfl⟩ := Race.find_mem hf
    exact ⟨hm, hl⟩
  unfold Race.hear at hc ⊢
  split at hc
  · exact h.resolve nofun nofun
  · dsimp only at hc ⊢
    have hstart : RaceOk log exc (if watching then race.resolveOutcome .aborted else race) := by
      split
      · exact h.resolve nofun fun _ => hcaller rfl
      · exact h
    apply RaceOk.forEach _ hstart hstart.racers hc
    intro race' r' h' hr' hc'
    exact h'.confirmHears hr' hcaller hab hc'
  · split at hc
    · exact h
    · rename_i r hr
      obtain ⟨hm, hl⟩ := hleg r hr
      exact h.hearLeg (h.racers r hm) hin he hl hcaller hab hc

theorem hearClosing (hcaller : e = .callerEnded → exc) (hab : abandoned = true → exc)
    (hc : ∀ q ∈ (race.hearClosing abandoned e).2, .sent q ∈ log) :
    RaceOk log exc (race.hearClosing abandoned e).1 := by
  have hleg : ∀ r, (Race.eventLeg e).bind race.find = some r → r ∈ race.racers := by
    intro r hr
    obtain ⟨l, hl, hf⟩ := Option.bind_eq_some_iff.mp hr
    exact (Race.find_mem hf).1
  unfold Race.hearClosing at hc ⊢
  split at hc
  · apply RaceOk.forEach _ h h.racers hc
    intro race' r' h' hr' hc'
    exact h'.confirmHears hr' hcaller hab hc'
  · split at hc
    · exact h
    · rename_i r hr
      split at hc
      · exact h.hungUp (h.racers r (hleg r hr))
      · exact h.confirmHears (h.racers r (hleg r hr)) hcaller hab hc

end events

end RaceOk

end OptimiqVoice.Engine

import OptimiqVoice.Engine.Limbo
import OptimiqVoice.Engine.RaceWinner
import OptimiqVoice.Lib.Transcript

namespace OptimiqVoice.Engine

open Lib Telephony
open Async (Sat ends sat_pure)

namespace Race

variable {race : Race} {r : Racer} {abandoned : Bool} {e : Event} {o : DialOutcome}

section

variable (h : race.settled = some o)

include h

theorem place_settled {legs : Bool} {destination : Option PlanDestination}
    : (race.place legs destination r e).1.settled = some o := by
  have hout : ∀ phase cause, ((race.put r.leg ({ · with phase := phase })).legIsOut r cause).settled =
      some o := fun _ _ => confirms_legIsOut.settled o h
  unfold place
  split
  · split
    · exact h
    · exact h
  · exact h
  · exact hout _ _
  · exact hout _ _
  · exact h
  · exact h

theorem hearLeg_settled {legs : Bool} {destination : Option PlanDestination}
    :
    (race.hearLeg legs destination abandoned r e).1.settled = some o := by
  cases e with
  | signal l s =>
    cases s with
    | ringing | progress => exact h
    | dtmf digit => exact confirms_confirmStep.settled o h
    | ended cause => exact (confirms_legIsOut.trans confirms_confirmStep).settled o h
    | _ =>
      have hsome : race.settled.isSome := by simp [h]
      simp only [hearLeg, hearSignal, answered, hsome, Bool.or_true, if_true]
      split
      · exact confirms_resolve.settled o h
      · exact h
  | delayOver _ | claimed _ _ | originated _ _ => exact place_settled h
  | progressTimer l =>
    simp only [hearLeg, silent]
    split
    · exact h
    · exact h
  | hungUp l =>
    simp only [hearLeg]
    split
    · exact confirms_legIsOut.settled o h
    · exact h
  | _ => exact confirms_confirmStep.settled o h

theorem hear_settled {legs watching : Bool} {destination : Option PlanDestination}
    :
    (race.hear legs destination watching abandoned e).1.settled = some o := by
  unfold hear
  split
  · exact confirms_resolve.settled o h
  · dsimp only
    apply (confirms_forEach (fun _ _ => confirms_confirmStep) _ _).settled
    split
    · exact confirms_resolve.settled o h
    · exact h
  · split
    · exact h
    · exact hearLeg_settled h

end

end Race

def Unsettled (log : WalkLog) : Prop := ∀ q, .sent q ∈ log → q.isSettled = false

/-- The answer the race is decided for had the accept digit it needs, and was not lost. -/
abbrev Earned (E : Enrolment) (pre : WalkLog) (o : DialOutcome) : Prop :=
  ∀ l i, o = .answered l i → ∃ attempt, E l i attempt ∧
    (∀ confirm, attempt.confirm = some confirm → TookDigit pre l confirm.acceptDigit) ∧
    (Orderly (attempt.confirm.map (·.acceptDigit)) pre l → ¬Lost pre l)

/-- The race was decided once, for an answer only with the accept digit it needs,
and, as far as that leg's events came in time, not for one that was lost. -/
def Decided (E : Enrolment) (log : WalkLog) (o : DialOutcome) : Prop :=
  ∃ pre post, log = pre ++ .sent (.settled o) :: post ∧ Unsettled pre ∧ Unsettled post ∧
    ∀ l i, o = .answered l i → ∃ attempt, E l i attempt ∧
      (∀ confirm, attempt.confirm = some confirm → TookDigit pre l confirm.acceptDigit) ∧
      (Orderly (attempt.confirm.map (·.acceptDigit)) pre l → ¬Lost pre l)

theorem Unsettled.append {log more : WalkLog} (h : Unsettled log) (hm : Unsettled more) :
    Unsettled (log ++ more) :=
  Async.sent_append h hm

theorem unsettled_sent {qs : List Request} (h : ∀ q ∈ qs, q.isSettled = false) :
    Unsettled (qs.map .sent) := by
  intro q hq
  obtain ⟨q', hq', heq⟩ := List.mem_map.mp hq
  cases heq
  exact h q hq'

theorem unsettled_asked {q : Request} {a : Reply} (h : q.isSettled = false) :
    Unsettled [.sent q, .got a] :=
  Async.sent_ask h nofun

theorem Decided.append {E : Enrolment} {log more : WalkLog} {o : DialOutcome}
    (h : Decided E log o) (hm : Unsettled more) : Decided E (log ++ more) o := by
  obtain ⟨pre, post, rfl, hpre, hpost, hwin⟩ := h
  exact ⟨pre, post ++ more, by simp, hpre, hpost.append hm, hwin⟩

structure RaceFacts (E : Enrolment) (ls : List LegId) (log : WalkLog) (race : Race) : Prop where
  ok : RaceOk log True race
  traces : ∀ r ∈ race.racers, RacerTrace E True log r
  legs : race.legs = ls
  nodup : race.legs.Nodup
  originated : ∀ l attempt, .sent (.originate l attempt) ∈ log → l ∈ race.legs
  unsettled : race.settled = none → Unsettled log
  decided : ∀ o, race.settled = some o → Decided E log o

section facts

variable {E : Enrolment} {ls : List LegId} {log : WalkLog} {race : Race} {a : Reply} {e : Event}
variable {legs watching abandoned : Bool} {destination : Option PlanDestination}

theorem Race.Places.unsettled {q : Request} (h : race.Places q) : q.isSettled = false := by
  obtain ⟨leg, attempt, -, rfl | ⟨_, rfl⟩⟩ := h
  · rfl
  · rfl

theorem hear_unsettled {q : Request}
    (h : q ∈ (race.hear legs destination watching abandoned e).2) : q.isSettled = false := by
  obtain hq | ⟨hq, -⟩ := Race.commands_hear q h
  · exact hq.settled
  · exact hq.unsettled

theorem originated_of_modest {qs : List Request} {l : LegId} {attempt : DialAttempt}
    (hqs : ∀ q ∈ qs, q.Gentle ∨ race.Places q) (h : .originate l attempt ∈ qs) : l ∈ race.legs := by
  obtain hq | ⟨leg, _, hl, heq | ⟨_, heq⟩⟩ := hqs _ h
  · exact absurd hq.dialing (by simp [Request.isDialing])
  · cases heq
    exact hl
  · cases heq

variable {b : Bool}

theorem decided_now {o : DialOutcome} (h : RaceFacts E ls log race) (he : a.event = some e)
    (hs : race.settled = none)
    (hn : (race.hear legs destination watching abandoned e).1.settled = some o) :
    Earned E (log ++ [.sent (.awaitLegs b), .got a]) o := by
  rintro l i rfl
  have hwin : WinsBy race e l i := by
    obtain hset | hwin := Race.settled_hear (fun r hr => (h.traces r hr).sane) hn
    · rw [hs] at hset
      cases hset
    · exact hwin
  have hhears : Hears log (log ++ [.sent (.awaitLegs b), .got a] ++ ([] : List Request).map .sent) e :=
    hears_of_asked trivial he nofun
  simp only [List.map_nil, List.append_nil] at hhears
  obtain ⟨r, hr, rfl, rfl, ⟨hnone, hans⟩ | ⟨c, confirm, hconfirm, hc, hp, rfl⟩⟩ := hwin
  · refine ⟨r.attempt, (h.traces r hr).enrolled, ?_, ?_⟩
    · intro confirm hconfirm
      rw [hnone] at hconfirm
      cases hconfirm
    · intro ho hlost
      obtain hlost | ⟨cause, rfl⟩ := hhears.lost _ hlost
      · exact (hhears.orderly _ _ ho).2.1 hans hlost
      · simp [Event.answers] at hans
  · have htrace := h.traces r hr
    refine ⟨r.attempt, htrace.enrolled, ?_, ?_⟩
    · intro confirm' hconfirm'
      obtain rfl : confirm' = confirm := Option.some.inj (hconfirm'.symm.trans hconfirm)
      apply TookDigit.append
      apply took_of_stopping
      rw [htrace.prompt, hc]
      exact prompt_eq_digit.mpr hp
    · intro ho hlost
      obtain hlost | ⟨cause, he'⟩ := hhears.lost _ hlost
      · have hdoom := htrace.doomed trivial (hhears.orderly _ _ ho).1 c hc hlost
        exact hdoom.digit confirm.acceptDigit (by simp [Racer.accept, hconfirm]) hp
      · cases he'

theorem raceFacts_heard (h : RaceFacts E ls log race) (he : a.event = some e) :
    let next := race.hear legs destination watching abandoned e
    RaceFacts E ls (log ++ [.sent (.awaitLegs b), .got a] ++ (race.settling next.1).map .sent ++
      next.2.map .sent) next.1 := by
  intro next
  have hlegs : next.1.legs = race.legs := Race.legs_hear
  have hmarks : ∀ q ∈ race.settling next.1, ∃ o, q = .settled o := by
    intro q hq
    unfold Race.settling at hq
    split at hq
    · exact ⟨_, by simpa using hq⟩
    · cases hq
  have haside : ∀ q ∈ race.settling next.1, q.Aside := by
    intro q hq
    obtain ⟨o, rfl⟩ := hmarks q hq
    trivial
  have hcommands : Unsettled (next.2.map .sent) := unsettled_sent fun q hq => hear_unsettled hq
  refine ⟨?_, ?_, hlegs.trans h.legs, ?_, ?_, ?_, ?_⟩
  · have hbase : RaceOk (log ++ ([.sent (.awaitLegs b), .got a] ++
        (race.settling next.1).map .sent ++ next.2.map .sent)) True race := h.ok.mono id
    simp only [List.append_assoc] at hbase ⊢
    apply hbase.hear (a := a) (by simp) he (fun _ => trivial) fun _ => trivial
    intro q hq
    simp [next, hq]
  · exact hear_trace h.nodup (hears_of_asked trivial he haside) h.traces
  · rw [hlegs]
    exact h.nodup
  · intro l attempt hl
    rw [hlegs]
    simp only [List.mem_append, List.mem_cons, List.mem_map, Moment.sent.injEq, reduceCtorEq,
      List.not_mem_nil, or_false, exists_eq_right] at hl
    obtain (hl | hl) | hl := hl
    · exact h.originated l attempt hl
    · obtain ⟨o, heq⟩ := hmarks _ hl
      cases heq
    · apply originated_of_modest _ hl
      intro q hq
      obtain hq | ⟨hq, -⟩ := Race.commands_hear q hq
      · exact .inl hq.toGentle
      · exact .inr hq
  · intro hs
    have hnone : race.settled = none := by
      cases hr : race.settled with
      | none => rfl
      | some o => rw [Race.hear_settled hr] at hs; cases hs
    have hsettling : race.settling next.1 = [] := by simp [Race.settling, hs]
    rw [hsettling]
    simp only [List.map_nil, List.append_nil]
    exact ((h.unsettled hnone).append (unsettled_asked rfl)).append hcommands
  · intro o ho
    cases hr : race.settled with
    | none =>
      have hsettling : race.settling next.1 = [.settled o] := by simp [Race.settling, hr, ho]
      rw [hsettling]
      exact ⟨log ++ [.sent (.awaitLegs b), .got a], next.2.map .sent, by simp,
        (h.unsettled hr).append (unsettled_asked rfl), hcommands, decided_now h he hr ho⟩
    | some o' =>
      obtain rfl : o' = o := Option.some.inj ((Race.hear_settled hr).symm.trans ho)
      have hsettling : race.settling next.1 = [] := by simp [Race.settling, hr]
      rw [hsettling]
      simp only [List.map_nil, List.append_nil]
      exact ((h.decided o' hr).append (unsettled_asked rfl)).append hcommands

/-- A decided race whose losers are being hung up: all but those still `todo` are. -/
structure CloseFacts (E : Enrolment) (ls : List LegId) (o : DialOutcome) (todo : List LegId) (log : WalkLog)
    (race : Race) : Prop where
  ok : RaceOk log True race
  traces : ∀ r ∈ race.racers, RacerTrace E False log r
  legs : race.legs = ls
  nodup : race.legs.Nodup
  originated : ∀ l attempt, .sent (.originate l attempt) ∈ log → l ∈ race.legs
  decided : Decided E log o
  listening : race.listening = false
  handled : ∀ l ∈ race.legs, l ∈ todo ∨ PlanWalker.isWinner o l = true ∨ Over log l

namespace CloseFacts

variable {o : DialOutcome} {todo : List LegId} {leg : LegId} {race' : Race} {more : WalkLog}

theorem goesOn (h : CloseFacts E ls o todo log race) (hc : Race.Confirms race race')
    (hok : RaceOk (log ++ more) True race')
    (ht : ∀ r ∈ race'.racers, RacerTrace E False (log ++ more) r) (hm : Unsettled more)
    (ho : ∀ l attempt, .sent (.originate l attempt) ∉ more) :
    CloseFacts E ls o todo (log ++ more) race' where
  ok := hok
  traces := ht
  legs := hc.legs.trans h.legs
  nodup := by
    rw [hc.legs]
    exact h.nodup
  originated l attempt hl := by
    rw [hc.legs]
    obtain hl | hl := List.mem_append.mp hl
    · exact h.originated l attempt hl
    · exact absurd hl (ho l attempt)
  decided := h.decided.append hm
  listening := hc.listening.trans h.listening
  handled l hl := by
    rw [hc.legs] at hl
    obtain hl | hl | hl := h.handled l hl
    · exact .inl hl
    · exact .inr (.inl hl)
    · exact .inr (.inr (hl.append more))

theorem not_originate_of_modest {qs : List Request} (hqs : ∀ q ∈ qs, q.Modest) :
    ∀ l attempt, Moment.sent (.originate l attempt) ∉ qs.map (Moment.sent (A := Reply)) := by
  intro l attempt hmem
  obtain ⟨q, hq, heq⟩ := List.mem_map.mp hmem
  cases heq
  exact absurd (hqs _ hq).dialing (by simp [Request.isDialing])

section

variable (h : CloseFacts E ls o todo log race)

include h

theorem heard (he : a.event = some e) :
    let next := race.hearClosing abandoned e
    CloseFacts E ls o todo (log ++ [.sent (.awaitHangup leg), .got a] ++ next.2.map .sent) next.1 := by
  intro next
  have hmodest : ∀ q ∈ next.2, q.Modest := Race.modest_hearClosing
  have hhears : Hears log (log ++ [.sent (.awaitHangup leg), .got a] ++
      ([] : List Request).map .sent) e :=
    hears_of_asked trivial he nofun
  simp only [List.map_nil, List.append_nil] at hhears
  rw [List.append_assoc]
  apply h.goesOn Race.confirms_hearClosing
  · have hbase : RaceOk (log ++ ([.sent (.awaitHangup leg), .got a] ++ next.2.map .sent)) True race :=
      h.ok.mono id
    apply hbase.hearClosing (fun _ => trivial) fun _ => trivial
    intro q hq
    simp [next, hq]
  · rw [← List.append_assoc]
    exact hearClosing_trace h.nodup hhears h.traces
  · exact (unsettled_asked rfl).append (unsettled_sent fun q hq => (hmodest q hq).settled)
  · intro l attempt hmem
    obtain hmem | hmem := List.mem_append.mp hmem
    · simp at hmem
    · exact not_originate_of_modest hmodest l attempt hmem

theorem waited (ha : a.event = none) :
    CloseFacts E ls o todo (log ++ [.sent (.awaitHangup leg), .got a]) race := by
  apply h.goesOn (Race.Confirms.refl race) (h.ok.mono id)
  · exact fun r hr => (h.traces r hr).silence trivial ha
  · exact unsettled_asked rfl
  · simp

theorem sentAll {qs : List Request}
    (hc : Race.Confirms race race') (hqs : ∀ q ∈ qs, q.Modest)
    (hok : RaceOk (log ++ qs.map .sent) True race')
    (ht : ∀ r ∈ race'.racers, RacerTrace E False (log ++ qs.map .sent) r) :
    CloseFacts E ls o todo (log ++ qs.map .sent) race' :=
  h.goesOn hc hok ht (unsettled_sent fun q hq => (hqs q hq).settled) (not_originate_of_modest hqs)

end

theorem skip (h : CloseFacts E ls o (leg :: todo) log race)
    (hl : PlanWalker.isWinner o leg = true ∨ Over log leg) : CloseFacts E ls o todo log race := by
  refine ⟨h.ok, h.traces, h.legs, h.nodup, h.originated, h.decided, h.listening, ?_⟩
  intro l hmem
  obtain hl' | hl' := h.handled l hmem
  · obtain rfl | hl' := List.mem_cons.mp hl'
    · exact .inr hl
    · exact .inl hl'
  · exact .inr hl'

theorem drop {cause : HangupCause} (h : CloseFacts E ls o (leg :: todo) log race) :
    CloseFacts E ls o todo (log ++ [.sent (.hangupLeg leg cause)]) race := by
  have hmodest : ∀ q ∈ [Request.hangupLeg leg cause], q.Modest := by
    intro q hq
    obtain rfl : q = .hangupLeg leg cause := by simpa using hq
    exact ⟨⟨rfl, rfl, rfl⟩, rfl⟩
  have hsent : CloseFacts E ls o (leg :: todo) (log ++ [Request.hangupLeg leg cause].map .sent) race := by
    apply h.sentAll (Race.Confirms.refl race) hmodest (h.ok.mono id)
    intro r hr
    have htrace := h.traces r hr
    refine ⟨htrace.enrolled, ?_, htrace.confirm, htrace.asked, htrace.armed, htrace.sane,
      fun hon => hon.elim⟩
    rw [ofLog_sentAll]
    exact htrace.prompt
  exact hsent.skip (.inr (.inr ⟨cause, by simp⟩))

end CloseFacts

theorem closeFacts_aborted {o : DialOutcome} (h : RaceFacts E ls log race) (hs : race.settled = some o) :
    let closing := { race with listening := false }
    let aborted := Race.forEach (Race.abortConfirm abandoned) closing.racers closing
    CloseFacts E ls o race.legs (log ++ aborted.2.map .sent) aborted.1 := by
  intro closing aborted
  have hopen : CloseFacts E ls o race.legs log closing := by
    refine ⟨⟨h.ok.racers, h.ok.answered, h.ok.aborted⟩, ?_, h.legs, h.nodup, h.originated,
      h.decided o hs, rfl, fun l hl => .inl hl⟩
    intro r hr
    have htrace := h.traces r hr
    exact ⟨htrace.enrolled, htrace.prompt, htrace.confirm, htrace.asked, htrace.armed, htrace.sane,
      fun hon => hon.elim⟩
  apply hopen.sentAll
  · exact Race.confirms_forEach (fun _ _ => Race.confirms_confirmStep) _ _
  · exact Race.modest_forEach (fun _ _ => Race.modest_abortConfirm) _ _
  · have hbase : RaceOk (log ++ aborted.2.map .sent) True closing := hopen.ok.mono id
    apply RaceOk.forEach _ hbase hbase.racers
    · intro q hq
      simp [aborted, hq]
    · exact fun race' r hrace hracer hc => hrace.abortConfirm hracer (fun _ => trivial) hc
  · exact forEach_trace steps_abortConfirm hopen.nodup
      (fun _ hr => ⟨holds_of_mem hopen.nodup hr, List.mem_map_of_mem hr⟩) hopen.traces

theorem RaceFacts.waited (h : RaceFacts E ls log race) (ha : a.event = none) :
    RaceFacts E ls (log ++ [.sent (.awaitLegs b), .got a]) race where
  ok := h.ok.mono id
  traces r hr := (h.traces r hr).silence trivial ha
  legs := h.legs
  nodup := h.nodup
  originated l attempt hl := by
    obtain hl | hl := List.mem_append.mp hl
    · exact h.originated l attempt hl
    · simp at hl
  unsettled hs := (h.unsettled hs).append (unsettled_asked rfl)
  decided o ho := (h.decided o ho).append (unsettled_asked rfl)

end facts

/-- What was said and heard since the world was so. -/
def Since (w₀ : WalkWorld) (F : WalkLog → Prop) (w : WalkWorld) : Prop :=
  ∃ more, w.log = w₀.log ++ more ∧ F more

section since

variable {w₀ w : WalkWorld} {F G : WalkLog → Prop} {q : Request} {a : Reply} {rest : List Reply}
variable {qs : List Request}

variable (h : Since w₀ F w)

include h

theorem Since.replied (hG : ∀ more, F more → G (more ++ [.sent q, .got a])) :
    Since w₀ G (replied w q a rest) := by
  obtain ⟨more, hlog, hF⟩ := h
  exact ⟨more ++ [.sent q, .got a], by simp [Engine.replied, hlog], hG more hF⟩

theorem Since.sentAll (hG : ∀ more, F more → G (more ++ qs.map .sent)) :
    Since w₀ G (sentAll w qs) := by
  obtain ⟨more, hlog, hF⟩ := h
  exact ⟨more ++ qs.map .sent, by simp [Engine.sentAll, hlog], hG more hF⟩

theorem Since.heard
    (hG : ∀ more, F more → G (more ++ [.sent q, .got a] ++ qs.map .sent)) :
    Since w₀ G (Engine.sentAll (Engine.replied w q a rest) qs) := by
  obtain ⟨more, hlog, hF⟩ := h
  exact ⟨_, by simp [Engine.sentAll, Engine.replied, hlog], hG more hF⟩

end since

/-- Nothing is said of a run that throws or is cut. -/
abbrev returns {α : Type} (ok : α → WalkWorld → Prop) : Exit α → WalkWorld → Prop :=
  ends ok (fun _ => True) fun _ => True

namespace PlanWalker

variable {k : PlanWalker} {E : Enrolment} {ls : List LegId} {w₀ : WalkWorld} {race : Race} {watching : Bool}
variable {destination : Option PlanDestination} {o : DialOutcome} {todo : List LegId}

theorem CloseFacts.skipped {log : WalkLog} {leg : LegId}
    (h : CloseFacts E ls o (leg :: todo) log race)
    (hs : (isWinner o leg || (race.find leg).any (·.out)) = true) : CloseFacts E ls o todo log race := by
  apply h.skip
  obtain hwin | hout := Bool.or_eq_true_iff.mp hs
  · exact .inl hwin
  · cases hf : race.find leg with
    | none =>
      rw [hf] at hout
      cases hout
    | some r =>
      rw [hf] at hout
      obtain ⟨hm, rfl⟩ := Race.find_mem hf
      exact .inr ((h.ok.racers r hm).out hout)

theorem raceFacts_rules : RaceRules k destination watching
    (fun race => Since w₀ (RaceFacts E ls · race))
    (fun o todo race => Since w₀ (CloseFacts E ls o todo · race)) (fun _ => True) where
  stalled _ := trivial
  asked _ _ := trivial
  waited h _ he := h.replied fun more hmore => hmore.waited he
  heard h _ he := by
    apply h.heard
    intro more hmore
    rw [List.map_append, ← List.append_assoc]
    exact raceFacts_heard hmore he
  aborted h hr := by
    apply h.sentAll
    intro more hmore
    apply closeFacts_aborted hmore
    unfold Race.result at hr
    split at hr
    · exact hr
    · cases hr
  closingStalled _ := trivial
  closingAsked _ _ := trivial
  closingWaited _ h he := h.replied fun more hmore => hmore.waited he
  closingHeard _ h he := h.heard fun more hmore => hmore.heard he
  skipped h hs := by
    obtain ⟨more, hlog, h⟩ := h
    exact ⟨more, hlog, CloseFacts.skipped h hs⟩
  dropped h := h.sentAll fun more hmore => hmore.drop

theorem enterRace_legs (index : Nat) (attempts : List DialAttempt) (m : LegId) :
    Sat (fun w => w.log = w₀.log ∧ w.state.minted = m) (k.enterRace destination index attempts)
      (returns (fun racers w => w.log = w₀.log ∧
        racers.map (·.leg) = List.range' m attempts.length ∧ ∀ r ∈ racers, Racer.Plain r ∧
          ∃ j, r.leg = m + j ∧ r.index = index + j ∧ attempts[j]? = some r.attempt)) := by
  induction attempts generalizing index m with
  | nil => exact sat_pure fun w h => ⟨h.1, rfl, fun r hr => nomatch hr⟩
  | cons attempt rest ih =>
    unfold enterRace
    have hid : Sat (fun w => w.log = w₀.log ∧ w.state.minted = m) Walk.newId
        (returns (fun leg w => leg = m ∧ w.log = w₀.log ∧ w.state.minted = m + 1)) :=
      fun w h => ⟨h.2, h.1, congrArg (· + 1) h.2⟩
    apply hid.bind
    intro leg
    have hrest : Sat (fun w => leg = m ∧ w.log = w₀.log ∧ w.state.minted = m + 1)
        (k.enterRace destination (index + 1) rest)
        (returns (fun racers w => leg = m ∧ w.log = w₀.log ∧
          racers.map (·.leg) = List.range' (m + 1) rest.length ∧ ∀ r ∈ racers, Racer.Plain r ∧
            ∃ j, r.leg = m + 1 + j ∧ r.index = index + 1 + j ∧ rest[j]? = some r.attempt)) := by
      rintro w ⟨rfl, h⟩
      have hw := ih (index + 1) (leg + 1) w h
      revert hw
      cases (k.enterRace destination (index + 1) rest w).1 with
      | done racers => exact fun hw => ⟨rfl, hw⟩
      | _ => exact fun _ => trivial
    apply hrest.bind
    intro racers
    apply sat_pure
    rintro w ⟨rfl, hlog, hlegs, hracers⟩
    refine ⟨hlog, ?_, ?_⟩
    · simp only [List.map_cons, hlegs, List.length_cons, List.range'_succ]
    · intro r hr
      obtain rfl | hr := List.mem_cons.mp hr
      · exact ⟨⟨rfl, rfl, rfl⟩, 0, rfl, rfl, rfl⟩
      · obtain ⟨hplain, j, hl, hi, hj⟩ := hracers r hr
        exact ⟨hplain, j + 1, hl.trans (Nat.add_right_comm leg 1 j), by omega, by simpa using hj⟩

theorem raceFacts_entered {racers : List Racer} {qs : List Request}
    (hl : racers.map (·.leg) = ls) (hn : ls.Nodup) (hp : ∀ r ∈ racers, Racer.Plain r)
    (he : ∀ r ∈ racers, E r.leg r.index r.attempt)
    (hqs : ∀ q ∈ qs, Race.Places { racers := racers } q) :
    RaceFacts E ls (qs.map .sent) { racers := racers } where
  ok :=
    { racers := by
        intro r hr
        have := hp r hr
        exact ⟨by simp [this.out], by simp [this.dropping], by simp [this.confirming]⟩
      answered := nofun
      aborted := nofun }
  traces r hr := by
    have := (hp r hr).confirming
    refine ⟨he r hr, ?_, by simp [this], by simp [this], by simp [this], by simp [this],
      by simp [this]⟩
    have hidle : Prompt.ofLog r.leg ([] ++ qs.map .sent) = .idle := by
      rw [ofLog_sentAll]
      exact after_aside fun q hq => aside_of_places (hqs q hq)
    rw [this]
    exact hidle
  legs := hl
  nodup := by
    have hlegs : Race.legs { racers := racers } = ls := hl
    rw [hlegs]
    exact hn
  originated l attempt hl := by
    obtain ⟨q, hq, heq⟩ := List.mem_map.mp hl
    cases heq
    exact originated_of_modest (fun q hq => .inr (hqs q hq)) hq
  unsettled _ := unsettled_sent fun q hq => (hqs q hq).unsettled
  decided o ho := nomatch ho

def enrolment (attempts : List DialAttempt) (base : LegId) : Enrolment :=
  fun l i attempt => l = base + i ∧ attempts[i]? = some attempt

theorem raceToEnd_facts (attempts : List DialAttempt) :
    Sat (fun w => w = w₀) (k.raceToEnd attempts watching)
      (returns (fun r w => ∃ o, r.2 = settleRace r.1 o ∧
        Since w₀ (CloseFacts (enrolment attempts w₀.state.minted)
          (List.range' w₀.state.minted attempts.length) o [] · r.1) w)) := by
  unfold raceToEnd
  have hdest : Sat (fun w => w = w₀) Walk.destination
      (returns (fun _ w => w.log = w₀.log ∧ w.state.minted = w₀.state.minted)) := by
    rintro w rfl
    exact ⟨rfl, rfl⟩
  apply hdest.bind
  intro destination
  apply (enterRace_legs 0 attempts w₀.state.minted).bind
  intro racers
  have hplace : Sat (fun w => w.log = w₀.log ∧
        racers.map (·.leg) = List.range' w₀.state.minted attempts.length ∧ ∀ r ∈ racers,
          Racer.Plain r ∧ ∃ j, r.leg = w₀.state.minted + j ∧ r.index = 0 + j ∧
            attempts[j]? = some r.attempt)
      (Async.each Walk.tell (racers.filterMap (k.firstRequest destination)))
      (returns (fun _ => Since w₀ (RaceFacts (enrolment attempts w₀.state.minted)
        (List.range' w₀.state.minted attempts.length) · { racers := racers }))) := by
    apply sat_told
    rintro w ⟨hlog, hlegs, hr⟩
    refine ⟨(racers.filterMap (k.firstRequest destination)).map .sent, by simp [sentAll, hlog], ?_⟩
    apply raceFacts_entered hlegs List.nodup_range' (fun r h => (hr r h).1) _
      fun q hq => places_firstRequest hq
    intro r h
    obtain ⟨-, j, hl, hi, hj⟩ := hr r h
    rw [Nat.zero_add] at hi
    subst hi
    exact ⟨hl, hj⟩
  apply hplace.bind
  intro _
  exact raceFacts_rules.run _

end PlanWalker

/-- A race that has returned, with what it said and heard: the outcome is the one
decision, every other leg that was originated is over, no watcher is left, and
the leg that is reported answered has confirmed where it had to and was not lost
before the decision. -/
structure SingleWinner (attempts : List DialAttempt) (log : WalkLog) (race : Race)
    (o : DialOutcome) : Prop where
  once : ∀ l i, o = .answered l i →
    .sent (.settled o) ∈ log ∧ ∀ o', .sent (.settled o') ∈ log → o' = o
  losers : ∀ l attempt, .sent (.originate l attempt) ∈ log → PlanWalker.isWinner o l = false →
    Over log l
  watchers : race.watchers = []
  confirmed : ∀ l i, o = .answered l i → ∃ attempt, attempts[i]? = some attempt ∧
    ∀ confirm, attempt.confirm = some confirm → ∃ pre post,
      log = pre ++ .sent (.settled o) :: post ∧ TookDigit pre l confirm.acceptDigit
  present : ∀ l i pre post, o = .answered l i → log = pre ++ .sent (.settled o) :: post → ¬Lost pre l

/-- Every prompt that was begun has been seen stopped, and up to the decision the
events of the leg decided for came in time. The legs are numbered from `base`. -/
structure Smooth (attempts : List DialAttempt) (base : LegId) (log : WalkLog) : Prop where
  stopped : ∀ l ∈ List.range' base attempts.length, Prompt.ofLog l log = .idle
  orderly : ∀ pre l i post attempt, log = pre ++ .sent (.settled (.answered l i)) :: post →
    attempts[i]? = some attempt → Orderly (attempt.confirm.map (·.acceptDigit)) pre l

section returned

variable {E : Enrolment} {ls : List LegId} {log pre post : WalkLog} {race : Race} {o : DialOutcome}
variable {leg : LegId} {accept : Option JsString}

theorem Lost.append (h : Lost log leg) (more : WalkLog) : Lost (log ++ more) leg := by
  obtain ⟨a, cause, ha, he⟩ | hh := h
  · exact .inl ⟨a, cause, List.mem_append_left _ ha, he⟩
  · exact .inr (hh.append more)

theorem orderly_of_not_lost (h : ¬Lost log leg) : Orderly accept log leg := by
  rintro pre a post e rfl he
  refine ⟨fun _ hl => h (hl.append _), ?_⟩
  rintro cause digit rfl
  exact absurd (.inl ⟨a, cause, by simp, he⟩) h

theorem Unsettled.not_mem (h : Unsettled log) (o : DialOutcome) : .sent (.settled o) ∉ log :=
  fun hmem => Bool.noConfusion (h _ hmem)

theorem Decided.unique {o' : DialOutcome} (h : Decided E log o)
    (hl : log = pre ++ .sent (.settled o') :: post) : o' = o ∧ Earned E pre o := by
  obtain ⟨pre', post', rfl, hpre, hpost, hwin⟩ := h
  obtain ⟨rfl, heq, -⟩ := (List.append_cons_inj_of_notMem (hpre.not_mem o') (hpost.not_mem o')).mp hl
  cases heq
  exact ⟨rfl, hwin⟩

theorem CloseFacts.watchers_iff (h : CloseFacts E ls o [] log race) :
    race.watchers = [] ↔ ∀ l ∈ ls, Prompt.ofLog l log = .idle := by
  have hidle : ∀ r ∈ race.racers, Prompt.ofLog r.leg log = .idle ↔ r.confirming = none := by
    intro r hr
    rw [(h.traces r hr).prompt]
    cases r.confirming with
    | none => simp [promptOf]
    | some c =>
      have hopen : c.prompt ≠ .idle := by
        unfold Confirming.prompt
        split <;> simp
      simp [promptOf, hopen]
  simp only [Race.watchers, h.listening, Bool.false_or, List.map_eq_nil_iff,
    List.filter_eq_nil_iff, ← h.legs, Race.legs, List.forall_mem_map]
  constructor
  · intro hr r hmem
    exact (hidle r hmem).mpr (by simpa using hr r hmem)
  · intro hr r hmem
    simpa using (hidle r hmem).mp (hr r hmem)

end returned

namespace PlanWalker

end PlanWalker

def phone (number : JsString) : DialAttempt where
  endpoint := .extension number
  destinationNumber := number
  timeoutSeconds := 20
  delaySeconds := 0
  callerId := none

def twoPhones : List DialAttempt := [phone (lit "101"), phone (lit "102")]

/-- A walker that drops a leg which shows no progress. -/
def impatientWalker : PlanWalker := { sampleWalker with settings := { progressTimeoutSeconds := 5 } }

def raceWorld (events : List Event) : WalkWorld :=
  ⟨⟨⟨false, false, false⟩, 0, none, {}⟩, events.map fun e => { event := some e }, []⟩

def bothPlaced : List Event := [.claimed 0 true, .claimed 1 true, .originated 0 true, .originated 1 true]

def reported : Exit (Race × DialOutcome) → Option DialOutcome
  | .done r => some r.2
  | _ => none

theorem exists_of_reported {r : Exit (Race × DialOutcome)} {o : DialOutcome}
    (h : reported r = some o) : ∃ race, r = .done (race, o) := by
  cases r with
  | done r =>
    cases h
    exact ⟨r.1, rfl⟩
  | _ => cases h

/-- The first phone shows no progress and is dropped, but its answer comes before
its end. -/
def lateAnswer : List Event := bothPlaced ++ [.progressTimer 0, .signal 0 .answered, .hungUp 1]

end OptimiqVoice.Engine

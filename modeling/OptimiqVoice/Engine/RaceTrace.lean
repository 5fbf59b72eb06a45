import Mathlib.Data.List.Induction
import OptimiqVoice.Engine.RaceRuns

namespace OptimiqVoice.Engine

open Lib Telephony

/-- The question a leg is asked, as the log shows it: no question, the prompt
being started, the round open, the prompt being stopped after a digit was taken
or for another reason. -/
inductive Prompt where
  | idle
  | asked
  | playing
  | stopping (digit : Option JsString)
deriving DecidableEq

namespace Prompt

variable (leg : LegId)

def afterRequest (p : Prompt) : Request → Prompt
  | .promptLeg l _ => if l = leg then .asked else p
  | .stopPrompt l => if l = leg ∧ p = .playing then .stopping none else p
  | _ => p

def afterEvent (p : Prompt) : Event → Prompt
  | .prompted l ok => if l = leg ∧ p = .asked then (if ok then .playing else .idle) else p
  | .signal l (.dtmf digit) => if l = leg ∧ p = .playing then .stopping (some digit) else p
  | .promptStopped l => if l = leg ∧ p ≠ .asked ∧ p ≠ .playing then .idle else p
  | _ => p

def hear (p : Prompt) : Moment Request Reply → Prompt
  | .sent q => p.afterRequest leg q
  | .got a =>
    match a.event with
    | none => p
    | some e => p.afterEvent leg e

def ofLog (log : WalkLog) : Prompt := log.foldl (hear leg) .idle

end Prompt

/-- The digit was taken while the round was open. -/
def TookDigit (log : WalkLog) (leg : LegId) (digit : JsString) : Prop :=
  ∃ pre a post, log = pre ++ .got a :: post ∧ a.event = some (.signal leg (.dtmf digit)) ∧
    Prompt.ofLog leg pre = .playing

section prompts

variable {leg : LegId} {log : WalkLog} {digit : JsString}

theorem ofLog_append (log more : WalkLog) :
    Prompt.ofLog leg (log ++ more) = more.foldl (Prompt.hear leg) (Prompt.ofLog leg log) := by
  simp [Prompt.ofLog]

theorem TookDigit.append (h : TookDigit log leg digit) (more : WalkLog) :
    TookDigit (log ++ more) leg digit := by
  obtain ⟨pre, a, post, rfl, ha⟩ := h
  exact ⟨pre, a, post ++ more, by simp, ha⟩

theorem took_of_stopping (h : Prompt.ofLog leg log = .stopping (some digit)) :
    TookDigit log leg digit := by
  induction log using List.reverseRecOn with
  | nil => cases h
  | append_singleton log m ih =>
    have hstay : Prompt.ofLog leg log = .stopping (some digit) → TookDigit (log ++ [m]) leg digit :=
      fun hp => (ih hp).append [m]
    rw [ofLog_append] at h
    simp only [List.foldl_cons, List.foldl_nil] at h
    cases m with
    | sent q =>
      simp only [Prompt.hear] at h
      unfold Prompt.afterRequest at h
      split at h
      · split at h
        · cases h
        · exact hstay h
      · split at h
        · cases h
        · exact hstay h
      · exact hstay h
    | got a =>
      simp only [Prompt.hear] at h
      split at h
      · exact hstay h
      · rename_i e he
        unfold Prompt.afterEvent at h
        split at h
        · split at h
          · split at h <;> cases h
          · exact hstay h
        · split at h
          · rename_i hp
            cases h
            obtain ⟨rfl, hp⟩ := hp
            exact ⟨log, a, [], by simp, he, hp⟩
          · exact hstay h
        · split at h
          · cases h
          · exact hstay h
        · exact hstay h

end prompts

namespace Confirming

def prompt (c : Confirming) : Prompt :=
  match c.phase with
  | .prompting => .asked
  | .asking => .playing
  | .stopping (.digit digit) => .stopping (some digit)
  | .stopping _ => .stopping none

end Confirming

namespace ConfirmNext

variable (leg : LegId) (confirm : ConfirmRequest) (abandoned : Bool)

def ofVerdict : ConfirmVerdict → List Request
  | .accepted | .callerGone => []
  | _ => [.hangupLeg leg .originatorCancel]

/-- Where the next turn leaves the confirmation, and what is requested. -/
def settle : ConfirmNext → Option Confirming × List Request
  | .waiting c commands => (some c, commands)
  | .over verdict => (none, ofVerdict leg verdict)
  | .round 0 terminal => (none, ofVerdict leg (terminal.getD .declined))
  | .round (_ + 1) (some verdict) => (none, ofVerdict leg verdict)
  | .round (left + 1) none =>
    if abandoned then (none, [])
    else (some ⟨left, none, .prompting⟩, [.promptLeg leg confirm.media])

end ConfirmNext

def promptOf : Option Confirming → Prompt
  | none => .idle
  | some c => c.prompt

def Prompt.after (leg : LegId) (p : Prompt) (qs : List Request) : Prompt :=
  qs.foldl (Prompt.afterRequest leg) p

@[simp] theorem after_nil (leg : LegId) (p : Prompt) : p.after leg [] = p := rfl

variable {p : Prompt} {v : ConfirmVerdict}

attribute [local simp] promptOf Prompt.after

section mirror

variable {leg : LegId} {confirm : ConfirmRequest} {abandoned : Bool} {c : Confirming} {e : Event}

theorem prompt_eq_asked : c.prompt = .asked ↔ c.phase = .prompting := by
  unfold Confirming.prompt
  split <;> simp_all

theorem prompt_eq_playing : c.prompt = .playing ↔ c.phase = .asking := by
  unfold Confirming.prompt
  split <;> simp_all

theorem prompt_eq_digit {digit : JsString} :
    c.prompt = .stopping (some digit) ↔ c.phase = .stopping (.digit digit) := by
  unfold Confirming.prompt
  split <;> simp_all

theorem afterEvent_stays (h₁ : ∀ l ok, e = .prompted l ok → p ≠ .asked)
    (h₂ : ∀ l digit, e = .signal l (.dtmf digit) → p ≠ .playing)
    (h₃ : ∀ l, e = .promptStopped l → p = .asked ∨ p = .playing) : p.afterEvent leg e = p := by
  unfold Prompt.afterEvent
  split
  · rename_i l ok
    exact if_neg fun h => h₁ l ok rfl h.2
  · rename_i l digit
    exact if_neg fun h => h₂ l digit rfl h.2
  · rename_i l
    rw [if_neg]
    rintro ⟨-, hp, hp'⟩
    obtain h | h := h₃ l rfl
    · exact hp h
    · exact hp' h
  · rfl

theorem after_ofVerdict (p : Prompt) (v : ConfirmVerdict) :
    Prompt.after leg p (ConfirmNext.ofVerdict leg v) = p := by
  cases v <;> rfl

attribute [local simp] Confirming.prompt

theorem prompt_round {left : Nat} {terminal : Option ConfirmVerdict} :
    Prompt.after leg .idle ((ConfirmNext.round left terminal).settle leg confirm abandoned).2 =
      promptOf ((ConfirmNext.round left terminal).settle leg confirm abandoned).1 := by
  cases left with
  | zero => exact after_ofVerdict _ _
  | succ left =>
    cases terminal with
    | some v => exact after_ofVerdict _ _
    | none =>
      simp only [ConfirmNext.settle]
      split
      · rfl
      · simp [Prompt.afterRequest]

attribute [local simp] ConfirmNext.settle Confirming.decide

theorem prompt_settleTerminal :
    Prompt.after leg c.prompt ((c.settleTerminal leg v).settle leg confirm abandoned).2 =
      promptOf ((c.settleTerminal leg v).settle leg confirm abandoned).1 := by
  unfold Confirming.settleTerminal
  split
  · rename_i hp
    simp [Prompt.afterRequest, hp]
  · rfl

theorem prompt_afterStop {step : ConfirmStep} :
    Prompt.after leg .idle ((c.afterStop confirm step).settle leg confirm abandoned).2 =
      promptOf ((c.afterStop confirm step).settle leg confirm abandoned).1 := by
  cases step with
  | timeout => exact prompt_round
  | terminal v => exact after_ofVerdict _ _
  | digit d =>
    simp only [Confirming.afterStop]
    split
    · rfl
    · exact prompt_round

theorem prompt_afterPrompt {ok : Bool} : Prompt.after leg (if ok then .playing else .idle)
        ((c.afterPrompt leg ok).settle leg confirm abandoned).2 =
      promptOf ((c.afterPrompt leg ok).settle leg confirm abandoned).1 := by
  cases ok with
  | false => rfl
  | true =>
    cases hv : c.terminal with
    | none =>
      simp [Confirming.afterPrompt, hv]
    | some v =>
      simp [Confirming.afterPrompt, hv, Prompt.afterRequest]

theorem prompt_decide {step : ConfirmStep} (hd : ∀ d, step ≠ .digit d) (hp : c.phase = .asking) :
    Prompt.after leg c.prompt ((c.decide leg step).settle leg confirm abandoned).2 =
      promptOf ((c.decide leg step).settle leg confirm abandoned).1 := by
  cases step with
  | digit d => exact absurd rfl (hd d)
  | _ =>
    simp [Prompt.afterRequest, hp]

attribute [local simp] Prompt.afterEvent

theorem prompt_hear : Prompt.after leg (c.prompt.afterEvent leg e)
        ((c.hear leg confirm e).settle leg confirm abandoned).2 =
      promptOf ((c.hear leg confirm e).settle leg confirm abandoned).1 := by
  unfold Confirming.hear
  split
  · split
    · exact prompt_settleTerminal
    · rfl
  · exact prompt_settleTerminal
  · rename_i hp
    split
    · rename_i hl
      simpa [hp, hl] using prompt_afterPrompt
    · rename_i hl
      simp [hl]
  · rename_i digit hp
    split
    · rename_i hl
      simp [hp, hl, Prompt.afterRequest]
    · rename_i hl
      simp [hl]
  · rename_i hp
    split
    · exact prompt_decide nofun hp
    · rfl
  · rename_i step hp
    split
    · rename_i hl
      have hidle : c.prompt.afterEvent leg (.promptStopped leg) = .idle := by
        cases step <;> simp [hp]
      rw [hl, hidle]
      exact prompt_afterStop
    · rename_i hl
      simp [hl]
  · rename_i e _ _ _ _ h₁ h₂ _ h₃
    -- in a phase that does not wait for the event, neither moves
    have hstay : c.prompt.afterEvent leg e = c.prompt := by
      apply afterEvent_stays
      · exact fun l ok he hp => h₁ l ok he (prompt_eq_asked.mp hp)
      · exact fun l digit he hp => h₂ l digit he (prompt_eq_playing.mp hp)
      · intro l he
        rw [prompt_eq_asked, prompt_eq_playing]
        cases hp : c.phase with
        | prompting => exact .inl rfl
        | asking => exact .inr rfl
        | stopping step => exact absurd hp (h₃ l step he)
    rw [hstay]
    rfl

end mirror

/-- The end of the leg was delivered, or the walker itself has hung it up. -/
def Lost (log : WalkLog) (leg : LegId) : Prop :=
  (∃ a cause, .got a ∈ log ∧ a.event = some (.signal leg (.ended cause))) ∨ HungUp log leg

/-- The event does not come to the leg too late: no answer comes from a leg that
is lost, and the leg does not end while the prompt is being stopped because its
accept digit was taken. -/
def InTime (accept : Option JsString) (log : WalkLog) (leg : LegId) (e : Event) : Prop :=
  (e.answers leg = true → ¬Lost log leg) ∧
    ∀ cause digit, e = .signal leg (.ended cause) → accept = some digit →
      Prompt.ofLog leg log ≠ .stopping (some digit)

def Orderly (accept : Option JsString) (log : WalkLog) (leg : LegId) : Prop :=
  ∀ pre a post e, log = pre ++ .got a :: post → a.event = some e → InTime accept pre leg e

structure Hears (log log' : WalkLog) (e : Event) : Prop where
  prompt : ∀ l, Prompt.ofLog l log' = (Prompt.ofLog l log).afterEvent l e
  lost : ∀ l, Lost log' l → Lost log l ∨ ∃ cause, e = .signal l (.ended cause)
  orderly : ∀ accept l, Orderly accept log' l → Orderly accept log l ∧ InTime accept log l e

section lost

variable {log more : WalkLog} {leg : LegId} {accept : Option JsString} {qs : List Request}

theorem lost_append : Lost (log ++ more) leg ↔ Lost log leg ∨ Lost more leg := by
  simp only [Lost, HungUp, List.mem_append, or_and_right, exists_or]
  exact or_or_or_comm

theorem lost_sentAll (h : Lost (log ++ qs.map .sent) leg) :
    Lost log leg ∨ ∃ cause, .hangupLeg leg cause ∈ qs := by
  refine (lost_append.mp h).imp_right ?_
  rintro (⟨a, -, ha, -⟩ | ⟨cause, hh⟩)
  · simp at ha
  · exact ⟨cause, by simpa using hh⟩

theorem Orderly.of_append (h : Orderly accept (log ++ more) leg) : Orderly accept log leg := by
  rintro pre a post e rfl he
  exact h pre a (post ++ more) e (by simp) he

theorem ofLog_sentAll :
    Prompt.ofLog leg (log ++ qs.map .sent) = Prompt.after leg (Prompt.ofLog leg log) qs := by
  rw [ofLog_append, Prompt.after, List.foldl_map]
  rfl

end lost

/-- A request no leg's prompt depends on and that hangs nobody up. -/
def Request.Aside : Request → Prop
  | .promptLeg _ _ | .stopPrompt _ | .hangupLeg _ _ => False
  | _ => True

theorem after_fixed {leg : LegId} {qs : List Request}
    (h : ∀ q ∈ qs, p.afterRequest leg q = p) : Prompt.after leg p qs = p := by
  induction qs with
  | nil => rfl
  | cons q rest ih =>
    change Prompt.after leg (p.afterRequest leg q) rest = p
    rw [h q (by simp)]
    exact ih fun q' hq => h q' (by simp [hq])

variable {q : Request}

theorem Request.Aside.afterRequest (h : q.Aside) {leg : LegId} : p.afterRequest leg q = p := by
  cases q <;> first | rfl | exact h.elim

theorem after_aside {leg : LegId} {qs : List Request} (h : ∀ q ∈ qs, q.Aside) :
    Prompt.after leg p qs = p :=
  after_fixed fun q hq => (h q hq).afterRequest

section asked

variable {log : WalkLog} {a : Reply} {leg : LegId} (hq : q.Aside)

include hq

theorem prompt_asked : Prompt.ofLog leg (log ++ [.sent q, .got a]) =
    (Prompt.ofLog leg log).hear leg (.got a) := by
  simp [ofLog_append, Prompt.hear, hq.afterRequest]

theorem lost_asked (h : Lost (log ++ [.sent q, .got a]) leg) :
    Lost log leg ∨ ∃ cause, a.event = some (.signal leg (.ended cause)) := by
  refine (lost_append.mp h).imp_right ?_
  rintro (⟨b, cause, hb, hbe⟩ | ⟨cause, hh⟩)
  · obtain rfl : b = a := by simpa using hb
    exact ⟨cause, hbe⟩
  · obtain rfl : q = .hangupLeg leg cause := by simpa [eq_comm] using hh
    exact hq.elim

end asked

theorem hears_of_asked {log : WalkLog} {a : Reply} {e : Event} {qs : List Request}
    (hq : q.Aside) (he : a.event = some e) (hqs : ∀ q ∈ qs, q.Aside) :
    Hears log (log ++ [.sent q, .got a] ++ qs.map .sent) e where
  prompt l := by
    rw [ofLog_sentAll, after_aside hqs, prompt_asked hq, Prompt.hear, he]
  lost l h := by
    obtain h | ⟨cause, h⟩ := lost_sentAll h
    · refine (lost_asked hq h).imp_right fun ⟨cause, hbe⟩ => ⟨cause, ?_⟩
      exact Option.some.inj (he.symm.trans hbe)
    · exact (hqs _ h).elim
  orderly accept l h := by
    have h' : Orderly accept (log ++ [.sent q, .got a]) l := h.of_append
    refine ⟨h'.of_append, ?_⟩
    have hlast := h' (log ++ [.sent q]) a [] e (by simp) he
    refine ⟨fun ha hl => hlast.1 ha (lost_append.mpr (.inl hl)), ?_⟩
    intro cause digit hend hacc
    have hprompt : Prompt.ofLog l (log ++ [.sent q]) = Prompt.ofLog l log := by
      simp [ofLog_append, Prompt.hear, hq.afterRequest]
    rw [← hprompt]
    exact hlast.2 cause digit hend hacc

namespace Confirming

/-- The confirmation of a leg that is lost cannot end with an accept. -/
structure Doomed (accept : Option JsString) (c : Confirming) : Prop where
  terminal : c.terminal.isSome
  asking : c.phase ≠ .asking
  digit : ∀ digit, accept = some digit → c.phase ≠ .stopping (.digit digit)

/-- A leg or a caller that is gone never counts as an accept. -/
structure Sane (c : Confirming) : Prop where
  terminal : c.terminal ≠ some .accepted
  phase : c.phase ≠ .stopping (.terminal .accepted)

end Confirming

namespace ConfirmNext

def Sane : ConfirmNext → Prop
  | .waiting c _ => c.Sane
  | .round _ terminal => terminal ≠ some .accepted
  | .over verdict => verdict ≠ .accepted

theorem Sane.settle {next : ConfirmNext} {leg : LegId} {confirm : ConfirmRequest} {abandoned : Bool}
    {c : Confirming} (h : next.Sane) (hc : (next.settle leg confirm abandoned).1 = some c) :
    c.Sane := by
  unfold ConfirmNext.settle at hc
  split at hc
  · cases hc
    exact h
  · cases hc
  · cases hc
  · cases hc
  · split at hc
    · cases hc
    · cases hc
      exact ⟨by simp, by simp⟩

end ConfirmNext

namespace Confirming

variable {c : Confirming} {leg : LegId} {confirm : ConfirmRequest} {e : Event}

theorem Sane.settleTerminal (h : c.Sane) (hv : v ≠ .accepted) : (c.settleTerminal leg v).Sane := by
  have hsettled : c.terminal.getD v ≠ .accepted := by
    cases ht : c.terminal with
    | none => simpa using hv
    | some v' =>
      have := h.terminal
      rw [ht] at this
      simpa using this
  unfold Confirming.settleTerminal
  dsimp only
  split
  · exact ⟨by simpa using hsettled, by simpa using hsettled⟩
  · exact ⟨by simpa using hsettled, h.phase⟩

/-- Only the stop of the prompt after the accept digit accepts a leg. -/
theorem Sane.hear (h : c.Sane) : (c.hear leg confirm e).Sane ∨
    (c.hear leg confirm e = .over .accepted ∧ e = .promptStopped leg ∧
      c.phase = .stopping (.digit confirm.acceptDigit)) := by
  unfold Confirming.hear
  split
  · left
    split
    · exact h.settleTerminal (by simp)
    · exact h
  · exact .inl (h.settleTerminal (by simp))
  · left
    split
    · rename_i l ok _ _
      cases ok with
      | false => simp [afterPrompt, ConfirmNext.Sane]
      | true =>
        cases hv : c.terminal with
        | none =>
          simp only [afterPrompt, hv, Bool.not_true, Bool.false_eq_true, if_false]
          exact ⟨by simp, by simp⟩
        | some v =>
          have := h.terminal
          rw [hv] at this
          simp only [afterPrompt, hv, Bool.not_true, Bool.false_eq_true, if_false]
          exact ⟨by simpa [hv] using this, by simpa using this⟩
    · exact h
  · left
    split
    · exact ⟨h.terminal, by simp⟩
    · exact h
  · left
    split
    · exact ⟨h.terminal, by simp⟩
    · exact h
  · rename_i step hp
    split
    · rename_i hl
      cases step with
      | terminal v =>
        left
        have := h.phase
        rw [hp] at this
        simpa [afterStop, ConfirmNext.Sane] using this
      | timeout => exact .inl h.terminal
      | digit d =>
        by_cases hd : d = confirm.acceptDigit
        · right
          subst hd
          exact ⟨if_pos rfl, by rw [hl], hp⟩
        · left
          simp only [afterStop, if_neg hd]
          exact h.terminal
    · exact .inl h
  · exact .inl h

end Confirming

def Racer.accept (r : Racer) : Option JsString := r.attempt.confirm.map (·.acceptDigit)

/-- Which leg is raced under which index, and how. -/
abbrev Enrolment := LegId → Nat → DialAttempt → Prop

/-- A racer is where the log says it is. While the race is `on`, a leg that is
lost is not about to be accepted, as far as its events came in time. -/
structure RacerTrace (E : Enrolment) (on : Prop) (log : WalkLog) (r : Racer) : Prop where
  enrolled : E r.leg r.index r.attempt
  prompt : Prompt.ofLog r.leg log = promptOf r.confirming
  confirm : r.confirming.isSome → r.attempt.confirm.isSome
  asked : r.confirming.isSome → r.asked = true
  armed : r.confirming.isSome → r.armed = false
  sane : ∀ c, r.confirming = some c → c.Sane
  doomed : on → Orderly r.accept log r.leg → ∀ c, r.confirming = some c → Lost log r.leg →
    c.Doomed r.accept

abbrev Traced (E : Enrolment) (on : Prop) (log : WalkLog) (race : Race) : Prop :=
  ∀ t ∈ race.racers, RacerTrace E on log t

/-- The same after a step, with its requests in the log. -/
abbrev StepTraced (E : Enrolment) (on : Prop) (log : WalkLog) (next : Race × List Request) : Prop :=
  Traced E on (log ++ next.2.map .sent) next.1

theorem Traced.quiet {E : Enrolment} {on : Prop} {log : WalkLog} {race : Race} (h : Traced E on log race) :
    StepTraced E on log (race, []) := by
  rwa [StepTraced, List.map_nil, List.append_nil]

/-- The second racer is the first one with another confirmation. -/
structure Moved (r : Racer) (c : Option Confirming) (s : Racer) : Prop where
  leg : s.leg = r.leg
  index : s.index = r.index
  attempt : s.attempt = r.attempt
  armed : s.armed = r.armed
  asked : s.asked = r.asked
  confirming : s.confirming = c

variable {f : Racer → Racer}

namespace Race

variable {race : Race} {r s : Racer} {abandoned : Bool} {confirm : ConfirmRequest} {next : ConfirmNext}

def Holds (race : Race) (r : Racer) : Prop :=
  ∀ s ∈ race.racers, s.leg = r.leg → Moved r r.confirming s

theorem mem_put_moved {c : Option Confirming} (hr : race.Holds r)
    (hf : ∀ t, Moved r r.confirming t → Moved r c (f t)) (hs : s ∈ (race.put r.leg f).racers) :
    (s.leg ≠ r.leg ∧ s ∈ race.racers) ∨ Moved r c s := by
  obtain ⟨t, ht, ⟨hl, rfl⟩ | ⟨hl, rfl⟩⟩ := mem_put hs
  · exact .inr (hf t (hr t ht hl))
  · exact .inl ⟨hl, ht⟩

theorem mem_confirmOver (hr : race.Holds r) (hs : s ∈ (race.confirmOver r v).1.racers) :
    (s.leg ≠ r.leg ∧ s ∈ race.racers) ∨ Moved r none s := by
  have hclose : ∀ t, Moved r r.confirming t → Moved r none { t with confirming := none } :=
    fun t ht => ⟨ht.leg, ht.index, ht.attempt, ht.armed, ht.asked, rfl⟩
  unfold confirmOver at hs
  cases v with
  | accepted | callerGone => exact mem_put_moved hr hclose hs
  | _ =>
    obtain ⟨t, ht, ⟨hl, rfl⟩ | ⟨hl, rfl⟩⟩ := mem_put hs
    · obtain ⟨hne, -⟩ | hm := mem_put_moved hr hclose ht
      · exact absurd hl hne
      · exact .inr ⟨hm.leg, hm.index, hm.attempt, hm.armed, hm.asked, hm.confirming⟩
    · obtain h | hm := mem_put_moved hr hclose ht
      · exact .inl h
      · exact absurd hm.leg hl

theorem mem_confirmNext (hr : race.Holds r)
    (hs : s ∈ (race.confirmNext abandoned r confirm next).1.racers) :
    (s.leg ≠ r.leg ∧ s ∈ race.racers) ∨ Moved r (next.settle r.leg confirm abandoned).1 s := by
  have hopen : ∀ c t, Moved r r.confirming t → Moved r (some c) { t with confirming := some c } :=
    fun c t ht => ⟨ht.leg, ht.index, ht.attempt, ht.armed, ht.asked, rfl⟩
  unfold confirmNext at hs
  split at hs
  · exact mem_put_moved hr (hopen _) hs
  · exact mem_confirmOver hr hs
  · exact mem_confirmOver hr hs
  · exact mem_confirmOver hr hs
  · split at hs
    · rename_i hab
      simp only [ConfirmNext.settle, if_pos hab]
      exact mem_confirmOver hr hs
    · rename_i hab
      simp only [ConfirmNext.settle, if_neg hab]
      exact mem_put_moved hr (hopen _) hs

theorem commands_confirmOver : (race.confirmOver r v).2 = ConfirmNext.ofVerdict r.leg v := by
  cases v <;> rfl

theorem commands_confirmNext :
    (race.confirmNext abandoned r confirm next).2 = (next.settle r.leg confirm abandoned).2 := by
  unfold confirmNext
  split
  · rfl
  · exact commands_confirmOver
  · exact commands_confirmOver
  · exact commands_confirmOver
  · simp only [ConfirmNext.settle]
    split <;> rfl

end Race

section traces

variable {E : Enrolment} {on : Prop} {log log' : WalkLog} {race : Race} {r s : Racer} {abandoned : Bool}
variable {confirm : ConfirmRequest} {next : ConfirmNext} {e : Event}

theorem settle_other {leg : LegId} (hs : next.Soft r.leg) (hl : leg ≠ r.leg) (p : Prompt) :
    Prompt.after leg p (next.settle r.leg confirm abandoned).2 = p ∧
      ∀ cause, .hangupLeg leg cause ∉ (next.settle r.leg confirm abandoned).2 := by
  have hover : ∀ v, Prompt.after leg p (ConfirmNext.ofVerdict r.leg v) = p ∧
      ∀ cause, .hangupLeg leg cause ∉ ConfirmNext.ofVerdict r.leg v := by
    intro v
    cases v <;> simp [ConfirmNext.ofVerdict, Prompt.afterRequest, hl]
  unfold ConfirmNext.settle
  split
  · rename_i c commands
    have hsoft : ∀ q ∈ commands, q = .stopPrompt r.leg ∨ ∃ media, q = .promptLeg r.leg media := hs
    constructor
    · apply after_fixed
      intro q hq
      obtain rfl | ⟨media, rfl⟩ := hsoft q hq
      · simp [Prompt.afterRequest, hl.symm]
      · simp [Prompt.afterRequest, hl.symm]
    · intro cause hmem
      obtain h | ⟨media, h⟩ := hsoft _ hmem
      · cases h
      · cases h
  · exact hover _
  · exact hover _
  · exact hover _
  · split
    · simp
    · simp [Prompt.afterRequest, hl.symm]

theorem settle_hangup {leg : LegId} {cause : HangupCause} (hs : next.Soft r.leg)
    (h : .hangupLeg leg cause ∈ (next.settle r.leg confirm abandoned).2) :
    (next.settle r.leg confirm abandoned).1 = none := by
  unfold ConfirmNext.settle at h ⊢
  split at h
  · obtain h | ⟨media, h⟩ := hs _ h
    · cases h
    · cases h
  · rfl
  · rfl
  · rfl
  · split at h
    · rename_i hab
      simp [hab]
    · simp at h

section

variable (h : RacerTrace E on log r)

include h

theorem RacerTrace.later
    (hp : Prompt.ofLog r.leg log' = Prompt.ofLog r.leg log)
    (ho : Orderly r.accept log' r.leg → Orderly r.accept log r.leg)
    (hl : Lost log' r.leg → Lost log r.leg) : RacerTrace E on log' r :=
  { h with
    prompt := hp.trans h.prompt
    doomed := fun hon ho' c hc hl' => h.doomed hon (ho ho') c hc (hl hl') }

theorem RacerTrace.sentAll {qs : List Request}
    (hp : Prompt.after r.leg (Prompt.ofLog r.leg log) qs = Prompt.ofLog r.leg log)
    (hh : ∀ cause, .hangupLeg r.leg cause ∉ qs) : RacerTrace E on (log ++ qs.map .sent) r := by
  refine h.later (ofLog_sentAll.trans hp) Orderly.of_append fun hl => ?_
  exact (lost_sentAll hl).resolve_right (not_exists.mpr hh)

theorem RacerTrace.hears (hlog : Hears log log' e)
    (hp : (Prompt.ofLog r.leg log).afterEvent r.leg e = Prompt.ofLog r.leg log)
    (hl : ∀ cause, e ≠ .signal r.leg (.ended cause)) : RacerTrace E on log' r := by
  refine h.later ((hlog.prompt _).trans hp) (fun ho => (hlog.orderly _ _ ho).1) fun hlost => ?_
  exact (hlog.lost _ hlost).resolve_right (not_exists.mpr hl)

theorem RacerTrace.silence {a : Reply} (hq : q.Aside)
    (ha : a.event = none) : RacerTrace E on (log ++ [.sent q, .got a]) r := by
  refine h.later ?_ Orderly.of_append fun hl => ?_
  · rw [prompt_asked hq, Prompt.hear, ha]
  · refine (lost_asked hq hl).resolve_right fun ⟨cause, he⟩ => ?_
    rw [ha] at he
    cases he

end

theorem racerTrace_idle (he : E r.leg r.index r.attempt) (hp : Prompt.ofLog r.leg log = .idle)
    (hc : r.confirming = none) : RacerTrace E on log r := by
  refine ⟨he, ?_, ?_, ?_, ?_, ?_, ?_⟩ <;> simp [hc, hp]

/-- Nothing that a trace depends on was changed, but a timer may have been stopped. -/
structure Kept (r s : Racer) : Prop where
  leg : s.leg = r.leg
  index : s.index = r.index
  attempt : s.attempt = r.attempt
  confirming : s.confirming = r.confirming
  asked : r.asked = true → s.asked = true
  armed : r.armed = false → s.armed = false

theorem RacerTrace.kept (h : RacerTrace E on log r) (hk : Kept r s) : RacerTrace E on log s := by
  have haccept : s.accept = r.accept := congrArg (·.confirm.map (·.acceptDigit)) hk.attempt
  constructor <;> simp only [hk.leg, hk.index, hk.attempt, hk.confirming, haccept]
  · exact h.enrolled
  · exact h.prompt
  · exact h.confirm
  · exact fun hc => hk.asked (h.asked hc)
  · exact fun hc => hk.armed (h.armed hc)
  · exact h.sane
  · exact h.doomed

theorem confirmNext_trace (hr : race.Holds r) (hs : next.Soft r.leg)
    (hothers : ∀ t ∈ race.racers, t.leg ≠ r.leg → RacerTrace E on log t)
    (hp : Prompt.after r.leg (Prompt.ofLog r.leg log) (next.settle r.leg confirm abandoned).2 =
      promptOf (next.settle r.leg confirm abandoned).1)
    (he : E r.leg r.index r.attempt) (hconfirm : r.attempt.confirm.isSome) (hasked : r.asked = true) (harmed : r.armed = false)
    (hsane : ∀ c, (next.settle r.leg confirm abandoned).1 = some c → c.Sane)
    (hd : on → Orderly r.accept log r.leg → ∀ c, (next.settle r.leg confirm abandoned).1 = some c →
      Lost log r.leg → c.Doomed r.accept) :
    StepTraced E on log (race.confirmNext abandoned r confirm next) := by
  intro t ht
  rw [Race.commands_confirmNext]
  obtain ⟨hl, ht⟩ | hm := Race.mem_confirmNext hr ht
  · exact (hothers t ht hl).sentAll (settle_other hs hl _).1 (settle_other hs hl .idle).2
  · have haccept : t.accept = r.accept := congrArg (·.confirm.map (·.acceptDigit)) hm.attempt
    constructor <;>
      simp only [hm.leg, hm.index, hm.attempt, hm.asked, hm.armed, hm.confirming, haccept, ofLog_sentAll]
    · exact he
    · exact hp
    · exact fun _ => hconfirm
    · exact fun _ => hasked
    · exact fun _ => harmed
    · exact hsane
    · intro hon ho c hc hlost
      obtain hlost | ⟨cause, hlost⟩ := lost_sentAll hlost
      · exact hd hon ho.of_append c hc hlost
      · rw [settle_hangup hs hlost] at hc
        cases hc

theorem confirmStep_trace {step : LegId → ConfirmRequest → Confirming → ConfirmNext}
    (hr : race.Holds r) (h : RacerTrace E on log r)
    (hothers : ∀ t ∈ race.racers, t.leg ≠ r.leg → RacerTrace E on log' t)
    (hidle : r.confirming = none → Prompt.ofLog r.leg log' = .idle)
    (hstep : ∀ c confirm, r.confirming = some c → (step r.leg confirm c).Soft r.leg ∧
      Prompt.after r.leg (Prompt.ofLog r.leg log')
          ((step r.leg confirm c).settle r.leg confirm abandoned).2 =
        promptOf ((step r.leg confirm c).settle r.leg confirm abandoned).1 ∧
      (∀ c', ((step r.leg confirm c).settle r.leg confirm abandoned).1 = some c' → c'.Sane) ∧
      (on → Orderly r.accept log' r.leg → ∀ c', ((step r.leg confirm c).settle r.leg confirm
        abandoned).1 = some c' → Lost log' r.leg → c'.Doomed r.accept)) :
    StepTraced E on log' (race.confirmStep abandoned step r) := by
  unfold Race.confirmStep
  split
  · rename_i c confirm hc hconf
    obtain ⟨hsoft, hp, hsane, hd⟩ := hstep c confirm hc
    have hsome : r.confirming.isSome := by simp [hc]
    exact confirmNext_trace hr hsoft hothers hp h.enrolled (h.confirm hsome) (h.asked hsome)
      (h.armed hsome) hsane hd
  · rename_i hnone
    have hclosed : r.confirming = none := by
      cases hc : r.confirming with
      | none => rfl
      | some c =>
        obtain ⟨confirm, hconf⟩ := Option.isSome_iff_exists.mp (h.confirm (by simp [hc]))
        exact absurd hconf (hnone c confirm hc)
    intro t ht
    simp only [List.map_nil, List.append_nil]
    by_cases hl : t.leg = r.leg
    · have hm := hr t ht hl
      apply racerTrace_idle _ (hl ▸ hidle hclosed) (hm.confirming.trans hclosed)
      rw [hm.leg, hm.index, hm.attempt]
      exact h.enrolled
    · exact hothers t ht hl

theorem idle_afterEvent {leg : LegId} : Prompt.idle.afterEvent leg e = .idle := by
  unfold Prompt.afterEvent
  split <;> simp

theorem Confirming.Doomed.hear {c c' : Confirming} {accept : Option JsString} {leg : LegId}
    (h : c.Doomed accept)
    (hc : ((c.hear leg confirm e).settle leg confirm abandoned).1 = some c') : c'.Doomed accept := by
  obtain ⟨v, hv⟩ := Option.isSome_iff_exists.mp h.terminal
  have hstay : ∀ next, next = ConfirmNext.waiting c [] →
      (next.settle leg confirm abandoned).1 = some c' → c'.Doomed accept := by
    rintro _ rfl hw
    cases hw
    exact h
  have hterm : ∀ v', ((c.settleTerminal leg v').settle leg confirm abandoned).1 = some c' →
      c'.Doomed accept := by
    intro v' hw
    simp only [Confirming.settleTerminal, if_neg h.asking] at hw
    cases hw
    exact ⟨rfl, h.asking, h.digit⟩
  unfold Confirming.hear at hc
  split at hc
  · split at hc
    · exact hterm _ hc
    · exact hstay _ rfl hc
  · exact hterm _ hc
  · split at hc
    · rename_i l ok _ _
      cases ok with
      | false => cases hc
      | true =>
        simp only [Confirming.afterPrompt, hv, Bool.not_true, Bool.false_eq_true, if_false] at hc
        cases hc
        exact ⟨by simp [hv], by simp, by simp⟩
    · exact hstay _ rfl hc
  · rename_i hp
    exact absurd hp h.asking
  · rename_i hp
    exact absurd hp h.asking
  · rename_i step hp
    have hround : ((ConfirmNext.round c.left c.terminal).settle leg confirm abandoned).1 = none := by
      rw [hv]
      cases c.left <;> rfl
    split at hc
    · cases step with
      | terminal v => cases hc
      | timeout =>
        rw [Confirming.afterStop, hround] at hc
        cases hc
      | digit d =>
        simp only [Confirming.afterStop] at hc
        split at hc
        · cases hc
        · rw [hround] at hc
          cases hc
    · exact hstay _ rfl hc
  · exact hstay _ rfl hc

theorem doomed_of_ended {c c' : Confirming} {accept : Option JsString} {leg : LegId}
    {cause : HangupCause} (hd : ∀ digit, accept = some digit → c.phase ≠ .stopping (.digit digit))
    (hc : ((c.hear leg confirm (.signal leg (.ended cause))).settle leg confirm abandoned).1 =
      some c') : c'.Doomed accept := by
  simp only [Confirming.hear, if_true, Confirming.settleTerminal] at hc
  split at hc
  · cases hc
    exact ⟨rfl, by simp, by simp⟩
  · rename_i hp
    cases hc
    exact ⟨rfl, hp, hd⟩

theorem confirmHears_trace (hr : race.Holds r) (h : RacerTrace E on log r) (hlog : Hears log log' e)
    (hothers : ∀ t ∈ race.racers, t.leg ≠ r.leg → RacerTrace E on log' t) :
    StepTraced E on log' (race.confirmHears abandoned e r) := by
  apply confirmStep_trace hr h hothers
  · intro hc
    rw [hlog.prompt, h.prompt, hc]
    exact idle_afterEvent
  · intro c confirm hc
    have hprompt : Prompt.ofLog r.leg log = c.prompt := by rw [h.prompt, hc]; rfl
    refine ⟨Confirming.hear_soft, ?_, ?_, ?_⟩
    · rw [hlog.prompt, hprompt]
      exact prompt_hear
    · intro c' hc'
      obtain hs | ⟨hover, -⟩ := (h.sane c hc).hear
      · exact hs.settle hc'
      · rw [hover] at hc'
        cases hc'
    · intro hon ho c' hc' hlost
      obtain ⟨ho, htime⟩ := hlog.orderly _ _ ho
      obtain hlost | ⟨cause, rfl⟩ := hlog.lost _ hlost
      · exact (h.doomed hon ho c hc hlost).hear hc'
      · apply doomed_of_ended _ hc'
        intro digit hacc hp
        apply htime.2 cause digit rfl hacc
        rw [hprompt]
        exact prompt_eq_digit.mpr hp

theorem hears_callerEnded (log : WalkLog) : Hears log log .callerEnded where
  prompt _ := rfl
  lost _ h := .inl h
  orderly _ _ h := ⟨h, nofun, nofun⟩

theorem RacerTrace.of_moved (hm : Moved r r.confirming s) (h : RacerTrace E on log s) :
    RacerTrace E on log r :=
  h.kept ⟨hm.leg.symm, hm.index.symm, hm.attempt.symm, hm.confirming.symm, fun ha => hm.asked ▸ ha,
    fun ha => hm.armed ▸ ha⟩

theorem holds_trace (hr : race.Holds r) (hl : r.leg ∈ race.legs)
    (h : Traced E on log race) : RacerTrace E on log r := by
  obtain ⟨s, hs, heq⟩ := List.mem_map.mp hl
  exact (h s hs).of_moved (hr s hs heq)

theorem holds_of_mem (hn : race.legs.Nodup) (hr : r ∈ race.racers) : race.Holds r := by
  intro s hs hl
  obtain rfl : s = r := List.inj_on_of_nodup_map hn hs hr hl
  exact ⟨rfl, rfl, rfl, rfl, rfl, rfl⟩

/-- A step of one racer that keeps the others. -/
structure Steps (E : Enrolment) (on : Prop) (step : Race → Racer → Race × List Request) : Prop where
  legs : ∀ race r, (step race r).1.legs = race.legs
  others : ∀ race r, race.Holds r → ∀ t ∈ (step race r).1.racers, t.leg ≠ r.leg → t ∈ race.racers
  trace : ∀ race r log, race.Holds r → r.leg ∈ race.legs → Traced E on log race →
    StepTraced E on log (step race r)

theorem forEach_trace {step : Race → Racer → Race × List Request} {rs : List Racer}
    (hstep : Steps E on step) (hn : (rs.map (·.leg)).Nodup)
    (hrs : ∀ r ∈ rs, race.Holds r ∧ r.leg ∈ race.legs)
    (h : Traced E on log race) : StepTraced E on log (Race.forEach step rs race) := by
  induction rs generalizing race log with
  | nil => exact h.quiet
  | cons r rest ih =>
    obtain ⟨hr, hrest⟩ := List.nodup_cons.mp hn
    obtain ⟨hhold, hleg⟩ := hrs r (by simp)
    have hone := hstep.trace race r log hhold hleg h
    have hheld : ∀ r' ∈ rest, (step race r).1.Holds r' ∧ r'.leg ∈ (step race r).1.legs := by
      intro r' hr'
      obtain ⟨hhold', hleg'⟩ := hrs r' (by simp [hr'])
      refine ⟨?_, by rwa [hstep.legs]⟩
      intro s hs hl
      apply hhold' s _ hl
      apply hstep.others race r hhold s hs
      intro heq
      exact hr (List.mem_map.mpr ⟨r', hr', hl.symm.trans heq⟩)
    have hfinal := ih hrest hheld hone
    simpa [Race.forEach, StepTraced, Traced] using hfinal

theorem others_confirmStep {step : LegId → ConfirmRequest → Confirming → ConfirmNext}
    (hr : race.Holds r) : ∀ t ∈ (race.confirmStep abandoned step r).1.racers, t.leg ≠ r.leg →
      t ∈ race.racers := by
  intro t ht hl
  unfold Race.confirmStep at ht
  split at ht
  · obtain ⟨-, ht⟩ | hm := Race.mem_confirmNext hr ht
    · exact ht
    · exact absurd hm.leg hl
  · exact ht

theorem steps_callerEnded : Steps E on (Race.confirmHears abandoned .callerEnded) where
  legs _ _ := Race.confirms_confirmStep.legs
  others _ _ hr := others_confirmStep hr
  trace _ _ log hr hl h :=
    confirmHears_trace hr (holds_trace hr hl h) (hears_callerEnded log) fun t ht _ => h t ht

theorem steps_abortConfirm : Steps E False (Race.abortConfirm abandoned) where
  legs _ _ := Race.confirms_confirmStep.legs
  others _ _ hr := others_confirmStep hr
  trace race r log hr hl h := by
    have hrace := holds_trace hr hl h
    apply confirmStep_trace hr hrace fun t ht _ => h t ht
    · intro hc
      rw [hrace.prompt, hc]
      rfl
    · intro c confirm hc
      refine ⟨Confirming.settleTerminal_soft, ?_, ?_, fun hon => hon.elim⟩
      · rw [hrace.prompt, hc]
        exact prompt_settleTerminal
      · exact fun c' hc' => ((hrace.sane c hc).settleTerminal (by simp)).settle hc'

theorem put_trace {leg : LegId} (hf : ∀ t, Kept t (f t))
    (h : Traced E on log race) : Traced E on log (race.put leg f) := by
  intro t ht
  obtain ⟨s, hs, ⟨-, rfl⟩ | ⟨-, rfl⟩⟩ := Race.mem_put ht
  · exact (h s hs).kept (hf s)
  · exact h t hs

theorem racers_legIsOut {cause : Option HangupCause} :
    (race.legIsOut r cause).racers = (race.put r.leg ({ · with out := true })).racers := by
  unfold Race.legIsOut
  dsimp only
  split <;> rfl

theorem legIsOut_trace {cause : Option HangupCause} (h : Traced E on log race) :
    Traced E on log (race.legIsOut r cause) := by
  rw [Traced, racers_legIsOut]
  exact put_trace (fun t => ⟨rfl, rfl, rfl, rfl, id, id⟩) h

theorem holds_put {leg : LegId} {r' : Racer} (hr : race.Holds r)
    (hl : r.leg = leg) (hl' : r'.leg = leg)
    (hf : ∀ t, Moved r r.confirming t → Moved r' r'.confirming (f t)) :
    (race.put leg f).Holds r' := by
  intro s hs hs'
  obtain ⟨t, ht, ⟨heq, rfl⟩ | ⟨hne, rfl⟩⟩ := Race.mem_put hs
  · exact hf t (hr t ht (heq.trans hl.symm))
  · exact absurd (hs'.trans hl') hne

attribute [local simp] Event.answers

theorem answered_trace (hr : race.Holds r) (hleg : r.leg ∈ race.legs) (hlog : Hears log log' e)
    (he : e.answers r.leg = true) (h : Traced E on log' race) :
    StepTraced E on log' (race.answered abandoned r) := by
  have hput : Traced E on log' (race.put r.leg ({ · with armed := false })) :=
    put_trace (fun t => ⟨rfl, rfl, rfl, rfl, id, fun _ => rfl⟩) h
  unfold Race.answered
  dsimp only
  split
  · exact hput.quiet
  · rename_i confirm hconfirm
    split
    · exact hput.quiet
    · rename_i hnot
      have hrace := holds_trace hr hleg h
      have hclosed : r.confirming = none := by
        cases hc : r.confirming with
        | none => rfl
        | some c => simp [hrace.asked (by simp [hc])] at hnot
      -- the racer with the question marked as asked is the one whose confirmation begins
      let r' := { r with armed := false, asked := true }
      have hone : (race.put r.leg ({ · with armed := false })).Holds { r with armed := false } :=
        holds_put hr rfl rfl fun t ht => ⟨ht.leg, ht.index, ht.attempt, rfl, ht.asked, ht.confirming⟩
      have hheld : ((race.put r.leg ({ · with armed := false })).put r.leg
          ({ · with asked := true })).Holds r' :=
        holds_put hone rfl rfl fun t ht =>
          ⟨ht.leg, ht.index, ht.attempt, ht.armed, rfl, ht.confirming⟩
      have hothers : Traced E on log' ((race.put r.leg ({ · with armed := false })).put r.leg ({ · with asked := true })) :=
        put_trace (fun t => ⟨rfl, rfl, rfl, rfl, fun _ => rfl, id⟩) hput
      have hsoft : (ConfirmNext.round confirm.attempts none).Soft r'.leg := trivial
      have hp : Prompt.ofLog r.leg log' = .idle := by
        rw [hrace.prompt, hclosed]
        rfl
      have hsome : r.attempt.confirm.isSome := by simp [hconfirm]
      have hsane : (ConfirmNext.round confirm.attempts none).Sane := nofun
      apply confirmNext_trace hheld hsoft (fun t ht _ => hothers t ht) _ hrace.enrolled hsome rfl rfl
        fun c hc => hsane.settle hc
      · intro _ ho c _ hlost
        obtain hlost | ⟨cause, rfl⟩ := hlog.lost _ hlost
        · exact absurd hlost ((hlog.orderly _ _ ho).2.1 he)
        · simp at he
      · change Prompt.after r.leg (Prompt.ofLog r.leg log') _ = _
        rw [hp]
        exact prompt_round

theorem silent_trace (hr : race.Holds r) (hleg : r.leg ∈ race.legs)
    (h : Traced E on log race) : StepTraced E on log (race.silent r) := by
  have hput : Traced E on log (race.put r.leg ({ · with armed := false })) :=
    put_trace (fun t => ⟨rfl, rfl, rfl, rfl, id, fun _ => rfl⟩) h
  unfold Race.silent
  dsimp only
  split
  · exact hput.quiet
  · rename_i hnot
    have hrace := holds_trace hr hleg h
    have hclosed : r.confirming = none := by
      cases hc : r.confirming with
      | none => rfl
      | some c => simp [hrace.armed (by simp [hc])] at hnot
    have hprompt : ∀ l p, Prompt.after l p [.hangupLeg r.leg .originatorCancel] = p := fun _ _ => rfl
    intro t ht
    obtain ⟨s, hs, ⟨hl, rfl⟩ | ⟨hl, rfl⟩⟩ := Race.mem_put ht
    · obtain ⟨u, hu, ⟨hl', rfl⟩ | ⟨hl', rfl⟩⟩ := Race.mem_put hs
      · have hopen : u.confirming = none := (hr u hu hl').confirming.trans hclosed
        have hidle : Prompt.ofLog u.leg log = .idle := (h u hu).prompt.trans (by rw [hopen]; rfl)
        exact racerTrace_idle (by exact (h u hu).enrolled)
          (by rw [ofLog_sentAll, hprompt]; exact hidle) hopen
      · exact absurd hl hl'
    · apply (hput t hs).sentAll (hprompt _ _)
      intro cause hmem
      simp at hmem
      exact hl hmem.1

theorem afterEvent_other {leg : LegId} (he : Race.eventLeg e ≠ some leg) :
    p.afterEvent leg e = p := by
  unfold Prompt.afterEvent
  split
  · exact if_neg fun h => he (congrArg some h.1)
  · exact if_neg fun h => he (congrArg some h.1)
  · exact if_neg fun h => he (congrArg some h.1)
  · rfl

theorem RacerTrace.other (h : RacerTrace E on log r) (hlog : Hears log log' e)
    (he : Race.eventLeg e ≠ some r.leg) : RacerTrace E on log' r := by
  apply h.hears hlog (afterEvent_other he)
  rintro cause rfl
  exact he rfl

/-- An event that no prompt depends on and that ends no leg. -/
def Event.Aside : Event → Prop
  | .prompted _ _ | .signal _ (.dtmf _) | .promptStopped _ | .signal _ (.ended _) => False
  | _ => True

theorem RacerTrace.aside (h : RacerTrace E on log r) (hlog : Hears log log' e) (he : e.Aside) :
    RacerTrace E on log' r := by
  apply h.hears hlog
  · unfold Prompt.afterEvent
    split
    · exact he.elim
    · exact he.elim
    · exact he.elim
    · rfl
  · rintro cause rfl
    exact he.elim

theorem place_trace {legs : Bool} {destination : Option PlanDestination}
    (h : Traced E on log race) :
    ∀ t ∈ (race.place legs destination r e).1.racers, RacerTrace E on log t := by
  have hphase : ∀ phase, Traced E on log (race.put r.leg ({ · with phase := phase })) := fun phase => put_trace (fun t => ⟨rfl, rfl, rfl, rfl, id, id⟩) h
  unfold Race.place
  split
  · split
    · exact hphase _
    · exact hphase _
  · exact hphase _
  · exact legIsOut_trace (hphase _)
  · exact legIsOut_trace (hphase _)
  · exact hphase _
  · exact h

theorem aside_of_places (h : race.Places q) : q.Aside := by
  obtain ⟨leg, attempt, -, rfl | ⟨destination, rfl⟩⟩ := h
  · trivial
  · trivial

theorem traces_aside {qs : List Request} (hqs : ∀ q ∈ qs, q.Aside)
    (h : Traced E on log race) : Traced E on (log ++ qs.map .sent) race :=
  fun t ht => (h t ht).sentAll (after_aside hqs) fun _ hmem => hqs _ hmem

theorem hearLeg_trace {legs : Bool} {destination : Option PlanDestination} (hn : race.legs.Nodup)
    (hr : r ∈ race.racers) (hlog : Hears log log' e) (hl : Race.eventLeg e = some r.leg)
    (h : Traced E on log race) : StepTraced E on log' (race.hearLeg legs destination abandoned r e) := by
  have hheld : race.Holds r := holds_of_mem hn hr
  have hleg : r.leg ∈ race.legs := List.mem_map_of_mem hr
  have haside : e.Aside → Traced E on log' race :=
    fun he t ht => (h t ht).aside hlog he
  have hothers : ∀ t ∈ race.racers, t.leg ≠ r.leg → RacerTrace E on log' t := by
    intro t ht hne
    apply (h t ht).other hlog
    rw [hl]
    exact fun heq => hne (Option.some.inj heq).symm
  have hplace : e.Aside → (∀ q ∈ (race.place legs destination r e).2, q.Aside) →
      StepTraced E on log' (race.place legs destination r e) :=
    fun he hqs => traces_aside hqs (place_trace (haside he))
  have hquiet : Traced E on log' race → StepTraced E on log' (race.put r.leg ({ · with armed := false }), []) := by
    intro h'
    apply Traced.quiet
    exact put_trace (fun t => ⟨rfl, rfl, rfl, rfl, id, fun _ => rfl⟩) h'
  have hqs : ∀ q ∈ (race.place legs destination r e).2, q.Aside :=
    fun q hq => aside_of_places (Race.places_place hr q hq)
  cases e with
  | signal l s =>
    obtain rfl : l = r.leg := by simpa [Race.eventLeg] using hl
    cases s with
    | ringing | progress => exact hquiet (haside trivial)
    | answered | entered => exact answered_trace hheld hleg hlog (by simp) (haside trivial)
    | dtmf digit => exact confirmHears_trace hheld (h r hr) hlog hothers
    | ended cause =>
      have hout : (race.legIsOut r (some cause)).Holds r := by
        unfold Race.Holds
        rw [racers_legIsOut]
        exact holds_put hheld rfl rfl fun t ht =>
          ⟨ht.leg, ht.index, ht.attempt, ht.armed, ht.asked, ht.confirming⟩
      apply confirmHears_trace hout (h r hr) hlog
      intro t ht hne
      rw [racers_legIsOut] at ht
      obtain ⟨s, hs, ⟨heq, rfl⟩ | ⟨-, rfl⟩⟩ := Race.mem_put ht
      · exact absurd heq hne
      · exact hothers t hs hne
  | delayOver _ | claimed _ _ | originated _ _ => exact hplace trivial hqs
  | progressTimer l => exact silent_trace hheld hleg (haside trivial)
  | hungUp l =>
    simp only [Race.hearLeg]
    split
    · exact (legIsOut_trace (haside trivial)).quiet
    · exact (haside trivial).quiet
  | _ => exact confirmHears_trace hheld (h r hr) hlog hothers

end traces

end OptimiqVoice.Engine

import OptimiqVoice.Engine.RaceTrace

namespace OptimiqVoice.Engine

open Lib Telephony

variable {legs : Bool} {destination : Option PlanDestination}

section whole

variable {E : Enrolment} {on : Prop} {log log' : WalkLog} {race : Race} {abandoned : Bool} {e : Event}

theorem callerEnded_trace (hn : race.legs.Nodup) (hlog : Hears log log' .callerEnded)
    (h : Traced E on log race) :
    StepTraced E on log' (Race.forEach (Race.confirmHears abandoned .callerEnded) race.racers race) :=
  forEach_trace steps_callerEnded hn (fun _ hr => ⟨holds_of_mem hn hr, List.mem_map_of_mem hr⟩)
    fun t ht => (h t ht).aside hlog trivial

theorem found {r : Racer} (h : (Race.eventLeg e).bind race.find = some r) :
    r ∈ race.racers ∧ Race.eventLeg e = some r.leg := by
  obtain ⟨l, hl, hf⟩ := Option.bind_eq_some_iff.mp h
  obtain ⟨hm, rfl⟩ := Race.find_mem hf
  exact ⟨hm, hl⟩

theorem stranger_trace (hf : (Race.eventLeg e).bind race.find = none) (hlog : Hears log log' e)
    (h : Traced E on log race) : Traced E on log' race := by
  intro t ht
  apply (h t ht).other hlog
  intro hl
  rw [hl] at hf
  have hnone : race.racers.find? (·.leg = t.leg) = none := hf
  simpa using List.find?_eq_none.mp hnone t ht

theorem hear_trace {watching : Bool} (hn : race.legs.Nodup) (hlog : Hears log log' e)
    (h : Traced E on log race) : StepTraced E on log' (race.hear legs destination watching abandoned e) := by
  unfold Race.hear
  split
  · apply Traced.quiet
    exact fun t ht => (h t ht).aside hlog trivial
  · dsimp only
    cases watching with
    | false => exact callerEnded_trace hn hlog h
    | true =>
      have hresolved : Traced E on log (race.resolveOutcome .aborted) := h
      exact callerEnded_trace hn hlog hresolved
  · split
    · rename_i hf
      exact (stranger_trace hf hlog h).quiet
    · rename_i r hf
      obtain ⟨hr, hl⟩ := found hf
      exact hearLeg_trace hn hr hlog hl h

theorem hearClosing_trace (hn : race.legs.Nodup) (hlog : Hears log log' e)
    (h : Traced E on log race) : StepTraced E on log' (race.hearClosing abandoned e) := by
  unfold Race.hearClosing
  split
  · exact callerEnded_trace hn hlog h
  · split
    · rename_i hf
      exact (stranger_trace hf hlog h).quiet
    · rename_i r hf
      obtain ⟨hr, hl⟩ := found hf
      split
      · have haside : Traced E on log' race := fun t ht => (h t ht).aside hlog trivial
        split
        · exact (legIsOut_trace haside).quiet
        · exact haside.quiet
      · apply confirmHears_trace (holds_of_mem hn hr) (h r hr) hlog
        intro t ht hne
        apply (h t ht).other hlog
        rw [hl]
        exact fun heq => hne (Option.some.inj heq).symm

end whole

def WinsBy (race : Race) (e : Event) (leg : LegId) (index : Nat) : Prop :=
  ∃ r ∈ race.racers, r.leg = leg ∧ r.index = index ∧
    ((r.attempt.confirm = none ∧ e.answers leg = true) ∨
      ∃ c confirm, r.attempt.confirm = some confirm ∧ r.confirming = some c ∧
        c.phase = .stopping (.digit confirm.acceptDigit) ∧ e = .promptStopped leg)

namespace Race

variable {race : Race} {r : Racer} {abandoned : Bool} {confirm : ConfirmRequest} {next : ConfirmNext}
variable {e : Event} {l : LegId} {i : Nat} {o o' : DialOutcome}

theorem settled_resolve (h : (race.resolveOutcome o).settled = some o') :
    race.settled = some o' ∨ o' = o := by
  unfold resolveOutcome at h
  cases hs : race.settled with
  | none =>
    rw [hs] at h
    exact .inr (Option.some.inj h).symm
  | some o'' =>
    rw [hs] at h
    exact .inl h

theorem settled_legIsOut {cause : Option HangupCause}
    (h : (race.legIsOut r cause).settled = some (.answered l i)) :
    race.settled = some (.answered l i) := by
  unfold legIsOut at h
  dsimp only at h
  split at h
  · obtain h | h := settled_resolve h
    · exact h
    · split at h <;> cases h
  · exact h

theorem settled_confirmOver {v : ConfirmVerdict}
    (h : (race.confirmOver r v).1.settled = some (.answered l i)) :
    race.settled = some (.answered l i) ∨ (v = .accepted ∧ l = r.leg ∧ i = r.index) := by
  cases v with
  | accepted =>
    obtain h | h := settled_resolve h
    · exact .inl h
    · cases h
      exact .inr ⟨rfl, rfl, rfl⟩
  | callerGone =>
    obtain h | h := settled_resolve h
    · exact .inl h
    · cases h
  | _ => exact .inl h

theorem settled_confirmNext (hs : next.Sane ∨ next = .over .accepted)
    (h : (race.confirmNext abandoned r confirm next).1.settled = some (.answered l i)) :
    race.settled = some (.answered l i) ∨ (next = .over .accepted ∧ l = r.leg ∧ i = r.index) := by
  have hnever : ∀ v, v ≠ .accepted → (race.confirmOver r v).1.settled = some (.answered l i) →
      race.settled = some (.answered l i) := by
    intro v hv h
    obtain h | ⟨h, -⟩ := settled_confirmOver h
    · exact h
    · exact absurd h hv
  unfold confirmNext at h
  split at h
  · exact .inl h
  · obtain h | ⟨rfl, hr⟩ := settled_confirmOver h
    · exact .inl h
    · exact .inr ⟨rfl, hr⟩
  · rename_i terminal
    obtain hs | hs := hs
    · left
      apply hnever _ _ h
      cases terminal with
      | none => simp
      | some v => exact fun hv => hs (congrArg some hv)
    · cases hs
  · obtain hs | hs := hs
    · exact .inl (hnever _ (fun hv => hs (congrArg some hv)) h)
    · cases hs
  · split at h
    · exact .inl (hnever _ (by simp) h)
    · exact .inl h

theorem settled_confirmHears (hsane : ∀ c, r.confirming = some c → c.Sane)
    (h : (race.confirmHears abandoned e r).1.settled = some (.answered l i)) :
    race.settled = some (.answered l i) ∨ (l = r.leg ∧ i = r.index ∧
      ∃ c confirm, r.attempt.confirm = some confirm ∧ r.confirming = some c ∧
        c.phase = .stopping (.digit confirm.acceptDigit) ∧ e = .promptStopped r.leg) := by
  unfold confirmHears confirmStep at h
  split at h
  · rename_i c confirm hc hconfirm
    have hhear : (c.hear r.leg confirm e).Sane ∨ (c.hear r.leg confirm e = .over .accepted ∧
        e = .promptStopped r.leg ∧ c.phase = .stopping (.digit confirm.acceptDigit)) :=
      (hsane c hc).hear
    obtain hs | ⟨hover, he, hp⟩ := hhear
    · obtain h | ⟨hover, -⟩ := settled_confirmNext (.inl hs) h
      · exact .inl h
      · rw [hover] at hs
        exact absurd rfl hs
    · obtain h | ⟨-, hl, hi⟩ := settled_confirmNext (.inr hover) h
      · exact .inl h
      · exact .inr ⟨hl, hi, c, confirm, hconfirm, hc, hp, he⟩
  · exact .inl h

theorem settled_answered (h : (race.answered abandoned r).1.settled = some (.answered l i)) :
    race.settled = some (.answered l i) ∨ (l = r.leg ∧ i = r.index ∧ r.attempt.confirm = none) := by
  unfold answered at h
  dsimp only at h
  split at h
  · rename_i hnone
    obtain h | h := settled_resolve h
    · exact .inl h
    · cases h
      exact .inr ⟨rfl, rfl, hnone⟩
  · left
    split at h
    · exact h
    · rename_i confirm _ _
      have hs : (ConfirmNext.round confirm.attempts none).Sane := nofun
      obtain h | ⟨h, -⟩ := settled_confirmNext (.inl hs) h
      · exact h
      · cases h

theorem settled_place (h : (race.place legs destination r e).1.settled = some (.answered l i)) :
    race.settled = some (.answered l i) := by
  unfold place at h
  split at h
  · split at h
    · exact h
    · exact h
  · exact h
  · have hput := settled_legIsOut h
    exact hput
  · have hput := settled_legIsOut h
    exact hput
  · exact h
  · exact h

theorem settled_silent (h : (race.silent r).1.settled = some (.answered l i)) :
    race.settled = some (.answered l i) := by
  unfold silent at h
  dsimp only at h
  split at h
  · exact h
  · exact h

theorem settled_forEach {step : Race → Racer → Race × List Request} {rs : List Racer}
    (hstep : ∀ race, ∀ r ∈ rs, (step race r).1.settled = some (.answered l i) →
      race.settled = some (.answered l i))
    (h : (forEach step rs race).1.settled = some (.answered l i)) :
    race.settled = some (.answered l i) := by
  induction rs generalizing race with
  | nil => exact h
  | cons r rest ih =>
    apply hstep race r (by simp)
    exact ih (fun race r hr => hstep race r (by simp [hr])) h

theorem settled_hearLeg (hr : r ∈ race.racers)
    (hsane : ∀ c, r.confirming = some c → c.Sane) (hl : eventLeg e = some r.leg)
    (h : (race.hearLeg legs destination abandoned r e).1.settled = some (.answered l i)) :
    race.settled = some (.answered l i) ∨ WinsBy race e l i := by
  have hconfirm : ∀ {race' : Race},
      (race'.settled = some (.answered l i) → race.settled = some (.answered l i)) →
      (race'.confirmHears abandoned e r).1.settled = some (.answered l i) →
      race.settled = some (.answered l i) ∨ WinsBy race e l i := by
    intro race' hrace h
    obtain h | ⟨rfl, rfl, hwin⟩ := settled_confirmHears hsane h
    · exact .inl (hrace h)
    · exact .inr ⟨r, hr, rfl, rfl, .inr hwin⟩
  cases e with
  | signal l' s =>
    obtain rfl : l' = r.leg := by simpa [eventLeg] using hl
    cases s with
    | ringing | progress => exact .inl h
    | dtmf digit => exact hconfirm id h
    | ended cause => exact hconfirm settled_legIsOut h
    | _ =>
      obtain h | ⟨rfl, rfl, hnone⟩ := settled_answered h
      · exact .inl h
      · exact .inr ⟨r, hr, rfl, rfl, .inl ⟨hnone, by simp [Event.answers]⟩⟩
  | delayOver _ | claimed _ _ | originated _ _ => exact .inl (settled_place h)
  | progressTimer l => exact .inl (settled_silent h)
  | hungUp l =>
    left
    simp only [hearLeg] at h
    split at h
    · exact settled_legIsOut h
    · exact h
  | _ => exact hconfirm id h

/-- An answer that is not yet the outcome becomes it by an answer that needs no
confirmation, or by the stop of a prompt whose accept digit was taken. -/
theorem settled_hear {watching : Bool}
    (hsane : ∀ r ∈ race.racers, ∀ c, r.confirming = some c → c.Sane)
    (h : (race.hear legs destination watching abandoned e).1.settled = some (.answered l i)) :
    race.settled = some (.answered l i) ∨ WinsBy race e l i := by
  unfold hear at h
  split at h
  · obtain h | h := settled_resolve h
    · exact .inl h
    · cases h
  · left
    have hstart : (if watching then race.resolveOutcome .aborted else race).settled =
        some (.answered l i) := by
      refine settled_forEach ?_ h
      intro race' r hr h'
      have hr' : r ∈ race.racers := by
        split at hr
        · exact hr
        · exact hr
      obtain h' | ⟨-, -, _, _, -, -, -, he⟩ := settled_confirmHears (hsane r hr') h'
      · exact h'
      · cases he
    split at hstart
    · obtain hstart | hstart := settled_resolve hstart
      · exact hstart
      · cases hstart
    · exact hstart
  · split at h
    · exact .inl h
    · rename_i r hf
      obtain ⟨hr, hl⟩ := found hf
      exact settled_hearLeg hr (hsane r hr) hl h

end Race

end OptimiqVoice.Engine

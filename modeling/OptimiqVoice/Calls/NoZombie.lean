import OptimiqVoice.Calls.Admission

namespace OptimiqVoice.Calls

open Lib Telephony

/-- A routing walk was started for the leg after its end was delivered. -/
def StartedAfterEnd (notes : List Note) : Prop :=
  ∃ pre post, notes = pre ++ .ended :: post ∧ .walkStarted ∈ post

namespace Arriving

def isEarly : Arriving → Bool
  | .reading | .attributing | .claiming => true
  | _ => false

def isLate : Arriving → Bool
  | .watching | .publishing | .mirroring => true
  | _ => false

end Arriving

/-- What both handlers find of the leg, wherever they wait. -/
structure Sound (d : Desk) : Prop where
  idle : d.arriving = .idle → d.ending = .idle ∧ .admitted ∉ d.notes
  early : d.arriving.isEarly = true → d.registered = false ∧ .admitted ∉ d.notes ∧
    (d.ending = .idle ∨ d.ending = .done)
  claiming : d.arriving = .claiming → d.aggregate = some {}
  watching : d.arriving = .watching → ∃ a, d.aggregate = some a ∧
    (a.state = .created ∨ (a.isTearingDown ∧ a.state ≠ .hangup))
  later : d.arriving = .publishing ∨ d.arriving = .mirroring →
    ∃ a, d.aggregate = some a ∧ (a.state = .routing ∨ (a.isTearingDown ∧ a.state ≠ .hangup))
  late : d.arriving.isLate = true → .admitted ∈ d.notes
  ended : .ended ∈ d.notes ↔ d.ending ≠ .idle
  registered : d.registered = true → d.aggregate.isSome
  controlling : ∀ c, d.ending = .controlling c → d.registered = true ∧
    ∃ a, d.aggregate = some a ∧ a.state ≠ .reporting ∧ a.state ≠ .destroyed
  reporting : d.ending = .reporting → ∃ a, d.aggregate = some a ∧ a.state = .reporting

variable {a : ChannelSnapshot} {cause : HangupCause}

variable {at_ : Int}

attribute [local simp] Arriving.isEarly ChannelSnapshot.isTearingDown Arriving.isLate

attribute [local simp] ChannelState.isTeardown Desk.byAriChannelId Desk.note

attribute [local simp] ChannelState.isValidTransition ChannelState.transitionsFrom

attribute [local simp] Desk.finishReporting

section sound

variable {d d' : Desk} {e : DeskEvent}

theorem transitionTo_eq {b : ChannelSnapshot} {next : ChannelState} (h : a.transitionTo next = some b) :
    a.state.isValidTransition next = true ∧ b = { a with state := next } := by
  unfold ChannelSnapshot.transitionTo at h
  split at h
  · rename_i hv
    exact ⟨hv, (Option.some.inj h).symm⟩
  · cases h

theorem afterControl_eq
    (ha : d.aggregate = some a) (h₁ : a.state ≠ .reporting) (h₂ : a.state ≠ .destroyed) :
    ∃ b, b.state = .reporting ∧ d.afterControl cause at_ =
      { d.note .reportingStarted with aggregate := some b, ending := .reporting } := by
  have hstate : ((a.markHangup cause at_ false).tryTransitionTo .hangup).state = .hangup := by
    rw [ChannelSnapshot.tryTransitionTo_hangup]
    simp only [ChannelSnapshot.isTearingDown, ChannelSnapshot.markHangup_state]
    split
    · rename_i ht
      cases hs : a.state <;> simp_all
    · rfl
  refine ⟨{ (a.markHangup cause at_ false).tryTransitionTo .hangup with state := .reporting }, rfl, ?_⟩
  simp [Desk.afterControl, ha, hstate, ChannelSnapshot.transitionTo]

theorem Sound.moves (h : Sound d) {next : Arriving}
    (hn : next = .done ∨ next = .executing ∨ next = .rejecting) : Sound { d with arriving := next } := by
  obtain ⟨h₁, h₂, h₃, h₄, h₅, h₆, h₇, h₈, h₉, h₁₀⟩ := h
  obtain rfl | rfl | rfl := hn
  · constructor <;> simp_all
  · constructor <;> simp_all
  · constructor <;> simp_all

theorem sound_onLegArrived (h : Sound d) (ha : d.arriving = .idle) : Sound d.onLegArrived := by
  obtain ⟨h₁, h₂, h₃, h₄, h₅, h₆, h₇, h₈, h₉, h₁₀⟩ := h
  unfold Desk.onLegArrived Desk.note
  split
  · constructor <;> simp_all
  · split
    · constructor <;> simp_all
    · split
      · constructor <;> simp_all
      · constructor <;> simp_all

theorem byAriChannelId_eq (h : d.byAriChannelId = some a) :
    d.registered = true ∧ d.aggregate = some a := by
  simpa using h

theorem sound_onLegEnded (h : Sound d) (he : d.ending = .idle)
    (ha : d.arriving ≠ .idle) : Sound (d.onLegEnded cause) := by
  obtain ⟨h₁, h₂, h₃, h₄, h₅, h₆, h₇, h₈, h₉, h₁₀⟩ := h
  unfold Desk.onLegEnded
  split
  · constructor <;> simp_all
  · rename_i a hreg
    have hr := byAriChannelId_eq hreg
    split
    · constructor <;> simp_all
    · split
      · constructor <;> simp_all
      · constructor <;> simp_all

theorem sound_afterClaim {r : ChannelClaimResult} (h : Sound d) (ha : d.arriving = .claiming) :
    Sound (d.afterClaim r) := by
  cases r with
  | claimed =>
    obtain ⟨h₁, h₂, h₃, h₄, h₅, h₆, h₇, h₈, h₉, h₁₀⟩ := h
    unfold Desk.afterClaim Desk.note
    constructor <;> simp_all
  | _ => exact h.moves (by simp)

theorem transitionTo_of_tearingDown {next : ChannelState}
    (h : a.isTearingDown = true) (hn : next.isTeardown = false) : a.transitionTo next = none := by
  cases ht : a.transitionTo next with
  | none => rfl
  | some b =>
    have hv := ChannelState.isTeardown_of_transition h (transitionTo_eq ht).1
    rw [hn] at hv
    cases hv

theorem afterSubscribe_created (ha : d.aggregate = some a)
    (hs : a.state = .created) : d.afterSubscribe =
      { d with aggregate := some { a with state := .routing }, arriving := .publishing } := by
  simp [Desk.afterSubscribe, ha, ChannelSnapshot.transitionTo, hs]

theorem afterSubscribe_tearingDown (ha : d.aggregate = some a)
    (hs : a.isTearingDown = true) : d.afterSubscribe = { d with arriving := .done } := by
  have hnone : a.transitionTo .initializing = none := transitionTo_of_tearingDown hs rfl
  simp [Desk.afterSubscribe, ha, hnone]

theorem afterMirror_routing (ha : d.aggregate = some a) (hs : a.state = .routing) : d.afterMirror =
      { (if d.routingEnabled then d.note .walkStarted else d) with
        aggregate := some { a with state := .executing }
        arriving := if d.routingEnabled then .done else .executing } := by
  cases hr : d.routingEnabled <;>
    simp [Desk.afterMirror, ha, ChannelSnapshot.transitionTo, hs, hr]

theorem afterMirror_tearingDown (ha : d.aggregate = some a)
    (hs : a.isTearingDown = true) : d.afterMirror = { d with arriving := .done } := by
  have hnone : a.transitionTo .executing = none := transitionTo_of_tearingDown hs rfl
  simp [Desk.afterMirror, ha, hnone]

theorem sound_afterSubscribe (h : Sound d) (ha : d.arriving = .watching) : Sound d.afterSubscribe := by
  obtain ⟨a, haggr, hstate | ⟨hstate, -⟩⟩ := h.watching ha
  · rw [afterSubscribe_created haggr hstate]
    obtain ⟨h₁, h₂, h₃, h₄, h₅, h₆, h₇, h₈, h₉, h₁₀⟩ := h
    constructor <;> simp_all
  · rw [afterSubscribe_tearingDown haggr hstate]
    exact h.moves (by simp)

theorem sound_afterMirror (h : Sound d) (ha : d.arriving = .mirroring) : Sound d.afterMirror := by
  obtain ⟨a, haggr, hstate | ⟨hstate, -⟩⟩ := h.later (.inr ha)
  · rw [afterMirror_routing haggr hstate]
    obtain ⟨h₁, h₂, h₃, h₄, h₅, h₆, h₇, h₈, h₉, h₁₀⟩ := h
    cases hr : d.routingEnabled <;>
      constructor <;> simp_all
  · rw [afterMirror_tearingDown haggr hstate]
    exact h.moves (by simp)

theorem sound_afterControl (h : Sound d)
    (he : d.ending = .controlling cause) : Sound (d.afterControl cause at_) := by
  obtain ⟨hreg, a, haggr, hne, hne'⟩ := h.controlling cause he
  obtain ⟨b, hb, heq⟩ := afterControl_eq haggr hne hne'
  rw [heq]
  have hearly : d.arriving.isEarly ≠ true := by
    intro ha
    obtain ⟨hreg', -⟩ := h.early ha
    rw [hreg] at hreg'
    cases hreg'
  have hclaim : d.arriving ≠ .claiming := fun ha => hearly (by simp [ha])
  obtain ⟨h₁, h₂, h₃, h₄, h₅, h₆, h₇, h₈, h₉, h₁₀⟩ := h
  constructor <;> simp_all

theorem sound_afterReport {written : Bool} (h : Sound d) (he : d.ending = .reporting) :
    Sound (d.afterReport written) := by
  obtain ⟨a, haggr, hstate⟩ := h.reporting he
  obtain ⟨h₁, h₂, h₃, h₄, h₅, h₆, h₇, h₈, h₉, h₁₀⟩ := h
  unfold Desk.afterReport
  split
  · constructor <;> simp_all [ChannelSnapshot.transitionTo]
  · constructor <;> simp_all

theorem sound_afterVariables {b : Bool} (h : Sound d) (ha : d.arriving = .reading) :
    Sound (d.afterVariables b) := by
  obtain ⟨h₁, h₂, h₃, h₄, h₅, h₆, h₇, h₈, h₉, h₁₀⟩ := h
  unfold Desk.afterVariables Desk.note
  split
  · constructor <;> simp_all
  · constructor <;> simp_all

theorem sound_afterAttribution {o : Option JsString} (h : Sound d) (ha : d.arriving = .attributing) :
    Sound (d.afterAttribution o) := by
  cases o with
  | none => exact h.moves (by simp)
  | some o =>
    have hreporting : d.ending ≠ .reporting := by
      obtain ⟨-, -, he | he⟩ := h.early (by simp [ha])
      · simp [he]
      · simp [he]
    obtain ⟨h₁, h₂, h₃, h₄, h₅, h₆, h₇, h₈, h₉, h₁₀⟩ := h
    unfold Desk.afterAttribution
    constructor <;> simp_all

theorem sound_mirroring (h : Sound d) (ha : d.arriving = .publishing) :
    Sound { d with arriving := .mirroring } := by
  obtain ⟨h₁, h₂, h₃, h₄, h₅, h₆, h₇, h₈, h₉, h₁₀⟩ := h
  constructor <;> simp_all

theorem of_guard {c : Prop} [Decidable c] {x : Desk} (h : (if c then some x else none) = some d') :
    c ∧ d' = x := by
  split at h
  · rename_i hc
    exact ⟨hc, (Option.some.inj h).symm⟩
  · cases h

theorem sound_step (h : Sound d) (hs : d.step e = some d') : Sound d' := by
  cases e with
  | arrived =>
    obtain ⟨ha, rfl⟩ := of_guard hs
    exact sound_onLegArrived h ha
  | legEnded cause =>
    obtain ⟨⟨ha, he⟩, rfl⟩ := of_guard hs
    exact sound_onLegEnded h he ha
  | readVariables b =>
    obtain ⟨ha, rfl⟩ := of_guard hs
    exact sound_afterVariables h ha
  | attributed o =>
    obtain ⟨ha, rfl⟩ := of_guard hs
    exact sound_afterAttribution h ha
  | claimed r =>
    obtain ⟨ha, rfl⟩ := of_guard hs
    exact sound_afterClaim h ha
  | subscribed =>
    obtain ⟨ha, rfl⟩ := of_guard hs
    exact sound_afterSubscribe h ha
  | published =>
    obtain ⟨ha, rfl⟩ := of_guard hs
    exact sound_mirroring h ha
  | mirrored =>
    obtain ⟨ha, rfl⟩ := of_guard hs
    exact sound_afterMirror h ha
  | released at_ =>
    simp only [Desk.step] at hs
    split at hs
    · rename_i cause he
      cases hs
      exact sound_afterControl h he
    · cases hs
  | reported written =>
    obtain ⟨he, rfl⟩ := of_guard hs
    exact sound_afterReport h he
  | _ =>
    obtain ⟨-, rfl⟩ := of_guard hs
    exact h.moves (.inl rfl)

end sound

/-- What the condition adds: the end finds every leg that was admitted. -/
structure Caught (d : Desk) : Prop where
  open_ : .admitted ∈ d.notes → d.ending = .idle → d.registered = true ∧
    ∃ a, d.aggregate = some a ∧ a.isTearingDown = false
  down : d.ending = .done → ∀ a, d.byAriChannelId = some a → a.isTearingDown = true
  reported : d.ending = .reporting ∨ d.ending = .done → .admitted ∈ d.notes →
    .reportingStarted ∈ d.notes ∧ ∃ a, d.aggregate = some a ∧ a.isTearingDown = true
  walk : ¬StartedAfterEnd d.notes

/-- The claim of the leg is not granted after its end was delivered, and a walk
is not begun while the end waits for call control. -/
def InOrder (d : Desk) (e : DeskEvent) : Prop :=
  (e = .claimed .claimed → d.ending = .idle) ∧
    (e = .mirrored → d.routingEnabled = true → ∀ cause, d.ending ≠ .controlling cause)

section caught

variable {d d' : Desk} {e : DeskEvent} {n : Note} {notes : List Note}

theorem startedAfterEnd_append (h : StartedAfterEnd (notes ++ [n])) :
    StartedAfterEnd notes ∨ (n = .walkStarted ∧ .ended ∈ notes) := by
  obtain ⟨pre, post, heq, hin⟩ := h
  obtain rfl | ⟨post, m, rfl⟩ := List.eq_nil_or_concat post
  · cases hin
  · simp only [List.concat_eq_append, ← List.cons_append, ← List.append_assoc] at heq
    obtain ⟨rfl, hm⟩ := List.append_inj' heq rfl
    obtain rfl := (List.cons.inj hm).1
    obtain hin | hin := List.mem_append.mp (List.concat_eq_append ▸ hin)
    · exact .inl ⟨pre, post, rfl, hin⟩
    · obtain rfl : n = .walkStarted := (List.mem_singleton.mp hin).symm
      exact .inr ⟨rfl, by simp⟩

theorem not_started_append (h : ¬StartedAfterEnd notes) (hn : n ≠ .walkStarted) :
    ¬StartedAfterEnd (notes ++ [n]) := by
  intro hw
  obtain hw | ⟨heq, -⟩ := startedAfterEnd_append hw
  · exact h hw
  · exact hn heq

theorem StartedAfterEnd.append (h : StartedAfterEnd notes) (more : List Note) :
    StartedAfterEnd (notes ++ more) := by
  obtain ⟨pre, post, rfl, hin⟩ := h
  exact ⟨pre, post ++ more, by simp, List.mem_append_left _ hin⟩

theorem Caught.entered (h : Caught d) : Caught (d.note .entered) where
  open_ ha := h.open_ (by simpa using ha)
  down := h.down
  reported he ha := by
    obtain ⟨hr, hd⟩ := h.reported he (by simpa using ha)
    exact ⟨List.mem_append_left _ hr, hd⟩
  walk := not_started_append h.walk nofun

theorem Caught.moves (h : Caught d) (next : Arriving) : Caught { d with arriving := next } :=
  ⟨h.open_, h.down, h.reported, h.walk⟩

theorem caught_onLegArrived (h : Caught d) : Caught d.onLegArrived := by
  unfold Desk.onLegArrived
  split
  · exact h.entered.moves .recording
  · split
    · exact h.moves .recording
    · split
      · exact h.moves .rejecting
      · exact h.moves .reading

theorem ending_of_live (h : Caught d) (hin : .admitted ∈ d.notes)
    (ha : d.aggregate = some a) (hl : a.isTearingDown = false) :
    d.ending ≠ .reporting ∧ d.ending ≠ .done := by
  have hnot : ¬(d.ending = .reporting ∨ d.ending = .done) := by
    intro he
    obtain ⟨-, b, hb, hdown⟩ := h.reported he hin
    obtain rfl : a = b := Option.some.inj (ha.symm.trans hb)
    rw [hl] at hdown
    cases hdown
  exact ⟨fun he => hnot (.inl he), fun he => hnot (.inr he)⟩

theorem Caught.advance {b : ChannelSnapshot} {next : Arriving} (h : Caught d)
    (hin : .admitted ∈ d.notes) (ha : d.aggregate = some a) (hl : a.isTearingDown = false)
    (hb : b.isTearingDown = false) : Caught { d with aggregate := some b, arriving := next } := by
  obtain ⟨hr, hd⟩ := ending_of_live h hin ha hl
  refine ⟨?_, fun he => absurd he hd, ?_, h.walk⟩
  · exact fun _ he => ⟨(h.open_ hin he).1, b, rfl, hb⟩
  · rintro (he | he)
    · exact absurd he hr
    · exact absurd he hd

theorem caught_afterClaim {r : ChannelClaimResult} (hd : Sound d) (h : Caught d)
    (ha : d.arriving = .claiming) (hC : r = .claimed → d.ending = .idle) : Caught (d.afterClaim r) := by
  cases r with
  | claimed =>
    have hidle := hC rfl
    refine ⟨?_, ?_, ?_, ?_⟩
    · exact fun _ _ => ⟨rfl, {}, hd.claiming ha, rfl⟩
    · exact fun he => by cases hidle.symm.trans he
    · rintro (he | he)
      · cases hidle.symm.trans he
      · cases hidle.symm.trans he
    · exact not_started_append h.walk nofun
  | _ => exact h.moves .done

theorem caught_afterAttribution {o : Option JsString} (hd : Sound d) (h : Caught d)
    (ha : d.arriving = .attributing) : Caught (d.afterAttribution o) := by
  cases o with
  | none => exact h.moves .rejecting
  | some o =>
    obtain ⟨hreg, hin, -⟩ := hd.early (by simp [ha])
    refine ⟨fun hadm => absurd hadm hin, ?_, fun _ hadm => absurd hadm hin, h.walk⟩
    intro _ a hby
    simp [Desk.afterAttribution, hreg] at hby

theorem caught_afterSubscribe (hd : Sound d) (h : Caught d) (ha : d.arriving = .watching) :
    Caught d.afterSubscribe := by
  have hin : .admitted ∈ d.notes := hd.late (by simp [ha])
  obtain ⟨a, haggr, hstate | ⟨hstate, -⟩⟩ := hd.watching ha
  · rw [afterSubscribe_created haggr hstate]
    exact h.advance hin haggr (by simp [hstate]) rfl
  · rw [afterSubscribe_tearingDown haggr hstate]
    exact h.moves .done

theorem caught_afterMirror (hd : Sound d) (h : Caught d) (ha : d.arriving = .mirroring)
    (hC : d.routingEnabled = true → ∀ cause, d.ending ≠ .controlling cause) : Caught d.afterMirror := by
  have hin : .admitted ∈ d.notes := hd.late (by simp [ha])
  obtain ⟨a, haggr, hstate | ⟨hstate, -⟩⟩ := hd.later (.inr ha)
  · have hlive : a.isTearingDown = false := by
      simp [hstate]
    rw [afterMirror_routing haggr hstate]
    cases hr : d.routingEnabled with
    | false => exact h.advance hin haggr hlive rfl
    | true =>
      obtain ⟨hrep, hdone⟩ := ending_of_live h hin haggr hlive
      have hidle : d.ending = .idle := by
        cases he : d.ending with
        | idle => rfl
        | controlling cause => exact absurd he (hC hr cause)
        | reporting => exact absurd he hrep
        | done => exact absurd he hdone
      have hnoted : Caught (d.note .walkStarted) := by
        refine ⟨fun _ => h.open_ hin, h.down, ?_, ?_⟩
        · rintro (he | he)
          · exact absurd he hrep
          · exact absurd he hdone
        · intro hw
          obtain hw | ⟨-, hended⟩ := startedAfterEnd_append hw
          · exact h.walk hw
          · exact hd.ended.mp hended hidle
      exact hnoted.advance (List.mem_append_left _ hin) haggr hlive rfl
  · rw [afterMirror_tearingDown haggr hstate]
    exact h.moves .done

theorem caught_onLegEnded (h : Caught d) (he : d.ending = .idle) : Caught (d.onLegEnded cause) := by
  have hwalk : ¬StartedAfterEnd (d.notes ++ [.ended]) := not_started_append h.walk nofun
  have hold : .admitted ∈ d.notes ++ [Note.ended] → .admitted ∈ d.notes := by simp
  unfold Desk.onLegEnded
  split
  · rename_i hby
    refine ⟨nofun, ?_, ?_, hwalk⟩
    · intro _ a ha
      cases hby.symm.trans ha
    · intro _ hin
      obtain ⟨hreg, a, ha, -⟩ := h.open_ (hold hin) he
      simp [hreg, ha] at hby
  · rename_i a hby
    obtain ⟨hreg, haggr⟩ := byAriChannelId_eq hby
    split
    · rename_i hst
      have hdown : a.isTearingDown = true := by
        simp [hst]
      have heq : (d.note .ended).finishReporting a =
          { (d.note .ended).note .reportingStarted with aggregate := some a, ending := .reporting } := by
        simp [hst]
      rw [heq]
      refine ⟨nofun, nofun, ?_, ?_⟩
      · exact fun _ _ => ⟨by simp, a, rfl, hdown⟩
      · exact not_started_append hwalk nofun
    · split
      · rename_i hst
        have hdown : a.isTearingDown = true := by
          simp [hst]
        refine ⟨nofun, ?_, ?_, hwalk⟩
        · intro _ b hb
          obtain rfl : b = a := Option.some.inj (hb.symm.trans hby)
          exact hdown
        · intro _ hin
          obtain ⟨-, b, hb, hlive⟩ := h.open_ (hold hin) he
          obtain rfl : b = a := Option.some.inj (hb.symm.trans haggr)
          rw [hlive] at hdown
          cases hdown
      · refine ⟨nofun, nofun, ?_, hwalk⟩
        rintro (hc | hc)
        · cases hc
        · cases hc

theorem caught_afterControl (hd : Sound d) (h : Caught d)
    (he : d.ending = .controlling cause) : Caught (d.afterControl cause at_) := by
  obtain ⟨-, a, haggr, hne, hne'⟩ := hd.controlling cause he
  obtain ⟨b, hb, heq⟩ := afterControl_eq haggr hne hne'
  rw [heq]
  refine ⟨nofun, nofun, ?_, ?_⟩
  · exact fun _ _ => ⟨by simp, b, rfl,
      by simp [hb]⟩
  · exact not_started_append h.walk nofun

theorem caught_afterReport {written : Bool} (hd : Sound d) (h : Caught d)
    (he : d.ending = .reporting) : Caught (d.afterReport written) := by
  obtain ⟨a, haggr, hstate⟩ := hd.reporting he
  unfold Desk.afterReport
  split
  · refine ⟨by simp, ?_, ?_, h.walk⟩
    · intro _ b hb
      simp at hb
    · intro _ hin
      obtain ⟨hr, -⟩ := h.reported (.inl he) hin
      refine ⟨hr, (a.transitionTo .destroyed).getD a, by simp [haggr], ?_⟩
      simp [ChannelSnapshot.transitionTo, hstate]
  · refine ⟨by simp, ?_, fun _ hin => h.reported (.inl he) hin, h.walk⟩
    intro _ b hb
    obtain ⟨-, hb⟩ := byAriChannelId_eq hb
    obtain rfl : b = a := Option.some.inj (hb.symm.trans haggr)
    simp [hstate]

theorem caught_step (hC : InOrder d e) (hd : Sound d) (h : Caught d) (hs : d.step e = some d') :
    Caught d' := by
  cases e with
  | arrived =>
    obtain ⟨-, rfl⟩ := of_guard hs
    exact caught_onLegArrived h
  | legEnded cause =>
    obtain ⟨⟨-, he⟩, rfl⟩ := of_guard hs
    exact caught_onLegEnded h he
  | readVariables b =>
    obtain ⟨-, rfl⟩ := of_guard hs
    unfold Desk.afterVariables
    split
    · exact h.entered.moves .done
    · exact h.moves .attributing
  | attributed o =>
    obtain ⟨ha, rfl⟩ := of_guard hs
    exact caught_afterAttribution hd h ha
  | claimed r =>
    obtain ⟨ha, rfl⟩ := of_guard hs
    exact caught_afterClaim hd h ha fun hr => hC.1 (by rw [hr])
  | subscribed =>
    obtain ⟨ha, rfl⟩ := of_guard hs
    exact caught_afterSubscribe hd h ha
  | mirrored =>
    obtain ⟨ha, rfl⟩ := of_guard hs
    exact caught_afterMirror hd h ha (hC.2 rfl)
  | released at_ =>
    simp only [Desk.step] at hs
    split at hs
    · rename_i cause he
      cases hs
      exact caught_afterControl hd h he
    · cases hs
  | reported written =>
    obtain ⟨he, rfl⟩ := of_guard hs
    exact caught_afterReport hd h he
  | published =>
    obtain ⟨-, rfl⟩ := of_guard hs
    exact h.moves .mirroring
  | _ =>
    obtain ⟨-, rfl⟩ := of_guard hs
    exact h.moves .done

end caught

/-- Both handlers are still to come; the leg may be known from before. -/
structure Desk.Fresh (d : Desk) : Prop where
  arriving : d.arriving = .idle
  ending : d.ending = .idle
  notes : d.notes = []
  registered : d.registered = true ↔ d.aggregate.isSome

/-- The leg has ended, and nothing is left of it but what is being reported. -/
structure NoZombie (d : Desk) : Prop where
  live : ∀ a, d.byAriChannelId = some a → a.isTearingDown = true
  walk : ¬StartedAfterEnd d.notes
  reported : .admitted ∈ d.notes → .reportingStarted ∈ d.notes

/-- The end was delivered before the leg was admitted. -/
structure Zombie (d : Desk) : Prop where
  ending : d.ending = .done
  alive : ∃ a, d.byAriChannelId = some a ∧ a.isTearingDown = false
  late : d.arriving.isEarly = false ∧ d.arriving ≠ .idle

section zombie

variable {d d' t : Desk} {e : DeskEvent} {es : List DeskEvent}

theorem Desk.Fresh.sound (h : d.Fresh) : Sound d := by
  obtain ⟨ha, he, hn, hr⟩ := h
  constructor <;> simp_all

theorem Desk.Fresh.caught (h : d.Fresh) : Caught d := by
  obtain ⟨ha, he, hn, hr⟩ := h
  refine ⟨by simp [hn], by simp [he], by simp [he], ?_⟩
  rintro ⟨pre, post, heq, -⟩
  rw [hn] at heq
  simp at heq

def Grows (d d' : Desk) : Prop := ∃ more, d'.notes = d.notes ++ more

theorem grows_of_notes (h : d'.notes = d.notes) : Grows d d' := ⟨[], by simp [h]⟩

theorem grows_finishReporting : Grows d (d.finishReporting a) := by
  simp only [Desk.finishReporting]
  generalize (if a.state = .hangup then a.transitionTo .reporting else none).getD a = b
  split
  · exact ⟨[.reportingStarted], rfl⟩
  · exact grows_of_notes rfl

theorem grows_step (hs : d.step e = some d') : Grows d d' := by
  cases e with
  | arrived =>
    obtain ⟨-, rfl⟩ := of_guard hs
    unfold Desk.onLegArrived
    split
    · exact ⟨[.entered], rfl⟩
    · split
      · exact grows_of_notes rfl
      · split
        · exact grows_of_notes rfl
        · exact grows_of_notes rfl
  | legEnded cause =>
    obtain ⟨-, rfl⟩ := of_guard hs
    unfold Desk.onLegEnded
    split
    · exact ⟨[.ended], rfl⟩
    · rename_i a _
      split
      · obtain ⟨more, hmore⟩ : Grows (d.note .ended) ((d.note .ended).finishReporting a) :=
          grows_finishReporting
        refine ⟨.ended :: more, hmore.trans ?_⟩
        simp
      · split
        · exact ⟨[.ended], rfl⟩
        · exact ⟨[.ended], rfl⟩
  | readVariables b =>
    obtain ⟨-, rfl⟩ := of_guard hs
    unfold Desk.afterVariables
    split
    · exact ⟨[.entered], rfl⟩
    · exact grows_of_notes rfl
  | attributed o =>
    obtain ⟨-, rfl⟩ := of_guard hs
    cases o with
    | none | some _ => exact grows_of_notes rfl
  | claimed r =>
    obtain ⟨-, rfl⟩ := of_guard hs
    cases r with
    | claimed => exact ⟨[.admitted], rfl⟩
    | _ => exact grows_of_notes rfl
  | subscribed =>
    obtain ⟨-, rfl⟩ := of_guard hs
    unfold Desk.afterSubscribe
    split
    · exact grows_of_notes rfl
    · exact grows_of_notes rfl
  | mirrored =>
    obtain ⟨-, rfl⟩ := of_guard hs
    unfold Desk.afterMirror
    split
    · exact grows_of_notes rfl
    · split
      · exact ⟨[.walkStarted], rfl⟩
      · exact grows_of_notes rfl
  | released at_ =>
    simp only [Desk.step] at hs
    split at hs
    · cases hs
      unfold Desk.afterControl
      split
      · exact grows_of_notes rfl
      · exact grows_finishReporting
    · cases hs
  | reported written =>
    obtain ⟨-, rfl⟩ := of_guard hs
    unfold Desk.afterReport
    split
    · exact grows_of_notes rfl
    · exact grows_of_notes rfl
  | _ =>
    obtain ⟨-, rfl⟩ := of_guard hs
    exact grows_of_notes rfl

theorem startedAfterEnd_step (h : StartedAfterEnd d.notes) (hs : d.step e = some d') :
    StartedAfterEnd d'.notes := by
  obtain ⟨more, hmore⟩ := grows_step hs
  rw [hmore]
  exact h.append more

theorem zombie_step (hd : Sound d) (h : Zombie d) (hs : d.step e = some d') : Zombie d' := by
  obtain ⟨he, ⟨a, hby, hlive⟩, hearly, hidle⟩ := h
  obtain ⟨hreg, haggr⟩ := byAriChannelId_eq hby
  have hstays : ∀ b next, b.isTearingDown = false → next.isEarly = false → next ≠ .idle →
      Zombie { d with aggregate := some b, arriving := next } := by
    intro b next hb hn hn'
    exact ⟨he, ⟨b, by simp [hreg], hb⟩, hn, hn'⟩
  have hmoves : ∀ next, next.isEarly = false → next ≠ .idle → Zombie { d with arriving := next } :=
    fun next hn hn' => ⟨he, ⟨a, hby, hlive⟩, hn, hn'⟩
  cases e with
  | arrived =>
    obtain ⟨ha, -⟩ := of_guard hs
    exact absurd ha hidle
  | legEnded cause =>
    obtain ⟨⟨-, hc⟩, -⟩ := of_guard hs
    cases he.symm.trans hc
  | readVariables _ | attributed _ | claimed _ =>
    obtain ⟨ha, -⟩ := of_guard hs
    simp [ha] at hearly
  | failed =>
    obtain ⟨ha | ha, -⟩ := of_guard hs
    · simp [ha] at hearly
    · simp [ha] at hearly
  | subscribed =>
    obtain ⟨ha, rfl⟩ := of_guard hs
    obtain ⟨b, hb, hstate | ⟨hstate, -⟩⟩ := hd.watching ha
    · rw [afterSubscribe_created hb hstate]
      exact hstays _ _ rfl rfl (by simp)
    · rw [afterSubscribe_tearingDown hb hstate]
      exact hmoves .done rfl (by simp)
  | published =>
    obtain ⟨-, rfl⟩ := of_guard hs
    exact hmoves .mirroring rfl (by simp)
  | mirrored =>
    obtain ⟨ha, rfl⟩ := of_guard hs
    obtain ⟨b, hb, hstate | ⟨hstate, -⟩⟩ := hd.later (.inr ha)
    · rw [afterMirror_routing hb hstate]
      cases d.routingEnabled with
      | true =>
        refine ⟨he, ⟨{ b with state := .executing }, ?_, rfl⟩, rfl, by simp⟩
        simp [hreg]
      | false => exact hstays _ _ rfl rfl (by simp)
    · rw [afterMirror_tearingDown hb hstate]
      exact hmoves .done rfl (by simp)
  | released at_ =>
    simp only [Desk.step, he] at hs
    cases hs
  | reported written =>
    obtain ⟨hc, -⟩ := of_guard hs
    cases he.symm.trans hc
  | _ =>
    obtain ⟨-, rfl⟩ := of_guard hs
    exact hmoves .done rfl (by simp)

/-- A step out of order leaves a zombie, or a walk that began after the end. -/
theorem out_of_order (hd : Sound d) (hC : ¬InOrder d e) (hs : d.step e = some d') :
    Zombie d' ∨ StartedAfterEnd d'.notes := by
  have hcases : (e = .claimed .claimed ∧ d.ending ≠ .idle) ∨
      (e = .mirrored ∧ d.routingEnabled = true ∧ ∃ cause, d.ending = .controlling cause) := by
    by_cases h₁ : e = .claimed .claimed ∧ d.ending ≠ .idle
    · exact .inl h₁
    · right
      by_contra h₂
      apply hC
      refine ⟨fun he => by_contra fun hi => h₁ ⟨he, hi⟩, ?_⟩
      exact fun he hr cause hc => h₂ ⟨he, hr, cause, hc⟩
  obtain ⟨rfl, hne⟩ | ⟨rfl, hr, cause, hc⟩ := hcases
  · left
    obtain ⟨ha, rfl⟩ := of_guard hs
    obtain ⟨-, -, he | he⟩ := hd.early (by simp [ha])
    · exact absurd he hne
    · exact ⟨he, ⟨{}, by simp [Desk.afterClaim, hd.claiming ha], rfl⟩,
        rfl, by simp [Desk.afterClaim]⟩
  · right
    obtain ⟨ha, rfl⟩ := of_guard hs
    obtain ⟨a, haggr, hstate⟩ := hd.later (.inr ha)
    obtain ⟨-, b, hb, hne, hne'⟩ := hd.controlling cause hc
    obtain rfl : b = a := Option.some.inj (hb.symm.trans haggr)
    have hrouting : b.state = .routing := by
      obtain hstate | ⟨hdown, hne''⟩ := hstate
      · exact hstate
      · cases hs : b.state <;>
          simp_all
    obtain ⟨pre, post, hsplit⟩ := List.append_of_mem (hd.ended.mpr (by simp [hc]))
    rw [afterMirror_routing haggr hrouting, if_pos hr]
    exact ⟨pre, post ++ [.walkStarted], by simp [hsplit], by simp⟩

/-- Once the handler of the end is over, nothing is left of the leg exactly if it
was not admitted after its end and no walk was begun while its end was handled. -/
theorem noZombie_iff (d t : Desk) (es : List DeskEvent) (hfresh : d.Fresh)
    (hrun : run Desk.step d es = some t) (he : t.ending = .done) :
    NoZombie t ↔ Meets Desk.step InOrder d es := by
  constructor
  · intro h
    by_contra hnot
    obtain ⟨pre, e, post, u, v, rfl, hpre, hC, hstep, hpost⟩ := not_meets_cases hnot hrun
    have hu : Sound u := run_keeps Sound (fun _ _ _ => sound_step) hfresh.sound hpre
    obtain hz | hw := out_of_order hu hC hstep
    · have ht : Sound t ∧ Zombie t := by
        apply run_keeps (fun d => Sound d ∧ Zombie d) _ ⟨sound_step hu hstep, hz⟩ hpost
        exact fun _ _ _ hi hs => ⟨sound_step hi.1 hs, zombie_step hi.1 hi.2 hs⟩
      obtain ⟨a, hby, hlive⟩ := ht.2.alive
      have hdown := h.live a hby
      rw [hlive] at hdown
      cases hdown
    · exact h.walk (run_keeps (StartedAfterEnd ·.notes) (fun _ _ _ => startedAfterEnd_step) hw hpost)
  · intro hC
    have ht : Sound t ∧ Caught t := by
      apply run_keeps_of (fun d => Sound d ∧ Caught d) _ hC ⟨hfresh.sound, hfresh.caught⟩ hrun
      exact fun _ _ _ hC hi hs => ⟨sound_step hi.1 hs, caught_step hC hi.1 hi.2 hs⟩
    refine ⟨ht.2.down he, ht.2.walk, ?_⟩
    exact fun hin => (ht.2.reported (.inr he) hin).1

def newLeg : Desk where
  isWatched := false
  isAccepting := true
  routingEnabled := true
  aggregate := none
  registered := false
  arriving := .idle
  ending := .idle
  notes := []

theorem newLeg_fresh : newLeg.Fresh := ⟨rfl, rfl, rfl, by decide⟩

def ordinaryCall : List DeskEvent :=
  [.arrived, .readVariables false, .attributed (some (lit "org-1")), .claimed .claimed, .subscribed,
    .published, .mirrored, .legEnded .normalClearing, .released 5, .reported true]

theorem noZombie_ordinaryCall : ∃ t, run Desk.step newLeg ordinaryCall = some t ∧
      (NoZombie t ↔ Meets Desk.step InOrder newLeg ordinaryCall) := by
  obtain ⟨t, hrun⟩ : ∃ t, run Desk.step newLeg ordinaryCall = some t :=
    Option.isSome_iff_exists.mp (by decide)
  have hdone : (run Desk.step newLeg ordinaryCall).all (·.ending = .done) = true := by decide
  rw [hrun] at hdone
  exact ⟨t, hrun, noZombie_iff newLeg t ordinaryCall newLeg_fresh hrun (by simpa using hdone)⟩

/-- The caller hangs up while the engine waits for its claim of the leg. -/
def earlyHangup : List DeskEvent :=
  [.arrived, .readVariables false, .attributed (some (lit "org-1")), .legEnded .normalClearing,
    .claimed .claimed, .subscribed, .published, .mirrored]

/-- Both handlers are over, and the registry has a live leg that a walk was begun for. -/
theorem earlyHangup_zombie :
    ∃ t, run Desk.step newLeg earlyHangup = some t ∧ t.arriving = .done ∧ t.ending = .done ∧
      ¬NoZombie t := by
  have hrun : run Desk.step newLeg earlyHangup = some
      { newLeg with
        aggregate := some { state := .executing }
        registered := true
        arriving := .done
        ending := .done
        notes := [.ended, .admitted, .walkStarted] } := by decide
  refine ⟨_, hrun, rfl, rfl, ?_⟩
  intro h
  cases h.live { state := .executing } rfl

end zombie

end OptimiqVoice.Calls

import OptimiqVoice.Engine.WalkLog

namespace OptimiqVoice.Engine

open Lib Telephony
open Async (Sat ends)

def Gone (w : WalkWorld) : Prop := w.state.caller.abandoned = true

/-- The reply makes the walk believe that its caller is gone. -/
def tells (q : Request) (a : Reply) : Bool :=
  a.event = some .callerEnded ||
    match q with
    | .verb .answer | .refreshConference _ => !a.granted
    | .awaitAnswer _ => a.event ≠ some .callerAnswered && !a.isAnswered
    | .verb (.gather _) => a.hangup
    | _ => false

def Misled (log : WalkLog) : Prop := ∃ q a, [.sent q, .got a] <:+: log ∧ tells q a = true

/-- The walk has reason to leave its caller alone: the caller is gone, or it was
made to believe so. -/
def Excused (w : WalkWorld) : Prop := ¬Misled w.log → Gone w

/-- A world as a program leaves it: the log only grows and no flag is taken back. -/
structure Grows (w w' : WalkWorld) : Prop where
  log : w.log <+: w'.log
  gone : Gone w → Gone w'

namespace Grows

variable {w w' w'' : WalkWorld}

theorem refl (w : WalkWorld) : Grows w w := ⟨List.prefix_refl _, id⟩

theorem trans (h : Grows w w') (h' : Grows w' w'') : Grows w w'' :=
  ⟨h.log.trans h'.log, h'.gone ∘ h.gone⟩

theorem misled (h : Grows w w') (hm : Misled w.log) : Misled w'.log := by
  obtain ⟨q, a, hin, ht⟩ := hm
  exact ⟨q, a, hin.trans h.log.isInfix, ht⟩

theorem excused (h : Grows w w') (he : Excused w) : Excused w' :=
  fun hm => h.gone (he fun hw => hm (h.misled hw))

end Grows

/-- The reply says that the leg has been connected to somebody or parked. -/
def connects (q : Request) (a : Reply) : Bool :=
  match q with
  | .addToBridge _ _ => !a.rejected
  | .park _ | .unpark _ _ | .pickup _ _ => !a.rejected && a.granted
  | _ => false

def Connected (w : WalkWorld) : Prop :=
  ∃ q a, [.sent q, .got a] <:+: w.log ∧ connects q a = true

def Stable (P : WalkWorld → Prop) : Prop := ∀ w w', Grows w w' → P w → P w'

theorem stable_excused : Stable Excused := fun _ _ h he => h.excused he

theorem stable_connected : Stable Connected := by
  rintro w w' h ⟨q, a, hin, hc⟩
  exact ⟨q, a, hin.trans h.log.isInfix, hc⟩

def sent (w : WalkWorld) (q : Request) : WalkWorld := { w with log := w.log ++ [.sent q] }

def replied (w : WalkWorld) (q : Request) (a : Reply) (rest : List Reply) : WalkWorld :=
  ⟨{ w.state with caller := a.raise w.state.caller }, rest, w.log ++ [.sent q, .got a]⟩

theorem grows_sent (w : WalkWorld) (q : Request) : Grows w (sent w q) :=
  ⟨List.prefix_append _ _, id⟩

theorem gone_replied {w : WalkWorld} {q : Request} {a : Reply} {rest : List Reply} :
    Gone (replied w q a rest) ↔ Gone w ∨ (a.isTearingDown || a.isDetached) = true := by
  simp only [Gone, replied, Reply.raise, Caller.abandoned, Bool.or_eq_true]
  tauto

theorem grows_replied (w : WalkWorld) (q : Request) (a : Reply) (rest : List Reply) :
    Grows w (replied w q a rest) :=
  ⟨List.prefix_append _ _, fun h => gone_replied.mpr (.inl h)⟩

theorem excused_replied {w : WalkWorld} {q : Request} {a : Reply} {rest : List Reply}
    (h : tells q a = true) : Excused (replied w q a rest) := by
  intro hm
  exact absurd ⟨q, a, (List.suffix_append _ _).isInfix, h⟩ hm

/-- What the walk may conclude from a reply. -/
structure Heard (q : Request) (a : Reply) (w : WalkWorld) : Prop where
  excused : tells q a = true → Excused w
  connected : connects q a = true → Connected w
  answered : a.isAnswered = true → w.state.caller.isAnswered = true

theorem heard_replied (w : WalkWorld) (q : Request) (a : Reply) (rest : List Reply) :
    Heard q a (replied w q a rest) where
  excused := excused_replied
  connected hc := ⟨q, a, (List.suffix_append _ _).isInfix, hc⟩
  answered ha := by simp [replied, Reply.raise, ha]

/-- An invariant that requests of a kind leave alone, like everything else a
program does but to make requests. -/
structure Closed (S : Request → Prop) (I : WalkWorld → Prop) : Prop where
  sent : ∀ w q, S q → I w → I (sent w q)
  replied : ∀ w q a rest, S q → I w → I (replied w q a rest)
  state : ∀ w s, s.caller = w.state.caller → I w → I { w with state := s }

theorem Closed.calm {I : WalkWorld → Prop} (h : Closed Request.Still I) : Closed (·.isCalm) I where
  sent w q hq := h.sent w q (Request.calm_of_isCalm hq).still
  replied w q a rest hq := h.replied w q a rest (Request.calm_of_isCalm hq).still
  state := h.state

theorem room_still {q : Request} {id : JsString} (h : q.room = some id) : q.Still := by
  cases q with
  | joinConference _ _ _ _ | leaveConference _ | leaveOnEnd _ _ => exact ⟨rfl, rfl⟩
  | _ => cases h

theorem Closed.rooms {I : WalkWorld → Prop} (h : Closed Request.Still I) (id : JsString) :
    Closed (fun q => q.room = some id) I :=
  ⟨fun w q hq => h.sent w q (room_still hq), fun w q a rest hq => h.replied w q a rest (room_still hq),
    h.state⟩

section keeps

variable {α β : Type} {S : Request → Prop} {I : WalkWorld → Prop} {P P' : WalkWorld → Prop}
variable {m : Walk α} {Q Q' : α → WalkWorld → Prop}

/-- The program keeps the invariant, however it ends, and turns `P` into `Q`. -/
def Keeps (I P : WalkWorld → Prop) (m : Walk α) (Q : α → WalkWorld → Prop) : Prop :=
  ∀ w₀, Sat (fun w => w = w₀ ∧ I w ∧ P w) m
    (ends (fun a w => I w ∧ Grows w₀ w ∧ Q a w) (fun w => I w ∧ Grows w₀ w)
      (fun w => I w ∧ Grows w₀ w))

def Calmly (I : WalkWorld → Prop) (m : Walk α) : Prop := Keeps I (fun _ => True) m fun _ _ => True

theorem Keeps.weaken (h : Keeps I P m Q) (hp : ∀ w, I w → P' w → P w)
    (hq : ∀ a w, I w → Q a w → Q' a w) : Keeps I P' m Q' := by
  intro w₀
  apply Sat.pre (P := fun w => w = w₀ ∧ I w ∧ P w)
  · exact (h w₀).post (fun a w hw => ⟨hw.1, hw.2.1, hq a w hw.1 hw.2.2⟩) (fun _ => id) (fun _ => id)
  · exact fun w hw => ⟨hw.1, hw.2.1, hp w hw.2.1 hw.2.2⟩

theorem Keeps.given (h : Keeps I P m Q) {c : Prop} (hc : c) : Keeps I (fun w => c → P w) m Q :=
  h.weaken (fun _ _ hp => hp hc) fun _ _ _ => id

theorem Keeps.sat (h : Keeps I P m Q) (w₀ : WalkWorld) : Sat (fun w => I w ∧ Grows w₀ w ∧ P w) m
      (ends (fun a w => I w ∧ Grows w₀ w ∧ Q a w) I I) := by
  rintro w ⟨hI, hg, hP⟩
  apply (h w).post _ _ _ w ⟨rfl, hI, hP⟩
  · exact fun a w' hw => ⟨hw.1, hg.trans hw.2.1, hw.2.2⟩
  · exact fun w' hw => hw.1
  · exact fun w' hw => hw.1

theorem Keeps.calmly (h : Keeps I (fun _ => True) m Q) : Calmly I m :=
  h.weaken (fun _ _ => id) fun _ _ _ _ => trivial

theorem Keeps.keep {T : WalkWorld → Prop} (h : Keeps I P m Q) (hT : Stable T) :
    Keeps I (fun w => P w ∧ T w) m fun a w => Q a w ∧ T w := by
  rintro w₀ w ⟨rfl, hI, hP, ht⟩
  have hm := h w w ⟨rfl, hI, hP⟩
  cases he : (m w).1 with
  | done a =>
    rw [he] at hm
    exact ⟨hm.1, hm.2.1, hm.2.2, hT _ _ hm.2.1 ht⟩
  | thrown | cut =>
    rw [he] at hm
    exact hm

theorem Calmly.keep {T : WalkWorld → Prop} (h : Calmly I m) (hT : Stable T) :
    Keeps I T m fun _ => T :=
  (Keeps.keep h hT).weaken (fun _ _ ht => ⟨trivial, ht⟩) fun _ _ _ ht => ht.2

theorem Calmly.keeps (h : Calmly I m) : Keeps I P m fun _ _ => True :=
  h.weaken (fun _ _ _ => trivial) fun _ _ _ => id

theorem keeps_pure {a : α} (h : ∀ w, I w → P w → Q a w) : Keeps I P (pure a) Q := by
  rintro w₀ w ⟨rfl, hI, hP⟩
  exact ⟨hI, Grows.refl w, h w hI hP⟩

theorem keeps_throw : Keeps I P (Walk.throw : Walk α) Q := by
  rintro w₀ w ⟨rfl, hI, hP⟩
  exact ⟨hI, Grows.refl w⟩

theorem calmly_pure {a : α} : Calmly I (pure a : Walk α) := keeps_pure fun _ _ _ => trivial

variable {f : α → Walk β}

theorem Keeps.bind {R : β → WalkWorld → Prop} (h : Keeps I P m Q)
    (k : ∀ a, Keeps I (Q a) (f a) R) : Keeps I P (m >>= f) R := by
  intro w₀
  apply (h w₀).bind
  rintro a w ⟨hI, hg, hQ⟩
  apply (k a w).post _ _ _ w ⟨rfl, hI, hQ⟩
  · exact fun b w' hw => ⟨hw.1, hg.trans hw.2.1, hw.2.2⟩
  · exact fun w' hw => ⟨hw.1, hg.trans hw.2⟩
  · exact fun w' hw => ⟨hw.1, hg.trans hw.2⟩

theorem Calmly.bind (h : Calmly I m) (k : ∀ a, Calmly I (f a)) : Calmly I (m >>= f) :=
  Keeps.bind h k

theorem Calmly.then {R : β → WalkWorld → Prop} (h : Calmly I m)
    (k : ∀ a, Keeps I (fun _ => True) (f a) R) : Keeps I P (m >>= f) R :=
  Keeps.bind h.keeps k

theorem Keeps.ite {c : Prop} [Decidable c] {m' : Walk α} (h : c → Keeps I P m Q)
    (h' : ¬c → Keeps I P m' Q) : Keeps I P (if c then m else m') Q :=
  fun w₀ => Sat.ite (fun hc => h hc w₀) fun hc => h' hc w₀

theorem Calmly.ite {c : Prop} [Decidable c] {m' : Walk α} (h : Calmly I m) (h' : Calmly I m') :
    Calmly I (if c then m else m') :=
  Keeps.ite (fun _ => h) fun _ => h'

theorem keeps_caller : Keeps I P Walk.caller fun c w => c = w.state.caller ∧ P w := by
  rintro w₀ w ⟨rfl, hI, hP⟩
  exact ⟨hI, Grows.refl w, rfl, hP⟩

theorem keeps_state {f : WalkState → WalkState} (hI : Closed S I)
    (hf : ∀ s, (f s).caller = s.caller) : Calmly I (Async.modify f : Walk Unit) := by
  rintro w₀ w ⟨rfl, hw, hP⟩
  refine ⟨hI.state w _ (hf _) hw, ⟨List.prefix_refl _, ?_⟩, trivial⟩
  intro hg
  change (f w.state).caller.abandoned = true
  rw [hf]
  exact hg

theorem calmly_caller : Calmly I Walk.caller := (keeps_caller (P := fun _ => True)).calmly

theorem calmly_get {γ : Type} {f : WalkState → γ} :
    Calmly I (do let s ← Async.get; pure (f s) : Walk γ) := by
  rintro w₀ w ⟨rfl, hI, hP⟩
  exact ⟨hI, Grows.refl w, trivial⟩

theorem calmly_session : Calmly I Walk.session := calmly_get

theorem calmly_destination : Calmly I Walk.destination := calmly_get

theorem calmly_updateSession (hI : Closed S I) (f : QueueSession → QueueSession) :
    Calmly I (Walk.updateSession f) :=
  keeps_state hI fun _ => rfl

theorem calmly_newId (hI : Closed S I) : Calmly I Walk.newId := by
  rintro w₀ w ⟨rfl, hw, hP⟩
  exact ⟨hI.state w _ rfl hw, ⟨List.prefix_refl _, id⟩, trivial⟩

section requests

variable {q : Request} (hI : Closed S I) (hq : S q)

include hI hq

theorem keeps_tell : Calmly I (Walk.tell q) := by
  rintro w₀ w ⟨rfl, hw, hP⟩
  exact ⟨hI.sent w q hq hw, grows_sent w q, trivial⟩

theorem keeps_ask : Keeps I P (Walk.ask q) (Heard q) := by
  intro w₀
  apply Async.sat_ask
  · rintro w ⟨rfl, hw, hP⟩
    exact ⟨hI.sent w q hq hw, grows_sent w q⟩
  · rintro w a rest ⟨rfl, hw, hP⟩
    exact ⟨hI.replied w q a rest hq hw, grows_replied w q a rest, heard_replied w q a rest⟩

theorem keeps_call : Keeps I P (Walk.call q) fun a w => a.rejected = false ∧ Heard q a w := by
  apply (keeps_ask hI hq).bind
  intro a
  apply Keeps.ite
  · exact fun _ => keeps_throw
  · exact fun hr => keeps_pure fun w _ h => ⟨by simpa using hr, h⟩

theorem calmly_ask : Calmly I (Walk.ask q) := (keeps_ask hI hq).calmly

theorem calmly_call : Calmly I (Walk.call q) := (keeps_call hI hq).calmly

end requests

theorem calmly_publish (hI : Closed S I) {notice : Notice} (hq : S (.publish notice)) :
    Calmly I (Walk.publish notice) :=
  (calmly_call hI hq).bind fun _ => calmly_pure

theorem Keeps.loop {body : β → Walk (β ⊕ α)} {J : β → WalkWorld → Prop}
    (h : ∀ b, Keeps I (J b) (body b) fun r w => Sum.elim J Q r w) (b : β) :
    Keeps I (J b) (Async.loop body b) Q := by
  intro w₀
  apply Sat.pre (P := fun w => I w ∧ Grows w₀ w ∧ J b w)
  · apply Sat.loop (I := fun b w => I w ∧ Grows w₀ w ∧ J b w)
    · exact fun b w hw => ⟨hw.1, hw.2.1⟩
    · rintro b w ⟨hI, hg, hJ⟩
      apply (h b w).post _ _ _ w ⟨rfl, hI, hJ⟩
      · intro r w' hw
        cases r with
        | inl _ | inr _ => exact ⟨hw.1, hg.trans hw.2.1, hw.2.2⟩
      · exact fun w' hw => ⟨hw.1, hg.trans hw.2⟩
      · exact fun w' hw => ⟨hw.1, hg.trans hw.2⟩
  · rintro w ⟨rfl, hI, hJ⟩
    exact ⟨hI, Grows.refl w, hJ⟩

theorem Keeps.attempt (h : Keeps I P m Q) :
    Keeps I P (Async.attempt m) fun r w => ∀ a, r = some a → Q a w := by
  intro w₀
  have ha : Sat _ (Async.attempt m) (ends _ (fun w => I w ∧ Grows w₀ w) _) := (h w₀).attempt
  apply ha.post _ (fun _ => id) (fun _ => id)
  intro r w hw
  cases r with
  | none => exact ⟨(hw.2 rfl).1, (hw.2 rfl).2, nofun⟩
  | some a =>
    obtain ⟨hI, hg, hQ⟩ := hw.1 a rfl
    exact ⟨hI, hg, fun b hb => Option.some.inj hb ▸ hQ⟩

theorem Calmly.each {g : α → Walk Unit} {l : List α} (h : ∀ a ∈ l, Calmly I (g a)) :
    Calmly I (Async.each g l) := by
  induction l with
  | nil => exact calmly_pure
  | cons a rest ih =>
    apply (h a (by simp)).bind
    intro _
    exact ih fun b hb => h b (by simp [hb])

end keeps

section invariants

/-- The walk knows nothing that would have to stop it. -/
structure Fresh (n : Nat) (log : WalkLog) : Prop where
  heeded : ¬Heeded log
  told : ¬Told log
  entered : entered log = n

/-- Where a walk is between two dials. -/
structure Free (n : Nat) (w : WalkWorld) : Prop where
  fresh : Fresh n w.log
  quiet : Quiet w.log

/-- Nobody is ringing, and the walk has not read that it is abandoned, though a
dial may have been told so. -/
structure Hushed (n : Nat) (w : WalkWorld) : Prop where
  entered : entered w.log = n
  obeys : Obeys w.log
  heeded : ¬Heeded w.log
  quiet : Quiet w.log

variable {n : Nat} {w : WalkWorld} {log : WalkLog} {q : Request} {a : Reply}

theorem ne_check_of_isMark (h : q.isMark = false) : q ≠ .check true := by
  rintro rfl
  exact absurd h (by decide)

theorem isEnter_of_isMark (h : q.isMark = false) : isEnter (.sent q) = false := by
  cases q with
  | enter id => exact absurd h (by simp [Request.isMark])
  | _ => rfl

theorem asked_eq : log ++ [.sent q, .got a] = (log ++ [.sent q]) ++ [.got a] := by simp

section

variable (h : q.isMark = false)

include h

theorem entered_unmarked : entered (log ++ [.sent q]) = entered log := by
  rw [entered_sent, isEnter_of_isMark h]
  simp

theorem entered_asked :
    entered (log ++ [.sent q, .got a]) = entered log := by
  rw [asked_eq, entered_got, entered_unmarked h]

theorem heeded_unmarked : Heeded (log ++ [.sent q]) ↔ Heeded log := by
  simp [heeded_sent, ne_check_of_isMark h]

theorem heeded_asked : Heeded (log ++ [.sent q, .got a]) ↔ Heeded log := by
  rw [asked_eq, heeded_got, heeded_unmarked h]

end

theorem Fresh.sent (h : Fresh n log) (hm : q.isMark = false) : Fresh n (log ++ [.sent q]) where
  heeded := (heeded_unmarked hm).not.mpr h.heeded
  told := told_sent.not.mpr h.told
  entered := (entered_unmarked hm).trans h.entered

theorem Fresh.asked (h : Fresh n log) (hm : q.isMark = false)
    (ht : q = .awaitLegs true → a.event ≠ some .callerEnded) :
    Fresh n (log ++ [.sent q, .got a]) where
  heeded := (heeded_asked hm).not.mpr h.heeded
  told := by
    intro htold
    obtain htold | ⟨hq, ha⟩ := told_asked htold
    · exact h.told htold
    · exact ht hq ha
  entered := (entered_asked hm).trans h.entered

theorem Quiet.append {more : WalkLog} (h : Quiet log)
    (hm : ∀ leg attempt, .sent (.originate leg attempt) ∉ more) : Quiet (log ++ more) := by
  intro leg hr
  obtain hr | ⟨attempt, ho⟩ := hr.of_append
  · exact h leg hr
  · exact hm leg attempt ho

theorem not_originate_mem (h : q.isDialing = false) (leg : LegId) (attempt : DialAttempt)
    (tail : WalkLog) (ht : tail = [] ∨ tail = [.got a]) :
    .sent (.originate leg attempt) ∉ Moment.sent q :: tail := by
  have hq : q ≠ .originate leg attempt := by
    rintro rfl
    exact absurd h (by simp [Request.isDialing])
  obtain rfl | rfl := ht <;> simp [Ne.symm hq]

theorem Quiet.sent (h : Quiet log) (hq : q.isDialing = false) : Quiet (log ++ [.sent q]) :=
  h.append fun leg attempt => not_originate_mem (a := {}) hq leg attempt [] (.inl rfl)

theorem Quiet.asked (h : Quiet log) (hq : q.isDialing = false) : Quiet (log ++ [.sent q, .got a]) :=
  h.append fun leg attempt => not_originate_mem hq leg attempt [.got a] (.inr rfl)

theorem still_free : Closed Request.Still (Free n) where
  sent _ _ hq h := ⟨h.fresh.sent hq.mark, h.quiet.sent hq.dialing⟩
  replied _ _ _ _ hq h := by
    refine ⟨h.fresh.asked hq.mark ?_, h.quiet.asked hq.dialing⟩
    rintro rfl
    exact absurd hq.dialing (by decide)
  state _ _ _ h := ⟨h.fresh, h.quiet⟩

theorem Obeys.calm (h : Obeys log) (hh : ¬Heeded log) (hq : q.isDialing = false) :
    Obeys (log ++ [.sent q]) :=
  h.sent (fun h => absurd h hh) fun _ => hq

theorem Obeys.asked (h : Obeys (log ++ [.sent q])) : Obeys (log ++ [.sent q, .got a]) := by
  rw [asked_eq]
  exact h.got

theorem still_hushed : Closed Request.Still (Hushed n) where
  sent _ _ hq h :=
    { entered := (entered_unmarked hq.mark).trans h.entered
      obeys := h.obeys.calm h.heeded hq.dialing
      heeded := (heeded_unmarked hq.mark).not.mpr h.heeded
      quiet := h.quiet.sent hq.dialing }
  replied _ _ _ _ hq h :=
    { entered := (entered_asked hq.mark).trans h.entered
      obeys := (h.obeys.calm h.heeded hq.dialing).asked
      heeded := (heeded_asked hq.mark).not.mpr h.heeded
      quiet := h.quiet.asked hq.dialing }
  state _ _ _ h := ⟨h.entered, h.obeys, h.heeded, h.quiet⟩

theorem closed_free : Closed (·.isCalm) (Free n) := still_free.calm

theorem closed_hushed : Closed (·.isCalm) (Hushed n) := still_hushed.calm

theorem Fresh.obeys (h : Fresh n log) : Obeys log := obeys_of_unaware h.heeded h.told

theorem Free.hushed (h : Free n w) : Hushed n w :=
  ⟨h.fresh.entered, h.fresh.obeys, h.fresh.heeded, h.quiet⟩

end invariants

section checking

variable {n : Nat} {w₀ : WalkWorld}

theorem Fresh.checked {log : WalkLog} (h : Fresh n log) : Fresh n (log ++ [.sent (.check false)]) where
  heeded := by simpa [heeded_sent] using h.heeded
  told := told_sent.not.mpr h.told
  entered := by
    rw [entered_sent]
    exact h.entered

/-- A walk as it is when the observation of it ends. -/
structure Stalled (n : Nat) (w : WalkWorld) : Prop where
  entered : entered w.log = n
  obeys : Obeys w.log

/-- The walk has just read that it is abandoned. -/
structure Noted (n : Nat) (w₀ w : WalkWorld) : Prop where
  entered : entered w.log = n
  obeys : Obeys w.log
  quiet : Quiet w.log
  grows : Grows w₀ w
  gone : Gone w

abbrev FreeSince (n : Nat) (w₀ w : WalkWorld) : Prop := Free n w ∧ Grows w₀ w

/-- However the program ends, the walk has acted on what it knows. -/
abbrev heeding {α : Type} (n : Nat) (Q : α → WalkWorld → Prop) : Exit α → WalkWorld → Prop :=
  ends Q (Hushed n) (Stalled n)

theorem Free.stalled {w : WalkWorld} (h : Free n w) : Stalled n w :=
  ⟨h.fresh.entered, h.fresh.obeys⟩

theorem abandoned_sat : Sat (FreeSince n w₀) Walk.abandoned
      (heeding n (fun b w => (b = false → FreeSince n w₀ w) ∧ (b = true → Noted n w₀ w))) := by
  rintro w ⟨hf, hg⟩
  have hquiet := hf.quiet.sent (q := .check w.state.caller.abandoned) rfl
  constructor
  · intro (hb : w.state.caller.abandoned = false)
    refine ⟨⟨?_, hquiet⟩, hg.trans (grows_sent w _)⟩
    change Fresh n (w.log ++ [.sent (.check w.state.caller.abandoned)])
    rw [hb]
    exact hf.fresh.checked
  · intro hb
    refine ⟨?_, ?_, hquiet, hg.trans (grows_sent w _), hb⟩
    · change Engine.entered (w.log ++ [.sent (.check w.state.caller.abandoned)]) = n
      rw [entered_sent]
      exact hf.fresh.entered
    · exact hf.fresh.obeys.sent (fun h => absurd h hf.fresh.heeded) fun h => absurd h hf.fresh.told

end checking

end OptimiqVoice.Engine

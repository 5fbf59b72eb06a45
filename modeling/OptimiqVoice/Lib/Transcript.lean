import OptimiqVoice.Lib.Async

namespace OptimiqVoice.Lib

namespace Async

variable {σ Q A α β : Type}

/-- What the program adds to the log, for each way it can end. Nothing is said of
the state it runs in, so that the parts of a program compose by their logs alone. -/
def Adds (m : Async σ Q A α) (R : Exit α → List (Moment Q A) → Prop) : Prop :=
  ∀ w, ∃ more, (m w).2.log = w.log ++ more ∧ R (m w).1 more

/-- Every request of the program is of the kind. -/
def Says (S : Q → Prop) (m : Async σ Q A α) : Prop :=
  Adds m fun _ more => ∀ q, .sent q ∈ more → S q

variable {g : σ → Async σ Q A α} {q : Q} {hear : A → σ → σ}

variable {c : Prop} {U : Exit β → List (Moment Q A) → Prop}

section adds

variable {m : Async σ Q A α} {f : α → Async σ Q A β}
variable {R R' : Exit α → List (Moment Q A) → Prop}

theorem Adds.mono (h : Adds m R) (hR : ∀ e more, R e more → R' e more) : Adds m R' := by
  intro w
  obtain ⟨more, hlog, hr⟩ := h w
  exact ⟨more, hlog, hR _ _ hr⟩

theorem adds_pure {a : α} (h : R (.done a) []) : Adds (pure a : Async σ Q A α) R :=
  fun _ => ⟨[], (List.append_nil _).symm, h⟩

theorem adds_throw (h : R .thrown []) : Adds (throw : Async σ Q A α) R :=
  fun _ => ⟨[], (List.append_nil _).symm, h⟩

theorem adds_modify {g : σ → σ} {R : Exit Unit → List (Moment Q A) → Prop} (h : R (.done ()) []) :
    Adds (modify g : Async σ Q A Unit) R :=
  fun _ => ⟨[], (List.append_nil _).symm, h⟩

theorem adds_tell {R : Exit Unit → List (Moment Q A) → Prop} (h : R (.done ()) [.sent q]) :
    Adds (tell q : Async σ Q A Unit) R :=
  fun _ => ⟨[.sent q], rfl, h⟩

theorem adds_ask {R : Exit A → List (Moment Q A) → Prop}
    (hcut : R .cut [.sent q]) (h : ∀ a, R (.done a) [.sent q, .got a]) :
    Adds (ask hear q : Async σ Q A A) R := by
  intro w
  cases hr : w.replies with
  | nil => exact ⟨[.sent q], by simp [ask, hr], by simpa [ask, hr] using hcut⟩
  | cons a rest => exact ⟨[.sent q, .got a], by simp [ask, hr], by simpa [ask, hr] using h a⟩

theorem Adds.ite [Decidable c] {m' : Async σ Q A α} (h : c → Adds m R)
    (h' : ¬c → Adds m' R) : Adds (if c then m else m') R := by
  by_cases hc : c
  · rw [if_pos hc]
    exact h hc
  · rw [if_neg hc]
    exact h' hc

/-- The log of two programs in a row. A program that does not end by itself ends
the whole. -/
theorem Adds.bind {T : α → Exit β → List (Moment Q A) → Prop}
    (h : Adds m R) (k : ∀ a, Adds (f a) (T a))
    (hdone : ∀ a e front back, R (.done a) front → T a e back → U e (front ++ back))
    (hthrown : ∀ more, R .thrown more → U .thrown more) (hcut : ∀ more, R .cut more → U .cut more) :
    Adds (m >>= f) U := by
  intro w
  obtain ⟨front, hfront, hr⟩ := h w
  obtain ⟨e, w', hrun⟩ : ∃ e w', m w = (e, w') := ⟨_, _, rfl⟩
  rw [hrun] at hfront hr
  cases e with
  | done a =>
    rw [bind_of_done hrun]
    obtain ⟨back, hback, ht⟩ := k a w'
    exact ⟨front ++ back, by rw [hback, hfront, List.append_assoc], hdone a _ front back hr ht⟩
  | thrown =>
    rw [bind_of_thrown hrun]
    exact ⟨front, hfront, hthrown front hr⟩
  | cut =>
    rw [bind_of_cut hrun]
    exact ⟨front, hfront, hcut front hr⟩

theorem Adds.map {g : α → β} (h : Adds m R)
    (hdone : ∀ a more, R (.done a) more → U (.done (g a)) more)
    (hthrown : ∀ more, R .thrown more → U .thrown more) (hcut : ∀ more, R .cut more → U .cut more) :
    Adds (do let a ← m; pure (g a)) U := by
  apply Adds.bind h (fun a => adds_pure (R := fun e back => e = .done (g a) ∧ back = []) ⟨rfl, rfl⟩)
  · rintro a e front back hr ⟨rfl, rfl⟩
    rw [List.append_nil]
    exact hdone a front hr
  · exact hthrown
  · exact hcut

/-- The state may decide how the program goes on, but not what is known of its log. -/
theorem adds_get (h : ∀ s, Adds (g s) R) : Adds (get >>= g) R :=
  fun w => h w.state w

end adds

theorem adds_ask_bind {f : A → Async σ Q A β} {T : A → Exit β → List (Moment Q A) → Prop}
    (k : ∀ a, Adds (f a) (T a)) (hcut : U .cut [.sent q])
    (hdone : ∀ a e back, T a e back → U e (.sent q :: .got a :: back)) : Adds (ask hear q >>= f) U := by
  intro w
  cases hr : w.replies with
  | nil => exact ⟨[.sent q], by simp [Bind.bind, ask, hr], by simpa [Bind.bind, ask, hr] using hcut⟩
  | cons a rest =>
    have hask : ask hear q w = (.done a, ⟨hear a w.state, rest, w.log ++ [.sent q, .got a]⟩) := by simp [ask, hr]
    obtain ⟨back, hback, ht⟩ := k a ⟨hear a w.state, rest, w.log ++ [.sent q, .got a]⟩
    rw [bind_of_done hask]
    exact ⟨.sent q :: .got a :: back, by simp [hback], hdone a _ back ht⟩

section sent

variable {S : Q → Prop} {log log' : List (Moment Q A)}

theorem sent_append (h : ∀ q, .sent q ∈ log → S q) (h' : ∀ q, .sent q ∈ log' → S q) :
    ∀ q, .sent q ∈ log ++ log' → S q :=
  fun q hq => (List.mem_append.mp hq).elim (h q) (h' q)

theorem sent_tell (hq : S q) : ∀ q', .sent q' ∈ [(.sent q : Moment Q A)] → S q' := by
  intro q' hq'
  obtain rfl : q' = q := by simpa using hq'
  exact hq

theorem sent_ask {a : A} (hq : S q) (h : ∀ q', .sent q' ∈ log → S q') :
    ∀ q', .sent q' ∈ .sent q :: .got a :: log → S q' := by
  intro q' hq'
  obtain rfl | hq' : q' = q ∨ .sent q' ∈ log := by simpa using hq'
  · exact hq
  · exact h q' hq'

end sent

section speaks

variable {S S' : Q → Prop} {m m' : Async σ Q A α} {f : α → Async σ Q A β}

theorem Says.mono (h : Says S m) (hS : ∀ q, S q → S' q) : Says S' m :=
  Adds.mono h fun _ _ hm q hq => hS q (hm q hq)

theorem says_pure {a : α} : Says S (pure a : Async σ Q A α) := adds_pure nofun

theorem says_throw : Says S (throw : Async σ Q A α) := adds_throw nofun

theorem says_modify {g : σ → σ} : Says S (modify g : Async σ Q A Unit) := adds_modify nofun

theorem says_tell (hq : S q) : Says S (tell q : Async σ Q A Unit) := adds_tell (sent_tell hq)

theorem says_ask (hq : S q) : Says S (ask hear q : Async σ Q A A) :=
  adds_ask (sent_tell hq) fun _ => sent_ask hq nofun

theorem Says.ite [Decidable c] (h : Says S m) (h' : Says S m') :
    Says S (if c then m else m') :=
  Adds.ite (fun _ => h) fun _ => h'

theorem says_get (h : ∀ s, Says S (g s)) : Says S (get >>= g) := adds_get h

theorem Says.bind (h : Says S m) (k : ∀ a, Says S (f a)) : Says S (m >>= f) := by
  apply Adds.bind h k
  · exact fun _ _ _ _ => sent_append
  · exact fun _ => id
  · exact fun _ => id

end speaks

section tame

variable {S : Q → Prop} {m m' : Async σ Q A α} {f : α → Async σ Q A β}

/-- Every request of the program is of the kind, and nothing is thrown. -/
def Tame (S : Q → Prop) (m : Async σ Q A α) : Prop :=
  Adds m fun e more => e ≠ .thrown ∧ ∀ q, .sent q ∈ more → S q

theorem Tame.speaks (h : Tame S m) : Says S m := Adds.mono h fun _ _ hm => hm.2

theorem tame_pure {a : α} : Tame S (pure a : Async σ Q A α) :=
  adds_pure ⟨nofun, nofun⟩

theorem tame_tell (hq : S q) : Tame S (tell q : Async σ Q A Unit) :=
  adds_tell ⟨nofun, sent_tell hq⟩

theorem tame_ask (hq : S q) : Tame S (ask hear q : Async σ Q A A) :=
  adds_ask ⟨nofun, sent_tell hq⟩ fun _ => ⟨nofun, sent_ask hq nofun⟩

theorem tame_get (h : ∀ s, Tame S (g s)) : Tame S (get >>= g) := adds_get h

theorem tame_modify {g : σ → σ} : Tame S (modify g : Async σ Q A Unit) :=
  adds_modify ⟨nofun, nofun⟩

theorem Tame.ite [Decidable c] (h : Tame S m) (h' : Tame S m') :
    Tame S (if c then m else m') :=
  Adds.ite (fun _ => h) fun _ => h'

theorem Tame.bind (h : Tame S m) (k : ∀ a, Tame S (f a)) : Tame S (m >>= f) := by
  apply Adds.bind h k
  · exact fun a e front back hfront hback => ⟨hback.1, sent_append hfront.2 hback.2⟩
  · exact fun _ h => absurd rfl h.1
  · exact fun _ h => ⟨nofun, h.2⟩

theorem Tame.each {g : α → Async σ Q A Unit} {l : List α} (h : ∀ a ∈ l, Tame S (g a)) :
    Tame S (Async.each g l) := by
  induction l with
  | nil => exact tame_pure
  | cons a rest ih => exact (h a (.head _)).bind fun _ => ih fun b hb => h b (.tail _ hb)

theorem Tame.loop {body : β → Async σ Q A (β ⊕ α)} (h : ∀ b, Tame S (body b)) (b : β) :
    Tame S (Async.loop body b) := by
  have hturns : ∀ n b, Tame S (turns body n b) := by
    intro n
    induction n with
    | zero => exact fun b w => ⟨[], (List.append_nil _).symm, nofun, nofun⟩
    | succ n ih =>
      intro b
      apply (h b).bind
      intro r
      cases r with
      | inl b' => exact ih b'
      | inr a => exact tame_pure
  exact fun w => hturns _ b w

end tame

end Async

end OptimiqVoice.Lib

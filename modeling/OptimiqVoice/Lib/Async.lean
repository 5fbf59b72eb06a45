namespace OptimiqVoice.Lib

/-- How far a program got. `cut` is a program that is still waiting where the
observation of it ends. -/
inductive Exit (α : Type) where
  | done (a : α)
  | thrown
  | cut
deriving DecidableEq

inductive Moment (Q A : Type) where
  | sent (q : Q)
  | got (a : A)
deriving DecidableEq

/-- What a program that talks to its environment runs in: the replies still to
come, and what has been said so far. -/
structure World (σ Q A : Type) where
  state : σ
  replies : List A
  log : List (Moment Q A)

/-- A program that issues requests and goes on with the replies. Every list of
replies is one behaviour of the environment, observed for a while. -/
def Async (σ Q A α : Type) := World σ Q A → Exit α × World σ Q A

namespace Async

variable {σ Q A α β : Type}

instance : Monad (Async σ Q A) where
  pure a := fun w => (.done a, w)
  bind m f := fun w => match m w with
    | (.done a, w') => f a w'
    | (.thrown, w') => (.thrown, w')
    | (.cut, w') => (.cut, w')

def throw : Async σ Q A α := fun w => (.thrown, w)

def get : Async σ Q A σ := fun w => (.done w.state, w)

def modify (f : σ → σ) : Async σ Q A Unit := fun w => (.done (), { w with state := f w.state })

def tell (q : Q) : Async σ Q A Unit := fun w => (.done (), { w with log := w.log ++ [.sent q] })

/-- A request that is waited for. While the program waits, the environment may
change the state, which the reply says how. -/
def ask (hear : A → σ → σ) (q : Q) : Async σ Q A A := fun w =>
  match w.replies with
  | [] => (.cut, { w with log := w.log ++ [.sent q] })
  | a :: rest => (.done a, ⟨hear a w.state, rest, w.log ++ [.sent q, .got a]⟩)

def attempt (m : Async σ Q A α) : Async σ Q A (Option α) := fun w =>
  match m w with
  | (.done a, w') => (.done (some a), w')
  | (.thrown, w') => (.done none, w')
  | (.cut, w') => (.cut, w')

/-- `try m finally f`. -/
def ensuring (m : Async σ Q A α) (f : Async σ Q A Unit) : Async σ Q A α := do
  match ← attempt m with
  | some a => do
    f
    pure a
  | none => do
    f
    throw

def each (f : α → Async σ Q A Unit) : List α → Async σ Q A Unit
  | [] => pure ()
  | a :: rest => do
    f a
    each f rest

/-- At most `n` turns of a loop whose body goes on with a new loop state or leaves. -/
def turns (body : β → Async σ Q A (β ⊕ α)) : Nat → β → Async σ Q A α
  | 0, _ => fun w => (.cut, w)
  | n + 1, b => do
    match ← body b with
    | .inl b' => turns body n b'
    | .inr a => pure a

/-- A loop without a bound of its own. A body that waits in each turn is out of
replies before it is out of turns. -/
def loop (body : β → Async σ Q A (β ⊕ α)) (b : β) : Async σ Q A α := fun w =>
  turns body (w.replies.length + 1) b w

section logic

variable {m : Async σ Q A α} {f : α → Async σ Q A β}

def ends (ok : α → World σ Q A → Prop) (err cut : World σ Q A → Prop) : Exit α → World σ Q A → Prop
  | .done a => ok a
  | .thrown => err
  | .cut => cut

/-- Started where `P` holds, the program ends as `R` says. -/
def Sat (P : World σ Q A → Prop) (m : Async σ Q A α) (R : Exit α → World σ Q A → Prop) : Prop :=
  ∀ w, P w → R (m w).1 (m w).2

variable {P P' : World σ Q A → Prop} {err err' cut cut' : World σ Q A → Prop}
variable {ok ok' : α → World σ Q A → Prop} {fin : β → World σ Q A → Prop}

theorem Sat.pre (h : Sat P m (ends ok err cut)) (hp : ∀ w, P' w → P w) :
    Sat P' m (ends ok err cut) :=
  fun w hw => h w (hp w hw)

theorem Sat.post (h : Sat P m (ends ok err cut)) (hok : ∀ a w, ok a w → ok' a w)
    (herr : ∀ w, err w → err' w) (hcut : ∀ w, cut w → cut' w) : Sat P m (ends ok' err' cut') := by
  intro w hw
  have hm := h w hw
  cases he : (m w).1 with
  | done a =>
    rw [he] at hm
    exact hok a _ hm
  | thrown =>
    rw [he] at hm
    exact herr _ hm
  | cut =>
    rw [he] at hm
    exact hcut _ hm

theorem sat_pure {a : α} (h : ∀ w, P w → ok a w) :
    Sat P (pure a : Async σ Q A α) (ends ok err cut) :=
  h

theorem sat_throw (h : ∀ w, P w → err w) : Sat P (throw : Async σ Q A α) (ends ok err cut) :=
  h

variable {w w' : World σ Q A}

theorem bind_of_done {a : α} (h : m w = (.done a, w')) : (m >>= f) w = f a w' := by
  simp only [Bind.bind, h]

theorem bind_of_thrown (h : m w = (.thrown, w')) : (m >>= f) w = (.thrown, w') := by
  simp only [Bind.bind, h]

theorem bind_of_cut (h : m w = (.cut, w')) : (m >>= f) w = (.cut, w') := by
  simp only [Bind.bind, h]

theorem Sat.bind (h : Sat P m (ends ok err cut)) (k : ∀ a, Sat (ok a) (f a) (ends fin err cut)) :
    Sat P (m >>= f) (ends fin err cut) := by
  intro w hw
  have hm := h w hw
  obtain ⟨e, w', hrun⟩ : ∃ e w', m w = (e, w') := ⟨_, _, rfl⟩
  rw [hrun] at hm
  cases e with
  | done a =>
    rw [bind_of_done hrun]
    exact k a w' hm
  | thrown =>
    rw [bind_of_thrown hrun]
    exact hm
  | cut =>
    rw [bind_of_cut hrun]
    exact hm

theorem Sat.ite {c : Prop} [Decidable c] {m' : Async σ Q A α} {R : Exit α → World σ Q A → Prop}
    (h : c → Sat P m R) (h' : ¬c → Sat P m' R) : Sat P (if c then m else m') R := by
  by_cases hc : c
  · rw [if_pos hc]
    exact h hc
  · rw [if_neg hc]
    exact h' hc

theorem sat_tell {q : Q} {tok : Unit → World σ Q A → Prop}
    (h : ∀ w, P w → tok () { w with log := w.log ++ [.sent q] }) :
    Sat P (tell q : Async σ Q A Unit) (ends tok err cut) :=
  h

theorem sat_ask {hear : A → σ → σ} {q : Q} {aok : A → World σ Q A → Prop}
    (hcut : ∀ w, P w → cut { w with log := w.log ++ [.sent q] })
    (h : ∀ w a rest, P w → aok a ⟨hear a w.state, rest, w.log ++ [.sent q, .got a]⟩) :
    Sat P (ask hear q) (ends aok err cut) := by
  intro w hw
  cases hr : w.replies with
  | nil =>
    have hc := hcut w hw
    rw [hr] at hc
    simp only [ask, hr]
    exact hc
  | cons a rest =>
    simp only [ask, hr]
    exact h w a rest hw

theorem Sat.attempt (h : Sat P m (ends ok err' cut)) :
    Sat P (Async.attempt m) (ends (fun r w => (∀ a, r = some a → ok a w) ∧ (r = none → err' w)) err cut) := by
  intro w hw
  have hm := h w hw
  obtain ⟨e, w', hrun⟩ : ∃ e w', m w = (e, w') := ⟨_, _, rfl⟩
  rw [hrun] at hm
  cases e with
  | done a =>
    have hrun' : Async.attempt m w = (.done (some a), w') := by simp only [Async.attempt, hrun]
    rw [hrun']
    exact ⟨fun b hb => Option.some.inj hb ▸ hm, nofun⟩
  | thrown =>
    have hrun' : Async.attempt m w = (.done none, w') := by simp only [Async.attempt, hrun]
    rw [hrun']
    exact ⟨nofun, fun _ => hm⟩
  | cut =>
    have hrun' : Async.attempt m w = (.cut, w') := by simp only [Async.attempt, hrun]
    rw [hrun']
    exact hm

theorem Sat.turns {body : β → Async σ Q A (β ⊕ α)} {I : β → World σ Q A → Prop}
    (hcut : ∀ b w, I b w → cut w)
    (h : ∀ b, Sat (I b) (body b) (ends (Sum.elim I ok) err cut)) (n : Nat) (b : β) :
    Sat (I b) (Async.turns body n b) (ends ok err cut) := by
  induction n generalizing b with
  | zero => exact hcut b
  | succ n ih =>
    apply (h b).bind
    intro r
    cases r with
    | inl b' => exact ih b'
    | inr a => exact sat_pure fun w hw => hw

theorem Sat.loop {body : β → Async σ Q A (β ⊕ α)} {I : β → World σ Q A → Prop}
    (hcut : ∀ b w, I b w → cut w)
    (h : ∀ b, Sat (I b) (body b) (ends (Sum.elim I ok) err cut)) (b : β) :
    Sat (I b) (Async.loop body b) (ends ok err cut) :=
  fun w hw => Sat.turns hcut h _ b w hw

end logic

end Async

end OptimiqVoice.Lib

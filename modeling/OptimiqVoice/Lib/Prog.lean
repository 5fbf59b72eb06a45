import Mathlib.Order.RelClasses

namespace OptimiqVoice.Lib

/-- Programs over a mutable state that may give up, as one does that runs out
of the fuel bounding its recursion. -/
def Prog (σ α : Type) := σ → Option (α × σ)

namespace Prog

variable {σ α β : Type}

instance : Monad (Prog σ) where
  pure a := fun s => some (a, s)
  bind m f := fun s => match m s with
    | none => none
    | some (a, t) => f a t

def stop : Prog σ α := fun _ => none

def get : Prog σ σ := fun s => some (s, s)

def modify (f : σ → σ) : Prog σ Unit := fun s => some ((), f s)

def when (c : Bool) (m : Prog σ Unit) : Prog σ Unit := if c then m else pure ()

def each (f : α → Prog σ Unit) : List α → Prog σ Unit
  | [] => pure ()
  | a :: rest => do
    f a
    each f rest

def collect (f : α → Prog σ (Option β)) : List α → Prog σ (List β)
  | [] => pure []
  | a :: rest => do
    let b ← f a
    let bs ← collect f rest
    pure (b.toList ++ bs)

def fold (f : β → α → Prog σ β) : β → List α → Prog σ β
  | b, [] => pure b
  | b, a :: rest => do
    let c ← f b a
    fold f c rest

variable {a : α}

theorem bind_eq_of_eq {m : Prog σ α} {f : α → Prog σ β} {s t : σ}
    (h : m s = some (a, t)) : (m >>= f) s = f a t := by
  change (match m s with | none => none | some (a, t) => f a t) = f a t
  rw [h]

theorem bind_eq_some {m : Prog σ α} {f : α → Prog σ β} {s u : σ} {b : β}
    (h : (m >>= f) s = some (b, u)) : ∃ a t, m s = some (a, t) ∧ f a t = some (b, u) := by
  cases hm : m s with
  | none =>
    change (match m s with | none => none | some (a, t) => f a t) = some (b, u) at h
    rw [hm] at h
    cases h
  | some result =>
    obtain ⟨a, t⟩ := result
    rw [bind_eq_of_eq hm] at h
    exact ⟨a, t, rfl, h⟩

theorem seq_congr {m m' : Prog σ α} {f f' : α → Prog σ β} (hm : m = m') (hf : ∀ a, f a = f' a) :
    (m >>= f) = (m' >>= f') := by
  rw [hm, funext hf]

theorem each_congr {f g : α → Prog σ Unit} {l : List α} (h : ∀ a ∈ l, f a = g a) :
    each f l = each g l := by
  induction l with
  | nil => rfl
  | cons a rest ih =>
    rw [each, each, h a (by simp), ih fun b hb => h b (by simp [hb])]

variable {f : α → Prog σ (Option β)}

theorem collect_congr {g : α → Prog σ (Option β)} {l : List α} (h : ∀ a ∈ l, f a = g a) :
    collect f l = collect g l := by
  induction l with
  | nil => rfl
  | cons a rest ih =>
    rw [collect, collect, h a (by simp), ih fun b hb => h b (by simp [hb])]

theorem fold_congr {f g : β → α → Prog σ β} {l : List α} (h : ∀ a ∈ l, ∀ b, f b a = g b a)
    (b : β) : fold f b l = fold g b l := by
  induction l generalizing b with
  | nil => rfl
  | cons a rest ih =>
    exact seq_congr (h a (by simp) b) (ih fun x hx => h x (by simp [hx]))

/-- The second list holds a counterpart of every kept element of the first, and
nothing else. -/
structure Mirrored (Mirrors : α → β → Prop) (Keeps : α → Bool) (l : List α) (bs : List β) :
    Prop where
  origin : ∀ b ∈ bs, ∃ a ∈ l, Keeps a = true ∧ Mirrors a b
  image : ∀ a ∈ l, Keeps a = true → ∃ b ∈ bs, Mirrors a b

namespace Mirrored

variable {Mirrors : α → β → Prop} {Keeps : α → Bool} {l l' : List α} {bs bs' : List β}

theorem cons {o : Option β} (h : Mirrored Mirrors Keeps l bs) (hsome : o.isSome = Keeps a)
    (hmirrors : ∀ b ∈ o, Mirrors a b) : Mirrored Mirrors Keeps (a :: l) (o.toList ++ bs) where
  origin := by
    intro b hb
    obtain hb | hb := List.mem_append.mp hb
    · have hb : b ∈ o := by simpa using hb
      refine ⟨a, by simp, ?_, hmirrors b hb⟩
      rw [← hsome, Option.isSome_iff_exists]
      exact ⟨b, hb⟩
    · obtain ⟨x, hx, hk, hm⟩ := h.origin b hb
      exact ⟨x, by simp [hx], hk, hm⟩
  image := by
    intro x hx hk
    obtain rfl | hx := List.mem_cons.mp hx
    · rw [← hsome, Option.isSome_iff_exists] at hk
      obtain ⟨b, hb⟩ := hk
      exact ⟨b, by simp [hb], hmirrors b hb⟩
    · obtain ⟨b, hb, hm⟩ := h.image x hx hk
      exact ⟨b, by simp [hb], hm⟩

theorem congr (h : Mirrored Mirrors Keeps l bs) (hl : ∀ a, a ∈ l' ↔ a ∈ l)
    (hb : ∀ b, b ∈ bs' ↔ b ∈ bs) : Mirrored Mirrors Keeps l' bs' where
  origin := fun b hm => by
    obtain ⟨a, ha, hk, hm⟩ := h.origin b ((hb b).mp hm)
    exact ⟨a, (hl a).mpr ha, hk, hm⟩
  image := fun a ha hk => by
    obtain ⟨b, hm, hab⟩ := h.image a ((hl a).mp ha) hk
    exact ⟨b, (hb b).mpr hm, hab⟩

end Mirrored

/-- From `s` the program finishes, in a state related to `s` by `R`, with a
result that satisfies `Q` there. -/
def Runs (R : σ → σ → Prop) (s : σ) (m : Prog σ α) (Q : α → σ → Prop) : Prop :=
  ∃ a t, m s = some (a, t) ∧ R s t ∧ Q a t

namespace Runs

variable {R : σ → σ → Prop} {s : σ} {m : Prog σ α} {Q : α → σ → Prop}

section

variable (h : Runs R s m Q)

include h

theorem weaken {Q' : α → σ → Prop} (hq : ∀ a t, R s t → Q a t → Q' a t) :
    Runs R s m Q' := by
  obtain ⟨a, t, hm, hr, hQ⟩ := h
  exact ⟨a, t, hm, hr, hq a t hr hQ⟩

theorem of_eq {t : σ} (hm : m s = some (a, t)) : R s t ∧ Q a t := by
  obtain ⟨b, u, hb, hr, hq⟩ := h
  rw [hm, Option.some.injEq, Prod.mk.injEq] at hb
  obtain ⟨rfl, rfl⟩ := hb
  exact ⟨hr, hq⟩

theorem result {P : α → σ → Prop} (hp : ∀ a t, m s = some (a, t) → P a t) :
    Runs R s m (fun a t => P a t ∧ Q a t) := by
  obtain ⟨a, t, hm, hr, hq⟩ := h
  exact ⟨a, t, hm, hr, hp a t hm, hq⟩

theorem and {Q' : α → σ → Prop} (h' : Runs R s m Q') :
    Runs R s m (fun a t => Q a t ∧ Q' a t) := by
  obtain ⟨a, t, hm, hr, hq⟩ := h
  exact ⟨a, t, hm, hr, hq, (h'.of_eq hm).2⟩

theorem rel {R' : σ → σ → Prop} (hr : ∀ t, R s t → R' s t) : Runs R' s m Q := by
  obtain ⟨a, t, hm, hst, hq⟩ := h
  exact ⟨a, t, hm, hr t hst, hq⟩

end

theorem ite {c : Prop} [Decidable c] {m' : Prog σ α} (ht : c → Runs R s m Q)
    (he : ¬c → Runs R s m' Q) : Runs R s (if c then m else m') Q := by
  by_cases h : c
  · rw [if_pos h]
    exact ht h
  · rw [if_neg h]
    exact he h

theorem get_bind {f : σ → Prog σ α} (h : Runs R s (f s) Q) : Runs R s (Prog.get >>= f) Q := h

theorem modify {f : σ → σ} {Q : Unit → σ → Prop} (hr : R s (f s)) (hq : Q () (f s)) :
    Runs R s (Prog.modify f) Q :=
  ⟨(), f s, rfl, hr, hq⟩

variable [IsPreorder σ R]

theorem pure (hq : Q a s) : Runs R s (pure a : Prog σ α) Q :=
  ⟨a, s, rfl, refl s, hq⟩

theorem when {c : Bool} {m : Prog σ Unit} (h : c → Runs R s m (fun _ _ => True)) :
    Runs R s (Prog.when c m) (fun _ _ => True) :=
  ite h fun _ => pure trivial

theorem bind {f : α → Prog σ β} {Q' : β → σ → Prop} (hm : Runs R s m Q)
    (hf : ∀ a t, R s t → Q a t → Runs R t (f a) Q') : Runs R s (m >>= f) Q' := by
  obtain ⟨a, t, he, hr, hq⟩ := hm
  obtain ⟨b, u, hb, hr', hq'⟩ := hf a t hr hq
  refine ⟨b, u, ?_, Trans.trans hr hr', hq'⟩
  rw [bind_eq_of_eq he, hb]

theorem each_all {f : α → Prog σ Unit} (P : α → σ → Prop) (l : List α)
    (stable : ∀ a t u, R t u → P a t → P a u)
    (hf : ∀ a ∈ l, ∀ t, R s t → Runs R t (f a) (fun _ u => P a u)) :
    Runs R s (Prog.each f l) (fun _ t => ∀ a ∈ l, P a t) := by
  induction l generalizing s with
  | nil => exact pure (by simp)
  | cons a rest ih =>
    refine bind (hf a (by simp) s (refl s)) fun _ t hst ha => ?_
    refine (ih fun b hb u htu => hf b (by simp [hb]) u (Trans.trans hst htu)).weaken
      (fun _ u htu hrest => ?_)
    intro b hb
    rcases List.mem_cons.mp hb with rfl | hb
    · exact stable b t u htu ha
    · exact hrest b hb

theorem each {f : α → Prog σ Unit} (l : List α)
    (hf : ∀ a ∈ l, ∀ t, R s t → Runs R t (f a) (fun _ _ => True)) :
    Runs R s (Prog.each f l) (fun _ _ => True) :=
  (each_all (fun _ _ => True) l (fun _ _ _ _ h => h) hf).weaken fun _ _ _ _ => trivial

theorem collect (P : β → σ → Prop) (l : List α) (stable : ∀ b t u, R t u → P b t → P b u)
    (hf : ∀ a ∈ l, ∀ t, R s t → Runs R t (f a) (fun r u => ∀ b ∈ r, P b u)) :
    Runs R s (Prog.collect f l) (fun bs t => ∀ b ∈ bs, P b t) := by
  induction l generalizing s with
  | nil => exact pure (by simp)
  | cons a rest ih =>
    refine bind (hf a (by simp) s (refl s)) fun r t hst hr => ?_
    refine bind (ih fun b hb u htu => hf b (by simp [hb]) u (Trans.trans hst htu))
      (fun bs u htu hbs => ?_)
    refine pure fun b hb => ?_
    rcases List.mem_append.mp hb with h | h
    · exact stable b t u htu (hr b (by simpa using h))
    · exact hbs b h

/-- When the value of each turn is a function of the element alone, unless
something has gone wrong for good, so is the list the loop collects. -/
theorem collect_eq_unless (Wrong : σ → Prop) (g : α → Option β)
    (l : List α) (stable : ∀ t u, R t u → Wrong t → Wrong u)
    (hf : ∀ a ∈ l, ∀ t, R s t → Runs R t (f a) (fun o u => Wrong u ∨ o = g a)) :
    Runs R s (Prog.collect f l) (fun bs t => Wrong t ∨ bs = l.filterMap g) := by
  induction l generalizing s with
  | nil => exact pure (.inr rfl)
  | cons a rest ih =>
    refine bind (hf a (by simp) s (refl s)) fun o t hst ho => ?_
    refine bind (ih fun b hb u htu => hf b (by simp [hb]) u (Trans.trans hst htu))
      (fun bs u htu hbs => pure ?_)
    obtain hwrong | rfl := ho
    · exact .inl (stable t u htu hwrong)
    obtain hwrong | rfl := hbs
    · exact .inl hwrong
    refine .inr ?_
    rw [List.filterMap_cons]
    cases g a <;> rfl

theorem collect_eq (g : α → Option β) (l : List α)
    (hf : ∀ a ∈ l, ∀ t, R s t → Runs R t (f a) (fun r _ => r = g a)) :
    Runs R s (Prog.collect f l) (fun bs _ => bs = l.filterMap g) := by
  have h : Runs R s (Prog.collect f l) (fun bs _ => False ∨ bs = l.filterMap g) :=
    collect_eq_unless (fun _ => False) g l (fun _ _ _ h => h)
      (fun a ha t ht => (hf a ha t ht).weaken fun _ _ _ h => .inr h)
  exact h.weaken fun _ _ _ h => h.resolve_left id

/-- Unless something has gone wrong for good, what a loop collects mirrors the
elements that it is meant to keep. -/
theorem collect_mirrored (Wrong : σ → Prop) (Keeps : α → Bool)
    (Mirrors : α → β → Prop) (l : List α) (stable : ∀ t u, R t u → Wrong t → Wrong u)
    (hf : ∀ a ∈ l, ∀ t, R s t → Runs R t (f a)
      (fun o u => Wrong u ∨ (o.isSome = Keeps a ∧ ∀ b ∈ o, Mirrors a b))) :
    Runs R s (Prog.collect f l) (fun bs t => Wrong t ∨ Mirrored Mirrors Keeps l bs) := by
  induction l generalizing s with
  | nil => exact pure (.inr ⟨by simp, by simp⟩)
  | cons a rest ih =>
    refine bind (hf a (by simp) s (refl s)) fun o t hst ho => ?_
    refine bind (ih fun b hb u htu => hf b (by simp [hb]) u (Trans.trans hst htu))
      (fun bs u htu hbs => pure ?_)
    obtain hwrong | ⟨hsome, hmirrors⟩ := ho
    · exact .inl (stable t u htu hwrong)
    obtain hwrong | hbs := hbs
    · exact .inl hwrong
    exact .inr (hbs.cons hsome hmirrors)

theorem fold {f : β → α → Prog σ β} (J : β → σ → Prop) (l : List α) (b : β) (hb : J b s)
    (hf : ∀ a ∈ l, ∀ c t, R s t → J c t → Runs R t (f c a) J) : Runs R s (Prog.fold f b l) J := by
  induction l generalizing s b with
  | nil => exact pure hb
  | cons a rest ih =>
    refine bind (hf a (by simp) b s (refl s) hb) fun c t hst hc => ?_
    exact ih c hc fun x hx d u htu hd => hf x (by simp [hx]) d u (Trans.trans hst htu) hd

/-- A loop with an accumulator in which every turn also adds a fact about its
own element that the later turns keep. -/
theorem fold_all {f : β → α → Prog σ β} (J : β → σ → Prop) (P : α → β → σ → Prop) (l : List α)
    (b : β) (hb : J b s) (hf : ∀ a ∈ l, ∀ c t, R s t → J c t → Runs R t (f c a)
      (fun d u => J d u ∧ P a d u ∧ ∀ x, P x c t → P x d u)) :
    Runs R s (Prog.fold f b l) (fun c t => J c t ∧ ∀ a ∈ l, P a c t) := by
  have general : Runs R s (Prog.fold f b l)
      (fun c t => J c t ∧ (∀ a ∈ l, P a c t) ∧ ∀ x, P x b s → P x c t) := by
    induction l generalizing s b with
    | nil => exact pure ⟨hb, by simp, fun _ h => h⟩
    | cons a rest ih =>
      refine bind (hf a (by simp) b s (refl s) hb) fun c t hst hc => ?_
      obtain ⟨hj, ha, hkeep⟩ := hc
      refine (ih c hj fun x hx d u htu hd =>
        hf x (by simp [hx]) d u (Trans.trans hst htu) hd).weaken fun d u _ hq => ?_
      refine ⟨hq.1, fun x hx => ?_, fun x hx => hq.2.2 x (hkeep x hx)⟩
      obtain rfl | hx := List.mem_cons.mp hx
      · exact hq.2.2 x ha
      · exact hq.2.1 x hx
  exact general.weaken fun _ _ _ hq => ⟨hq.1, hq.2.1⟩

end Runs

end Prog

end OptimiqVoice.Lib

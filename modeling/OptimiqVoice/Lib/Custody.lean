import Mathlib.Data.List.Nodup
import Mathlib.Logic.Function.Basic
import Mathlib.Tactic.Common

namespace OptimiqVoice.Lib

open Function (update)

/-- Copies of keyed records in several hands. A site keeps at most one for each key; a task, which
runs at a site, has some that it will give to its site or take out of the store. One that was taken
out is in flight until it is published. -/
@[ext] structure Custody (κ γ ι τ : Type) where
  stored : κ → Option γ
  tracked : ι → κ → Option γ
  held : τ → List γ
  /-- What the task has is what it wrote. -/
  writing : τ → Bool
  flight : τ → Option γ
  published : List γ

section updates

variable {α β : Type} [DecidableEq α]

theorem mem_update {f : α → List β} {a b : α} {l : List β} {y : β} :
    y ∈ update f a l b ↔ (b = a ∧ y ∈ l) ∨ (b ≠ a ∧ y ∈ f b) := by
  by_cases h : b = a
  · simp [h]
  · simp [h]

theorem update_eq_some {f : α → Option β} {a b : α} {v : Option β} {y : β} :
    update f a v b = some y ↔ (b = a ∧ v = some y) ∨ (b ≠ a ∧ f b = some y) := by
  by_cases h : b = a
  · simp [h]
  · simp [h]

end updates

namespace Custody

variable {κ γ ι τ : Type}

/-- Nobody but a writer has a copy of a key that another has, and the copy in charge of a key is
the one that is stored, if any is. What was published is nowhere any more. -/
structure Sound (key : γ → Option κ) (site : τ → ι) (issued : γ → Prop) (c : Custody κ γ ι τ) : Prop where
  stored_key : ∀ k x, c.stored k = some x → key x = some k ∧ issued x
  tracked_key : ∀ i k x, c.tracked i k = some x → key x = some k ∧ issued x
  held_key : ∀ t, ∀ x ∈ c.held t, (∃ k, key x = some k) ∧ issued x
  lone : ∀ t u, ∀ x ∈ c.held t, ∀ y ∈ c.held u, key x = key y → t = u
  distinct : ∀ t, ((c.held t).map key).Nodup
  single : ∀ i j k x y, c.tracked i k = some x → c.tracked j k = some y → i = j
  apart : ∀ t, ∀ x ∈ c.held t, ∀ i k y, c.tracked i k = some y → key x = some k →
    i = site t ∧ c.writing t
  current : ∀ t, ∀ x ∈ c.held t, ∀ k y, key x = some k → c.stored k = some y → y = x
  tracked_current : ∀ i k x y, c.tracked i k = some x → (∀ t, ∀ z ∈ c.held t, key z ≠ some k) →
    c.stored k = some y → y = x
  gone : ∀ x, (x ∈ c.published ∨ ∃ t, c.flight t = some x) → issued x ∧ (∀ k, c.stored k ≠ some x) ∧
    (∀ i k, c.tracked i k ≠ some x) ∧ ∀ t, x ∉ c.held t
  flight_once : ∀ t u x, c.flight t = some x → c.flight u = some x → t = u
  flight_unpublished : ∀ t x, c.flight t = some x → x ∉ c.published
  once : c.published.Nodup

section moves

variable {key : γ → Option κ} {site : τ → ι} {issued : γ → Prop} {c : Custody κ γ ι τ}

/-- Copies may be lost, but for what is in hand of a key that a site keeps. -/
theorem Sound.fewer (h : Sound key site issued c) {d : Custody κ γ ι τ}
    (hs : ∀ k x, d.stored k = some x → c.stored k = some x)
    (ht : ∀ i k x, d.tracked i k = some x → c.tracked i k = some x)
    (hheld : ∀ t, (d.held t).Sublist (c.held t)) (hw : ∀ t, d.held t ≠ [] → d.writing t = c.writing t)
    (hkept : ∀ i k x, d.tracked i k = some x → ∀ t, ∀ z ∈ c.held t, key z = some k → z ∈ d.held t)
    (hf : ∀ t x, d.flight t = some x → c.flight t = some x) (hp : d.published = c.published) :
    Sound key site issued d where
  stored_key := fun k x hx => h.stored_key k x (hs k x hx)
  tracked_key := fun i k x hx => h.tracked_key i k x (ht i k x hx)
  held_key := fun t x hx => h.held_key t x ((hheld t).subset hx)
  lone := fun t u x hx y hy => h.lone t u x ((hheld t).subset hx) y ((hheld u).subset hy)
  distinct := fun t => (h.distinct t).sublist ((hheld t).map key)
  single := fun i j k x y hx hy => h.single i j k x y (ht i k x hx) (ht j k y hy)
  apart := by
    intro t x hx i k y hy
    rw [hw t (List.ne_nil_of_mem hx)]
    exact h.apart t x ((hheld t).subset hx) i k y (ht i k y hy)
  current := fun t x hx k y hk hy => h.current t x ((hheld t).subset hx) k y hk (hs k y hy)
  tracked_current := by
    intro i k x y hx hno hy
    refine h.tracked_current i k x y (ht i k x hx) (fun t z hz hk => ?_) (hs k y hy)
    exact hno t z (hkept i k x hx t z hz hk) hk
  gone := by
    intro x hx
    rw [hp] at hx
    obtain ⟨hi, hst, htr, hh⟩ := h.gone x (hx.imp_right fun ⟨t, hu⟩ => ⟨t, hf t x hu⟩)
    exact ⟨hi, fun k hk => hst k (hs k x hk), fun i k hk => htr i k (ht i k x hk),
      fun t hm => hh t ((hheld t).subset hm)⟩
  flight_once := fun t u x hx hy => h.flight_once t u x (hf t x hx) (hf u x hy)
  flight_unpublished := fun t x hx => hp ▸ h.flight_unpublished t x (hf t x hx)
  once := hp ▸ h.once

theorem Sound.shrink (h : Sound key site issued c) (stored : κ → Option γ) (tracked : ι → κ → Option γ)
    (hs : ∀ k x, stored k = some x → c.stored k = some x)
    (ht : ∀ i k x, tracked i k = some x → c.tracked i k = some x) :
    Sound key site issued { c with stored := stored, tracked := tracked } :=
  h.fewer hs ht (fun _ => .refl _) (fun _ _ => rfl) (fun _ _ _ _ _ _ hz _ => hz) (fun _ _ => id) rfl

variable [DecidableEq τ]

variable {t : τ} {x : γ}

variable {l : List γ}

section

variable (h : Sound key site issued c)

include h

/-- A task with nothing in hand writes a key that nobody has in hand and no other site keeps. -/
theorem Sound.write [DecidableEq κ] (issued' : γ → Prop) {k : κ}
    (hk : key x = some k) (hnew : ¬issued x) (hissued : ∀ y, issued y ∨ y = x → issued' y)
    (ht : c.held t = []) (hfree : ∀ u, ∀ y ∈ c.held u, key y ≠ some k)
    (hsite : ∀ i y, c.tracked i k = some y → i = site t) : Sound key site issued' { c with
      stored := update c.stored k (some x)
      held := update c.held t [x]
      writing := update c.writing t true } := by
  have hheld : ∀ u, ∀ y ∈ update c.held t [x] u, (u = t ∧ y = x) ∨ (u ≠ t ∧ y ∈ c.held u) :=
    fun u y hy => (mem_update.mp hy).imp_left fun h => ⟨h.1, List.mem_singleton.mp h.2⟩
  have hstored : ∀ j y, update c.stored k (some x) j = some y →
      (j = k ∧ y = x) ∨ (j ≠ k ∧ c.stored j = some y) :=
    fun j y hy => (update_eq_some.mp hy).imp_left fun h => ⟨h.1, (Option.some.inj h.2).symm⟩
  refine ⟨?_, ?_, ?_, ?_, ?_, h.single, ?_, ?_, ?_, ?_, h.flight_once, h.flight_unpublished, h.once⟩
  · intro j y hy
    obtain ⟨rfl, rfl⟩ | ⟨-, hy⟩ := hstored j y hy
    · exact ⟨hk, hissued _ (.inr rfl)⟩
    · exact ⟨(h.stored_key j y hy).1, hissued _ (.inl (h.stored_key j y hy).2)⟩
  · exact fun i j y hy => ⟨(h.tracked_key i j y hy).1, hissued _ (.inl (h.tracked_key i j y hy).2)⟩
  · intro u y hy
    obtain ⟨-, rfl⟩ | ⟨-, hy⟩ := hheld u y hy
    · exact ⟨⟨k, hk⟩, hissued _ (.inr rfl)⟩
    · exact ⟨(h.held_key u y hy).1, hissued _ (.inl (h.held_key u y hy).2)⟩
  · intro u v y hy z hz hyz
    obtain ⟨rfl, rfl⟩ | ⟨-, hu⟩ := hheld u y hy
    · obtain ⟨rfl, -⟩ | ⟨-, hv⟩ := hheld v z hz
      · rfl
      · exact absurd (hyz.symm.trans hk) (hfree v z hv)
    · obtain ⟨rfl, rfl⟩ | ⟨-, hv⟩ := hheld v z hz
      · exact absurd (hyz.trans hk) (hfree u y hu)
      · exact h.lone u v y hu z hv hyz
  · intro u
    by_cases hu : u = t
    · simp [hu]
    · simpa [hu] using h.distinct u
  · intro u y hy i j z hz hyj
    obtain ⟨rfl, rfl⟩ | ⟨hu, hy⟩ := hheld u y hy
    · obtain rfl : j = k := Option.some.inj (hyj.symm.trans hk)
      exact ⟨hsite i z hz, by simp⟩
    · simpa [hu] using h.apart u y hy i j z hz hyj
  · intro u y hy j z hyj hz
    obtain ⟨rfl, rfl⟩ | ⟨hj, hst⟩ := hstored j z hz
    · obtain ⟨-, rfl⟩ | ⟨-, hu⟩ := hheld u y hy
      · rfl
      · exact absurd hyj (hfree u y hu)
    · obtain ⟨-, rfl⟩ | ⟨-, hu⟩ := hheld u y hy
      · exact absurd (Option.some.inj (hyj.symm.trans hk)) hj
      · exact h.current u y hu j z hyj hst
  · intro i j y z hy hno hz
    obtain ⟨rfl, rfl⟩ | ⟨hj, hz⟩ := hstored j z hz
    · exact absurd hk (hno t z (by simp))
    · refine h.tracked_current i j y z hy (fun u w hw => ?_) hz
      by_cases hu : u = t
      · subst hu
        simp [ht] at hw
      · exact hno u w (by simpa [hu] using hw)
  · intro y hy
    obtain ⟨hi, hst, htr, hh⟩ := h.gone y hy
    have hne : y ≠ x := fun he => hnew (he ▸ hi)
    refine ⟨hissued _ (.inl hi), fun j hj => ?_, htr, fun u hu => ?_⟩
    · obtain ⟨-, rfl⟩ | ⟨-, hj⟩ := hstored j y hj
      · exact hne rfl
      · exact hst j hj
    · obtain ⟨-, rfl⟩ | ⟨-, hu⟩ := hheld u y hu
      · exact hne rfl
      · exact hh u hu

/-- A task that did not write what it has lets some of it go. -/
theorem Sound.release (hl : l.Sublist (c.held t))
    (hw : c.writing t = false) : Sound key site issued { c with held := update c.held t l } := by
  refine h.fewer (fun _ _ => id) (fun _ _ _ => id) (fun u => ?_) (fun _ _ => rfl) ?_ (fun _ _ => id) rfl
  · by_cases hu : u = t
    · subst hu
      simpa using hl
    · simp [hu]
  · intro i k x hx u z hz hk
    have hne : u ≠ t := by
      rintro rfl
      have := (h.apart u z hz i k x hx hk).2
      simp [hw] at this
    simpa [hne] using hz

/-- A task takes the first copy it has, which it did not write, out of the store. -/
theorem Sound.remove (stored : κ → Option γ) {rest : List γ}
    (hheld : c.held t = x :: rest) (hw : c.writing t = false)
    (hs : ∀ k y, stored k = some y → c.stored k = some y ∧ key x ≠ some k) :
    Sound key site issued { c with
      stored := stored
      held := update c.held t rest
      flight := update c.flight t (some x) } := by
  have hx : x ∈ c.held t := by simp [hheld]
  have hnotgone : ∀ P : Prop, (x ∈ c.published ∨ ∃ u, c.flight u = some x) → P :=
    fun P hg => absurd hx ((h.gone x hg).2.2.2 t)
  have hsub : rest.Sublist (c.held t) := hheld ▸ List.sublist_cons_self x rest
  have hr := (h.release hsub hw).shrink stored c.tracked
    (fun k y hy => (hs k y hy).1) (fun _ _ _ hy => hy)
  have hgone : issued x ∧ (∀ k, stored k ≠ some x) ∧ (∀ i k, c.tracked i k ≠ some x) ∧
      ∀ u, x ∉ update c.held t rest u := by
    refine ⟨(h.held_key t x hx).2, fun k hk => ?_, fun i k hk => ?_, fun u hu => ?_⟩
    · exact (hs k x hk).2 (h.stored_key k x (hs k x hk).1).1
    · have := (h.apart t x hx i k x hk (h.tracked_key i k x hk).1).2
      simp [hw] at this
    · obtain ⟨-, hmem⟩ | ⟨hne, hmem⟩ := mem_update.mp hu
      · have hd := h.distinct t
        rw [hheld, List.map_cons, List.nodup_cons] at hd
        exact hd.1 (List.mem_map_of_mem hmem)
      · exact hne (h.lone u t x hmem x hx rfl)
  refine { hr with gone := ?_, flight_once := ?_, flight_unpublished := ?_ }
  · rintro y (hy | ⟨u, hu⟩)
    · exact hr.gone y (.inl hy)
    · obtain ⟨-, hxy⟩ | ⟨-, hu⟩ := update_eq_some.mp hu
      · cases hxy
        exact hgone
      · exact hr.gone y (.inr ⟨u, hu⟩)
  · intro u v y hu hv
    obtain ⟨rfl, hxy⟩ | ⟨-, hfu⟩ := update_eq_some.mp hu
    · cases hxy
      obtain ⟨rfl, -⟩ | ⟨-, hfv⟩ := update_eq_some.mp hv
      · rfl
      · exact hnotgone _ (.inr ⟨v, hfv⟩)
    · obtain ⟨-, hxy⟩ | ⟨-, hfv⟩ := update_eq_some.mp hv
      · cases hxy
        exact hnotgone _ (.inr ⟨u, hfu⟩)
      · exact h.flight_once u v y hfu hfv
  · intro u y hu
    obtain ⟨-, hxy⟩ | ⟨-, hu⟩ := update_eq_some.mp hu
    · cases hxy
      exact fun hp => hnotgone _ (.inl hp)
    · exact h.flight_unpublished u y hu

theorem Sound.publish (hx : c.flight t = some x) : Sound key site issued { c with
      flight := update c.flight t none
      published := c.published ++ [x] } := by
  have hflight : ∀ u y, update c.flight t none u = some y → u ≠ t ∧ c.flight u = some y := by
    intro u y hu
    obtain ⟨-, hn⟩ | hu := update_eq_some.mp hu
    · cases hn
    · exact hu
  refine { h with gone := ?_, flight_once := ?_, flight_unpublished := ?_, once := ?_ }
  · rintro y (hy | ⟨u, hu⟩)
    · obtain hy | hy := List.mem_append.mp hy
      · exact h.gone y (.inl hy)
      · exact h.gone y (.inr ⟨t, List.mem_singleton.mp hy ▸ hx⟩)
    · exact h.gone y (.inr ⟨u, (hflight u y hu).2⟩)
  · exact fun u v y hu hv => h.flight_once u v y (hflight u y hu).2 (hflight v y hv).2
  · intro u y hu hy
    obtain ⟨hne, hu⟩ := hflight u y hu
    obtain hy | hy := List.mem_append.mp hy
    · exact h.flight_unpublished u y hu hy
    · exact hne (h.flight_once u t y hu (List.mem_singleton.mp hy ▸ hx))
  · have hnew := h.flight_unpublished t x hx
    exact h.once.append (List.nodup_singleton x) (by simpa using hnew)

theorem Sound.lose (t : τ) : Sound key site issued { c with flight := update c.flight t none } := by
  refine h.fewer (fun _ _ => id) (fun _ _ _ => id) (fun _ => .refl _) (fun _ _ => rfl)
    (fun _ _ _ _ _ _ hz _ => hz) (fun u y hu => ?_) rfl
  obtain ⟨-, hn⟩ | hu := update_eq_some.mp hu
  · cases hn
  · exact hu.2

end

/-- A copy that nobody has yet, of the record as it is stored if it is. -/
structure Free (key : γ → Option κ) (issued : γ → Prop) (c : Custody κ γ ι τ) (x : γ) : Prop where
  keyed : ∃ k, key x = some k
  issued : issued x
  unheld : ∀ u, ∀ y ∈ c.held u, key y ≠ key x
  untracked : ∀ i k y, c.tracked i k = some y → key x ≠ some k
  current : ∀ k y, key x = some k → c.stored k = some y → y = x
  present : ¬(x ∈ c.published ∨ ∃ u, c.flight u = some x)

section

variable (h : Sound key site issued c)

include h

theorem Sound.hold (hd : (l.map key).Nodup)
    (hkept : c.held t ⊆ l) (hnew : ∀ x ∈ l, x ∈ c.held t ∨ c.Free key issued x) :
    Sound key site issued { c with held := update c.held t l } := by
  have hheld : ∀ u, ∀ y ∈ update c.held t l u, y ∈ c.held u ∨ (u = t ∧ c.Free key issued y) := by
    intro u y hy
    obtain ⟨rfl, hm⟩ | ⟨-, hm⟩ := mem_update.mp hy
    · exact (hnew y hm).imp_right fun hf => ⟨rfl, hf⟩
    · exact .inl hm
  refine { h with
    held_key := ?_, lone := ?_, distinct := ?_, apart := ?_, current := ?_, tracked_current := ?_, gone := ?_ }
  · intro u y hy
    obtain hu | ⟨-, hf⟩ := hheld u y hy
    · exact h.held_key u y hu
    · exact ⟨hf.keyed, hf.issued⟩
  · intro u v y hy z hz hyz
    obtain hu | ⟨rfl, hf⟩ := hheld u y hy
    · obtain hv | ⟨-, hf⟩ := hheld v z hz
      · exact h.lone u v y hu z hv hyz
      · exact absurd hyz (hf.unheld u y hu)
    · obtain hv | ⟨rfl, -⟩ := hheld v z hz
      · exact absurd hyz.symm (hf.unheld v z hv)
      · rfl
  · intro u
    by_cases hu : u = t
    · simpa [hu] using hd
    · simpa [hu] using h.distinct u
  · intro u y hy i k z hz hyk
    obtain hu | ⟨-, hf⟩ := hheld u y hy
    · exact h.apart u y hu i k z hz hyk
    · exact absurd hyk (hf.untracked i k z hz)
  · intro u y hy k z hyk hz
    obtain hu | ⟨-, hf⟩ := hheld u y hy
    · exact h.current u y hu k z hyk hz
    · exact hf.current k z hyk hz
  · intro i k y z hy hno hz
    refine h.tracked_current i k y z hy (fun u w hw => hno u w ?_) hz
    by_cases hu : u = t
    · subst hu
      simpa using hkept hw
    · simpa [hu] using hw
  · intro y hy
    obtain ⟨hi, hst, htr, hh⟩ := h.gone y hy
    refine ⟨hi, hst, htr, fun u hu => ?_⟩
    obtain hu | ⟨-, hf⟩ := hheld u y hu
    · exact hh u hu
    · exact hf.present hy

/-- A task reads a key that nobody has a copy of. -/
theorem Sound.load {k : κ} (hx : c.stored k = some x)
    (hfree : ∀ u, ∀ y ∈ c.held u, key y ≠ some k) (huntracked : ∀ i, c.tracked i k = none) :
    Sound key site issued { c with held := update c.held t (c.held t ++ [x]) } := by
  obtain ⟨hk, hissued⟩ := h.stored_key k x hx
  have hnew : c.Free key issued x := by
    refine ⟨⟨k, hk⟩, hissued, fun u y hy hyx => hfree u y hy (hyx.trans hk), ?_, ?_, ?_⟩
    · intro i j y hy hj
      obtain rfl : k = j := Option.some.inj (hk.symm.trans hj)
      simp [huntracked i] at hy
    · intro j y hj hy
      obtain rfl : k = j := Option.some.inj (hk.symm.trans hj)
      exact Option.some.inj (hy.symm.trans hx)
    · exact fun hg => (h.gone x hg).2.1 k hx
  refine h.hold ?_ (List.subset_append_left _ _) fun y hy => ?_
  · have hnot : key x ∉ (c.held t).map key := by
      intro hm
      obtain ⟨y, hy, hyx⟩ := List.mem_map.mp hm
      exact hnew.unheld t y hy hyx
    simpa using (h.distinct t).append (List.nodup_singleton (key x)) (by simpa using hnot)
  · obtain hy | hy := List.mem_append.mp hy
    · exact .inl hy
    · exact .inr (List.mem_singleton.mp hy ▸ hnew)

/-- A task with nothing in hand takes copies from its site, of keys that nobody has in hand. -/
theorem Sound.collect (tracked : ι → κ → Option γ)
    (ht : c.held t = []) (hl : ∀ x ∈ l, ∃ k, c.tracked (site t) k = some x) (hd : (l.map key).Nodup)
    (hfree : ∀ x ∈ l, ∀ u, ∀ y ∈ c.held u, key y ≠ key x)
    (hsub : ∀ i k x, tracked i k = some x → c.tracked i k = some x)
    (hout : ∀ k x, tracked (site t) k = some x → x ∉ l) :
    Sound key site issued { c with tracked := tracked, held := update c.held t l } := by
  refine (h.shrink c.stored tracked (fun _ _ => id) hsub).hold hd (by simp [ht]) fun x hx => .inr ?_
  obtain ⟨k, hk⟩ := hl x hx
  obtain ⟨hkey, hissued⟩ := h.tracked_key _ k x hk
  refine ⟨⟨k, hkey⟩, hissued, hfree x hx, fun i j y hy hj => ?_, fun j y hj hy => ?_, fun hg => ?_⟩
  · obtain rfl : k = j := Option.some.inj (hkey.symm.trans hj)
    obtain rfl := h.single _ _ k y x (hsub i k y hy) hk
    cases (hsub _ k y hy).symm.trans hk
    exact hout k x hy hx
  · obtain rfl : k = j := Option.some.inj (hkey.symm.trans hj)
    exact h.tracked_current _ k x y hk (fun u z hz hzk => hfree x hx u z hz (hzk.trans hkey.symm)) hy
  · exact (h.gone x hg).2.2.1 _ k hk

/-- A task gives the first copy it has to its site. A writer has only one. -/
theorem Sound.track [DecidableEq κ] [DecidableEq ι] {k : κ}
    {rest : List γ} {w : Bool} (hheld : c.held t = x :: rest) (hk : key x = some k)
    (hw : rest = [] ∨ w = c.writing t) : Sound key site issued { c with
      tracked := update c.tracked (site t) (update (c.tracked (site t)) k (some x))
      held := update c.held t rest
      writing := update c.writing t w } := by
  have hx : x ∈ c.held t := by simp [hheld]
  have hrest : ∀ u, ∀ y ∈ update c.held t rest u, y ∈ c.held u ∧ key y ≠ some k := by
    intro u y hy
    obtain ⟨rfl, hm⟩ | ⟨hne, hm⟩ := mem_update.mp hy
    · have hd := h.distinct u
      rw [hheld, List.map_cons, List.nodup_cons] at hd
      exact ⟨hheld ▸ .tail _ hm, fun hyk => hd.1 (hk ▸ hyk ▸ List.mem_map_of_mem hm)⟩
    · exact ⟨hm, fun hyk => hne (h.lone u t y hm x hx (hyk.trans hk.symm))⟩
  have htracked : ∀ i j y, update c.tracked (site t)
      (update (c.tracked (site t)) k (some x)) i j = some y →
      (i = site t ∧ j = k ∧ y = x) ∨ (j ≠ k ∧ c.tracked i j = some y) := by
    intro i j y hy
    by_cases hi : i = site t
    · subst hi
      rw [Function.update_self] at hy
      obtain ⟨hj, hxy⟩ | hy := update_eq_some.mp hy
      · exact .inl ⟨rfl, hj, (Option.some.inj hxy).symm⟩
      · exact .inr hy
    · rw [Function.update_of_ne hi] at hy
      refine .inr ⟨?_, hy⟩
      rintro rfl
      exact hi (h.apart t x hx i j y hy hk).1
  refine { h with
    tracked_key := ?_, held_key := fun u y hy => h.held_key u y (hrest u y hy).1, lone := ?_,
    distinct := ?_, single := ?_, apart := ?_, current := ?_, tracked_current := ?_, gone := ?_ }
  · intro i j y hy
    obtain ⟨-, rfl, rfl⟩ | ⟨-, hy⟩ := htracked i j y hy
    · exact ⟨hk, (h.held_key t y hx).2⟩
    · exact h.tracked_key i j y hy
  · exact fun u v y hy z hz => h.lone u v y (hrest u y hy).1 z (hrest v z hz).1
  · intro u
    by_cases hu : u = t
    · subst hu
      have hd := h.distinct u
      rw [hheld, List.map_cons, List.nodup_cons] at hd
      simpa using hd.2
    · simpa [hu] using h.distinct u
  · intro i j l y z hy hz
    obtain ⟨rfl, rfl, -⟩ | ⟨hl, hy⟩ := htracked i l y hy
    · obtain ⟨rfl, -, -⟩ | ⟨hl, -⟩ := htracked j l z hz
      · rfl
      · exact absurd rfl hl
    · obtain ⟨-, rfl, -⟩ | ⟨-, hz⟩ := htracked j l z hz
      · exact absurd rfl hl
      · exact h.single i j l y z hy hz
  · intro u y hy i j z hz hyj
    obtain ⟨hu, hyk⟩ := hrest u y hy
    obtain ⟨-, rfl, -⟩ | ⟨-, hz⟩ := htracked i j z hz
    · exact absurd hyj hyk
    · obtain ⟨hi, hwu⟩ := h.apart u y hu i j z hz hyj
      refine ⟨hi, ?_⟩
      by_cases hut : u = t
      · subst hut
        obtain rfl | rfl := hw
        · simp at hy
        · simpa using hwu
      · simpa [hut] using hwu
  · exact fun u y hy => h.current u y (hrest u y hy).1
  · intro i j y z hy hno hz
    obtain ⟨-, rfl, rfl⟩ | ⟨hj, hy⟩ := htracked i j y hy
    · exact h.current t y hx j z hk hz
    · refine h.tracked_current i j y z hy (fun u v hv hvj => ?_) hz
      by_cases hu : u = t
      · subst hu
        rw [hheld] at hv
        obtain rfl | hv := List.mem_cons.mp hv
        · exact hj (Option.some.inj (hvj.symm.trans hk))
        · exact hno u v (by simpa using hv) hvj
      · exact hno u v (by simpa [hu] using hv) hvj
  · intro y hy
    obtain ⟨hi, hst, htr, hh⟩ := h.gone y hy
    refine ⟨hi, hst, fun i j hj => ?_, fun u hu => hh u (hrest u y hu).1⟩
    obtain ⟨-, -, rfl⟩ | ⟨-, hj⟩ := htracked i j y hj
    · exact hh t hx
    · exact htr i j hj

end

/-- What a site keeps once it was given the copies, one after the other. -/
def given [DecidableEq κ] (key : γ → Option κ) (f : κ → Option γ) (l : List γ) : κ → Option γ :=
  l.foldl (fun f x => match key x with
    | some k => update f k (some x)
    | none => f) f

/-- A task gives all it has to its site. -/
theorem Sound.trackAll [DecidableEq κ] [DecidableEq ι] (h : Sound key site issued c)
    (hheld : c.held t = l) (hw : c.writing t = false) : Sound key site issued { c with
      tracked := update c.tracked (site t) (given key (c.tracked (site t)) l)
      held := update c.held t [] } := by
  induction l generalizing c with
  | nil =>
    have hnone : update c.held t [] = c.held := by rw [← hheld, Function.update_eq_self]
    simpa [given, hnone] using h
  | cons x rest ih =>
    obtain ⟨⟨k, hk⟩, -⟩ := h.held_key t x (by simp [hheld])
    have hone := h.track (w := false) hheld hk (.inr hw.symm)
    have hrest := ih hone (by simp) (by simp)
    have hsame : update c.writing t false = c.writing := by rw [← hw, Function.update_eq_self]
    simpa [given, hk, hsame] using hrest

omit [DecidableEq τ] in
/-- A site and its tasks lose all they have. -/
theorem Sound.restart [DecidableEq ι] (h : Sound key site issued c) (i : ι) {d : Custody κ γ ι τ}
    (hstored : d.stored = c.stored) (hpub : d.published = c.published)
    (htracked : d.tracked = update c.tracked i fun _ => none)
    (hlost : ∀ t, site t = i → d.held t = [] ∧ d.flight t = none)
    (hkept : ∀ t, site t ≠ i → d.held t = c.held t ∧ d.flight t = c.flight t ∧ d.writing t = c.writing t) :
    Sound key site issued d := by
  have htr : ∀ j k x, d.tracked j k = some x → j ≠ i ∧ c.tracked j k = some x := by
    intro j k x hx
    rw [htracked] at hx
    by_cases hj : j = i
    · simp [hj] at hx
    · exact ⟨hj, by simpa [hj] using hx⟩
  refine h.fewer (fun _ _ hx => hstored ▸ hx) (fun j k x hx => (htr j k x hx).2) (fun t => ?_)
    (fun t hne => (hkept t fun ht => hne (hlost t ht).1).2.2) ?_ (fun t x hx => ?_) hpub
  · by_cases ht : site t = i
    · simp [(hlost t ht).1]
    · rw [(hkept t ht).1]
  · intro j k x hx t z hz hk
    obtain ⟨hj, hx⟩ := htr j k x hx
    have ht : site t ≠ i := fun ht => hj ((h.apart t z hz j k x hx hk).1.trans ht)
    exact (hkept t ht).1 ▸ hz
  · by_cases ht : site t = i
    · simp [(hlost t ht).2] at hx
    · exact (hkept t ht).2.1 ▸ hx

end moves

end Custody

end OptimiqVoice.Lib

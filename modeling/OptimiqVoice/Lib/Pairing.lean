import Mathlib.Logic.Function.Basic
import Mathlib.Tactic.SplitIfs

namespace OptimiqVoice.Lib

open Function (update)

/-- Pairs with names, kept twice: by name, and at each member its mate. -/
structure Pairing (κ α : Type) where
  edge : κ → Option (α × α)
  mate : α → Option α

namespace Pairing

variable {κ α : Type}

/-- The name stands for the pair of the two, in either order. -/
def Joins (P : Pairing κ α) (k : κ) (x y : α) : Prop :=
  P.edge k = some (x, y) ∨ P.edge k = some (y, x)

/-- The two ways of keeping the pairs say the same, and no pair has two names. -/
structure Sound (P : Pairing κ α) : Prop where
  mated : ∀ k x y, P.edge k = some (x, y) → x ≠ y ∧ P.mate x = some y ∧ P.mate y = some x
  named : ∀ x y, P.mate x = some y → ∃ k, P.Joins k x y
  once : ∀ j k x y, P.Joins j x y → P.Joins k x y → j = k

variable {P : Pairing κ α}

variable {k : κ} {x y : α}

theorem Joins.symm (h : P.Joins k x y) : P.Joins k y x := Or.symm h

theorem Sound.mate_of_joins (h : P.Sound) (hj : P.Joins k x y) : x ≠ y ∧ P.mate x = some y := by
  obtain hj | hj := hj
  · exact ⟨(h.mated k x y hj).1, (h.mated k x y hj).2.1⟩
  · exact ⟨(h.mated k y x hj).1.symm, (h.mated k y x hj).2.2⟩

theorem Sound.eq_of_joins (h : P.Sound) {j : κ} {z : α} (hj : P.Joins j x y)
    (hk : P.Joins k x z) : j = k := by
  have hy := (h.mate_of_joins hj).2
  have hz := (h.mate_of_joins hk).2
  obtain rfl : y = z := by simpa [hy] using hz
  exact h.once j k x y hj hk

section changes

variable [DecidableEq κ] [DecidableEq α]

def cut (P : Pairing κ α) (k : κ) (x y : α) : Pairing κ α where
  edge := update P.edge k none
  mate := update (update P.mate x none) y none

def join (P : Pairing κ α) (k : κ) (x y : α) : Pairing κ α where
  edge := update P.edge k (some (x, y))
  mate := update (update P.mate x (some y)) y (some x)

theorem joins_cut {j : κ} {z w : α} : (P.cut k x y).Joins j z w ↔ j ≠ k ∧ P.Joins j z w := by
  by_cases hj : j = k
  · simp [Joins, cut, hj]
  · simp [Joins, cut, hj]

theorem Sound.cut (h : P.Sound) (hk : P.Joins k x y) : (P.cut k x y).Sound := by
  have hmate : ∀ z w, (P.cut k x y).mate z = some w → z ≠ x ∧ z ≠ y ∧ P.mate z = some w := by
    intro z w hz
    simp only [Pairing.cut, Function.update_apply] at hz
    split_ifs at hz with hy hx
    exact ⟨hx, hy, hz⟩
  -- members of another pair are neither of the two
  have hother : ∀ j z w, j ≠ k → P.Joins j z w → z ≠ x ∧ z ≠ y := by
    intro j z w hne hj
    constructor
    · rintro rfl
      exact hne (h.eq_of_joins hj hk)
    · rintro rfl
      exact hne (h.eq_of_joins hj hk.symm)
  constructor
  · intro j z w hj
    obtain ⟨hne, hj'⟩ := joins_cut.mp (.inl hj)
    obtain ⟨hzx, hzy⟩ := hother j z w hne hj'
    obtain ⟨hwx, hwy⟩ := hother j w z hne hj'.symm
    have hz := h.mate_of_joins hj'
    have hw := h.mate_of_joins hj'.symm
    refine ⟨hz.1, ?_, ?_⟩
    · simpa [Pairing.cut, hzx, hzy] using hz.2
    · simpa [Pairing.cut, hwx, hwy] using hw.2
  · intro z w hz
    obtain ⟨hzx, hzy, hz⟩ := hmate z w hz
    obtain ⟨j, hj⟩ := h.named z w hz
    refine ⟨j, joins_cut.mpr ⟨?_, hj⟩⟩
    rintro rfl
    obtain hj | hj := hj
    · obtain hk | hk := hk
      · exact hzx (Prod.mk.inj (Option.some.inj (hj.symm.trans hk))).1
      · exact hzy (Prod.mk.inj (Option.some.inj (hj.symm.trans hk))).1
    · obtain hk | hk := hk
      · exact hzy (Prod.mk.inj (Option.some.inj (hj.symm.trans hk))).2
      · exact hzx (Prod.mk.inj (Option.some.inj (hj.symm.trans hk))).2
  · intro i j z w hi hj
    exact h.once i j z w (joins_cut.mp hi).2 (joins_cut.mp hj).2

attribute [local simp] Pairing.join

theorem Sound.join (h : P.Sound) (hk : P.edge k = none) (hx : P.mate x = none)
    (hy : P.mate y = none) (hne : x ≠ y) : (P.join k x y).Sound := by
  have hfree : ∀ {j z w}, P.Joins j z w → j ≠ k ∧ z ≠ x ∧ z ≠ y := by
    intro j z w hj
    have hz := (h.mate_of_joins hj).2
    refine ⟨?_, ?_, ?_⟩
    · rintro rfl
      obtain hj | hj := hj <;> simp [hk] at hj
    · rintro rfl
      simp [hx] at hz
    · rintro rfl
      simp [hy] at hz
  have hold : ∀ {j z w}, (P.join k x y).Joins j z w →
      P.Joins j z w ∨ j = k ∧ (z = x ∧ w = y ∨ z = y ∧ w = x) := by
    intro j z w hj
    by_cases hjk : j = k
    · right
      simp only [Joins, Pairing.join, hjk, Function.update_self, Option.some.injEq, Prod.mk.injEq] at hj
      obtain ⟨rfl, rfl⟩ | ⟨rfl, rfl⟩ := hj
      · exact ⟨hjk, .inl ⟨rfl, rfl⟩⟩
      · exact ⟨hjk, .inr ⟨rfl, rfl⟩⟩
    · left
      simpa [Joins, hjk] using hj
  constructor
  · intro j z w hj
    obtain hj' | ⟨rfl, ⟨rfl, rfl⟩ | ⟨rfl, rfl⟩⟩ := hold (.inl hj)
    · obtain ⟨-, hzx, hzy⟩ := hfree hj'
      obtain ⟨-, hwx, hwy⟩ := hfree hj'.symm
      have hz := h.mate_of_joins hj'
      have hw := h.mate_of_joins hj'.symm
      refine ⟨hz.1, ?_, ?_⟩
      · simpa [hzx, hzy] using hz.2
      · simpa [hwx, hwy] using hw.2
    · simp [hne]
    · simp [hne, hne.symm]
  · intro z w hz
    simp only [Pairing.join, Function.update_apply] at hz
    split_ifs at hz with hzy hzx
    · obtain rfl : x = w := by simpa using hz
      exact ⟨k, .inr (by simp [hzy])⟩
    · obtain rfl : y = w := by simpa using hz
      exact ⟨k, .inl (by simp [hzx])⟩
    · obtain ⟨j, hj⟩ := h.named z w hz
      have hjk := (hfree hj).1
      exact ⟨j, by simpa [Joins, hjk] using hj⟩
  · intro i j z w hi hj
    obtain hi' | ⟨rfl, hzw⟩ := hold hi
    · obtain ⟨-, hzx, hzy⟩ := hfree hi'
      obtain hj' | ⟨rfl, ⟨rfl, -⟩ | ⟨rfl, -⟩⟩ := hold hj
      · exact h.once i j z w hi' hj'
      · exact absurd rfl hzx
      · exact absurd rfl hzy
    · obtain hj' | ⟨rfl, -⟩ := hold hj
      · obtain ⟨-, hzx, hzy⟩ := hfree hj'
        obtain ⟨rfl, -⟩ | ⟨rfl, -⟩ := hzw
        · exact absurd rfl hzx
        · exact absurd rfl hzy
      · rfl

end changes

end Pairing

end OptimiqVoice.Lib

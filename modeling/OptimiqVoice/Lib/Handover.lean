import Mathlib.Data.List.Basic

namespace OptimiqVoice.Lib

/-- Items that are each handed over by a goroutine of its own: those that wait,
in the order in which they were posted, and those that are through, in the order
in which they came through. -/
structure Handover (α : Type) where
  waiting : List α
  through : List α

namespace Handover

variable {α κ : Type} [DecidableEq κ] {key : α → κ} {posted : List α} {h : Handover α} {a : α}

def post (h : Handover α) (a : α) : Handover α := { h with waiting := h.waiting ++ [a] }

/-- The n-th of those that wait comes through. -/
def pass (h : Handover α) (n : Nat) : Option (Handover α) :=
  h.waiting[n]?.map fun a => ⟨h.waiting.eraseIdx n, h.through ++ [a]⟩

def ofKey (key : α → κ) (k : κ) (items : List α) : List α := items.filter fun a => key a = k

/-- For every key at most one item waits, and those that are through are those
posted before it, in the order of posting. -/
structure InStep (key : α → κ) (posted : List α) (h : Handover α) : Prop where
  single : ∀ k, (ofKey key k h.waiting).length ≤ 1
  order : ∀ k, ofKey key k h.through ++ ofKey key k h.waiting = ofKey key k posted

@[simp] theorem ofKey_append (k : κ) (l r : List α) :
    ofKey key k (l ++ r) = ofKey key k l ++ ofKey key k r :=
  List.filter_append ..

theorem ofKey_cons (k : κ) (a : α) (r : List α) :
    ofKey key k (a :: r) = (if key a = k then [a] else []) ++ ofKey key k r := by
  by_cases hk : key a = k
  · simp [ofKey, hk]
  · simp [ofKey, hk]

@[simp] theorem ofKey_nil (k : κ) : ofKey key k [] = [] := rfl

theorem inStep_nil : InStep key [] ⟨[], []⟩ := ⟨fun _ => Nat.zero_le _, fun _ => rfl⟩

theorem InStep.post (hin : InStep key posted h) (hfree : ∀ b ∈ h.waiting, key b ≠ key a) :
    InStep key (posted ++ [a]) (h.post a) := by
  have hnone : ofKey key (key a) h.waiting = [] := by
    apply List.filter_eq_nil_iff.mpr
    intro b hb
    simpa using hfree b hb
  constructor
  · intro k
    rw [Handover.post, ofKey_append, ofKey_cons]
    split_ifs with hk
    · simp [← hk, hnone]
    · simpa using hin.single k
  · intro k
    rw [Handover.post, ofKey_append, ofKey_append, ← List.append_assoc, hin.order k]

theorem eraseIdx_split {items : List α} {n : Nat} (hn : items[n]? = some a) :
    ∃ l r, items = l ++ a :: r ∧ items.eraseIdx n = l ++ r := by
  induction items generalizing n with
  | nil => simp at hn
  | cons b items ih =>
    cases n with
    | zero =>
      obtain rfl : b = a := by simpa using hn
      exact ⟨[], items, rfl, rfl⟩
    | succ n =>
      obtain ⟨l, r, rfl, herase⟩ := ih (by simpa using hn)
      exact ⟨b :: l, r, rfl, by simp [herase]⟩

theorem InStep.pass {h' : Handover α} {n : Nat} (hin : InStep key posted h)
    (hpass : h.pass n = some h') : InStep key posted h' := by
  obtain ⟨a, hn, rfl⟩ := Option.map_eq_some_iff.mp hpass
  obtain ⟨l, r, hwaiting, herase⟩ := eraseIdx_split hn
  have hsingle := hin.single
  have horder := hin.order
  simp only [hwaiting, ofKey_append, ofKey_cons] at hsingle horder
  rw [herase]
  constructor
  · intro k
    have hk := hsingle k
    simp only [ofKey_append, List.length_append] at hk ⊢
    omega
  · intro k
    have hk := hsingle k
    rw [← horder k, ofKey_append, ofKey_append, ofKey_cons]
    split_ifs with hkey
    · -- the one of its key that waits, so that nothing is before it
      rw [if_pos hkey] at hk
      simp only [List.length_append, List.length_singleton] at hk
      have hl : ofKey key k l = [] := List.eq_nil_of_length_eq_zero (by omega)
      simp [hl]
    · simp

end Handover

end OptimiqVoice.Lib

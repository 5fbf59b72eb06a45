import Mathlib.Data.List.Basic

namespace OptimiqVoice.Lib

variable {α : Type} {l : List α} {used used' : α → Bool}

def free (l : List α) (used : α → Bool) : Nat := (l.filter (fun a => !used a)).length

theorem free_le_length : free l used ≤ l.length := List.length_filter_le _ _

theorem free_le (h : ∀ a, used a → used' a) : free l used' ≤ free l used := by
  apply List.Sublist.length_le
  apply List.monotone_filter_right
  intro a ha
  simp only [Bool.not_eq_true'] at ha ⊢
  exact Bool.eq_false_iff.mpr (fun hu => Bool.eq_false_iff.mp ha (h a hu))

theorem free_lt (h : ∀ a, used a → used' a) {a : α} (hm : a ∈ l) (ha : used a = false)
    (ha' : used' a = true) : free l used' < free l used := by
  have hsub : l.filter (fun a => !used' a) =
      (l.filter (fun a => !used a)).filter (fun a => !used' a) := by
    rw [List.filter_filter]
    apply List.filter_congr
    intro x _
    cases hx : used x with
    | false => simp
    | true => simp [h x hx]
  unfold free
  rw [hsub, List.length_filter_lt_length_iff_exists]
  exact ⟨a, List.mem_filter.mpr ⟨hm, by simp [ha]⟩, by simp [ha']⟩

end OptimiqVoice.Lib

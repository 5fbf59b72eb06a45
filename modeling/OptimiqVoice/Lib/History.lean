import Mathlib.Data.List.Induction

namespace OptimiqVoice.Lib

variable {ε : Type} {P : List ε → ε → Prop} {log new : List ε}

/-- Every entry of a history stands where it may, given the entries before it. -/
def Each (P : List ε → ε → Prop) (log : List ε) : Prop :=
  ∀ before e after, log = before ++ e :: after → P before e

theorem each_nil : Each P [] := by
  intro before e after h
  simp at h

theorem Each.mono {Q : List ε → ε → Prop} (h : Each P log) (hPQ : ∀ before e, P before e → Q before e) :
    Each Q log :=
  fun before e after heq => hPQ before e (h before e after heq)

theorem Each.of_append (h : Each P (log ++ new)) : Each P log := by
  rintro before e after rfl
  exact h before e (after ++ new) (by simp)

theorem Each.append (h : Each P log)
    (hnew : ∀ before e after, new = before ++ e :: after → P (log ++ before) e) :
    Each P (log ++ new) := by
  intro before e after heq
  obtain ⟨more, rfl, hnew'⟩ | ⟨more, hlog, hafter⟩ := List.append_eq_append_iff.mp heq
  · exact hnew more e after hnew'
  · cases more with
    | nil =>
      obtain rfl : before = log := by simpa using hlog.symm
      simpa using hnew [] e after hafter.symm
    | cons x more =>
      obtain ⟨rfl, rfl⟩ := List.cons.inj hafter
      exact h before e more hlog

theorem Each.snoc (h : Each P log) {e : ε} (he : P log e) : Each P (log ++ [e]) := by
  apply h.append
  intro before x after heq
  cases before with
  | nil =>
    obtain ⟨rfl, -⟩ := List.cons.inj heq
    simpa using he
  | cons y before => simp at heq

theorem Each.append_of_forall (h : Each P log) (hnew : ∀ e ∈ new, ∀ before, P before e) :
    Each P (log ++ new) := by
  apply h.append
  rintro before e after rfl
  exact hnew e (by simp) _

theorem Each.count_le_one [DecidableEq ε] {x : ε}
    (h : Each (fun before e => e = x → x ∉ before) log) : log.count x ≤ 1 := by
  induction log using List.reverseRecOn with
  | nil => simp
  | append_singleton log e ih =>
    by_cases he : e = x
    · have hnot : x ∉ log := h log e [] rfl he
      simp [List.count_append, List.count_eq_zero.mpr hnot, he]
    · simpa [List.count_append, he] using ih h.of_append

theorem filterMap_snoc {α : Type} (f : ε → Option α) (log : List ε) (e : ε) :
    (log ++ [e]).filterMap f = log.filterMap f ++ (f e).toList := by
  cases h : f e <;> simp [h]

end OptimiqVoice.Lib

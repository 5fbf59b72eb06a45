import Mathlib.Logic.Relation

namespace OptimiqVoice.Lib

variable {α : Type} {R : α → α → Prop}

/-- A walk along `R` from `a`, with the points it has left behind. -/
inductive Path (R : α → α → Prop) (a : α) : List α → α → Prop where
  | start : Path R a [] a
  | step {passed : List α} {b c : α} : Path R a passed b → R b c → Path R a (passed ++ [b]) c

theorem Path.last {a c : α} {passed : List α} (h : Path R a passed c) :
    (c = a ∧ passed = []) ∨ ∃ b ∈ passed, R b c := by
  cases h with
  | start => exact .inl ⟨rfl, rfl⟩
  | step _ hr => exact .inr ⟨_, by simp, hr⟩

end OptimiqVoice.Lib

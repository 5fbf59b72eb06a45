import Mathlib.Algebra.BigOperators.Group.List.Basic
import Mathlib.Algebra.Order.Group.Multiset
import Mathlib.Tactic.Abel

namespace OptimiqVoice.Lib

variable {τ α M : Type} [AddCommMonoid M]

def pooled (f : τ → M) (tasks : List τ) : M := (tasks.map f).sum

variable {f : τ → M}

@[simp] theorem pooled_nil : pooled f [] = 0 := rfl

@[simp] theorem pooled_cons (t : τ) (tasks : List τ) :
    pooled f (t :: tasks) = f t + pooled f tasks := by
  simp [pooled]

@[simp] theorem pooled_append (tasks more : List τ) :
    pooled f (tasks ++ more) = pooled f tasks + pooled f more := by
  simp [pooled]

variable {tasks : List τ}

theorem pooled_set {n : Nat} {t : τ} (h : tasks[n]? = some t) (t' : τ) :
    pooled f (tasks.set n t') + f t = pooled f tasks + f t' := by
  induction tasks generalizing n with
  | nil => simp at h
  | cons u tasks ih =>
    cases n with
    | zero =>
      obtain rfl : u = t := by simpa using h
      simp only [List.set_cons_zero, pooled_cons]
      abel
    | succ n =>
      have hrest := ih (by simpa using h)
      simp only [List.set_cons_succ, pooled_cons, add_assoc, hrest]

theorem mem_pooled {f : τ → Multiset α} {a : α} : a ∈ pooled f tasks ↔ ∃ t ∈ tasks, a ∈ f t := by
  induction tasks with
  | nil => simp
  | cons t tasks ih => simp [ih]

theorem pooled_le {f g : τ → Multiset α} (h : ∀ t, f t ≤ g t) (tasks : List τ) :
    pooled f tasks ≤ pooled g tasks := by
  induction tasks with
  | nil => exact le_rfl
  | cons t tasks ih =>
    rw [pooled_cons, pooled_cons]
    exact add_le_add (h t) ih

theorem map_pooled {β : Type} (g : α → β) (f : τ → Multiset α) (tasks : List τ) :
    (pooled f tasks).map g = pooled (fun t => (f t).map g) tasks := by
  induction tasks with
  | nil => rfl
  | cons t tasks ih => simp [ih]

theorem pooled_eq_zero (h : ∀ t ∈ tasks, f t = 0) : pooled f tasks = 0 := by
  induction tasks with
  | nil => rfl
  | cons t tasks ih =>
    rw [pooled_cons, h t List.mem_cons_self, ih fun u hu => h u (.tail _ hu), add_zero]

end OptimiqVoice.Lib

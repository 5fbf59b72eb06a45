import Mathlib.Data.List.Basic
import Mathlib.Tactic.SplitIfs

namespace OptimiqVoice.Lib

/-- A filter is held against a topic, token by token: `one` stands for any token,
and `rest` at the end for all that are left, of which there must be some. -/
def matchTokens {τ : Type} [DecidableEq τ] (one rest : τ) : List τ → List τ → Bool
  | [], topic => topic.isEmpty
  | token :: filter, topic =>
    if token = rest then filter.isEmpty && !topic.isEmpty
    else
      match topic with
      | [] => false
      | t :: topic => if token = one then matchTokens one rest filter topic
        else token = t && matchTokens one rest filter topic

section tokens

variable {τ : Type} [DecidableEq τ] {one rest : τ}

def IsLiteral (one rest token : τ) : Prop := token ≠ one ∧ token ≠ rest

theorem matchTokens_literal_cons {token : τ} (h : IsLiteral one rest token) (filter : List τ) (t : τ)
    (topic : List τ) : matchTokens one rest (token :: filter) (t :: topic) =
      (decide (token = t) && matchTokens one rest filter topic) := by
  rw [matchTokens, if_neg h.2]
  simp [h.1]

theorem matchTokens_one_cons (hne : one ≠ rest) (filter : List τ) (t : τ) (topic : List τ) :
    matchTokens one rest (one :: filter) (t :: topic) = matchTokens one rest filter topic := by
  rw [matchTokens, if_neg hne]
  simp

theorem matchTokens_rest (topic : List τ) : matchTokens one rest [rest] topic = !topic.isEmpty := by
  cases topic with
  | nil | cons _ _ => simp [matchTokens]

theorem matchTokens_literal {filter : List τ} (h : ∀ token ∈ filter, IsLiteral one rest token)
    (topic : List τ) : matchTokens one rest filter topic = decide (filter = topic) := by
  induction filter generalizing topic with
  | nil => cases topic <;> rfl
  | cons token filter ih =>
    have htoken := h token List.mem_cons_self
    cases topic with
    | nil =>
      rw [matchTokens, if_neg htoken.2]
      simp
    | cons t topic =>
      rw [matchTokens_literal_cons htoken, ih fun u hu => h u (.tail _ hu)]
      simp [List.cons.injEq, Bool.decide_and]

theorem matchTokens_append {front front' : List τ} (h : ∀ token ∈ front, IsLiteral one rest token)
    (hlength : front.length = front'.length) (filter topic : List τ) :
    matchTokens one rest (front ++ filter) (front' ++ topic) =
      (decide (front = front') && matchTokens one rest filter topic) := by
  induction front generalizing front' with
  | nil =>
    cases front' with
    | nil => simp
    | cons t front' => simp at hlength
  | cons token front ih =>
    cases front' with
    | nil => simp at hlength
    | cons t front' =>
      have hrest := ih (fun u hu => h u (.tail _ hu)) (by simpa using hlength)
      rw [List.cons_append, List.cons_append,
        matchTokens_literal_cons (h token List.mem_cons_self), hrest]
      simp [List.cons.injEq, Bool.decide_and, Bool.and_assoc]

end tokens

theorem Except.bind_eq_ok {ε α β : Type} {x : Except ε α} {f : α → Except ε β} {r : β} :
    x >>= f = .ok r ↔ ∃ a, x = .ok a ∧ f a = .ok r := by
  cases x with
  | error _ | ok _ => simp [bind, Except.bind]

section dotted

variable {α : Type} [DecidableEq α] {sep : α}

theorem splitOn_append (x y : List α) : (x ++ sep :: y).splitOn sep = x.splitOn sep ++ y.splitOn sep :=
  List.splitOn_append_cons_self x y

theorem splitOn_inj {x y : List α} : x.splitOn sep = y.splitOn sep ↔ x = y := by
  constructor
  · intro h
    have hjoin := congrArg [sep].intercalate h
    rwa [List.intercalate_splitOn, List.intercalate_splitOn] at hjoin
  · rintro rfl
    rfl

end dotted

end OptimiqVoice.Lib

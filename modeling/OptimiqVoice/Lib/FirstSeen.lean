import Mathlib.Data.List.Induction
import Mathlib.Data.List.Sort

namespace OptimiqVoice.Lib

variable {α κ : Type} [DecidableEq α]

/-- Append the items that are not there yet, in the order they come. -/
def appendNew (ordered : List α) (items : List α) : List α :=
  items.foldl (fun ordered x => if x ∈ ordered then ordered else ordered ++ [x]) ordered

theorem appendNew_append (ordered items more : List α) :
    appendNew ordered (items ++ more) = appendNew (appendNew ordered items) more :=
  List.foldl_append

theorem mem_appendNew {ordered items : List α} {x : α} :
    x ∈ appendNew ordered items ↔ x ∈ ordered ∨ x ∈ items := by
  induction items generalizing ordered with
  | nil => simp [appendNew]
  | cons item rest ih =>
    change x ∈ appendNew (if item ∈ ordered then ordered else ordered ++ [item]) rest ↔ _
    rw [ih, List.mem_cons]
    by_cases hm : item ∈ ordered
    · rw [if_pos hm]
      constructor
      · exact fun h => h.imp_right .inr
      · rintro (h | rfl | h)
        · exact .inl h
        · exact .inl hm
        · exact .inr h
    · rw [if_neg hm, List.mem_append, List.mem_singleton, or_assoc]

theorem appendNew_nodup {ordered items : List α} (h : ordered.Nodup) :
    (appendNew ordered items).Nodup := by
  induction items generalizing ordered with
  | nil => exact h
  | cons item rest ih =>
    change (appendNew (if item ∈ ordered then ordered else ordered ++ [item]) rest).Nodup
    apply ih
    by_cases hm : item ∈ ordered
    · rwa [if_pos hm]
    · rw [if_neg hm]
      exact List.nodup_append.mpr ⟨h, List.nodup_singleton _, by
        intro a ha b hb hab
        rw [List.mem_singleton] at hb
        exact hm (hb ▸ hab ▸ ha)⟩

/-- When items come with ascending ranks, and an item may come more than once,
the list of first occurrences is ordered by the least rank of each item. -/
theorem appendNew_ranked [LinearOrder κ] (l : List (α × κ))
    (hl : l.Pairwise (fun x y => x.2 ≤ y.2)) : (appendNew [] (l.map Prod.fst)).Pairwise
      (fun a b => ∃ r, (a, r) ∈ l ∧ ∀ r', (b, r') ∈ l → r ≤ r') := by
  induction l using List.reverseRecOn with
  | nil => exact List.Pairwise.nil
  | append_singleton l last ih =>
    obtain ⟨x, k⟩ := last
    obtain ⟨hl', -, hlast⟩ := List.pairwise_append.mp hl
    have below : ∀ {a : α} {r : κ}, (a, r) ∈ l → r ≤ k :=
      fun hm => hlast _ hm (x, k) (List.mem_singleton_self _)
    have hold : (appendNew [] (l.map Prod.fst)).Pairwise
        (fun a b => ∃ r, (a, r) ∈ l ++ [(x, k)] ∧ ∀ r', (b, r') ∈ l ++ [(x, k)] → r ≤ r') := by
      refine (ih hl').imp (fun {a b} h => ?_)
      obtain ⟨r, hr, hmin⟩ := h
      refine ⟨r, List.mem_append_left _ hr, fun r' hr' => ?_⟩
      obtain hr' | hr' := List.mem_append.mp hr'
      · exact hmin r' hr'
      · rw [List.mem_singleton, Prod.mk.injEq] at hr'
        exact hr'.2 ▸ below hr
    rw [List.map_append, appendNew_append]
    change (if x ∈ appendNew [] (l.map Prod.fst) then appendNew [] (l.map Prod.fst)
      else appendNew [] (l.map Prod.fst) ++ [x]).Pairwise _
    by_cases hx : x ∈ appendNew [] (l.map Prod.fst)
    · rwa [if_pos hx]
    · rw [if_neg hx]
      refine List.pairwise_append.mpr ⟨hold, List.pairwise_singleton _ _, fun a ha b hb => ?_⟩
      rw [List.mem_singleton] at hb
      subst hb
      obtain ha | ha := mem_appendNew.mp ha
      · cases ha
      obtain ⟨⟨_, r⟩, hr, rfl⟩ := List.mem_map.mp ha
      refine ⟨r, List.mem_append_left _ hr, fun r' hr' => ?_⟩
      obtain hr' | hr' := List.mem_append.mp hr'
      · exact absurd (mem_appendNew.mpr (.inr (List.mem_map_of_mem hr'))) hx
      · rw [List.mem_singleton, Prod.mk.injEq] at hr'
        exact hr'.2 ▸ below hr

end OptimiqVoice.Lib

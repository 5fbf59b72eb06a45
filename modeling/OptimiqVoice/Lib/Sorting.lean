import Mathlib.Data.List.Sort
import Mathlib.Data.Prod.Lex

namespace OptimiqVoice.Lib

theorem injOn_of_nodup_map {α κ : Type} {key : α → κ} {l : List α} (h : (l.map key).Nodup) :
    Set.InjOn key {a | a ∈ l} :=
  fun _ ha _ hb hab => List.inj_on_of_nodup_map h ha hb hab

theorem injOn_toLex {α κ μ : Type} {key : α → κ} {major : α → μ} {l : List α}
    (h : Set.InjOn key {a | a ∈ l}) : Set.InjOn (fun a => toLex (major a, key a)) {a | a ∈ l} :=
  fun _ ha _ hb hab => h ha hb (congrArg (fun k => (ofLex k).2) hab)

variable {α κ : Type} [LinearOrder κ]

variable (key : α → κ)

variable (l : List α)

/-- A stable sort by an ascending key. Insertion keeps equal keys in their
original order, so this is the result of any stable sorting algorithm. -/
def sortOn : List α := l.insertionSort (fun a b => key a ≤ key b)

instance keyTotal (key : α → κ) : Std.Total (fun a b => key a ≤ key b) :=
  ⟨fun a b => le_total (key a) (key b)⟩

instance keyTrans (key : α → κ) : IsTrans α (fun a b => key a ≤ key b) :=
  ⟨fun _ _ _ h k => le_trans h k⟩

theorem sortOn_perm : (sortOn key l).Perm l :=
  List.perm_insertionSort _ l

theorem sortOn_pairwise : (sortOn key l).Pairwise (fun a b => key a ≤ key b) :=
  List.pairwise_insertionSort _ l

@[simp] theorem mem_sortOn {l : List α} {a : α} : a ∈ sortOn key l ↔ a ∈ l :=
  (sortOn_perm key l).mem_iff

@[simp] theorem sortOn_nil : sortOn key ([] : List α) = [] := rfl

/-- A list whose keys tell its elements apart has one sorted arrangement. -/
theorem sortOn_eq_of_perm {l m : List α} (h : l.Perm m)
    (hk : Set.InjOn key {a | a ∈ l}) : sortOn key m = sortOn key l := by
  have hp : (sortOn key m).Perm (sortOn key l) :=
    (sortOn_perm key m).trans (h.symm.trans (sortOn_perm key l).symm)
  refine hp.eq_of_pairwise ?_ (sortOn_pairwise key m) (sortOn_pairwise key l)
  intro a b ha hb hab hba
  have ha' : a ∈ l := h.mem_iff.mpr ((mem_sortOn key).mp ha)
  exact hk ha' ((mem_sortOn key).mp hb) (le_antisymm hab hba)

theorem sortOn_map {β : Type} {key : α → κ} {key' : β → κ} (f : α → β) (l : List α)
    (h : ∀ a ∈ l, key' (f a) = key a) : sortOn key' (l.map f) = (sortOn key l).map f := by
  refine (List.map_insertionSort _ _ f l fun a ha b hb => ?_).symm
  rw [h a ha, h b hb]

theorem sortOn_filterMap {β : Type} {key : α → κ} {key' : β → κ} (f : α → Option β) (l : List α)
    (h : ∀ a b, f a = some b → key' b = key a) (hk : Set.InjOn key {a | a ∈ l}) :
    sortOn key' (l.filterMap f) = (sortOn key l).filterMap f := by
  have hperm : ((sortOn key l).filterMap f).Perm (l.filterMap f) := (sortOn_perm key l).filterMap f
  have hsorted : ((sortOn key l).filterMap f).Pairwise (fun a b => key' a ≤ key' b) := by
    rw [List.pairwise_filterMap]
    refine (sortOn_pairwise key l).imp fun hab b hb b' hb' => ?_
    rw [h _ b hb, h _ b' hb']
    exact hab
  have hinj : Set.InjOn key' {b | b ∈ (sortOn key l).filterMap f} := by
    intro b hb b' hb' hbb
    obtain ⟨a, ha, hab⟩ := List.mem_filterMap.mp hb
    obtain ⟨a', ha', hab'⟩ := List.mem_filterMap.mp hb'
    have haa : a = a' := by
      apply hk ((mem_sortOn key).mp ha) ((mem_sortOn key).mp ha')
      rw [← h a b hab, ← h a' b' hab', hbb]
    rw [haa, hab'] at hab
    exact (Option.some.inj hab).symm
  rw [sortOn_eq_of_perm key' hperm hinj]
  exact hsorted.insertionSort_eq

theorem first_of_pairwise {α κ : Type} [Preorder κ] {key : α → κ} (Skips : α → Prop) {l : List α}
    (hs : l.Pairwise (fun a b => key a ≤ key b)) :
    (∀ a ∈ l, Skips a) ∨ ∃ passed a rest, l = passed ++ a :: rest ∧ (∀ x ∈ passed, Skips x) ∧
      ¬Skips a ∧ ∀ b ∈ l, ¬Skips b → key a ≤ key b := by
  induction l with
  | nil => exact .inl (by simp)
  | cons a rest ih =>
    rw [List.pairwise_cons] at hs
    by_cases ha : Skips a
    · obtain hall | ⟨passed, b, after, rfl, hpassed, hb, hleast⟩ := ih hs.2
      · exact .inl (List.forall_mem_cons.mpr ⟨ha, hall⟩)
      · refine .inr ⟨a :: passed, b, after, rfl, List.forall_mem_cons.mpr ⟨ha, hpassed⟩, hb, ?_⟩
        intro c hc hskip
        obtain rfl | hc := List.mem_cons.mp hc
        · exact absurd ha hskip
        · exact hleast c hc hskip
    · refine .inr ⟨[], a, rest, rfl, by simp, ha, ?_⟩
      intro b hb _
      obtain rfl | hb := List.mem_cons.mp hb
      · exact le_refl _
      · exact hs.1 b hb

end OptimiqVoice.Lib

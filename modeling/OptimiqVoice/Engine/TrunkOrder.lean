import OptimiqVoice.Engine.PinGate
import OptimiqVoice.Engine.TrunkSelection

namespace OptimiqVoice.Engine

open Lib Routing
open Async (Adds Says)

/-- The trunks in the order in which they are tried: each once, a lower tier before a higher one. -/
structure InTiers (attempts ordered : List TrunkAttempt) : Prop where
  perm : ordered.Perm attempts
  tiers : ordered.Pairwise (fun a b => a.order ≤ b.order)

variable (attempts : List TrunkAttempt)

section grouping

def Grouped (entries : List (Int × List TrunkAttempt)) : Prop :=
  ∀ entry ∈ entries, ∀ a ∈ entry.2, a.order = entry.1

def members (entries : List (Int × List TrunkAttempt)) : List TrunkAttempt := entries.flatMap Prod.snd

theorem put_grouped {entries : List (Int × List TrunkAttempt)} (h : Grouped entries) (a : TrunkAttempt) :
    Grouped (put a.order ((find a.order entries).getD [] ++ [a]) entries) ∧
      (members (put a.order ((find a.order entries).getD [] ++ [a]) entries)).Perm (members entries ++ [a]) := by
  induction entries with
  | nil =>
    constructor
    · intro entry he b hb
      simp only [put, find, List.mem_singleton] at he
      subst he
      obtain rfl : b = a := by simpa using hb
      rfl
    · simp [put, find, members]
  | cons entry rest ih =>
    obtain ⟨k, l⟩ := entry
    have hrest : Grouped rest := fun e he => h e (.tail _ he)
    by_cases hk : k = a.order
    · subst hk
      constructor
      · intro e he b hb
        simp only [put, find, if_true, List.mem_cons] at he
        obtain rfl | he := he
        · obtain hb | hb := List.mem_append.mp hb
          · exact h (a.order, l) (.head _) b hb
          · rw [List.mem_singleton.mp hb]
        · exact hrest e he b hb
      · simp only [put, find, if_true, members, List.flatMap_cons, Option.getD_some, List.append_assoc]
        exact List.Perm.append_left l List.perm_append_comm
    · obtain ⟨hg, hp⟩ := ih hrest
      constructor
      · intro e he b hb
        simp only [put, find, hk, if_false, List.mem_cons] at he
        obtain rfl | he := he
        · exact h (k, l) (.head _) b hb
        · exact hg e he b hb
      · simp only [put, find, hk, if_false, members, List.flatMap_cons, List.append_assoc]
        exact hp.append_left l

theorem fold_grouped (d : Dict Int (List TrunkAttempt)) (h : Grouped d.entries) :
    Grouped (attempts.foldl (fun d a => d.push a.order a) d).entries ∧
      (members (attempts.foldl (fun d a => d.push a.order a) d).entries).Perm (members d.entries ++ attempts) := by
  induction attempts generalizing d with
  | nil => exact ⟨h, by simp⟩
  | cons a rest ih =>
    obtain ⟨hg, hp⟩ := put_grouped h a
    obtain ⟨hg', hp'⟩ := ih (d.push a.order a) hg
    refine ⟨hg', hp'.trans ?_⟩
    have := hp.append_right rest
    rwa [List.append_assoc] at this

theorem groupsByOrder_spec : (groupsByOrder attempts).flatten.Perm attempts ∧
      (groupsByOrder attempts).Pairwise (fun g g' => ∀ a ∈ g, ∀ b ∈ g', a.order ≤ b.order) ∧
      ∀ g ∈ groupsByOrder attempts, ∀ a ∈ g, ∀ b ∈ g, a.order = b.order := by
  obtain ⟨hg, hp⟩ := fold_grouped attempts Dict.empty nofun
  let entries := (attempts.foldl (fun d a => d.push a.order a) Dict.empty).entries
  have hmem : ∀ e ∈ sortOn Prod.fst entries, ∀ a ∈ e.2, a.order = e.1 :=
    fun e he => hg e ((mem_sortOn Prod.fst).mp he)
  refine ⟨?_, ?_, ?_⟩
  · have hs := (sortOn_perm Prod.fst entries).flatMap_right Prod.snd
    rw [groupsByOrder, ← List.flatMap_def]
    exact hs.trans hp
  · refine List.pairwise_map.mpr ?_
    refine (List.Pairwise.and_mem.mp (sortOn_pairwise Prod.fst entries)).imp ?_
    rintro e e' ⟨he, he', hle⟩ a ha b hb
    rw [hmem e he a ha, hmem e' he' b hb]
    exact hle
  · intro g hgm a ha b hb
    obtain ⟨e, he, rfl⟩ := List.mem_map.mp hgm
    rw [hmem e he a ha, hmem e he b hb]

end grouping

section sampling

/-- A drawing of trunks: it only asks for random numbers, it is never thrown, and
what it yields is as said. -/
structure Sampling (P : List TrunkAttempt → Prop) (e : Exit (List TrunkAttempt)) (log : WalkLog) : Prop where
  yields : ∀ ordered, e = .done ordered → P ordered
  thrown : e ≠ .thrown
  random : ∀ q, .sent q ∈ log → q = .random

variable {P P' : List TrunkAttempt → Prop} {f : List TrunkAttempt → List TrunkAttempt}

variable {l : List TrunkAttempt}

theorem sampling_pure (h : P l) : Adds (pure l : Walk (List TrunkAttempt)) (Sampling P) := by
  apply Async.adds_pure
  refine ⟨?_, nofun, nofun⟩
  intro ordered he
  cases he
  exact h

theorem sampling_bind {m : Walk (List TrunkAttempt)} {g : List TrunkAttempt → Walk (List TrunkAttempt)}
    (h : Adds m (Sampling P)) (hg : ∀ l, P l → Adds (g l) (Sampling P')) : Adds (m >>= g) (Sampling P') := by
  intro w
  obtain ⟨front, hfront, hs⟩ := h w
  obtain ⟨e, w', hrun⟩ : ∃ e w', m w = (e, w') := ⟨_, _, rfl⟩
  rw [hrun] at hfront hs
  cases e with
  | done l =>
    rw [Async.bind_of_done hrun]
    obtain ⟨back, hback, hs'⟩ := hg l (hs.yields l rfl) w'
    exact ⟨front ++ back, by rw [hback, hfront, List.append_assoc], hs'.yields, hs'.thrown,
      Async.sent_append hs.random hs'.random⟩
  | thrown => exact absurd rfl hs.thrown
  | cut =>
    rw [Async.bind_of_cut hrun]
    exact ⟨front, hfront, nofun, nofun, hs.random⟩

theorem draw_perm {target : Rat} {left : List TrunkAttempt} {taken : TrunkAttempt}
    (h : draw target l = some (taken, left)) : (taken :: left).Perm l := by
  induction l generalizing target left with
  | nil => simp [draw] at h
  | cons a rest ih =>
    rw [draw] at h
    split at h
    · obtain ⟨rfl, rfl⟩ := Prod.mk.inj (Option.some.inj h)
      exact .refl _
    · obtain ⟨⟨t, l'⟩, hd, he⟩ := Option.map_eq_some_iff.mp h
      obtain ⟨rfl, rfl⟩ := Prod.mk.inj he
      exact (List.Perm.swap a t l').trans ((ih hd).cons a)

theorem draw_eq_none {target : Rat} (h : draw target l = none) : l = [] := by
  induction l generalizing target with
  | nil => rfl
  | cons a rest ih =>
    rw [draw] at h
    split at h
    · cases h
    · rename_i hc
      have := ih (Option.map_eq_none_iff.mp h)
      simp [this] at hc

theorem drawTrunks_adds (n : Nat) (l : List TrunkAttempt) : Adds (drawTrunks n l) (Sampling (·.Perm l)) := by
  induction n generalizing l with
  | zero => exact sampling_pure (.refl l)
  | succ n ih =>
    apply PlanWalker.asked_adds (T := fun _ => Sampling (·.Perm l))
    · intro a
      dsimp only
      split
      · rename_i hd
        rw [draw_eq_none hd]
        exact sampling_pure (.refl [])
      · rename_i taken left hd
        apply sampling_bind (ih left)
        intro sampled hp
        exact sampling_pure ((hp.cons taken).trans (draw_perm hd))
    · exact ⟨nofun, nofun, Async.sent_tell rfl⟩
    · exact fun a e back hs => ⟨hs.yields, hs.thrown, Async.sent_ask rfl hs.random⟩

theorem shareOf_nonneg (a : TrunkAttempt) : 0 ≤ shareOf a := by
  unfold shareOf
  split
  · exact le_refl 0
  · split <;> omega

theorem weightedSample_adds (group : List TrunkAttempt) : Adds (weightedSample group) (Sampling (·.Perm group)) := by
  unfold weightedSample
  apply Adds.ite
  · exact fun _ => sampling_pure (.refl group)
  · intro _
    apply sampling_bind (drawTrunks_adds _ _)
    intro sampled hp
    apply sampling_pure
    have hsplit : group.filter (fun a => decide (shareOf a = 0)) = group.filter (fun a => !decide (0 < shareOf a)) := by
      apply List.filter_congr
      intro a _
      have := shareOf_nonneg a
      simp only [← decide_not, decide_eq_decide]
      omega
    rw [hsplit]
    exact (hp.append_right _).trans (List.filter_append_perm _ group)

theorem sampleGroups_adds {groups : List (List TrunkAttempt)}
    (htiers : groups.Pairwise fun g g' => ∀ a ∈ g, ∀ b ∈ g', a.order ≤ b.order)
    (hlevel : ∀ g ∈ groups, ∀ a ∈ g, ∀ b ∈ g, a.order = b.order) :
    Adds (sampleGroups groups) (Sampling (InTiers groups.flatten)) := by
  induction groups with
  | nil => exact sampling_pure ⟨.refl [], .nil⟩
  | cons g rest ih =>
    obtain ⟨hfirst, htiers'⟩ := List.pairwise_cons.mp htiers
    apply sampling_bind (weightedSample_adds g)
    intro front hfront
    apply sampling_bind (ih htiers' fun g' hg' => hlevel g' (.tail _ hg'))
    intro back hback
    refine sampling_pure ⟨hfront.append hback.perm, List.pairwise_append.mpr ⟨?_, hback.tiers, ?_⟩⟩
    · apply List.pairwise_of_forall_mem_list
      intro a ha b hb
      exact le_of_eq (hlevel g (.head _) a (hfront.subset ha) b (hfront.subset hb))
    · intro a ha b hb
      obtain ⟨g', hg', hb'⟩ := List.mem_flatten.mp (hback.perm.subset hb)
      exact hfirst g' hg' a (hfront.subset ha) b hb'

theorem orderTrunkAttempts_adds :
    Adds (orderTrunkAttempts attempts) (Sampling (InTiers attempts)) := by
  unfold orderTrunkAttempts
  apply Adds.ite
  · intro hshort
    refine sampling_pure ⟨.refl _, ?_⟩
    match attempts, hshort with
    | [], _ => exact .nil
    | [a], _ => exact List.pairwise_singleton _ a
  · intro _
    obtain ⟨hperm, htiers, hlevel⟩ := groupsByOrder_spec attempts
    refine (sampleGroups_adds htiers hlevel).mono fun e log h => ⟨?_, h.thrown, h.random⟩
    intro ordered he
    have := h.yields ordered he
    exact ⟨this.perm.trans hperm, this.tiers⟩

end sampling

end OptimiqVoice.Engine

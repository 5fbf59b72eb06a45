import OptimiqVoice.Lib.Sorting
import OptimiqVoice.Lib.Text

namespace OptimiqVoice.Lib

/-- A map that remembers the order in which its keys were first inserted. -/
structure Dict (κ ν : Type) where
  entries : List (κ × ν)
  nodup : (entries.map Prod.fst).Nodup
deriving DecidableEq

variable {κ ν : Type} [DecidableEq κ]

def find (k : κ) : List (κ × ν) → Option ν
  | [] => none
  | (a, v) :: rest => if a = k then some v else find k rest

def put (k : κ) (v : ν) : List (κ × ν) → List (κ × ν)
  | [] => [(k, v)]
  | (a, w) :: rest => if a = k then (k, v) :: rest else (a, w) :: put k v rest

attribute [local simp] find put

theorem find_put (k : κ) (v : ν) (j : κ) (entries : List (κ × ν)) :
    find j (put k v entries) = if k = j then some v else find j entries := by
  induction entries with
  | nil => simp
  | cons e rest ih =>
    obtain ⟨a, w⟩ := e
    by_cases ha : a = k
    · subst a
      by_cases hj : k = j <;> simp [hj]
    · by_cases hj : a = j
      · have hk : k ≠ j := fun h => ha (hj.trans h.symm)
        simp [hj, hk, Ne.symm hk]
      · simp [ha, hj, ih]

variable {k : κ} {v : ν} {entries : List (κ × ν)}

theorem mem_of_find (h : find k entries = some v) : (k, v) ∈ entries := by
  induction entries with
  | nil => simp at h
  | cons e rest ih =>
    obtain ⟨a, w⟩ := e
    by_cases ha : a = k
    · simp only [find, ha, if_true, Option.some.injEq] at h
      simp [ha, h]
    · simp only [find, ha, if_false] at h
      exact .tail _ (ih h)

theorem mem_map_fst_iff (k : κ) (entries : List (κ × ν)) :
    k ∈ entries.map Prod.fst ↔ ∃ v, find k entries = some v := by
  induction entries with
  | nil => simp
  | cons e rest ih =>
    obtain ⟨a, w⟩ := e
    by_cases ha : a = k
    · simp [ha]
    · simp [ha, Ne.symm ha, ← ih]

theorem mem_map_fst_put {j : κ} :
    j ∈ (put k v entries).map Prod.fst ↔ j = k ∨ j ∈ entries.map Prod.fst := by
  simp only [mem_map_fst_iff, find_put]
  by_cases h : k = j
  · simp [h]
  · simp [h, Ne.symm h]

theorem put_nodup (h : (entries.map Prod.fst).Nodup) : ((put k v entries).map Prod.fst).Nodup := by
  induction entries with
  | nil => simp
  | cons e rest ih =>
    obtain ⟨a, u⟩ := e
    rw [List.map_cons, List.nodup_cons] at h
    by_cases ha : a = k
    · simpa [ha] using h
    · simp only [put, ha, if_false, List.map_cons, List.nodup_cons]
      refine ⟨fun hm => ?_, ih h.2⟩
      obtain rfl | hm := mem_map_fst_put.mp hm
      · exact ha rfl
      · exact h.1 hm

namespace Dict

def empty : Dict κ ν := ⟨[], List.nodup_nil⟩

def get? (d : Dict κ ν) (k : κ) : Option ν := find k d.entries

def set (d : Dict κ ν) (k : κ) (v : ν) : Dict κ ν := ⟨put k v d.entries, put_nodup d.nodup⟩

def erase (d : Dict κ ν) (k : κ) : Dict κ ν :=
  ⟨d.entries.filter (fun entry => entry.1 ≠ k), d.nodup.sublist (List.filter_sublist.map _)⟩

def has (d : Dict κ ν) (k : κ) : Bool := (d.get? k).isSome

def keys (d : Dict κ ν) : List κ := d.entries.map Prod.fst

def values (d : Dict κ ν) : List ν := d.entries.map Prod.snd

def indexBy {ρ : Type} (key : ρ → κ) (rows : List ρ) : Dict κ ρ :=
  rows.foldl (fun d row => d.set (key row) row) empty

def push (d : Dict κ (List ν)) (k : κ) (v : ν) : Dict κ (List ν) :=
  d.set k (((d.get? k).getD []) ++ [v])

@[simp] theorem get?_empty (k : κ) : (empty : Dict κ ν).get? k = none := rfl

theorem get?_set (d : Dict κ ν) (k : κ) (v : ν) (j : κ) :
    (d.set k v).get? j = if k = j then some v else d.get? j :=
  find_put k v j d.entries

@[simp] theorem get?_set_self (d : Dict κ ν) (k : κ) (v : ν) : (d.set k v).get? k = some v := by
  simp [get?_set]

theorem get?_set_of_ne (d : Dict κ ν) {j : κ} (v : ν) (h : k ≠ j) :
    (d.set k v).get? j = d.get? j := by
  simp [get?_set, h]

theorem get?_erase (d : Dict κ ν) (k j : κ) : (d.erase k).get? j = if k = j then none else d.get? j := by
  change find j (d.entries.filter fun entry => entry.1 ≠ k) = if k = j then none else find j d.entries
  induction d.entries with
  | nil => simp
  | cons e rest ih =>
    obtain ⟨a, v⟩ := e
    by_cases ha : a = k
    · subst a
      by_cases hj : k = j <;> simp_all
    · by_cases hj : a = j
      · subst j
        simp [ha, Ne.symm ha]
      · simpa [ha, hj] using ih

theorem mem_keys_iff (d : Dict κ ν) (k : κ) : k ∈ d.keys ↔ ∃ v, d.get? k = some v :=
  mem_map_fst_iff k d.entries

theorem has_iff (d : Dict κ ν) (k : κ) : d.has k = true ↔ k ∈ d.keys := by
  rw [mem_keys_iff, has, Option.isSome_iff_exists]

theorem mem_keys_set (d : Dict κ ν) (k : κ) (v : ν) (j : κ) :
    j ∈ (d.set k v).keys ↔ j = k ∨ j ∈ d.keys :=
  mem_map_fst_put

variable {d : Dict κ ν}

theorem mem_of_get? (h : d.get? k = some v) : (k, v) ∈ d.entries :=
  mem_of_find h

theorem get?_of_mem (h : (k, v) ∈ d.entries) : d.get? k = some v := by
  obtain ⟨u, hu⟩ := (mem_keys_iff d k).mp (List.mem_map.mpr ⟨(k, v), h, rfl⟩)
  have he := List.inj_on_of_nodup_map d.nodup h (mem_of_get? hu) rfl
  rw [hu, (Prod.mk.inj he).2]

theorem mem_values_iff : v ∈ d.values ↔ ∃ k, d.get? k = some v := by
  constructor
  · intro h
    obtain ⟨⟨k, u⟩, hm, rfl⟩ := List.mem_map.mp h
    exact ⟨k, get?_of_mem hm⟩
  · intro h
    obtain ⟨k, hk⟩ := h
    exact List.mem_map.mpr ⟨(k, v), mem_of_get? hk, rfl⟩

theorem mem_values_of_get? (h : d.get? k = some v) : v ∈ d.values :=
  mem_values_iff.mpr ⟨k, h⟩

theorem mem_values_set {x : ν} (h : x ∈ (d.set k v).values) : x = v ∨ x ∈ d.values := by
  obtain ⟨j, hj⟩ := mem_values_iff.mp h
  rw [get?_set] at hj
  by_cases hk : k = j
  · rw [if_pos hk, Option.some.injEq] at hj
    exact .inl hj.symm
  · rw [if_neg hk] at hj
    exact .inr (mem_values_of_get? hj)

theorem values_set_of_get?_eq_none (h : d.get? k = none) (v : ν) :
    (d.set k v).values = d.values ++ [v] := by
  obtain ⟨entries, hnodup⟩ := d
  change (put k v entries).map Prod.snd = entries.map Prod.snd ++ [v]
  change find k entries = none at h
  clear hnodup
  induction entries with
  | nil => rfl
  | cons e rest ih =>
    obtain ⟨a, w⟩ := e
    by_cases ha : a = k
    · simp [ha] at h
    · simp only [find, ha, if_false] at h
      simp [ha, ih h]

theorem values_perm_erase (h : d.get? k = some v) : d.values.Perm (v :: (d.erase k).values) := by
  obtain ⟨entries, hnodup⟩ := d
  change (entries.map Prod.snd).Perm (v :: (entries.filter fun entry => entry.1 ≠ k).map Prod.snd)
  change find k entries = some v at h
  induction entries with
  | nil => simp at h
  | cons e rest ih =>
    obtain ⟨a, w⟩ := e
    rw [List.map_cons, List.nodup_cons] at hnodup
    by_cases ha : a = k
    · obtain rfl : w = v := by simpa [ha] using h
      have hrest : rest.filter (fun entry => entry.1 ≠ k) = rest := by
        apply List.filter_eq_self.mpr
        intro entry hm
        have hne : entry.1 ≠ k := by
          intro hk
          apply hnodup.1
          exact List.mem_map.mpr ⟨entry, hm, hk.trans ha.symm⟩
        simpa using hne
      rw [List.filter_cons_of_neg (by simpa using ha), hrest, List.map_cons]
    · simp only [find, ha, if_false] at h
      have hcons : ((a, w) :: rest).filter (fun entry => entry.1 ≠ k) =
          (a, w) :: rest.filter fun entry => entry.1 ≠ k := by
        simp [ha]
      rw [hcons, List.map_cons, List.map_cons]
      exact ((ih hnodup.2 h).cons w).trans (List.Perm.swap v w _)

section indexing

variable {ρ : Type} (key : ρ → κ)

variable {rows : List ρ}

theorem mem_values_foldl_set {d : Dict κ ρ} {x : ρ}
    (h : x ∈ (rows.foldl (fun d row => d.set (key row) row) d).values) :
    x ∈ rows ∨ x ∈ d.values := by
  induction rows generalizing d with
  | nil => exact .inr h
  | cons row rest ih =>
    rcases ih h with hr | hd
    · exact .inl (.tail _ hr)
    · rcases mem_values_set hd with rfl | hd
      · exact .inl (by simp)
      · exact .inr hd

theorem mem_of_mem_values_indexBy {x : ρ} (h : x ∈ (indexBy key rows).values) : x ∈ rows := by
  rcases mem_values_foldl_set key h with h | h
  · exact h
  · simp [empty, values] at h

theorem get?_foldl_set (rows : List ρ) (d : Dict κ ρ) (k : κ) :
    (rows.foldl (fun d row => d.set (key row) row) d).get? k =
      (rows.reverse.find? (fun row => key row = k)).or (d.get? k) := by
  induction rows generalizing d with
  | nil => simp
  | cons row rest ih =>
    rw [List.foldl_cons, ih, get?_set, List.reverse_cons, List.find?_append, Option.or_assoc]
    by_cases hk : key row = k <;> simp [hk]

theorem get?_indexBy (rows : List ρ) (k : κ) :
    (indexBy key rows).get? k = rows.reverse.find? (fun row => key row = k) := by
  rw [indexBy, get?_foldl_set, get?_empty, Option.or_none]

variable {row : ρ}

theorem key_of_get?_indexBy (h : (indexBy key rows).get? k = some row) : key row = k := by
  rw [get?_indexBy] at h
  simpa using List.find?_some h

theorem get?_indexBy_isSome (h : row ∈ rows) :
    ∃ row', (indexBy key rows).get? (key row) = some row' := by
  rw [get?_indexBy, ← Option.isSome_iff_exists, List.find?_isSome]
  exact ⟨row, by simpa using h, by simp⟩

theorem get?_indexBy_of_nodup (hk : (rows.map key).Nodup)
    (h : row ∈ rows) : (indexBy key rows).get? (key row) = some row := by
  obtain ⟨row', hr⟩ := get?_indexBy_isSome key h
  have hm : row' ∈ rows := mem_of_mem_values_indexBy key (mem_values_of_get? hr)
  rw [hr, List.inj_on_of_nodup_map hk hm h (key_of_get?_indexBy key hr)]

end indexing

end Dict

end OptimiqVoice.Lib

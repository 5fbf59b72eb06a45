import OptimiqVoice.Lib.Dict

namespace OptimiqVoice.Lib

def objectPrototypeNames : List JsString :=
  [lit "constructor", lit "__defineGetter__", lit "__defineSetter__", lit "hasOwnProperty",
    lit "__lookupGetter__", lit "__lookupSetter__", lit "isPrototypeOf",
    lit "propertyIsEnumerable", lit "toString", lit "valueOf", lit "toLocaleString"]

def protoName : JsString := lit "__proto__"

/-- An object used as a table from strings. Assigning to `__proto__` does not
create a key: it replaces the prototype, whose own names become visible. -/
structure Record (ν : Type) where
  own : Dict JsString ν
  proto : Option (List JsString × ν)
deriving DecidableEq

/-- What reading `record[key]` gives. `inherited` is a member of the prototype
chain: it is not `undefined`, but it has none of the fields of an entry. -/
inductive Lookup (ν : Type) where
  | undefined
  | inherited
  | own (v : ν)
deriving DecidableEq

namespace Lookup

variable {ν β : Type}

def isDefined : Lookup ν → Bool
  | .undefined => false
  | _ => true

/-- Optional chaining into a field of the value read. -/
def field (f : ν → Option β) : Lookup ν → Option β
  | .own v => f v
  | _ => none

@[simp] theorem isDefined_own (v : ν) : (Lookup.own v).isDefined = true := rfl

@[simp] theorem isDefined_inherited : (Lookup.inherited : Lookup ν).isDefined = true := rfl

@[simp] theorem isDefined_undefined : (Lookup.undefined : Lookup ν).isDefined = false := rfl

theorem eq_undefined {l : Lookup ν} (h : ¬l.isDefined = true) : l = .undefined := by
  cases l with
  | undefined => rfl
  | _ => exact absurd rfl h

end Lookup

namespace Record

variable {ν : Type}

def empty : Record ν := ⟨Dict.empty, none⟩

/-- `record[key] = value`, where `names` lists the fields the value has. -/
def assign (names : ν → List JsString) (r : Record ν) (k : JsString) (v : ν) : Record ν :=
  if k = protoName then { r with proto := some (names v, v) } else { r with own := r.own.set k v }

def lookup (r : Record ν) (k : JsString) : Lookup ν :=
  match r.own.get? k with
  | some v => .own v
  | none =>
    if k = protoName then
      match r.proto with
      | some (_, v) => .own v
      | none => .inherited
    else if (r.proto.map (·.1)).any (k ∈ ·) || k ∈ objectPrototypeNames then .inherited
    else .undefined

def keys (r : Record ν) : List JsString := r.own.keys

/-- Copy a map into an object, key after key in ascending order. -/
def ofDict (names : ν → List JsString) (d : Dict JsString ν) : Record ν :=
  (sortOn id d.keys).foldl (fun r k => match d.get? k with
      | some v => r.assign names k v
      | none => r) empty

def sorted (names : ν → List JsString) (r : Record ν) : Record ν := ofDict names r.own

/-- `Object.fromEntries` on the sorted entries: it defines keys and never runs
the setter of `__proto__`. -/
def fromEntries (d : Dict JsString ν) : Record ν :=
  ⟨⟨sortOn Prod.fst d.entries, ((sortOn_perm _ _).map _).nodup_iff.mpr d.nodup⟩, none⟩

section lookups

variable (names : ν → List JsString)

/-- The value that reading `k` yields when it is not merely inherited. -/
def stored (r : Record ν) (k : JsString) : Option ν :=
  match r.own.get? k with
  | some v => some v
  | none => if k = protoName then r.proto.map (·.2) else none

theorem lookup_eq_own_iff (r : Record ν) (k : JsString) (v : ν) :
    r.lookup k = .own v ↔ r.stored k = some v := by
  unfold lookup stored
  cases r.own.get? k with
  | some w => simp
  | none =>
    by_cases hk : k = protoName
    · cases hp : r.proto <;> simp [hk]
    · simp only [hk, if_false]
      split <;> simp

attribute [local simp] stored assign

theorem stored_assign (r : Record ν) (k : JsString) (v : ν) (j : JsString)
    (hown : r.own.get? protoName = none) :
    (r.assign names k v).stored j = if k = j then some v else r.stored j := by
  by_cases hk : k = protoName
  · by_cases hj : k = j
    · subst j
      subst k
      simp [hown]
    · have hj' : j ≠ protoName := fun h => hj (hk.trans h.symm)
      simp [hk, hj', Ne.symm hj']
  · by_cases hj : k = j
    · subst j
      simp [hk]
    · simp [hk, hj, Dict.get?_set_of_ne]

theorem own_assign_proto (r : Record ν) (k : JsString) (v : ν)
    (hown : r.own.get? protoName = none) : (r.assign names k v).own.get? protoName = none := by
  by_cases hk : k = protoName
  · simpa [hk] using hown
  · simpa [hk, Dict.get?_set_of_ne] using hown

theorem stored_foldl (d : Dict JsString ν) (ks : List JsString) (r : Record ν)
    (hown : r.own.get? protoName = none) (j : JsString) : (ks.foldl (fun r k => match d.get? k with
      | some v => r.assign names k v
      | none => r) r).stored j =
      if j ∈ ks ∧ (d.get? j).isSome then d.get? j else r.stored j := by
  induction ks generalizing r with
  | nil => simp
  | cons k ks ih =>
    rw [List.foldl_cons]
    cases hd : d.get? k with
    | none =>
      rw [ih r hown]
      by_cases hj : j = k
      · simp [hj, hd]
      · simp [hj]
    | some v =>
      rw [ih _ (own_assign_proto names r k v hown), stored_assign names r k v j hown]
      by_cases hj : k = j
      · subst j
        simp [hd]
      · simp [hj, Ne.symm hj]

theorem stored_ofDict (d : Dict JsString ν) (k : JsString) :
    (ofDict names d).stored k = d.get? k := by
  rw [ofDict, stored_foldl names d _ empty rfl]
  cases hd : d.get? k with
  | none => simp [empty]
  | some v =>
    have hk : k ∈ d.keys := (Dict.mem_keys_iff d k).mpr ⟨v, hd⟩
    simp [hk]

theorem lookup_ofDict (d : Dict JsString ν) (k : JsString) (v : ν) :
    (ofDict names d).lookup k = .own v ↔ d.get? k = some v := by
  rw [lookup_eq_own_iff, stored_ofDict]

theorem proto_ofDict (d : Dict JsString ν) (h : d.get? protoName = none) :
    (ofDict names d).proto = none := by
  have kept : ∀ (ks : List JsString) (r : Record ν), r.proto = none →
      (ks.foldl (fun r k => match d.get? k with
        | some v => r.assign names k v
        | none => r) r).proto = none := by
    intro ks
    induction ks with
    | nil => exact fun r hr => hr
    | cons k ks ih =>
      intro r hr
      rw [List.foldl_cons]
      cases hd : d.get? k with
      | none => exact ih r hr
      | some v =>
        have hk : k ≠ protoName := by
          rintro rfl
          rw [h] at hd
          cases hd
        exact ih _ (by simpa only [assign, if_neg hk] using hr)
  exact kept _ empty rfl

def inheritedNames : List JsString := protoName :: objectPrototypeNames

theorem lookup_of_stored_eq_none {r : Record ν} {k : JsString} (hp : r.proto = none)
    (hs : r.stored k = none) :
    r.lookup k = if k ∈ inheritedNames then .inherited else .undefined := by
  have hown : r.own.get? k = none := by
    cases ho : r.own.get? k with
    | none => rfl
    | some v => simp [ho] at hs
  by_cases hk : k = protoName
  · subst hk
    simp [lookup, hown, hp, inheritedNames]
  · simp [lookup, hown, hk, hp, inheritedNames]

variable {v : ν}

section plain

variable {r : Record ν} {k : JsString}

theorem lookup_of_not_mem_keys (hp : r.proto = none) (hk : k ∉ r.own.keys) :
    r.lookup k = if k ∈ inheritedNames then .inherited else .undefined := by
  apply lookup_of_stored_eq_none hp
  have hnone : r.own.get? k = none := by
    rw [Option.eq_none_iff_forall_ne_some]
    exact fun v hv => hk ((Dict.mem_keys_iff _ _).mpr ⟨v, hv⟩)
  simp [hnone, hp]

theorem lookup_of_mem_keys (hk : k ∈ r.own.keys) : ∃ v, r.lookup k = .own v := by
  obtain ⟨v, hv⟩ := (Dict.mem_keys_iff _ _).mp hk
  exact ⟨v, by simp [lookup, hv]⟩

theorem lookup_eq_inherited_iff (hp : r.proto = none) :
    r.lookup k = .inherited ↔ k ∉ r.own.keys ∧ k ∈ inheritedNames := by
  by_cases hk : k ∈ r.own.keys
  · obtain ⟨v, hv⟩ := lookup_of_mem_keys hk
    simp [hv, hk]
  · rw [lookup_of_not_mem_keys hp hk]
    by_cases hin : k ∈ inheritedNames <;> simp [hin, hk]

theorem lookup_eq_undefined_iff (hp : r.proto = none) :
    r.lookup k = .undefined ↔ k ∉ r.own.keys ∧ k ∉ inheritedNames := by
  by_cases hk : k ∈ r.own.keys
  · obtain ⟨v, hv⟩ := lookup_of_mem_keys hk
    simp [hv, hk]
  · rw [lookup_of_not_mem_keys hp hk]
    by_cases hin : k ∈ inheritedNames <;> simp [hin, hk]

theorem mem_keys_of_lookup (hp : r.proto = none) (h : r.lookup k = .own v) : k ∈ r.own.keys := by
  by_contra hk
  rw [lookup_of_not_mem_keys hp hk] at h
  split at h <;> cases h

/-- What a table is after it was written as JSON and parsed again: its own keys.
A prototype that was assigned to it is not written. -/
def readBack (r : Record ν) : Record ν := ⟨r.own, none⟩

theorem lookup_of_readBack (h : r.readBack.lookup k = .own v) : r.lookup k = .own v := by
  have hk : k ∈ r.readBack.own.keys := mem_keys_of_lookup rfl h
  obtain ⟨u, hu⟩ := (Dict.mem_keys_iff _ _).mp hk
  change r.own.get? k = some u at hu
  simp only [lookup, readBack, hu] at h ⊢
  exact h

theorem lookup_readBack (hk : k ≠ protoName) (h : r.lookup k = .own v) :
    r.readBack.lookup k = .own v := by
  rw [lookup_eq_own_iff] at h ⊢
  simpa [readBack, hk] using h

end plain

/-- Every key and the value that reading it yields satisfy `P`. -/
def All (r : Record ν) (P : JsString → ν → Prop) : Prop := ∀ k v, r.stored k = some v → P k v

variable {P : JsString → ν → Prop}

theorem all_empty : (empty : Record ν).All P := by
  intro k v h
  simp [empty] at h

theorem All.of_lookup {r : Record ν} (h : r.All P) {k : JsString}
    (hl : r.lookup k = .own v) : P k v :=
  h k v ((lookup_eq_own_iff r k v).mp hl)

theorem own_keys_assign {r : Record ν} {k j : JsString} (h : j ∈ r.own.keys) :
    j ∈ (r.assign names k v).own.keys := by
  unfold assign
  split
  · exact h
  · exact (Dict.mem_keys_set _ _ _ _).mpr (.inr h)

theorem mem_own_keys_assign_self {r : Record ν} {k : JsString} (h : k ≠ protoName) :
    k ∈ (r.assign names k v).own.keys := by
  rw [assign, if_neg h]
  exact (Dict.mem_keys_set _ _ _ _).mpr (.inl rfl)

theorem mem_own_keys_foldl_assign {ρ : Type} (key : ρ → JsString) (value : ρ → ν) (rows : List ρ)
    (r : Record ν) {row : ρ} (hm : row ∈ rows) (h : key row ≠ protoName) :
    key row ∈ (rows.foldl (fun r row => r.assign names (key row) (value row)) r).own.keys := by
  have kept : ∀ (rows : List ρ) (r : Record ν), key row ∈ r.own.keys →
      key row ∈ (rows.foldl (fun r row => r.assign names (key row) (value row)) r).own.keys := by
    intro rows
    induction rows with
    | nil => exact fun r hr => hr
    | cons x rest ih => exact fun r hr => ih _ (own_keys_assign names hr)
  induction rows generalizing r with
  | nil => cases hm
  | cons x rest ih =>
    obtain rfl | hm := List.mem_cons.mp hm
    · exact kept rest _ (mem_own_keys_assign_self names h)
    · exact ih _ hm

theorem exists_lookup_sorted {r : Record ν} {k : JsString} (h : k ∈ r.own.keys) :
    ∃ v, (r.sorted names).lookup k = .own v := by
  obtain ⟨v, hv⟩ := (Dict.mem_keys_iff _ _).mp h
  exact ⟨v, (lookup_ofDict names r.own k v).mpr hv⟩

theorem mem_own_keys_sorted {r : Record ν} {k : JsString} (hk : k ≠ protoName)
    (h : k ∈ r.own.keys) : k ∈ (r.sorted names).own.keys := by
  obtain ⟨v, hv⟩ := (Dict.mem_keys_iff _ _).mp h
  have hs : (r.sorted names).stored k = some v := (stored_ofDict names r.own k).trans hv
  simp only [stored, if_neg hk] at hs
  cases hown : (r.sorted names).own.get? k with
  | none => simp [hown] at hs
  | some u => exact (Dict.mem_keys_iff _ _).mpr ⟨u, hown⟩

theorem All.imp {r : Record ν} {Q : JsString → ν → Prop} (h : r.All P)
    (hpq : ∀ k v, P k v → Q k v) : r.All Q :=
  fun k v hv => hpq k v (h k v hv)

theorem All.assign {r : Record ν} {k : JsString} (h : r.All P)
    (hv : P k v) : (r.assign names k v).All P := by
  intro j x hx
  have stored_own : ∀ u, r.own.get? j = some u → P j u := by
    intro u hu
    exact h j u (by simp [hu])
  by_cases hk : k = protoName
  · rw [Record.assign, if_pos hk] at hx
    simp only [stored] at hx
    cases hj : r.own.get? j with
    | some u =>
      rw [hj, Option.some.injEq] at hx
      exact hx ▸ stored_own u hj
    | none =>
      rw [hj] at hx
      by_cases hp : j = protoName
      · simp only [hp, if_true, Option.map_some, Option.some.injEq] at hx
        rw [hp, ← hk]
        exact hx ▸ hv
      · simp [hp] at hx
  · rw [Record.assign, if_neg hk] at hx
    simp only [stored, Dict.get?_set] at hx
    by_cases hj : k = j
    · simp only [hj, if_true, Option.some.injEq] at hx
      exact hj ▸ hx ▸ hv
    · rw [if_neg hj] at hx
      exact h j x hx

theorem all_foldl_assign {ρ : Type} (key : ρ → JsString) (value : ρ → ν)
    (rows : List ρ) (r : Record ν) (h : r.All P) (hv : ∀ row ∈ rows, P (key row) (value row)) :
    (rows.foldl (fun r row => r.assign names (key row) (value row)) r).All P := by
  induction rows generalizing r with
  | nil => exact h
  | cons row rest ih =>
    refine ih _ (h.assign names (hv row (by simp))) (fun x hx => hv x (by simp [hx]))

theorem All.sorted {r : Record ν} (h : r.All P) : (r.sorted names).All P := by
  intro k v hv
  rw [Record.sorted, stored_ofDict] at hv
  exact h k v (by simp [hv])

theorem all_fromEntries {d : Dict JsString ν} {P : ν → Prop} (h : ∀ v ∈ d.values, P v) :
    (fromEntries d).All (fun _ v => P v) := by
  intro k v hv
  apply h
  simp only [stored, fromEntries, Option.map_none, ite_self] at hv
  split at hv
  · next hw =>
    cases hv
    have hm := Dict.mem_of_get? hw
    exact List.mem_map.mpr ⟨(k, _), (mem_sortOn _).mp hm, rfl⟩
  · cases hv

end lookups

end Record

end OptimiqVoice.Lib

import OptimiqVoice.Lib.JsonText

namespace OptimiqVoice.Lib

namespace JsonValue

mutual

/-- Equal up to the order of the entries of objects. -/
def Alike : JsonValue → JsonValue → Prop
  | .null, .null => True
  | .bool b, .bool b' => b = b'
  | .num n, .num n' => n = n'
  | .str s, .str s' => s = s'
  | .arr items, .arr items' => AlikeItems items items'
  | .obj fields, .obj fields' => ∃ order, order.Perm fields' ∧ AlikeEntries fields order
  | _, _ => False

def AlikeItems : List JsonValue → List JsonValue → Prop
  | [], [] => True
  | v :: rest, v' :: rest' => Alike v v' ∧ AlikeItems rest rest'
  | _, _ => False

def AlikeEntries : List (JsString × JsonValue) → List (JsString × JsonValue) → Prop
  | [], [] => True
  | (key, v) :: rest, (key', v') :: rest' => key = key' ∧ Alike v v' ∧ AlikeEntries rest rest'
  | _, _ => False

end

mutual

/-- The same value with the entries of every object in the order of their keys. -/
def sorted : JsonValue → JsonValue
  | .null => .null
  | .bool b => .bool b
  | .num n => .num n
  | .str s => .str s
  | .arr items => .arr (sortedItems items)
  | .obj fields => .obj (sortOn (·.1) (sortedEntries fields))

def sortedItems : List JsonValue → List JsonValue
  | [] => []
  | v :: rest => sorted v :: sortedItems rest

def sortedEntries : List (JsString × JsonValue) → List (JsString × JsonValue)
  | [] => []
  | (key, v) :: rest => (key, sorted v) :: sortedEntries rest

end

theorem sortedItems_eq_map (items : List JsonValue) : sortedItems items = items.map sorted := by
  induction items with
  | nil => rfl
  | cons v rest ih => rw [sortedItems, ih, List.map_cons]

theorem sortedEntries_eq_map (fields : Fields) :
    sortedEntries fields = fields.map (fun f => (f.1, sorted f.2)) := by
  induction fields with
  | nil => rfl
  | cons f rest ih =>
    obtain ⟨key, v⟩ := f
    rw [sortedEntries, ih, List.map_cons]

theorem keys_sortedEntries (fields : Fields) :
    (sortedEntries fields).map (·.1) = fields.map (·.1) := by
  rw [sortedEntries_eq_map, List.map_map]
  rfl

theorem alikeItems_iff {items items' : List JsonValue}
    (h : ∀ v ∈ items, ∀ w ∈ items', Alike v w ↔ sorted v = sorted w) :
    AlikeItems items items' ↔ items.map sorted = items'.map sorted := by
  induction items generalizing items' with
  | nil => cases items' <;> simp [AlikeItems]
  | cons v rest ih =>
    cases items' with
    | nil => simp [AlikeItems]
    | cons w rest' =>
      rw [AlikeItems, h v List.mem_cons_self w List.mem_cons_self, ih fun x hx y hy =>
        h x (List.mem_cons_of_mem v hx) y (List.mem_cons_of_mem w hy)]
      simp

theorem alikeEntries_iff {fields fields' : Fields}
    (h : ∀ f ∈ fields, ∀ g ∈ fields', Alike f.2 g.2 ↔ sorted f.2 = sorted g.2) :
    AlikeEntries fields fields' ↔
      fields.map (fun f => (f.1, sorted f.2)) = fields'.map (fun f => (f.1, sorted f.2)) := by
  induction fields generalizing fields' with
  | nil => cases fields' <;> simp [AlikeEntries]
  | cons f rest ih =>
    obtain ⟨key, v⟩ := f
    cases fields' with
    | nil => simp [AlikeEntries]
    | cons g rest' =>
      obtain ⟨key', w⟩ := g
      rw [AlikeEntries, h (key, v) List.mem_cons_self (key', w) List.mem_cons_self,
        ih fun x hx y hy => h x (.tail _ hx) y (.tail _ hy)]
      simp [and_assoc]

end JsonValue

theorem exists_perm_of_map_perm {α β : Type} {f : α → β} {l m : List α}
    (h : (l.map f).Perm (m.map f)) : ∃ order : List α, order.Perm m ∧ l.map f = order.map f := by
  induction l generalizing m with
  | nil =>
    have hm : m = [] := by simpa using h.symm.eq_nil
    exact ⟨[], by rw [hm], rfl⟩
  | cons a l ih =>
    have hmem : f a ∈ m.map f := h.subset List.mem_cons_self
    obtain ⟨b, hb, hab⟩ := List.mem_map.mp hmem
    obtain ⟨front, back, rfl⟩ := List.append_of_mem hb
    have hmiddle : (front ++ b :: back).Perm (b :: (front ++ back)) := List.perm_middle
    have hrest : (l.map f).Perm ((front ++ back).map f) := by
      have hcons := h.trans (hmiddle.map f)
      rw [List.map_cons, List.map_cons, hab] at hcons
      exact hcons.cons_inv
    obtain ⟨order, horder, hmap⟩ := ih hrest
    exact ⟨b :: order, (horder.cons b).trans hmiddle.symm, by rw [List.map_cons, List.map_cons, hmap, hab]⟩

namespace JsonCodec

variable {c : JsonCodec}

open JsonValue

theorem injOn_keys {fields : Fields} (h : (fields.map (·.1)).Nodup) :
    Set.InjOn (fun f : JsString × JsonValue => f.1) {f | f ∈ fields} :=
  injOn_of_nodup_map h

variable {v : JsonValue}

attribute [local simp] sorted Alike

theorem alike_iff {w : JsonValue} (hv : c.Sound v) (hw : c.Sound w) :
    Alike v w ↔ sorted v = sorted w := by
  induction v using JsonValue.nested generalizing w with
  | null | bool _ | num _ | str _ => cases w <;> simp
  | arr items ih =>
    cases w with
    | arr items' =>
      rw [Sound, soundItems_iff] at hv hw
      rw [Alike, alikeItems_iff fun x hx y hy => ih x hx (hv x hx) (hw y hy), sorted, sorted,
        sortedItems_eq_map, sortedItems_eq_map, JsonValue.arr.injEq]
    | _ => simp
  | obj fields ih =>
    cases w with
    | obj fields' =>
      rw [Sound, soundEntries_iff] at hv hw
      rw [Alike, sorted, sorted, JsonValue.obj.injEq]
      constructor
      · rintro ⟨order, hperm, halike⟩
        rw [alikeEntries_iff fun x hx y hy => ih x hx (hv.2 x hx) (hw.2 y (hperm.subset hy)),
          ← sortedEntries_eq_map, ← sortedEntries_eq_map] at halike
        rw [halike]
        refine (sortOn_eq_of_perm _ ?_ (injOn_keys ?_))
        · rw [sortedEntries_eq_map, sortedEntries_eq_map]
          exact hperm.symm.map _
        · rw [keys_sortedEntries]
          exact hw.1
      · intro heq
        have hperm : (sortedEntries fields).Perm (sortedEntries fields') :=
          ((sortOn_perm _ _).symm.trans (List.Perm.of_eq heq)).trans (sortOn_perm _ _)
        rw [sortedEntries_eq_map, sortedEntries_eq_map] at hperm
        obtain ⟨order, horder, hmap⟩ := exists_perm_of_map_perm hperm
        refine ⟨order, horder, ?_⟩
        rw [alikeEntries_iff fun x hx y hy => ih x hx (hv.2 x hx) (hw.2 y (horder.subset hy))]
        exact hmap
    | _ => simp

theorem sound_sorted (h : c.Sound v) : c.Sound (sorted v) := by
  induction v using JsonValue.nested with
  | null | bool _ | num _ | str _ => exact h
  | arr items ih =>
    rw [Sound, soundItems_iff] at h
    rw [sorted, Sound, soundItems_iff, sortedItems_eq_map]
    intro v hv
    obtain ⟨w, hw, rfl⟩ := List.mem_map.mp hv
    exact ih w hw (h w hw)
  | obj fields ih =>
    rw [Sound, soundEntries_iff] at h
    rw [sorted, Sound, soundEntries_iff]
    constructor
    · rw [((sortOn_perm (·.1) (sortedEntries fields)).map (·.1)).nodup_iff, keys_sortedEntries]
      exact h.1
    · intro f hf
      rw [mem_sortOn, sortedEntries_eq_map] at hf
      obtain ⟨g, hg, rfl⟩ := List.mem_map.mp hf
      exact ih g hg (h.2 g hg)

theorem sorted_sorted (v : JsonValue) : sorted (sorted v) = sorted v := by
  induction v using JsonValue.nested with
  | null | bool _ | num _ | str _ => rfl
  | arr items ih =>
    rw [sorted, sorted, sortedItems_eq_map, sortedItems_eq_map, List.map_map]
    congr 1
    exact List.map_congr_left ih
  | obj fields ih =>
    rw [sorted, sorted]
    congr 1
    -- the entries are in order, and each of them already is
    have hentries : sortedEntries (sortOn (·.1) (sortedEntries fields)) =
        sortOn (·.1) (sortedEntries fields) := by
      rw [sortedEntries_eq_map]
      refine (List.map_congr_left fun f hf => ?_).trans (List.map_id _)
      rw [mem_sortOn, sortedEntries_eq_map] at hf
      obtain ⟨g, hg, rfl⟩ := List.mem_map.mp hf
      rw [ih g hg]
      rfl
    rw [hentries]
    exact (sortOn_pairwise (·.1) (sortedEntries fields)).insertionSort_eq

theorem alike_sorted (h : c.Sound v) : Alike (sorted v) v :=
  (alike_iff (sound_sorted h) h).mpr (sorted_sorted v)

end JsonCodec

end OptimiqVoice.Lib

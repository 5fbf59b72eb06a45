import OptimiqVoice.Lib.Decimal
import OptimiqVoice.Lib.JsonOrder
import OptimiqVoice.Routing.Json

namespace OptimiqVoice.Routing.Canonical

open Lib

/-- What `canonicalJson` can be handed. Plain data can hold `undefined`; what is
no plain data is an instance of a class, or of a type that JSON does not have. -/
inductive JsValue where
  | undefined
  | null
  | bool (b : Bool)
  | num (n : JsNumber)
  | str (s : JsString)
  | arr (items : List JsValue)
  | obj (fields : List (JsString × JsValue))
  | exotic
  | other (typeof : JsString)

structure RoutingSnapshotError where
  (field message : JsString)
deriving DecidableEq

def nonFiniteText : JsNumber → JsString
  | .infinite false => lit "Infinity"
  | .infinite true => lit "-Infinity"
  | _ => lit "NaN"

def notSerializable (path kind : JsString) : RoutingSnapshotError :=
  ⟨path, lit "values of type \"" ++ kind ++ lit "\" are not serializable"⟩

def inOrder {ε α : Type} : List (Except ε α) → Except ε (List α)
  | [] => .ok []
  | part :: parts => do
    let a ← part
    let rest ← inOrder parts
    return a :: rest

section writing

variable (c : JsonCodec)

mutual

def write (path : JsString) : JsValue → Except RoutingSnapshotError JsString
  | .null => .ok (lit "null")
  | .bool b => .ok (boolText b)
  | .num n =>
    match n.finite? with
    -- the two zeros are one value to every consumer
    | some q => .ok (c.number (.finite q))
    | none => .error ⟨path, nonFiniteText n ++ lit " is not serializable"⟩
  | .str s => .ok (c.quote s)
  | .arr items => do
    let parts ← inOrder (writeArray path 0 items)
    return lit "[" ++ join (lit ",") parts ++ lit "]"
  | .obj fields => do
    let parts ← inOrder ((sortOn (·.1) (writeObject path fields)).filterMap (·.2))
    return lit "\x7b" ++ join (lit ",") parts ++ lit "\x7d"
  | .exotic => .error ⟨path,
      lit "only plain objects are serializable; the artifact must survive a JSON round trip"⟩
  | .undefined => .error (notSerializable path (lit "undefined"))
  | .other typeof => .error (notSerializable path typeof)

def writeArray (path : JsString) (index : Nat) :
    List JsValue → List (Except RoutingSnapshotError JsString)
  | [] => []
  | .undefined :: rest => .ok (lit "null") :: writeArray path (index + 1) rest
  | v :: rest =>
    write (path ++ lit "[" ++ natText index ++ lit "]") v :: writeArray path (index + 1) rest

/-- Each entry with its key, by which they are then put in order. An entry that
is `undefined` leaves no text. -/
def writeObject (path : JsString) :
    List (JsString × JsValue) → List (JsString × Option (Except RoutingSnapshotError JsString))
  | [] => []
  | (key, .undefined) :: rest => (key, none) :: writeObject path rest
  | (key, v) :: rest =>
    (key, some ((write (path ++ lit "." ++ key) v).map (c.quote key ++ lit ":" ++ ·))) ::
      writeObject path rest

end

def canonicalJson (value : JsValue) : Except RoutingSnapshotError JsString := write c (lit "$") value

end writing

section normal

mutual

/-- The normal form of plain data: no `undefined`, one zero. -/
def normal : JsValue → JsonValue
  | .bool b => .bool b
  | .num n => .num (n.finite?.elim n .finite)
  | .str s => .str s
  | .arr items => .arr (normalItems items)
  | .obj fields => .obj (normalEntries fields)
  | _ => .null

/-- An entry of an array that is `undefined` is read as `null`. -/
def normalItems : List JsValue → List JsonValue
  | [] => []
  | v :: rest => normal v :: normalItems rest

/-- An entry of an object that is `undefined` is dropped. -/
def normalEntries : List (JsString × JsValue) → JsonValue.Fields
  | [] => []
  | (_, .undefined) :: rest => normalEntries rest
  | (key, v) :: rest => (key, normal v) :: normalEntries rest

end

variable (c : JsonCodec)

mutual

/-- Null, booleans, finite numbers, texts, and arrays and objects of them;
`undefined` only as an entry. -/
def Plain : JsValue → Prop
  | .null => True
  | .bool _ => True
  | .num n => ∃ q, n.finite? = some q ∧ c.double q
  | .str _ => True
  | .arr items => PlainItems items
  | .obj fields => (fields.map (·.1)).Nodup ∧ PlainEntries fields
  | _ => False

def PlainItems : List JsValue → Prop
  | [] => True
  | .undefined :: rest => PlainItems rest
  | v :: rest => Plain v ∧ PlainItems rest

def PlainEntries : List (JsString × JsValue) → Prop
  | [] => True
  | (_, .undefined) :: rest => PlainEntries rest
  | (_, v) :: rest => Plain v ∧ PlainEntries rest

end

end normal

section faithful

variable {c : JsonCodec}

open JsonValue

def kept : JsString × JsValue → Option (JsString × JsonValue)
  | (_, .undefined) => none
  | (key, v) => some (key, sorted (normal v))

theorem kept_key {f : JsString × JsValue} {g : JsString × JsonValue} (h : kept f = some g) :
    g.1 = f.1 := by
  obtain ⟨key, v⟩ := f
  cases v <;> cases h <;> rfl

theorem sortedEntries_normal (fields : List (JsString × JsValue)) :
    sortedEntries (normalEntries fields) = fields.filterMap kept := by
  induction fields with
  | nil => rfl
  | cons f rest ih =>
    obtain ⟨key, v⟩ := f
    cases v <;> simp [normalEntries, sortedEntries, kept, ih, List.filterMap_cons]

theorem inOrder_ok {ε α β : Type} (f : α → β) (l : List α) :
    inOrder (l.map (fun a => (.ok (f a) : Except ε β))) = .ok (l.map f) := by
  induction l with
  | nil => rfl
  | cons a rest ih =>
    rw [List.map_cons, inOrder, ih]
    rfl

def slot (c : JsonCodec) (f : JsString × JsValue) :
    JsString × Option (Except RoutingSnapshotError JsString) :=
  (f.1, (kept f).map (fun g => .ok (c.entry g)))

theorem inOrder_entries {fields : List (JsString × JsValue)} (hkeys : (fields.map (·.1)).Nodup) :
    inOrder ((sortOn (·.1) (fields.map (slot c))).filterMap (·.2)) =
      .ok (c.writeEntries (sortOn (·.1) (sortedEntries (normalEntries fields)))) := by
  have hinj : Set.InjOn (fun f : JsString × JsValue => f.1) {f | f ∈ fields} := injOn_of_nodup_map hkeys
  have hslots : sortOn (·.1) (fields.map (slot c)) = (sortOn (·.1) fields).map (slot c) :=
    sortOn_map (slot c) fields (fun f _ => rfl)
  have hkept : sortOn (·.1) (fields.filterMap kept) = (sortOn (·.1) fields).filterMap kept :=
    sortOn_filterMap kept fields (fun f g => kept_key) hinj
  rw [hslots, List.filterMap_map, sortedEntries_normal, hkept, JsonCodec.writeEntries_eq_map,
    ← inOrder_ok, List.map_filterMap]
  rfl

mutual

theorem write_normal (v : JsValue) (h : Plain c v) (path : JsString) :
    write c path v = .ok (c.write (sorted (normal v))) := by
  cases v with
  | null | bool _ | str _ => rfl
  | num n =>
    obtain ⟨q, hq, _⟩ := h
    rw [write, normal, hq]
    rfl
  | arr items =>
    rw [write, writeArray_normal items h path 0, inOrder_ok, normal, sorted, sortedItems_eq_map,
      JsonCodec.write, JsonCodec.writeItems_eq_map, List.map_map]
    rfl
  | obj fields =>
    rw [write, writeObject_normal fields h.2 path, inOrder_entries h.1, normal, sorted, JsonCodec.write]
    rfl
  | undefined | exotic | other _ => exact h.elim

theorem writeArray_normal (items : List JsValue) (h : PlainItems c items) (path : JsString)
    (index : Nat) : writeArray c path index items =
      (normalItems items).map (fun v => .ok (c.write (sorted v))) := by
  cases items with
  | nil => rfl
  | cons v rest =>
    cases v with
    | undefined =>
      rw [writeArray, writeArray_normal rest h path (index + 1), normalItems, List.map_cons]
      rfl
    | exotic | other _ => exact h.1.elim
    | _ =>
      rw [writeArray, write_normal _ h.1, writeArray_normal rest h.2 path (index + 1), normalItems,
        List.map_cons]
      all_goals exact nofun

theorem writeObject_normal (fields : List (JsString × JsValue)) (h : PlainEntries c fields)
    (path : JsString) : writeObject c path fields = fields.map (slot c) := by
  cases fields with
  | nil => rfl
  | cons f rest =>
    obtain ⟨key, v⟩ := f
    cases v with
    | undefined =>
      rw [writeObject, writeObject_normal rest h path, List.map_cons]
      rfl
    | exotic | other _ => exact h.1.elim
    | _ =>
      rw [writeObject, write_normal _ h.1, writeObject_normal rest h.2 path, List.map_cons]
      · rfl
      all_goals exact nofun

end

theorem keys_normal (fields : List (JsString × JsValue)) :
    ((normalEntries fields).map (·.1)).Sublist (fields.map (·.1)) := by
  induction fields with
  | nil => exact List.Sublist.refl _
  | cons f rest ih =>
    obtain ⟨key, v⟩ := f
    cases v with
    | undefined => exact ih.cons key
    | _ => exact ih.cons_cons key

mutual

theorem sound_normal (v : JsValue) (h : Plain c v) : c.Sound (normal v) := by
  cases v with
  | num n =>
    obtain ⟨q, hq, hdouble⟩ := h
    exact ⟨q, by rw [hq]; rfl, hdouble⟩
  | arr items => exact soundItems_normal items h
  | obj fields =>
    exact ⟨(keys_normal fields).nodup h.1, soundEntries_normal fields h.2⟩
  | _ => trivial

theorem soundItems_normal (items : List JsValue) (h : PlainItems c items) :
    c.SoundItems (normalItems items) := by
  cases items with
  | nil => trivial
  | cons v rest =>
    cases v with
    | undefined => exact ⟨trivial, soundItems_normal rest h⟩
    | _ => exact ⟨sound_normal _ h.1, soundItems_normal rest h.2⟩

theorem soundEntries_normal (fields : List (JsString × JsValue)) (h : PlainEntries c fields) :
    c.SoundEntries (normalEntries fields) := by
  cases fields with
  | nil => trivial
  | cons f rest =>
    obtain ⟨key, v⟩ := f
    cases v with
    | undefined => exact soundEntries_normal rest h
    | _ => exact ⟨sound_normal _ h.1, soundEntries_normal rest h.2⟩

end

/-- Plain data has one text exactly when it is equal up to the order of keys,
and the text reads back as the normal form. -/
theorem canonicalJson_faithful (c : JsonCodec) (a b : JsValue) (ha : Plain c a) (hb : Plain c b) :
    ∃ s t, canonicalJson c a = .ok s ∧ canonicalJson c b = .ok t ∧
      (s = t ↔ Alike (normal a) (normal b)) ∧ ∃ v, c.parse s = some v ∧ Alike v (normal a) := by
  have hsa := sound_normal a ha
  have hsb := sound_normal b hb
  refine ⟨_, _, write_normal a ha _, write_normal b hb _, ?_, _,
    JsonCodec.parse_write (JsonCodec.sound_sorted hsa), JsonCodec.alike_sorted hsa⟩
  rw [JsonCodec.alike_iff hsa hsb]
  constructor
  · exact JsonCodec.write_injOn (JsonCodec.sound_sorted hsa) (JsonCodec.sound_sorted hsb)
  · intro h
    rw [h]

end faithful

section integers

variable (u : CodeUnit)

def hexValue : Option Nat :=
  if isDigit u then some (digitValue u)
  else if 97 ≤ u ∧ u ≤ 102 then some (u.val - 87)
  else if 65 ≤ u ∧ u ≤ 70 then some (u.val - 55)
  else none

def unescape : Option CodeUnit :=
  if u = unit 'b' then some 8
  else if u = unit 't' then some 9
  else if u = unit 'n' then some 10
  else if u = unit 'f' then some 12
  else if u = unit 'r' then some 13
  else if u = unit '"' ∨ u = unit '\\' ∨ u = unit '/' then some u
  else none

def fromHex (a b c d : CodeUnit) : Option CodeUnit := do
  let a ← hexValue a
  let b ← hexValue b
  let c ← hexValue c
  let d ← hexValue d
  return Fin.ofNat _ (a * 4096 + b * 256 + c * 16 + d)

def andThen (p : JsString × JsString) : JsString × JsString := (u :: p.1, p.2)

def readText : JsString → Option (JsString × JsString)
  | [] => none
  | u :: rest =>
    if u = unit '"' then some ([], rest)
    else if u = unit '\\' then
      match rest with
      | [] => none
      | e :: more =>
        if e = unit 'u' then
          match more with
          | a :: b :: c :: d :: tail => (fromHex a b c d).bind (fun w => (readText tail).map (andThen w))
          | _ => none
        else (unescape e).bind (fun w => (readText more).map (andThen w))
    else if u < 32 then none
    else (readText rest).map (andThen u)

theorem hexValue_hexDigit : ∀ n : Fin 16, hexValue (hexDigit n) = some n.val := by decide

theorem fromHex_hexDigits :
    fromHex (hexDigit (u.val / 4096)) (hexDigit (u.val / 256 % 16)) (hexDigit (u.val / 16 % 16))
      (hexDigit (u.val % 16)) = some u := by
  have hu : u.val < 65536 := u.isLt
  rw [fromHex, hexValue_hexDigit ⟨u.val / 4096, by omega⟩, hexValue_hexDigit ⟨u.val / 256 % 16, by omega⟩,
    hexValue_hexDigit ⟨u.val / 16 % 16, by omega⟩, hexValue_hexDigit ⟨u.val % 16, by omega⟩]
  refine congrArg some (Fin.ext ?_)
  change (u.val / 4096 * 4096 + u.val / 256 % 16 * 256 + u.val / 16 % 16 * 16 + u.val % 16) % 65536 = _
  omega

variable (t : JsString)

theorem readText_unicodeEscape :
    readText (unicodeEscape u ++ t) = (readText t).map (andThen u) := by
  change (fromHex _ _ _ _).bind _ = _
  rw [fromHex_hexDigits u]
  rfl

theorem readText_cons {u : CodeUnit} {t : JsString} (hquote : u ≠ 34) (hslash : u ≠ 92)
    (hctl : ¬u < 32) : readText (u :: t) = (readText t).map (andThen u) := by
  rw [readText.eq_def]
  simp only [show unit '"' = 34 from rfl, show unit '\\' = 92 from rfl, hquote, hslash, hctl, if_false]

theorem readText_escape {e w : CodeUnit} {t : JsString} (he : e ≠ unit 'u')
    (hw : unescape e = some w) : readText (92 :: e :: t) = (readText t).map (andThen w) := by
  rw [readText.eq_def]
  simp only [show unit '\\' = 92 from rfl, show ¬(92 : CodeUnit) = unit '"' by decide, he, hw, if_true,
    if_false, Option.bind_some]

theorem readText_quote : readText (unit '"' :: t) = some ([], t) := by
  rw [readText.eq_def]
  simp only [if_true]

theorem readText_escapeUnit :
    readText (escapeUnit u ++ t) = (readText t).map (andThen u) := by
  rw [escapeUnit]
  split_ifs with h8 h9 h10 h12 h13 h34 h92 hctl
  · exact readText_escape (e := unit 'b') (by decide) (by rw [h8]; rfl)
  · exact readText_escape (e := unit 't') (by decide) (by rw [h9]; rfl)
  · exact readText_escape (e := unit 'n') (by decide) (by rw [h10]; rfl)
  · exact readText_escape (e := unit 'f') (by decide) (by rw [h12]; rfl)
  · exact readText_escape (e := unit 'r') (by decide) (by rw [h13]; rfl)
  · exact readText_escape (e := unit '"') (by decide) (by rw [h34]; rfl)
  · exact readText_escape (e := unit '\\') (by decide) (by rw [h92]; rfl)
  · exact readText_unicodeEscape u t
  · exact readText_cons h34 h92 hctl

theorem not_special_of_surrogate {u : CodeUnit} (h : 0xd800 ≤ u) : u ≠ 34 ∧ u ≠ 92 ∧ ¬u < 32 := by
  refine ⟨?_, ?_, fun hlt => ?_⟩
  · rintro rfl
    exact absurd h (by decide)
  · rintro rfl
    exact absurd h (by decide)
  · exact absurd (lt_of_le_of_lt h hlt) (by decide)

theorem readText_escapeText (s rest : JsString) :
    readText (escapeText s ++ unit '"' :: rest) = some (s, rest) := by
  induction s using escapeText.induct with
  | case1 => exact readText_quote rest
  | case2 u h =>
    rw [escapeText, if_pos h, readText_unicodeEscape, readText_quote]
    rfl
  | case3 u h =>
    rw [escapeText, if_neg h, readText_escapeUnit, readText_quote]
    rfl
  | case4 u v more h ih =>
    rw [escapeText, if_pos h]
    simp only [isHighSurrogate, isLowSurrogate, Bool.and_eq_true, decide_eq_true_eq] at h
    obtain ⟨hquote, hslash, hctl⟩ := not_special_of_surrogate h.1.1
    obtain ⟨hquote', hslash', hctl'⟩ := not_special_of_surrogate (le_trans (by decide) h.2.1)
    rw [List.cons_append, List.cons_append, readText_cons hquote hslash hctl,
      readText_cons hquote' hslash' hctl', ih]
    rfl
  | case5 u v more h h' ih =>
    rw [escapeText, if_neg h, if_pos h', List.append_assoc, readText_unicodeEscape, ih]
    rfl
  | case6 u v more h h' ih =>
    rw [escapeText, if_neg h, if_neg h', List.append_assoc, readText_escapeUnit, ih]
    rfl

theorem intText_numeric {i : Int} {u : CodeUnit} (h : u ∈ intText i) : isNumeric u := by
  have hdigit : ∀ n, u ∈ natText n → isNumeric u := fun n hn => by
    rw [isNumeric, natText_isDigit hn, Bool.true_or]
  cases i with
  | ofNat n => exact hdigit n h
  | negSucc n =>
    cases h with
    | head => decide
    | tail _ h => exact hdigit (n + 1) h

theorem intText_ne_nil (i : Int) : intText i ≠ [] := by
  cases i with
  | ofNat n => simp [intText, natText, Nat.toDigits_ne_nil]
  | negSucc n => exact List.cons_ne_nil _ _

/-- Texts as `JSON.stringify` writes them, and the numbers that are integers. -/
def integers : JsonCodec where
  double q := q.den = 1
  quote := stringify
  number n := n.finite?.elim (lit "null") (fun q => intText q.num)
  readText := readText
  readNumber s := (canonicalInt s).map (fun i : Int => .finite (i : Rat))
  double_zero := rfl
  quote_eq s := by
    refine ⟨escapeText s ++ [unit '"'], rfl, fun rest => ?_⟩
    rw [List.append_assoc]
    exact readText_escapeText s rest
  number_ne_nil q _ := intText_ne_nil q.num
  number_numeric q _ u hu := intText_numeric hu
  readNumber_number q hq := by
    change (canonicalInt (intText q.num)).map _ = _
    rw [canonicalInt_intText, Option.map_some]
    exact congrArg (fun r => some (JsNumber.finite r)) (Rat.ext rfl hq.symm)

mutual

/-- The data of a snapshot, as what the writer is handed. -/
def ofJson : Json → JsValue
  | .null => .null
  | .bool b => .bool b
  | .num i => .num (.finite i)
  | .str s => .str s
  | .arr items => .arr (ofItems items)
  | .obj fields => .obj (ofFields fields)

def ofItems : List Json → List JsValue
  | [] => []
  | j :: rest => ofJson j :: ofItems rest

def ofFields : List (JsString × Json) → List (JsString × JsValue)
  | [] => []
  | (key, j) :: rest => (key, ofJson j) :: ofFields rest

end

theorem filterMap_slots (parts : List (JsString × JsString)) : (sortOn (·.1) (parts.map
      (fun f => (f.1, some (Except.ok f.2 : Except RoutingSnapshotError JsString))))).filterMap (·.2) =
      (sortOn (·.1) parts).map (fun f => .ok f.2) := by
  rw [sortOn_map _ parts (fun f _ => rfl), List.filterMap_map]
  exact congrFun List.filterMap_eq_map' _

mutual

theorem write_ofJson (j : Json) (path : JsString) :
    write integers path (ofJson j) = .ok (Routing.canonicalJson j) := by
  cases j with
  | null | bool _ | num _ | str _ => rfl
  | arr items =>
    rw [ofJson, write, writeArray_ofItems items path 0, inOrder_ok, List.map_id, Routing.canonicalJson]
    rfl
  | obj fields =>
    rw [ofJson, write, writeObject_ofFields fields path, filterMap_slots, inOrder_ok,
      Routing.canonicalJson]
    rfl

theorem writeArray_ofItems (items : List Json) (path : JsString) (index : Nat) :
    writeArray integers path index (ofItems items) =
      (writeItems items).map (fun s => .ok (id s)) := by
  cases items with
  | nil => rfl
  | cons j rest =>
    rw [ofItems, writeArray, write_ofJson j, writeArray_ofItems rest path (index + 1)]
    · rfl
    · cases j <;> exact nofun

theorem writeObject_ofFields (fields : List (JsString × Json)) (path : JsString) :
    writeObject integers path (ofFields fields) =
      (writeFields fields).map (fun f => (f.1, some (.ok f.2))) := by
  cases fields with
  | nil => rfl
  | cons f rest =>
    obtain ⟨key, j⟩ := f
    rw [ofFields, writeObject, write_ofJson j, writeObject_ofFields rest path]
    · rfl
    · cases j <;> exact nofun

end

/-- Two rows that differ in the order of their keys, a missing column and the
sign of a zero. -/
def sampleRow : JsValue :=
  .obj [(lit "b", .arr [.undefined, .num .negZero]), (lit "a", .str (lit "x\"")), (lit "c", .undefined)]

def sampleRow' : JsValue :=
  .obj [(lit "a", .str (lit "x\"")), (lit "b", .arr [.null, .num (.finite 0)])]

theorem plain_sampleRow : Plain integers sampleRow := by
  refine ⟨by decide, ⟨⟨0, rfl, rfl⟩, trivial⟩, trivial, trivial⟩

theorem plain_sampleRow' : Plain integers sampleRow' := by
  refine ⟨by decide, trivial, ⟨trivial, ⟨0, rfl, rfl⟩, trivial⟩, trivial⟩

theorem canonicalJson_sampleRows :
    ∃ s t, canonicalJson integers sampleRow = .ok s ∧ canonicalJson integers sampleRow' = .ok t ∧
      (s = t ↔ (normal sampleRow).Alike (normal sampleRow')) ∧
      ∃ v, integers.parse s = some v ∧ v.Alike (normal sampleRow) :=
  canonicalJson_faithful integers sampleRow sampleRow' plain_sampleRow plain_sampleRow'

example : canonicalJson integers sampleRow = .ok (lit "\x7b\"a\":\"x\\\"\",\"b\":[null,0]\x7d") := by decide

end integers

end OptimiqVoice.Routing.Canonical

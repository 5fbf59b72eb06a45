import OptimiqVoice.Lib.JsonValue
import OptimiqVoice.Lib.Dict

namespace OptimiqVoice.Lib

namespace JsonValue

/-- Induction over nested data: what holds of all parts holds of the whole. -/
@[elab_as_elim]
theorem nested {motive : JsonValue → Prop} (null : motive .null) (bool : ∀ b, motive (.bool b))
    (num : ∀ n, motive (.num n)) (str : ∀ s, motive (.str s))
    (arr : ∀ items, (∀ v ∈ items, motive v) → motive (.arr items))
    (obj : ∀ fields : Fields, (∀ f ∈ fields, motive f.2) → motive (.obj fields)) (v : JsonValue) :
    motive v := by
  refine @JsonValue.rec motive (fun items => ∀ v ∈ items, motive v)
    (fun fields => ∀ f ∈ fields, motive f.2) (fun f => motive f.2) null bool num str arr obj
    ?_ ?_ ?_ ?_ ?_ v
  · intro v hv
    cases hv
  · intro v rest hv hrest w hw
    cases hw with
    | head => exact hv
    | tail _ hw => exact hrest w hw
  · intro f hf
    cases hf
  · intro f rest hf hrest g hg
    cases hg with
    | head => exact hf
    | tail _ hg => exact hrest g hg
  · intro key v hv
    exact hv

end JsonValue

/-- The units that the text of a number is made of. -/
def isNumeric (u : CodeUnit) : Bool :=
  isDigit u || u ∈ [unit '+', unit '-', unit '.', unit 'e', unit 'E']

/-- How a platform writes texts and numbers as JSON and reads them back. What it
wrote it reads as what it was, whatever text follows. -/
structure JsonCodec where
  double : Rat → Prop
  quote : JsString → JsString
  number : JsNumber → JsString
  /-- Reads on from the opening quote. -/
  readText : JsString → Option (JsString × JsString)
  readNumber : JsString → Option JsNumber
  double_zero : double 0
  quote_eq : ∀ s, ∃ body, quote s = unit '"' :: body ∧
    ∀ rest, readText (body ++ rest) = some (s, rest)
  number_ne_nil : ∀ q, double q → number (.finite q) ≠ []
  number_numeric : ∀ q, double q → ∀ u ∈ number (.finite q), isNumeric u
  readNumber_number : ∀ q, double q → readNumber (number (.finite q)) = some (.finite q)

namespace JsonCodec

variable (c : JsonCodec)

mutual

/-- `JSON.stringify` without white space, entries in their order. -/
def write : JsonValue → JsString
  | .null => lit "null"
  | .bool b => boolText b
  | .num n => c.number n
  | .str s => c.quote s
  | .arr items => lit "[" ++ join (lit ",") (writeItems items) ++ lit "]"
  | .obj fields => lit "\x7b" ++ join (lit ",") (writeEntries fields) ++ lit "\x7d"

def writeItems : List JsonValue → List JsString
  | [] => []
  | v :: rest => write v :: writeItems rest

def writeEntries : List (JsString × JsonValue) → List JsString
  | [] => []
  | (key, v) :: rest => (c.quote key ++ lit ":" ++ write v) :: writeEntries rest

end

def skip (s : JsString) : JsString :=
  s.dropWhile (· ∈ ([9, 10, 13, 32] : List CodeUnit))

def parseAtom (s : JsString) : Option (JsonValue × JsString) :=
  if startsWith s (lit "null") then some (.null, s.drop 4)
  else if startsWith s (lit "true") then some (.bool true, s.drop 4)
  else if startsWith s (lit "false") then some (.bool false, s.drop 5)
  else (c.readNumber (s.takeWhile isNumeric)).map (fun n => (.num n, s.dropWhile isNumeric))

/-- An object from its members: a later one replaces an earlier one of the same key. -/
def assemble (members : List (JsString × JsonValue)) : JsonValue.Fields :=
  members.foldl (fun fields f => put f.1 f.2 fields) []

mutual

def parseValue : Nat → JsString → Option (JsonValue × JsString)
  | 0, _ => none
  | fuel + 1, s =>
    match skip s with
    | [] => none
    | u :: rest =>
      if u = unit '"' then (c.readText rest).map (fun p => (.str p.1, p.2))
      else if u = unit '[' then
        if (skip rest).head? = some (unit ']') then some (.arr [], (skip rest).tail)
        else (parseElements fuel rest).map (fun p => (.arr p.1, p.2))
      else if u = unit '\x7b' then
        if (skip rest).head? = some (unit '\x7d') then some (.obj [], (skip rest).tail)
        else (parseMembers fuel rest).map (fun p => (.obj (assemble p.1), p.2))
      else c.parseAtom (u :: rest)

def parseElements : Nat → JsString → Option (List JsonValue × JsString)
  | 0, _ => none
  | fuel + 1, s =>
    (parseValue fuel s).bind (fun p =>
      match skip p.2 with
      | [] => none
      | u :: rest =>
        if u = unit ',' then (parseElements fuel rest).map (fun q => (p.1 :: q.1, q.2))
        else if u = unit ']' then some ([p.1], rest)
        else none)

def parseMembers : Nat → JsString → Option (List (JsString × JsonValue) × JsString)
  | 0, _ => none
  | fuel + 1, s =>
    match skip s with
    | [] => none
    | u :: rest =>
      if u = unit '"' then
        (c.readText rest).bind (fun key =>
          match skip key.2 with
          | [] => none
          | u :: rest =>
            if u = unit ':' then
              (parseValue fuel rest).bind (fun p =>
                match skip p.2 with
                | [] => none
                | u :: rest =>
                  if u = unit ',' then
                    (parseMembers fuel rest).map (fun q => ((key.1, p.1) :: q.1, q.2))
                  else if u = unit '\x7d' then some ([(key.1, p.1)], rest)
                  else none)
            else none)
      else none

end

/-- `JSON.parse`. A value takes no more steps than its text has units. -/
def parse (s : JsString) : Option JsonValue :=
  (c.parseValue (s.length + 1) s).bind (fun p => if skip p.2 = [] then some p.1 else none)

mutual

/-- Numbers that are doubles and objects without a repeated key: what a value
of the language is made of. -/
def Sound : JsonValue → Prop
  | .num n => ∃ q, n = .finite q ∧ c.double q
  | .arr items => SoundItems items
  | .obj fields => (fields.map (·.1)).Nodup ∧ SoundEntries fields
  | _ => True

def SoundItems : List JsonValue → Prop
  | [] => True
  | v :: rest => Sound v ∧ SoundItems rest

def SoundEntries : List (JsString × JsonValue) → Prop
  | [] => True
  | (_, v) :: rest => Sound v ∧ SoundEntries rest

end

variable {c}

variable {items : List JsonValue}

theorem soundItems_iff : c.SoundItems items ↔ ∀ v ∈ items, c.Sound v := by
  induction items with
  | nil => simp [SoundItems]
  | cons v rest ih => simp [SoundItems, ih]

variable {fields : JsonValue.Fields}

theorem soundEntries_iff : c.SoundEntries fields ↔ ∀ f ∈ fields, c.Sound f.2 := by
  induction fields with
  | nil => simp [SoundEntries]
  | cons f rest ih =>
    obtain ⟨key, v⟩ := f
    rw [SoundEntries, ih, List.forall_mem_cons]

theorem writeItems_eq_map (items : List JsonValue) : c.writeItems items = items.map c.write := by
  induction items with
  | nil => rfl
  | cons v rest ih => rw [writeItems, ih, List.map_cons]

def entry (c : JsonCodec) (f : JsString × JsonValue) : JsString := c.quote f.1 ++ lit ":" ++ c.write f.2

theorem writeEntries_eq_map (fields : JsonValue.Fields) :
    c.writeEntries fields = fields.map c.entry := by
  induction fields with
  | nil => rfl
  | cons f rest ih =>
    obtain ⟨key, v⟩ := f
    rw [writeEntries, ih, List.map_cons, entry]

/-- No white space, and no closing bracket or brace. -/
def isOpening (u : CodeUnit) : Bool :=
  u ∉ ([9, 10, 13, 32, unit ']', unit '\x7d'] : List CodeUnit)

variable {u : CodeUnit} {s : JsString}

theorem skip_of_opening (h : isOpening u) : skip (u :: s) = u :: s := by
  rw [skip, List.dropWhile_cons_of_neg]
  simp only [isOpening, List.mem_cons, List.not_mem_nil, or_false, decide_eq_true_eq, not_or] at h ⊢
  exact ⟨h.1, h.2.1, h.2.2.1, h.2.2.2.1⟩

theorem isOpening_of_isNumeric (h : isNumeric u) : isOpening u := by
  by_contra hu
  simp only [isOpening, List.mem_cons, List.not_mem_nil, or_false, decide_eq_true_eq, not_not] at hu
  obtain rfl | rfl | rfl | rfl | rfl | rfl := hu <;> exact absurd h (by decide)

variable {v : JsonValue}

theorem write_opening (h : c.Sound v) : ∃ u s, c.write v = u :: s ∧ isOpening u := by
  cases v with
  | null | arr _ | obj _ => exact ⟨_, _, rfl, by decide⟩
  | bool b => cases b <;> exact ⟨_, _, rfl, by decide⟩
  | num n =>
    obtain ⟨q, rfl, hq⟩ := h
    obtain ⟨u, s, hs⟩ := List.exists_cons_of_ne_nil (c.number_ne_nil q hq)
    refine ⟨u, s, hs, isOpening_of_isNumeric (c.number_numeric q hq u ?_)⟩
    rw [hs]
    exact .head _
  | str s =>
    obtain ⟨body, hbody, _⟩ := c.quote_eq s
    exact ⟨_, body, hbody, by decide⟩

/-- A text after which a number has ended. -/
def Ends (rest : JsString) : Prop := ∀ u ∈ rest.head?, isNumeric u = false

theorem ends_cons (h : isNumeric u = false) : Ends (u :: s) := by
  intro v hv
  cases hv
  exact h

variable {rest : JsString}

theorem takeWhile_numeric (hs : ∀ u ∈ s, isNumeric u) (hrest : Ends rest) :
    (s ++ rest).takeWhile isNumeric = s ∧ (s ++ rest).dropWhile isNumeric = rest := by
  rw [List.takeWhile_append_of_pos hs, List.dropWhile_append_of_pos hs]
  cases rest with
  | nil => simp
  | cons u rest =>
    have hu : ¬isNumeric u = true := by simp [hrest u rfl]
    rw [List.takeWhile_cons_of_neg hu, List.dropWhile_cons_of_neg hu]
    exact ⟨List.append_nil s, rfl⟩

theorem parseAtom_number {q : Rat} (hq : c.double q) (hrest : Ends rest) :
    c.parseAtom (c.number (.finite q) ++ rest) = some (.num (.finite q), rest) := by
  obtain ⟨htake, hdrop⟩ := takeWhile_numeric (c.number_numeric q hq) hrest
  obtain ⟨u, s, hs⟩ := List.exists_cons_of_ne_nil (c.number_ne_nil q hq)
  have hu : isNumeric u := c.number_numeric q hq u (hs ▸ .head _)
  -- none of the constants starts as a number does
  have hfirst : ∀ (first : CodeUnit) (more : JsString), isNumeric first = false →
      startsWith (c.number (.finite q) ++ rest) (first :: more) = false := by
    intro first more hfirst
    have hne : ¬first = u := by
      rintro rfl
      simp [hfirst] at hu
    rw [hs, startsWith, List.cons_append, List.isPrefixOf_cons_cons, beq_false_of_ne hne, Bool.false_and]
  have hnull : startsWith (c.number (.finite q) ++ rest) (lit "null") = false :=
    hfirst (unit 'n') (lit "ull") (by decide)
  have htrue : startsWith (c.number (.finite q) ++ rest) (lit "true") = false :=
    hfirst (unit 't') (lit "rue") (by decide)
  have hfalse : startsWith (c.number (.finite q) ++ rest) (lit "false") = false :=
    hfirst (unit 'f') (lit "alse") (by decide)
  rw [parseAtom, hnull, htrue, hfalse]
  simp only [Bool.false_eq_true, if_false, htake, hdrop, c.readNumber_number q hq, Option.map_some]

/-- The text of the value is read as the value, whatever follows. -/
def Reads (c : JsonCodec) (v : JsonValue) : Prop :=
  ∀ fuel rest, Ends rest → (c.write v).length ≤ fuel →
    c.parseValue fuel (c.write v ++ rest) = some (v, rest)

theorem reads_num {q : Rat} (hq : c.double q) : c.Reads (.num (.finite q)) := by
  intro fuel rest hrest hfuel
  obtain ⟨u, s, hs⟩ := List.exists_cons_of_ne_nil (c.number_ne_nil q hq)
  have hu : isNumeric u := c.number_numeric q hq u (hs ▸ .head _)
  change c.parseValue fuel (c.number (.finite q) ++ rest) = _
  change (c.number (.finite q)).length ≤ fuel at hfuel
  have hne : ∀ other : CodeUnit, isNumeric other = false → ¬u = other := by
    rintro other hother rfl
    simp [hother] at hu
  cases fuel with
  | zero => simp [hs] at hfuel
  | succ fuel =>
    have hatom := parseAtom_number hq hrest
    rw [hs, List.cons_append] at hatom ⊢
    rw [parseValue, skip_of_opening (isOpening_of_isNumeric hu)]
    simp only [hne (unit '"') (by decide), hne (unit '[') (by decide), hne (unit '\x7b') (by decide),
      if_false]
    exact hatom

theorem reads_str (s : JsString) : c.Reads (.str s) := by
  intro fuel rest hrest hfuel
  obtain ⟨body, hbody, hread⟩ := c.quote_eq s
  change c.parseValue fuel (c.quote s ++ rest) = _
  change (c.quote s).length ≤ fuel at hfuel
  cases fuel with
  | zero => simp [hbody] at hfuel
  | succ fuel =>
    rw [hbody, List.cons_append, parseValue, skip_of_opening (by decide)]
    simp only [if_true, hread rest, Option.map_some]

theorem reads_null : c.Reads .null := by
  intro fuel rest hrest hfuel
  cases fuel with
  | zero => exact absurd hfuel (Nat.not_succ_le_zero 3)
  | succ fuel => rfl

theorem reads_bool (b : Bool) : c.Reads (.bool b) := by
  intro fuel rest hrest hfuel
  cases fuel with
  | zero => cases b <;> exact absurd hfuel (Nat.not_succ_le_zero _)
  | succ fuel => cases b <;> rfl

variable (part : JsString)

theorem join_cons_cons (next : JsString) (parts : List JsString) :
    join (lit ",") (part :: next :: parts) = part ++ unit ',' :: join (lit ",") (next :: parts) := by
  rw [join, List.intercalate_cons_cons, List.append_assoc]
  rfl

theorem join_singleton : join (lit ",") [part] = part := by
  rw [join, List.intercalate_singleton]

theorem exists_join_cons (parts : List JsString) :
    ∃ s, join (lit ",") (part :: parts) = part ++ s := by
  cases parts with
  | nil => exact ⟨[], by rw [join_singleton, List.append_nil]⟩
  | cons next parts => exact ⟨_, join_cons_cons part next parts⟩

/-- How an element of a list is read before a comma, and before the end. -/
structure ReadsElement {α : Type} (close : CodeUnit) (text : α → JsString)
    (read : Nat → JsString → Option (List α × JsString)) (x : α) : Prop where
  more : ∀ fuel rest, (text x).length ≤ fuel → read (fuel + 1) (text x ++ unit ',' :: rest) =
    (read fuel rest).map fun q => (x :: q.1, q.2)
  last : ∀ fuel rest, (text x).length ≤ fuel →
    read (fuel + 1) (text x ++ close :: rest) = some ([x], rest)

theorem reads_list {α : Type} {close : CodeUnit} {text : α → JsString}
    {read : Nat → JsString → Option (List α × JsString)} {xs : List α} (hne : xs ≠ [])
    (h : ∀ x ∈ xs, ReadsElement close text read x) (fuel : Nat) (rest : JsString)
    (hfuel : (join (lit ",") (xs.map text)).length + 1 ≤ fuel) :
    read fuel (join (lit ",") (xs.map text) ++ close :: rest) = some (xs, rest) := by
  induction xs generalizing fuel with
  | nil => exact absurd rfl hne
  | cons x more ih =>
    obtain ⟨fuel, rfl⟩ : ∃ n, fuel = n + 1 := ⟨fuel - 1, by omega⟩
    have hx := h x List.mem_cons_self
    cases more with
    | nil =>
      rw [List.map_singleton, join_singleton] at hfuel ⊢
      exact hx.last fuel rest (by omega)
    | cons y more =>
      rw [List.map_cons, List.map_cons, join_cons_cons, List.length_append, List.length_cons] at hfuel
      have hmore := ih (List.cons_ne_nil y more) (fun z hz => h z (List.mem_cons_of_mem x hz))
        fuel (by rw [List.map_cons]; omega)
      rw [List.map_cons] at hmore
      rw [List.map_cons, List.map_cons, join_cons_cons, List.append_assoc, List.cons_append,
        hx.more fuel _ (by omega), hmore]
      rfl

theorem Reads.element (h : c.Reads v) : ReadsElement (unit ']') c.write c.parseElements v where
  more fuel rest hfuel := by
    rw [parseElements, h fuel _ (ends_cons (by decide)) hfuel, Option.bind_some]
    rfl
  last fuel rest hfuel := by
    rw [parseElements, h fuel _ (ends_cons (by decide)) hfuel, Option.bind_some]
    rfl

theorem reads_arr (hs : ∀ v ∈ items, c.Sound v)
    (h : ∀ v ∈ items, c.Reads v) : c.Reads (.arr items) := by
  intro fuel rest hrest hfuel
  rw [write, writeItems_eq_map] at hfuel ⊢
  simp only [List.length_append, show (lit "[").length = 1 from rfl,
    show (lit "]").length = 1 from rfl] at hfuel
  obtain ⟨fuel, rfl⟩ : ∃ n, fuel = n + 1 := ⟨fuel - 1, by omega⟩
  rw [List.append_assoc, List.append_assoc]
  change c.parseValue (fuel + 1)
    (unit '[' :: (join (lit ",") (items.map c.write) ++ unit ']' :: rest)) = _
  rw [parseValue, skip_of_opening (show isOpening (unit '[') by decide)]
  cases items with
  | nil => rfl
  | cons v more =>
    have hitems := reads_list (List.cons_ne_nil v more) (fun v hv => (h v hv).element) fuel rest
      (by omega)
    obtain ⟨u, s, hu, hopening⟩ := write_opening (hs v List.mem_cons_self)
    obtain ⟨t, ht⟩ := exists_join_cons (c.write v) (more.map c.write)
    rw [List.map_cons, ht, hu, List.cons_append, List.cons_append] at hitems ⊢
    have hclose : ¬u = unit ']' := by
      rintro rfl
      exact absurd hopening (by decide)
    simp only [show ¬unit '[' = unit '"' by decide, if_true, if_false, skip_of_opening hopening,
      List.head?_cons, Option.some.injEq, hclose, hitems, Option.map_some]

theorem parseMembers_entry {f : JsString × JsonValue} (h : c.Reads f.2) {fuel : Nat}
    (hfuel : (c.entry f).length ≤ fuel + 1) (hrest : Ends rest) :
    c.parseMembers (fuel + 1) (c.entry f ++ rest) =
      match skip rest with
      | [] => none
      | u :: rest =>
        if u = unit ',' then (c.parseMembers fuel rest).map (fun q => (f :: q.1, q.2))
        else if u = unit '\x7d' then some ([f], rest)
        else none := by
  obtain ⟨body, hbody, hread⟩ := c.quote_eq f.1
  rw [entry, List.length_append, List.length_append] at hfuel
  rw [entry, List.append_assoc, List.append_assoc]
  change c.parseMembers (fuel + 1) (c.quote f.1 ++ unit ':' :: (c.write f.2 ++ rest)) = _
  have hvalue := h fuel rest hrest (by simp only [show (lit ":").length = 1 from rfl] at hfuel; omega)
  rw [hbody, List.cons_append, parseMembers, skip_of_opening (show isOpening (unit '"') by decide)]
  simp only [if_true, hread, Option.bind_some, skip_of_opening (show isOpening (unit ':') by decide),
    hvalue]

theorem Reads.member {f : JsString × JsonValue} (h : c.Reads f.2) :
    ReadsElement (unit '\x7d') c.entry c.parseMembers f where
  more fuel rest hfuel := by
    rw [parseMembers_entry h (by omega) (ends_cons (by decide))]
    rfl
  last fuel rest hfuel := by
    rw [parseMembers_entry h (by omega) (ends_cons (by decide))]
    rfl

theorem put_of_notMem {key : JsString}
    (h : key ∉ fields.map (·.1)) : put key v fields = fields ++ [(key, v)] := by
  induction fields with
  | nil => rfl
  | cons f more ih =>
    obtain ⟨other, w⟩ := f
    rw [List.map_cons, List.mem_cons, not_or] at h
    rw [put, if_neg (Ne.symm h.1), ih h.2]
    rfl

theorem assemble_of_nodup {members : JsonValue.Fields} (h : (members.map (·.1)).Nodup) :
    assemble members = members := by
  have hfold : ∀ front : JsonValue.Fields, ((front ++ members).map (·.1)).Nodup →
      members.foldl (fun fields f => put f.1 f.2 fields) front = front ++ members := by
    clear h
    induction members with
    | nil => simp
    | cons f more ih =>
      intro front hfront
      have hnew : f.1 ∉ front.map (·.1) := by
        rw [List.map_append, List.map_cons, List.nodup_append] at hfront
        intro hmem
        exact hfront.2.2 f.1 hmem f.1 List.mem_cons_self rfl
      rw [List.foldl_cons, put_of_notMem hnew, ih]
      · simp
      · simpa using hfront
  exact hfold [] h

theorem reads_obj (hnodup : (fields.map (·.1)).Nodup)
    (h : ∀ f ∈ fields, c.Reads f.2) : c.Reads (.obj fields) := by
  intro fuel rest hrest hfuel
  rw [write, writeEntries_eq_map] at hfuel ⊢
  simp only [List.length_append, show (lit "\x7b").length = 1 from rfl,
    show (lit "\x7d").length = 1 from rfl] at hfuel
  obtain ⟨fuel, rfl⟩ : ∃ n, fuel = n + 1 := ⟨fuel - 1, by omega⟩
  rw [List.append_assoc, List.append_assoc]
  change c.parseValue (fuel + 1)
    (unit '\x7b' :: (join (lit ",") (fields.map c.entry) ++ unit '\x7d' :: rest)) = _
  rw [parseValue, skip_of_opening (show isOpening (unit '\x7b') by decide)]
  cases fields with
  | nil => rfl
  | cons f more =>
    have hentries := reads_list (List.cons_ne_nil f more) (fun f hf => (h f hf).member) fuel rest
      (by omega)
    obtain ⟨body, hbody, _⟩ := c.quote_eq f.1
    obtain ⟨t, ht⟩ := exists_join_cons (c.entry f) (more.map c.entry)
    have hfirst : c.entry f = unit '"' :: (body ++ lit ":" ++ c.write f.2) := by
      rw [entry, hbody]
      rfl
    rw [List.map_cons, ht, hfirst, List.cons_append, List.cons_append] at hentries ⊢
    simp only [show ¬unit '\x7b' = unit '"' by decide, show ¬unit '\x7b' = unit '[' by decide,
      show ¬unit '"' = unit '\x7d' by decide, if_true, if_false,
      skip_of_opening (show isOpening (unit '"') by decide), List.head?_cons, Option.some.injEq,
      hentries, Option.map_some, assemble_of_nodup hnodup]

theorem reads_of_sound (h : c.Sound v) : c.Reads v := by
  induction v using JsonValue.nested with
  | null => exact reads_null
  | bool b => exact reads_bool b
  | num n =>
    obtain ⟨q, rfl, hq⟩ := h
    exact reads_num hq
  | str s => exact reads_str s
  | arr items ih =>
    rw [Sound, soundItems_iff] at h
    exact reads_arr h (fun v hv => ih v hv (h v hv))
  | obj fields ih =>
    rw [Sound, soundEntries_iff] at h
    exact reads_obj h.1 (fun f hf => ih f hf (h.2 f hf))

theorem parse_write (h : c.Sound v) : c.parse (c.write v) = some v := by
  have hread := reads_of_sound h ((c.write v).length + 1) [] nofun (by omega)
  rw [List.append_nil] at hread
  rw [parse, hread, Option.bind_some]
  rfl

theorem write_injOn {w : JsonValue} (hv : c.Sound v) (hw : c.Sound w) (h : c.write v = c.write w) :
    v = w := by
  have hparse := parse_write hv
  rw [h, parse_write hw] at hparse
  exact (Option.some.inj hparse).symm

end JsonCodec

end OptimiqVoice.Lib

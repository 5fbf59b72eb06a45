import Mathlib.Data.List.Basic
import Mathlib.Order.Basic

namespace OptimiqVoice.Lib

/-- One accepted write of a key: who wrote, in which capacity, and what the key
holds since (nothing after a deletion). -/
structure Commit (ι κ α : Type) where
  writer : ι
  kind : κ
  value : Option α

/-- Everything that was ever written to a key, the oldest first. -/
abbrev Ledger (ι κ α : Type) := List (Commit ι κ α)

inductive Write (α : Type) where
  | create (value : α)
  | update (value : α) (revision : Nat)
  | delete (revision : Nat)
deriving DecidableEq

def Write.value {α : Type} : Write α → Option α
  | create v => some v
  | update v _ => some v
  | delete _ => none

namespace Ledger

variable {ι κ α : Type} (l : Ledger ι κ α)

def revision : Nat := l.length

/-- The commit that made a revision. Revisions count from one. -/
def entry : Nat → Option (Commit ι κ α)
  | 0 => none
  | r + 1 => l[r]?

def current : Option α := l.getLast?.bind Commit.value

/-- The compare-and-set of each write. -/
def accepts : Write α → Bool
  | .create _ => l.current.isNone
  | .update _ r => r == l.revision
  | .delete r => r == l.revision

theorem entry_append {r : Nat} {c : Commit ι κ α} (h : l.entry r = some c) (more : List (Commit ι κ α)) :
    entry (l ++ more) r = some c := by
  cases r with
  | zero => cases h
  | succ r =>
    change (l ++ more)[r]? = some c
    rw [List.getElem?_append_left (List.getElem?_eq_some_iff.mp h).1]
    exact h

theorem entry_snoc (c : Commit ι κ α) : entry (l ++ [c]) (l.revision + 1) = some c :=
  List.getElem?_concat_length

theorem entry_revision : l.entry l.revision = l.getLast? := by
  cases hl : l.revision with
  | zero =>
    obtain rfl : l = [] := List.eq_nil_of_length_eq_zero hl
    rfl
  | succ n =>
    rw [List.getLast?_eq_getElem?]
    change l[n]? = l[l.length - 1]?
    rw [show l.length = n + 1 from hl, Nat.add_sub_cancel]

theorem current_eq {c : Commit ι κ α} (h : l.entry l.revision = some c) : l.current = c.value := by
  rw [entry_revision] at h
  simp [current, h]

end Ledger

inductive Request (κ α : Type) where
  | get
  | write (kind : κ) (write : Write α)
deriving DecidableEq

inductive Answer (α : Type) where
  | entry (found : Option (α × Nat))
  | written (revision : Nat)
  | deleted
  | conflict
deriving DecidableEq

/-- A request under way, with the number its answer will quote. -/
structure Call (ι κ α : Type) where
  id : Nat
  sender : ι
  request : Request κ α
deriving DecidableEq

/-- A key as its clients see it. A request is executed at any time after it was
sent, or never; an answer reaches its sender at any time after that, or never. -/
structure Broker (ι κ α : Type) where
  ledger : Ledger ι κ α := []
  wire : List (Call ι κ α) := []
  answers : List (Call ι κ α × Answer α) := []
  next : Nat := 0

namespace Broker

variable {ι κ α : Type} (b : Broker ι κ α)

def callOf (i : ι) (q : Request κ α) : Call ι κ α := ⟨b.next, i, q⟩

def send (i : ι) (q : Request κ α) : Broker ι κ α :=
  { b with wire := b.wire ++ [b.callOf i q], next := b.next + 1 }

def reply (l : Ledger ι κ α) (i : ι) : Request κ α → Ledger ι κ α × Answer α
  | .get => (l, .entry (l.current.map (·, l.revision)))
  | .write k w =>
    if l.accepts w then
      (l ++ [⟨i, k, w.value⟩], match w with | .delete _ => .deleted | _ => .written (l.revision + 1))
    else (l, .conflict)

variable (c : Call ι κ α)

def perform : Broker ι κ α :=
  { b with
    ledger := (reply b.ledger c.sender c.request).1
    wire := b.wire.filter (·.id != c.id)
    answers := (c, (reply b.ledger c.sender c.request).2) :: b.answers }

def execute (n : Nat) : Option (Broker ι κ α) :=
  (b.wire.find? (·.id == n)).map b.perform

def answerTo [DecidableEq ι] [DecidableEq κ] [DecidableEq α] : Option (Answer α) :=
  (b.answers.find? (·.1 == c)).map (·.2)

/-- The broker keeps faith: every write under way is one its sender may make of
the key as it stands, and every answer speaks of a commit that is there. `P` says
which writes may be made. -/
structure Faithful (P : Ledger ι κ α → ι → κ → Write α → Prop) : Prop where
  sent : ∀ c ∈ b.wire, ∀ k w, c.request = .write k w → P b.ledger c.sender k w
  written : ∀ c r, (c, .written r) ∈ b.answers → ∃ k w, c.request = .write k w ∧
    P b.ledger c.sender k w ∧ w.value.isSome ∧ b.ledger.entry r = some ⟨c.sender, k, w.value⟩
  found : ∀ c v r, (c, .entry (some (v, r))) ∈ b.answers →
    ∃ d, b.ledger.entry r = some d ∧ d.value = some v

variable {b} {b' : Broker ι κ α} {P : Ledger ι κ α → ι → κ → Write α → Prop}

theorem Faithful.mono {P' : Ledger ι κ α → ι → κ → Write α → Prop} (h : b.Faithful P)
    (hP : ∀ l i k w, P l i k w → P' l i k w) : b.Faithful P' where
  sent := fun c hc k w hw => hP _ _ _ _ (h.sent c hc k w hw)
  written := by
    intro c r hr
    obtain ⟨k, w, hq, hw, hv, he⟩ := h.written c r hr
    exact ⟨k, w, hq, hP _ _ _ _ hw, hv, he⟩
  found := h.found

variable {q : Request κ α}

theorem Faithful.send (h : b.Faithful P) {i : ι}
    (hq : ∀ k w, q = .write k w → P b.ledger i k w) : (b.send i q).Faithful P where
  sent := by
    intro c hc k w hw
    obtain hc | hc := List.mem_append.mp hc
    · exact h.sent c hc k w hw
    · obtain rfl := List.mem_singleton.mp hc
      exact hq k w hw
  written := h.written
  found := h.found

theorem execute_eq_some {n : Nat} (h : b.execute n = some b') : ∃ c ∈ b.wire, b' = b.perform c := by
  obtain ⟨c, hc, rfl⟩ := Option.map_eq_some_iff.mp h
  exact ⟨c, List.mem_of_find?_eq_some hc, rfl⟩

attribute [local simp] reply perform

theorem perform_ledger : (b.perform c).ledger = b.ledger ∨
    ∃ k w, c.request = .write k w ∧ b.ledger.accepts w ∧
      (b.perform c).ledger = b.ledger ++ [⟨c.sender, k, w.value⟩] := by
  cases hq : c.request with
  | get => exact .inl (by simp [hq])
  | write k w =>
    by_cases ha : b.ledger.accepts w
    · exact .inr ⟨k, w, rfl, ha, by simp [hq, ha]⟩
    · exact .inl (by simp [hq, ha])

theorem perform_grows : ∃ more, (b.perform c).ledger = b.ledger ++ more := by
  obtain h | ⟨k, w, -, -, h⟩ := b.perform_ledger c
  · exact ⟨[], by rw [h, List.append_nil]⟩
  · exact ⟨_, h⟩

theorem written_of_reply {l : Ledger ι κ α} {i : ι} {r : Nat} (h : .written r = (reply l i q).2) :
    ∃ k w, q = .write k w ∧ l.accepts w ∧ w.value.isSome ∧ r = l.revision + 1 := by
  cases q with
  | get => cases h
  | write k w =>
    by_cases ha : l.accepts w
    · cases w with
      | create v => exact ⟨k, .create v, rfl, ha, rfl, by simpa [ha] using h⟩
      | update v r' => exact ⟨k, .update v r', rfl, ha, rfl, by simpa [ha] using h⟩
      | delete r' => simp [ha] at h
    · simp [ha] at h

theorem found_of_reply {l : Ledger ι κ α} {i : ι} {v : α} {r : Nat}
    (h : .entry (some (v, r)) = (reply l i q).2) : ∃ c, l.entry r = some c ∧ c.value = some v := by
  cases q with
  | get =>
    obtain ⟨hv, rfl⟩ : l.current = some v ∧ l.revision = r := by
      simpa [Option.map_eq_some_iff] using h.symm
    obtain ⟨c, hc, hcv⟩ := Option.bind_eq_some_iff.mp hv
    exact ⟨c, l.entry_revision.trans hc, hcv⟩
  | write k w =>
    by_cases ha : l.accepts w
    · cases w <;> simp [ha] at h
    · simp [ha] at h

theorem Faithful.perform (h : b.Faithful P) (hP : ∀ l more i k w, P l i k w → P (l ++ more) i k w)
    {c : Call ι κ α} (hc : c ∈ b.wire) : (b.perform c).Faithful P := by
  obtain ⟨more, hmore⟩ := b.perform_grows c
  refine ⟨?_, ?_, ?_⟩
  · intro d hd k w hw
    rw [hmore]
    exact hP _ _ _ _ _ (h.sent d (List.mem_of_mem_filter hd) k w hw)
  · intro d r hr
    obtain hnew | hr := List.mem_cons.mp hr
    · obtain ⟨rfl, hans⟩ := Prod.mk.inj hnew
      obtain ⟨k, w, hq, ha, hw, rfl⟩ := written_of_reply hans
      refine ⟨k, w, hq, hmore ▸ hP _ _ _ _ _ (h.sent d hc k w hq), hw, ?_⟩
      simpa [Broker.perform, hq, ha] using b.ledger.entry_snoc _
    · obtain ⟨k, w, hq, hw, hv, he⟩ := h.written d r hr
      exact ⟨k, w, hq, hmore ▸ hP _ _ _ _ _ hw, hv, hmore ▸ b.ledger.entry_append he more⟩
  · intro d v r hr
    obtain hnew | hr := List.mem_cons.mp hr
    · obtain ⟨e, he, hv⟩ := found_of_reply (Prod.mk.inj hnew).2
      exact ⟨e, hmore ▸ b.ledger.entry_append he more, hv⟩
    · obtain ⟨e, he, hv⟩ := h.found d v r hr
      exact ⟨e, hmore ▸ b.ledger.entry_append he more, hv⟩

theorem answerTo_mem [DecidableEq ι] [DecidableEq κ] [DecidableEq α] {c : Call ι κ α} {a : Answer α}
    (h : b.answerTo c = some a) : (c, a) ∈ b.answers := by
  obtain ⟨⟨c', a'⟩, ha, rfl⟩ := Option.map_eq_some_iff.mp h
  have hp := List.find?_some ha
  obtain rfl : c' = c := by simpa using hp
  exact List.mem_of_find?_eq_some ha

end Broker

end OptimiqVoice.Lib

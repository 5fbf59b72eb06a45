import Mathlib.Data.Finset.Basic
import Mathlib.Data.Multiset.AddSub

namespace OptimiqVoice.Mediad

/-- Hands out RTP/RTCP port pairs, each named by its even port. -/
structure Allocator where
  (low high : Nat)
  inUse : Finset Nat
  cursor : Nat

namespace Allocator

inductive RangeError
  | oddStart
  | emptyRange
  | noPair

def newAllocator (low high : Nat) : Except RangeError Allocator :=
  if low % 2 ≠ 0 then .error .oddStart
  else if low > high then .error .emptyRange
  else if (high - low + 1) / 2 = 0 then .error .noPair
  else .ok ⟨low, high, ∅, low⟩

def capacity (a : Allocator) : Nat := (a.high - a.low + 1) / 2

def advance (a : Allocator) : Allocator :=
  { a with cursor := if a.cursor + 2 + 1 > a.high then a.low else a.cursor + 2 }

variable (binds : Nat → Bool)

def bindPair (port : Nat) : Bool := binds port && binds (port + 1)

/-- The loop of `Allocate` with the given number of attempts left. -/
def search (binds : Nat → Bool) : Nat → Allocator → Option Nat × Allocator
  | 0, a => (none, a)
  | attempts + 1, a =>
    if a.cursor ∈ a.inUse then search binds attempts a.advance
    else if bindPair binds a.cursor then
      (some a.cursor, { a.advance with inUse := insert a.cursor a.inUse })
    else search binds attempts a.advance

def allocate (a : Allocator) : Option Nat × Allocator :=
  a.search binds a.capacity

def release (port : Nat) (a : Allocator) : Allocator := { a with inUse := a.inUse.erase port }

theorem search_spec (attempts : Nat) (a : Allocator) :
    match (a.search binds attempts).1 with
    | none => (a.search binds attempts).2.inUse = a.inUse
    | some port => port ∉ a.inUse ∧ (a.search binds attempts).2.inUse = insert port a.inUse := by
  induction attempts generalizing a with
  | zero => rfl
  | succ attempts ih =>
    rw [search]
    split_ifs with htaken hbound
    · exact ih a.advance
    · exact ⟨htaken, rfl⟩
    · exact ih a.advance

theorem allocate_some {binds : Nat → Bool} {a : Allocator} {port : Nat}
    (h : (a.allocate binds).1 = some port) :
    (a.allocate binds).2.inUse.val = port ::ₘ a.inUse.val := by
  have hspec := search_spec binds a.capacity a
  rw [allocate] at h
  rw [h] at hspec
  rw [allocate, hspec.2, Finset.insert_val_of_notMem hspec.1]

theorem allocate_none {binds : Nat → Bool} {a : Allocator} (h : (a.allocate binds).1 = none) :
    (a.allocate binds).2.inUse = a.inUse := by
  have hspec := search_spec binds a.capacity a
  rw [allocate] at h
  rw [h] at hspec
  exact hspec

end Allocator

end OptimiqVoice.Mediad

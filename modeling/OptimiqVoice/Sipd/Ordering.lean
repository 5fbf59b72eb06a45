import OptimiqVoice.Sipd.AccountKeys

namespace OptimiqVoice.Sipd

open Lib

namespace Registrar

variable (r : Registrar)

/-- A REGISTER that is handled while no other is: its message, when its nonce was
checked and when it was begun, the instance that handles it, and how its operations go. -/
structure Arrival where
  req : Request
  (checked start : Int)
  tracked : Dict GoString Copy
  script : List (Int × Outcome)

def Arrival.handled (a : Arrival) (s : Store) : Store × List Effect :=
  r.handle a.checked a.start a.req a.script s a.tracked

/-- Requests are handled one after another. -/
def step (s : Store) (a : Arrival) : Option Store := some (a.handled r s).1

/-- The binding under the address and the account of a request. -/
def found (a : Arrival) (s : Store) : Option Binding := do
  let h ← (r.begin a.checked a.start a.req).toOption
  let (orgId, aorHash) ← h.parts
  let key ← (registrationKVKey orgId aorHash).toOption
  (s.bindings.get? key).map Copy.binding

/-- The request takes a named contact off its address. -/
def Removes (req : Request) (contact : ContactHeader) : Prop :=
  req.contacts.head? = some (some contact) ∧ contact.wildcard = false ∧
    r.expiry.grant ((contactExpires r.auth.runtime contact (expiresHeader r.auth.runtime req)).getD 0)
      (contactExpires r.auth.runtime contact (expiresHeader r.auth.runtime req)).isSome = some 0

/-- What a request does to the binding it finds, and announces. -/
structure KeepsOrder (s : Store) (a : Arrival) : Prop where
  older : ∀ b ∈ r.found a s, a.req.callId = b.callId → a.req.cseq.getD 0 ≤ b.cseq →
    r.found a (a.handled r s).1 = some b
  removal : ∀ b ∈ r.found a s, ∀ contact, r.Removes a.req contact →
    r.found a (a.handled r s).1 ≠ some b → b.contact = contact.address
  refreshed : ∀ b time, .registered b true time ∈ (a.handled r s).2 →
    ∃ b' ∈ r.found a s, b'.expired time = false

/-- What is asked of a request: it is newer than the binding in place if it is of the
same dialog, it takes off no other contact, and the binding has not lapsed. -/
structure InSequence (s : Store) (a : Arrival) : Prop where
  newer : ∀ b ∈ r.found a s, a.req.callId = b.callId → b.cseq < a.req.cseq.getD 0
  named : ∀ b ∈ r.found a s, ∀ contact, r.Removes a.req contact → b.contact = contact.address
  live : ∀ b ∈ r.found a s, b.expired a.start = false

end Registrar

/-- What a handling is going to say of the binding it stores. -/
def Handling.existed : Handling → Option (Bool × Int)
  | .storing _ existed start | .tracking _ existed start | .announcing _ existed start =>
    some (existed, start)
  | _ => none

def Handling.isReading : Handling → Bool
  | .reading .. => true
  | _ => false

namespace Registrar

variable {r : Registrar} {script : List (Int × Outcome)} {s : Store} {tracked : Dict GoString Copy}
variable {h : Handling} {b : Binding} {refreshed : Bool} {time : Int}

theorem advance_registered {now : Int} {o : Outcome}
    (hb : .registered b refreshed time ∈ (r.advance now o s tracked h).effects) :
    h.existed = some (refreshed, time) := by
  unfold advance at hb
  split at hb <;> (try split at hb) <;> (try split at hb) <;> simp_all [Handling.existed]

theorem advance_next {now : Int} {o : Outcome} {h' : Handling}
    (hn : (r.advance now o s tracked h).next = some h') :
    h'.isReading = false ∧ (h'.existed = h.existed ∨
      ∃ req credential aor aorHash contact granted start found,
        h = .reading req credential aor aorHash contact granted start ∧
        s.get o credential.orgId aorHash = some found ∧ h'.existed = some (found.isSome, start)) := by
  unfold advance at hn
  split at hn
  · next req credential aor aorHash contact granted start =>
    split at hn
    · cases hn
    · next found hfound =>
      cases hn
      exact ⟨rfl, .inr ⟨req, credential, aor, aorHash, contact, granted, start, found, rfl, hfound, rfl⟩⟩
  all_goals
    (try split at hn) <;> cases hn <;> exact ⟨rfl, .inl rfl⟩

theorem serve_registered (hb : .registered b refreshed time ∈ (r.serve script s tracked h).2) :
    h.existed = some (refreshed, time) ∨ ∃ req credential aor aorHash contact granted o found,
      h = .reading req credential aor aorHash contact granted time ∧
      s.get o credential.orgId aorHash = some found ∧ found.isSome = refreshed := by
  induction script generalizing s tracked h with
  | nil => cases hb
  | cons op rest ih =>
    rw [serve] at hb
    cases hnext : (r.advance op.1 op.2 s tracked h).next with
    | none =>
      rw [hnext] at hb
      exact .inl (advance_registered hb)
    | some h' =>
      rw [hnext] at hb
      obtain hb | hb := List.mem_append.mp hb
      · exact .inl (advance_registered hb)
      · obtain ⟨hreading, hexisted⟩ := advance_next hnext
        obtain he | ⟨req, credential, aor, aorHash, contact, granted, o, found, rfl, -⟩ := ih hb
        · obtain hsame | ⟨req, credential, aor, aorHash, contact, granted, start, found, rfl, hfound, hnew⟩ :=
            hexisted
          · exact .inl (hsame ▸ he)
          · cases he.symm.trans hnew
            exact .inr ⟨req, credential, aor, aorHash, contact, granted, op.2, found, rfl, hfound, rfl⟩
        · cases hreading

theorem keepsOrder_of_inSequence {a : Arrival} (hin : r.InSequence s a) : r.KeepsOrder s a where
  older b hb hcall hcseq := absurd (hin.newer b hb hcall) (not_lt.mpr hcseq)
  removal b hb contact hremoves _ := hin.named b hb contact hremoves
  refreshed b time hb := by
    rw [Arrival.handled, handle] at hb
    cases hbegin : r.begin a.checked a.start a.req with
    | error res =>
      rw [hbegin] at hb
      simp at hb
    | ok h =>
      rw [hbegin] at hb
      have hstart : h.existed = none ∧ ∀ req credential aor aorHash contact granted time,
          h = .reading req credential aor aorHash contact granted time → time = a.start := by
        unfold begin at hbegin
        split at hbegin <;> cases hbegin
        · exact ⟨rfl, by simp⟩
        · exact ⟨rfl, by simp⟩
        · exact ⟨rfl, fun _ _ _ _ _ _ _ h => by cases h; rfl⟩
      obtain he | ⟨req, credential, aor, aorHash, contact, granted, o, found, rfl, hget, hfound⟩ :=
        serve_registered hb
      · cases hstart.1.symm.trans he
      · obtain rfl := hstart.2 _ _ _ _ _ _ _ rfl
        obtain ⟨copy, rfl⟩ := Option.isSome_iff_exists.mp hfound
        unfold Store.get at hget
        split at hget
        · next key hkey =>
          have hfound : r.found a s = some copy.binding := by
            simp [Registrar.found, hbegin, Handling.parts, hkey, Except.toOption, Option.some.inj hget]
          exact ⟨copy.binding, hfound, hin.live _ hfound⟩
        · cases hget

section sample

/-- The device of the sample registers a contact. -/
def sampleArrival (contact : Char) (cseq : Nat) : Arrival where
  req := { sampleRequest alUri with contacts := [some ⟨[contact], false, []⟩], cseq := some cseq }
  checked := 0
  start := 0
  tracked := Dict.empty
  script := List.replicate 4 (0, .ok)

end sample

end Registrar

end OptimiqVoice.Sipd

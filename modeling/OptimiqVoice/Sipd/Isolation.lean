import OptimiqVoice.Sipd.Address
import OptimiqVoice.Sipd.Location

namespace OptimiqVoice.Sipd

open Lib

namespace Registrar

variable (r : Registrar)

/-- A handling left to itself, with the clock and the outcome of each operation. Where
the list ends the process died. -/
def serve : List (Int × Outcome) → Store → Dict GoString Copy → Handling → Store × List Effect
  | [], s, _, _ => (s, [])
  | (now, o) :: rest, s, tracked, h =>
    let turn := r.advance now o s tracked h
    match turn.next with
    | none => (turn.store, turn.effects)
    | some h' =>
      let (s', effects) := serve rest turn.store turn.tracked h'
      (s', turn.effects ++ effects)

def handle (checked start : Int) (req : Request) (script : List (Int × Outcome)) (s : Store)
    (tracked : Dict GoString Copy) : Store × List Effect :=
  match r.begin checked start req with
  | .error res => (s, [.respond res])
  | .ok h => r.serve script s tracked h

/-- Two buckets that agree on every key but one. -/
def SameBut (key : GoString) (s s' : Store) : Prop :=
  s.revision = s'.revision ∧ ∀ k, k ≠ key → s.bindings.get? k = s'.bindings.get? k

/-- The request leaves the key as it is, and what it says and announces is the same
whatever the key holds. -/
def Isolates (checked start : Int) (req : Request) (key : GoString) : Prop :=
  ∀ script s s' tracked, SameBut key s s' →
    (r.handle checked start req script s tracked).1.bindings.get? key = s.bindings.get? key ∧
      (r.handle checked start req script s tracked).2 = (r.handle checked start req script s' tracked).2

/-- The key of an account's binding under an address. -/
def ReachedThrough (account : Credential) (uri : SipUri) (key : GoString) : Prop :=
  ∃ hash, aorSubjectToken r.auth.runtime (uri.aor r.auth.runtime) = .ok hash ∧
    registrationKVKey account.orgId hash = .ok key

/-- The Contact and Expires headers ask for something the registrar does. -/
def Actionable (req : Request) : Prop :=
  match req.contacts with
  | [] => True
  | none :: _ => False
  | some contact :: _ =>
    let header := expiresHeader r.auth.runtime req
    if contact.wildcard then header = some 0
    else
      let requested := contactExpires r.auth.runtime contact header
      r.expiry.grant (requested.getD 0) requested.isSome ≠ none

end Registrar

def Handling.parts : Handling → Option (GoString × GoString)
  | .reading _ credential _ aorHash _ _ _ => some (credential.orgId, aorHash)
  | .storing binding _ _ => some (binding.orgId, binding.aorHash)
  | .tracking _ _ _ => none
  | .announcing _ _ _ => none
  | .looking credential aorHash => some (credential.orgId, aorHash)
  | .deleting credential aorHash _ => some (credential.orgId, aorHash)
  | .untracking _ _ _ => none
  | .withdrawing _ => none
  | .querying orgId aorHash => some (orgId, aorHash)

/-- The handling works on no key, or on another one. -/
def Handling.Off (key : GoString) (h : Handling) : Prop :=
  ∀ org hash, h.parts = some (org, hash) → registrationKVKey org hash ≠ .ok key

namespace Store

variable {s s' : Store} {key org hash : GoString} {o : Outcome}

theorem get_eq_of_off (hk : registrationKVKey org hash ≠ .ok key) (h : Registrar.SameBut key s s') :
    s.get o org hash = s'.get o org hash := by
  cases hr : registrationKVKey org hash with
  | error e => simp [get, hr]
  | ok k =>
    have hne : k ≠ key := fun he => hk (he ▸ hr)
    cases o with
    | ok => simp [get, hr, h.2 k hne]
    | failed a => simp [get, hr]

attribute [local simp] put

theorem put_sameBut {b : Binding} (hk : b.key ≠ .ok key) (h : Registrar.SameBut key s s') :
    Registrar.SameBut key (s.put o b) (s'.put o b) ∧
      (s.put o b).bindings.get? key = s.bindings.get? key := by
  cases hr : b.key with
  | error e => simpa [hr] using h
  | ok k =>
    have hne : k ≠ key := fun he => hk (he ▸ hr)
    by_cases ha : o.applied
    · refine ⟨⟨by simp [hr, ha, h.1], fun j hj => ?_⟩, by simp [hr, ha, Dict.get?_set, hne]⟩
      by_cases hkj : k = j
      · simp [hr, ha, hkj, copy, h.1]
      · simp [hr, ha, Dict.get?_set, hkj, h.2 j hj]
    · simpa [hr, ha] using h

attribute [local simp] delete

theorem delete_sameBut (hk : registrationKVKey org hash ≠ .ok key) (h : Registrar.SameBut key s s') :
    Registrar.SameBut key (s.delete o org hash) (s'.delete o org hash) ∧
      (s.delete o org hash).bindings.get? key = s.bindings.get? key := by
  cases hr : registrationKVKey org hash with
  | error e => simpa [hr] using h
  | ok k =>
    have hne : k ≠ key := fun he => hk (he ▸ hr)
    by_cases ha : o.applied
    · refine ⟨⟨by simp [hr, ha, h.1], fun j hj => ?_⟩, by simp [hr, ha, Dict.get?_erase, hne]⟩
      simp [hr, ha, Dict.get?_erase, h.2 j hj]
    · simpa [hr, ha] using h

end Store

namespace Registrar

variable {r : Registrar} {key : GoString} {s s' : Store} {tracked : Dict GoString Copy}

/-- Two turns in buckets that agree but for the key: they do the same, leave buckets that
agree but for it, and touch it in neither. -/
structure Apart (key : GoString) (s : Store) (a b : Turn) : Prop where
  store : SameBut key a.store b.store
  unchanged : a.store.bindings.get? key = s.bindings.get? key
  tracked : a.tracked = b.tracked
  next : a.next = b.next
  effects : a.effects = b.effects
  off : ∀ h, a.next = some h → h.Off key

theorem advance_apart (tracked : Dict GoString Copy) {h : Handling} (hoff : h.Off key) (hs : SameBut key s s') (now : Int) (o : Outcome) :
    Apart key s (r.advance now o s tracked h) (r.advance now o s' tracked h) := by
  have hover : ∀ h : Handling, none = some h → h.Off key := nofun
  have hfree : ∀ {h' : Handling}, h'.parts = none → ∀ h, some h' = some h → h.Off key := by
    rintro h' hnone _ ⟨⟩ org hash hparts
    rw [hnone] at hparts
    cases hparts
  cases h with
  | reading req credential aor aorHash contact granted start =>
    have hk := hoff _ _ rfl
    simp only [advance, Store.get_eq_of_off (o := o) hk hs]
    cases s'.get o credential.orgId aorHash with
    | none => exact ⟨hs, rfl, rfl, rfl, rfl, hover⟩
    | some found =>
      refine ⟨hs, rfl, rfl, rfl, rfl, ?_⟩
      rintro h ⟨⟩ org hash ⟨⟩
      exact hk
  | storing binding existed start =>
    obtain ⟨hput, hkey⟩ := Store.put_sameBut (o := o) (b := binding) (hoff _ _ rfl) hs
    simp only [advance, Store.copy, hs.1]
    split_ifs
    · exact ⟨hput, hkey, rfl, rfl, rfl, hfree rfl⟩
    · exact ⟨hput, hkey, rfl, rfl, rfl, hover⟩
  | tracking copy existed start =>
    simp only [advance]
    cases copy.binding.key <;> exact ⟨hs, rfl, rfl, rfl, rfl, hfree rfl⟩
  | announcing _ _ _ | withdrawing _ => exact ⟨hs, rfl, rfl, rfl, rfl, hover⟩
  | looking credential aorHash =>
    have hk := hoff _ _ rfl
    simp only [advance, Store.get_eq_of_off (o := o) hk hs]
    cases s'.get o credential.orgId aorHash with
    | none => exact ⟨hs, rfl, rfl, rfl, rfl, hover⟩
    | some found =>
      refine ⟨hs, rfl, rfl, rfl, rfl, ?_⟩
      rintro h ⟨⟩ org hash ⟨⟩
      exact hk
  | deleting credential aorHash previous =>
    obtain ⟨hdel, hkey⟩ := Store.delete_sameBut (o := o) (hoff _ _ rfl) hs
    simp only [advance]
    split_ifs
    · exact ⟨hdel, hkey, rfl, rfl, rfl, hfree rfl⟩
    · exact ⟨hdel, hkey, rfl, rfl, rfl, hover⟩
  | untracking credential aorHash previous =>
    simp only [advance]
    cases registrationKVKey credential.orgId aorHash <;> exact ⟨hs, rfl, rfl, rfl, rfl, hfree rfl⟩
  | querying orgId aorHash =>
    simp only [advance, Store.get_eq_of_off (o := o) (hoff _ _ rfl) hs]
    split <;> exact ⟨hs, rfl, rfl, rfl, rfl, hover⟩

attribute [local simp] serve

theorem serve_apart (tracked : Dict GoString Copy) {h : Handling} (hoff : h.Off key) (hs : SameBut key s s')
    (script : List (Int × Outcome)) :
    (r.serve script s tracked h).1.bindings.get? key = s.bindings.get? key ∧
      (r.serve script s tracked h).2 = (r.serve script s' tracked h).2 := by
  induction script generalizing s s' tracked h with
  | nil => exact ⟨rfl, rfl⟩
  | cons e rest ih =>
    obtain ⟨now, o⟩ := e
    have hturn := advance_apart (r := r) tracked hoff hs now o
    cases hn : (r.advance now o s tracked h).next with
    | none =>
      have hn' := hturn.next ▸ hn
      simpa [hn, hn', hturn.effects] using hturn.unchanged
    | some h' =>
      have hn' := hturn.next ▸ hn
      obtain ⟨hkey, heff⟩ := ih (r.advance now o s tracked h).tracked
        (hturn.off h' hn) hturn.store
      refine ⟨?_, ?_⟩
      · simpa [hn] using hkey.trans hturn.unchanged
      · rw [hturn.tracked] at heff
        simp [hn, hn', hturn.effects, heff, hturn.tracked]

theorem aorSubjectToken_aor (p : Runtime) (uri : SipUri) :
    aorSubjectToken p (uri.aor p) = .ok ((p.sha256hex (normalized p (uri.aor p))).take 32) := by
  have hne : ¬(normalized p (uri.aor p)).isEmpty := by simp [SipUri.normalized_aor]
  rw [aorSubjectToken, if_neg hne]

section request

variable {checked start : Int} {req : Request} {uri : SipUri} {a b : Credential} {aor hash : GoString}

theorem handleRegister_eq (hto : req.to_ = some uri) (huser : uri.user ≠ []) (hhost : uri.host ≠ [])
    (ha : r.authorize checked req uri.user = .ok a) :
    r.handleRegister checked req = r.placed req a (uri.aor r.auth.runtime)
      ((r.auth.runtime.sha256hex (normalized r.auth.runtime (uri.aor r.auth.runtime))).take 32) := by
  have haor : addressOfRecord r.auth.runtime req = some (uri.aor r.auth.runtime, uri.user) := by
    simp [addressOfRecord, hto, huser, hhost]
  simp [handleRegister, haor, ha, aorSubjectToken_aor]

attribute [local simp] Actionable placed

theorem placed_of_not_actionable (a : Credential) (aor hash : GoString) (h : ¬r.Actionable req) :
    ∃ res, r.placed req a aor hash = .reply res := by
  cases hc : req.contacts with
  | nil => simp [hc] at h
  | cons contact rest =>
    cases contact with
    | none => simp [hc]
    | some contact =>
      by_cases hw : contact.wildcard
      · have hne : expiresHeader r.auth.runtime req ≠ some 0 := by simpa [hc, hw] using h
        simp [hc, hw, hne]
      · have hg : r.expiry.grant
            ((contactExpires r.auth.runtime contact (expiresHeader r.auth.runtime req)).getD 0)
            (contactExpires r.auth.runtime contact (expiresHeader r.auth.runtime req)).isSome = none := by
          simpa [hc, hw] using h
        simp [hc, hw, hg]

theorem placed_of_actionable (a : Credential) (aor hash : GoString) (h : r.Actionable req) :
    r.placed req a aor hash = .query a.orgId hash ∨
    r.placed req a aor hash = .unbind a aor hash ∨
    ∃ contact granted, r.placed req a aor hash = .bind a aor hash contact granted := by
  cases hc : req.contacts with
  | nil => exact .inl (by simp [hc])
  | cons contact rest =>
    cases contact with
    | none => simp [hc] at h
    | some contact =>
      by_cases hw : contact.wildcard
      · have he : expiresHeader r.auth.runtime req = some 0 := by simpa [hc, hw] using h
        exact .inr (.inl (by simp [hc, hw, he]))
      · have hg : r.expiry.grant
            ((contactExpires r.auth.runtime contact (expiresHeader r.auth.runtime req)).getD 0)
            (contactExpires r.auth.runtime contact (expiresHeader r.auth.runtime req)).isSome ≠ none := by
          simpa [hc, hw] using h
        obtain ⟨granted, hg⟩ := Option.ne_none_iff_exists'.mp hg
        by_cases hz : granted = 0
        · exact .inr (.inl (by simp [hc, hw, hg, hz]))
        · exact .inr (.inr ⟨contact, granted, by simp [hc, hw, hg, hz]⟩)

theorem begin_off (start : Int) (hv : ∃ aor hash, r.handleRegister checked req = r.placed req a aor hash ∧
      registrationKVKey a.orgId hash ≠ .ok key) :
    (∃ res, r.begin checked start req = .error res) ∨
      ∃ h, r.begin checked start req = .ok h ∧ h.Off key := by
  obtain ⟨aor, hash, hv, hk⟩ := hv
  by_cases hact : r.Actionable req
  · have hoff : ∀ org hash', some (a.orgId, hash) = some (org, hash') → registrationKVKey org hash' ≠ .ok key := by
      rintro org hash' ⟨⟩
      exact hk
    obtain hp | hp | ⟨contact, granted, hp⟩ := placed_of_actionable a aor hash hact
    · exact .inr ⟨.querying a.orgId hash, by rw [begin, hv, hp], hoff⟩
    · exact .inr ⟨.looking a hash, by rw [begin, hv, hp], hoff⟩
    · exact .inr ⟨.reading req a aor hash contact granted start, by rw [begin, hv, hp], hoff⟩
  · obtain ⟨res, hp⟩ := placed_of_not_actionable a aor hash hact
    exact .inl ⟨res, by rw [begin, hv, hp]⟩

theorem isolates_of_off (hv : ∃ aor hash, r.handleRegister checked req = r.placed req a aor hash ∧
      registrationKVKey a.orgId hash ≠ .ok key) : r.Isolates checked start req key := by
  intro script s s' tracked hs
  obtain ⟨res, hb⟩ | ⟨h, hb, hoff⟩ := begin_off start hv
  · simp [handle, hb]
  · simpa [handle, hb] using serve_apart _ hoff hs script

theorem isolates_of_not_actionable (hv : ∃ aor hash, r.handleRegister checked req = r.placed req a aor hash)
    (h : ¬r.Actionable req) : r.Isolates checked start req key := by
  intro script s s' tracked hs
  obtain ⟨aor, hash, hv⟩ := hv
  obtain ⟨res, hp⟩ := placed_of_not_actionable a aor hash h
  have hb : r.begin checked start req = .error res := by rw [begin, hv, hp]
  simp [handle, hb]

theorem not_isolates (hv : r.handleRegister checked req = r.placed req a aor hash)
    (hk : registrationKVKey a.orgId hash = .ok key) (h : r.Actionable req) :
    ¬r.Isolates checked start req key := by
  intro hiso
  let empty : Store := ⟨Dict.empty, 0⟩
  obtain hp | hp | ⟨contact, granted, hp⟩ := placed_of_actionable a aor hash h
  · let held : Binding := r.bindingFor req a aor hash ⟨[], false, []⟩ 0 0 none
    have hb : r.begin checked start req = .ok (.querying a.orgId hash) := by rw [begin, hv, hp]
    have hsame : SameBut key ⟨Dict.empty.set key ⟨held, 0⟩, 0⟩ empty :=
      ⟨rfl, fun k hne => Dict.get?_set_of_ne _ _ (Ne.symm hne)⟩
    have heff := (hiso [(0, .ok)] _ _ Dict.empty hsame).2
    by_cases hu : r.parsesUri held.contact <;>
      simp [handle, hb, advance, Store.get, hk, empty, okWithBinding, hu, ok, respond] at heff
  · let held : Binding := r.bindingFor req a aor hash ⟨[], false, []⟩ 0 0 none
    have hb : r.begin checked start req = .ok (.looking a hash) := by rw [begin, hv, hp]
    have hacc : Outcome.ok.accepted a.orgId hash := Outcome.accepted_ok hk
    have hkey := (hiso [(0, .ok), (0, .ok)] ⟨Dict.empty.set key ⟨held, 0⟩, 0⟩ _ Dict.empty ⟨rfl, fun _ _ => rfl⟩).1
    simp [handle, hb, advance, Store.get, hk, hacc, Store.delete, Outcome.applied, Dict.get?_erase] at hkey
  · have hb : r.begin checked start req = .ok (.reading req a aor hash contact granted start) := by
      rw [begin, hv, hp]
    have hacc : Outcome.ok.accepted a.orgId hash := Outcome.accepted_ok hk
    have hkey := (hiso [(0, .ok), (0, .ok)] empty _ Dict.empty ⟨rfl, fun _ _ => rfl⟩).1
    simp [handle, hb, advance, Store.get, hk, hacc, empty, Store.put, Binding.key, bindingFor,
      Outcome.applied] at hkey

end request

end Registrar

end OptimiqVoice.Sipd

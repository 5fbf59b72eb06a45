import OptimiqVoice.Sipd.Fleet
import OptimiqVoice.Sipd.Isolation

namespace OptimiqVoice.Sipd

open Lib

namespace Registrar

variable {r : Registrar}

/-- Every account registers one address, up to the case of its letters and outer blanks. -/
def OneAddress {ι : Type} (r : Registrar) (home : GoString → GoString) (_ : Edge ι) : EdgeEvent ι → Prop
  | .register _ _ checked req => req.contacts ≠ [] → ∀ uri account, req.to_ = some uri →
      r.authorize checked req uri.user = .ok account →
      normalized r.auth.runtime (uri.aor r.auth.runtime) = home account.username
  | _ => True

def HoldsKey {ι : Type} (r : Registrar) (e : Edge ι) (name key : GoString) : Prop :=
  ∃ (copy : Copy) (uri : SipUri) (account : Credential), e.store.bindings.get? key = some copy ∧
    copy.binding.aor = uri.aor r.auth.runtime ∧ r.lookup uri.user = .ok account ∧ account.username = name

/-- The parts of a binding are those of an account under its one address. -/
def Homed (r : Registrar) (home : GoString → GoString) (orgId aor aorHash : GoString) : Prop :=
  ∃ (uri : SipUri) (account : Credential), aor = uri.aor r.auth.runtime ∧ r.lookup uri.user = .ok account ∧
    orgId = account.orgId ∧ aorHash = (r.auth.runtime.sha256hex (home account.username)).take 32

def HomedHandling (r : Registrar) (home : GoString → GoString) : Handling → Prop
  | .reading _ credential aor aorHash _ _ _ => Homed r home credential.orgId aor aorHash
  | .storing binding _ _ => Homed r home binding.orgId binding.aor binding.aorHash
  | _ => True

def HomedTask (r : Registrar) (home : GoString → GoString) : Task → Prop
  | .handling h => HomedHandling r home h
  | _ => True

def HomedStore (r : Registrar) (home : GoString → GoString) (s : Store) : Prop :=
  ∀ key copy, s.bindings.get? key = some copy → copy.binding.key = .ok key ∧
    Homed r home copy.binding.orgId copy.binding.aor copy.binding.aorHash

structure HomedEdge {ι : Type} (r : Registrar) (home : GoString → GoString) (e : Edge ι) : Prop where
  stored : HomedStore r home e.store
  tasks : ∀ i n t, (e.instances i).tasks.get? n = some t → HomedTask r home t

section accounts

variable {ι : Type} [DecidableEq ι] {home : GoString → GoString} {e e' : Edge ι}
variable {checked start : Int} {req : Request} {uri : SipUri} {a : Credential}

theorem lookup_of_authorize {user : GoString} (h : r.authorize checked req user = .ok a) :
    r.lookup user = .ok a := by
  unfold authorize at h
  split at h
  · cases h
  · cases h
  · split at h
    · cases h
    · split at h
      · cases h
      · split at h
        · cases h
        · next hu =>
          obtain rfl := not_not.mp hu
          split at h
          · cases h
          · next c hc =>
            split at h
            · cases h
            · cases h
            · cases h
              exact hc

theorem placed_bind {credential : Credential} {aor aor' hash hash' : GoString} {contact : ContactHeader}
    {granted : Int} (h : r.placed req a aor hash = .bind credential aor' hash' contact granted) :
    credential = a ∧ aor' = aor ∧ hash' = hash ∧ req.contacts ≠ [] := by
  have hc : req.contacts ≠ [] := by
    intro hc
    rw [placed, hc] at h
    cases h
  by_cases hact : r.Actionable req
  · obtain hp | hp | ⟨contact', granted', hp⟩ := placed_of_actionable a aor hash hact
    · cases hp.symm.trans h
    · cases hp.symm.trans h
    · cases hp.symm.trans h
      exact ⟨rfl, rfl, rfl, hc⟩
  · obtain ⟨res, hp⟩ := placed_of_not_actionable a aor hash hact
    cases hp.symm.trans h

theorem handleRegister_bind {aor aorHash : GoString} {contact : ContactHeader} {granted : Int}
    (h : r.handleRegister checked req = .bind a aor aorHash contact granted) :
    ∃ uri : SipUri, req.to_ = some uri ∧ aor = uri.aor r.auth.runtime ∧
      r.authorize checked req uri.user = .ok a ∧ req.contacts ≠ [] ∧
      aorHash = (r.auth.runtime.sha256hex (normalized r.auth.runtime aor)).take 32 := by
  unfold handleRegister at h
  split at h
  · cases h
  · next aor' user haor =>
    obtain ⟨uri, huri, haor⟩ := Option.bind_eq_some_iff.mp haor
    obtain ⟨-, haor⟩ := Option.ite_none_left_eq_some.mp haor
    cases haor
    split at h
    · cases h
    · next account haccount =>
      rw [aorSubjectToken_aor] at h
      obtain ⟨rfl, rfl, rfl, hc⟩ := placed_bind h
      exact ⟨uri, huri, rfl, haccount, hc, rfl⟩

variable {i : ι} {n : Nat}

omit [DecidableEq ι] in
theorem begin_homed {h : Handling} (hone : OneAddress r home e (.register i n checked req))
    (hb : r.begin checked start req = .ok h) : HomedHandling r home h := by
  unfold begin at hb
  split at hb
  · cases hb
  · cases hb
    exact trivial
  · cases hb
    exact trivial
  · next account aor aorHash contact granted hv =>
    cases hb
    obtain ⟨uri, huri, rfl, ha, hc, rfl⟩ := handleRegister_bind hv
    exact ⟨uri, account, rfl, lookup_of_authorize ha, rfl, by rw [hone hc uri account huri ha]⟩

variable {s : Store}

section

variable (hs : HomedStore r home s)

include hs

theorem HomedStore.put (o : Outcome) {b : Binding}
    (hb : Homed r home b.orgId b.aor b.aorHash) : HomedStore r home (s.put o b) := by
  cases hk : b.key with
  | error => simpa [Store.put, hk] using hs
  | ok k =>
    by_cases ha : o.applied
    · intro key copy hc
      simp only [Store.put, hk, ha, if_true, Dict.get?_set] at hc
      by_cases he : k = key
      · rw [if_pos he] at hc
        cases hc
        exact ⟨he ▸ hk, hb⟩
      · rw [if_neg he] at hc
        exact hs key copy hc
    · simpa [Store.put, hk, ha] using hs

theorem HomedStore.erase (k : GoString) :
    HomedStore r home { s with bindings := s.bindings.erase k } := by
  intro key copy hc
  rw [Dict.get?_erase] at hc
  obtain ⟨-, hc⟩ := Option.ite_none_left_eq_some.mp hc
  exact hs key copy hc

attribute [local simp] Store.delete

theorem HomedStore.delete (o : Outcome) (org hash : GoString) :
    HomedStore r home (s.delete o org hash) := by
  cases hk : registrationKVKey org hash with
  | error => simpa [hk] using hs
  | ok k =>
    by_cases ha : o.applied
    · simpa [hk, ha] using hs.erase k
    · simpa [hk, ha] using hs

end

attribute [local simp] advance HomedHandling

theorem advance_homed (tracked : Dict GoString Copy) {h : Handling} (hs : HomedStore r home s)
    (hh : HomedHandling r home h) (now : Int) (o : Outcome) :
    HomedStore r home (r.advance now o s tracked h).store ∧
      ∀ h', (r.advance now o s tracked h).next = some h' → HomedHandling r home h' := by
  cases h with
  | reading req credential aor aorHash contact granted start =>
    cases hg : s.get o credential.orgId aorHash with
    | none => simp [hg, hs]
    | some found =>
      simp only [advance, hg]
      refine ⟨hs, ?_⟩
      rintro h' ⟨⟩
      exact hh
  | storing binding existed start =>
    have hput := hs.put o (b := binding) hh
    by_cases ha : o.accepted binding.orgId binding.aorHash
    · simp only [advance, if_pos ha]
      refine ⟨hput, ?_⟩
      rintro h' ⟨⟩
      exact trivial
    · simp [if_neg ha, hput]
  | tracking copy existed start =>
    cases hk : copy.binding.key <;> simp [hk, hs]
  | announcing _ _ _ | withdrawing _ => simp [hs]
  | looking credential aorHash =>
    cases hg : s.get o credential.orgId aorHash <;> simp [hg, hs]
  | deleting credential aorHash previous =>
    have hdel := hs.delete o credential.orgId aorHash
    by_cases ha : o.accepted credential.orgId aorHash <;> simp [ha, hdel]
  | untracking credential aorHash previous =>
    cases hk : registrationKVKey credential.orgId aorHash <;> simp [hk, hs]
  | querying orgId aorHash =>
    obtain hg | ⟨found, hg⟩ := Option.eq_none_or_eq_some (s.get o orgId aorHash)
    · simp [hg, hs]
    · cases found <;> simp [hg, hs]

theorem HomedEdge.setTask (he : HomedEdge r home e) {t : Option Task}
    (ht : ∀ task, t = some task → HomedTask r home task) : HomedEdge r home (e.setTask i n t) where
  stored := he.stored
  tasks := by
    intro j m task hm
    rw [Edge.tasks_setTask] at hm
    by_cases h : i = j ∧ n = m
    · rw [if_pos h] at hm
      exact ht task hm
    · rw [if_neg h] at hm
      exact he.tasks j m task hm

theorem HomedEdge.setTracked (he : HomedEdge r home e) (i : ι) (tracked : Dict GoString Copy) :
    HomedEdge r home (e.setTracked i tracked) where
  stored := he.stored
  tasks := by
    intro j m task hm
    rw [Edge.tasks_setTracked] at hm
    exact he.tasks j m task hm

omit [DecidableEq ι] in
theorem HomedEdge.withStore (he : HomedEdge r home e) (hs : HomedStore r home s) :
    HomedEdge r home { e with store := s } := ⟨hs, he.tasks⟩

section

variable (he : HomedEdge r home e)

include he

omit [DecidableEq ι] in
theorem HomedEdge.note (notes : List (EdgeNote ι)) :
    HomedEdge r home (e.note notes) := ⟨he.stored, he.tasks⟩

theorem HomedEdge.proceed {o : Outcome} {t : Task}
    (ht : HomedTask r home t) (hp : e.proceed r i n o t = some e') : HomedEdge r home e' := by
  cases t with
  | handling h =>
    obtain ⟨hs, hnext⟩ := advance_homed (e.instances i).tracked he.stored ht e.clock o
    cases hp
    refine HomedEdge.note (((he.withStore hs).setTracked i _).setTask ?_) _
    intro task htask
    obtain ⟨h', hh', rfl⟩ := Option.map_eq_some_iff.mp htask
    exact hnext h' hh'
  | sweeping now lapsed =>
    cases lapsed with
    | nil =>
      cases hp
      exact he.setTask nofun
    | cons copy rest =>
      cases hp
      refine HomedEdge.note ((he.withStore (he.stored.delete o _ _)).setTask ?_) _
      rintro task ⟨⟩
      exact trivial
  | expiring now copy rest =>
    cases hp
    refine HomedEdge.note (he.setTask ?_) _
    intro task htask
    cases rest with
    | nil => cases htask
    | cons c rest =>
      cases htask
      exact trivial
  | listing => cases hp
  | loading keys found =>
    cases keys with
    | nil =>
      cases hp
      refine he.setTask ?_
      rintro task ⟨⟩
      exact trivial
    | cons key keys =>
      by_cases ho : o = .ok
      · rw [Edge.proceed, if_pos ho] at hp
        cases hp
        refine he.setTask ?_
        rintro task ⟨⟩
        exact trivial
      · rw [Edge.proceed, if_neg ho] at hp
        cases hp
        exact he.setTask nofun
  | adopting found =>
    cases hp
    exact (he.setTracked i _).setTask nofun

theorem HomedEdge.started {t : Task}
    (hp : e.start i n t = some e') (ht : HomedTask r home t) : HomedEdge r home e' := by
  obtain ⟨-, rfl⟩ := Edge.start_eq_some hp
  refine he.setTask ?_
  rintro task ⟨⟩
  exact ht

end

theorem HomedEdge.step {ev : EdgeEvent ι} (hone : OneAddress r home e ev) (he : HomedEdge r home e)
    (hs : e.step r ev = some e') : HomedEdge r home e' := by
  cases ev with
  | tick elapsed =>
    cases hs
    exact ⟨he.stored, he.tasks⟩
  | register i n checked req =>
    cases hb : r.begin checked e.clock req with
    | error res =>
      simp only [Edge.step, hb] at hs
      cases hs
      exact he.note _
    | ok h =>
      simp only [Edge.step, hb] at hs
      exact he.started hs (begin_homed hone hb)
  | sweep i n now order =>
    obtain ⟨-, hs⟩ := Option.ite_none_right_eq_some.mp hs
    exact (he.setTracked i _).started hs trivial
  | rehydrate i n => exact he.started hs trivial
  | listed i n order =>
    obtain ⟨-, hs⟩ := Option.ite_none_right_eq_some.mp hs
    cases hs
    refine he.setTask ?_
    rintro task ⟨⟩
    exact trivial
  | proceed i n o =>
    obtain ⟨t, ht, hp⟩ := Option.bind_eq_some_iff.mp hs
    exact he.proceed (he.tasks i n t ht) hp
  | restart i =>
    cases hs
    refine ⟨he.stored, ?_⟩
    intro j m task hm
    by_cases h : j = i
    · subst h
      simp [Edge.setInstance] at hm
    · simp only [Edge.setInstance, Function.update_of_ne h] at hm
      exact he.tasks j m task hm
  | drop key =>
    cases hs
    exact he.withStore (he.stored.erase key)

omit [DecidableEq ι] in
theorem HomedEdge.key_unique (he : HomedEdge r home e) {name key key' : GoString}
    (h : HoldsKey r e name key) (h' : HoldsKey r e name key') : key = key' := by
  have hparts : ∀ k, HoldsKey r e name k → ∃ u account, r.lookup u = .ok account ∧
      account.username = name ∧ registrationKVKey account.orgId
        ((r.auth.runtime.sha256hex (home name)).take 32) = .ok k := by
    rintro k ⟨copy, uri, account, hc, haor, hl, rfl⟩
    obtain ⟨hk, uri', account', haor', hl', ho, hh⟩ := he.stored k copy hc
    have hu : uri.user = uri'.user := SipUri.user_eq_of_aor r.auth.runtime (haor.symm.trans haor')
    rw [hu, hl'] at hl
    cases hl
    rw [Binding.key, ho, hh] at hk
    exact ⟨uri'.user, account, hl', rfl, hk⟩
  obtain ⟨u, account, hl, rfl, hk⟩ := hparts key h
  obtain ⟨u', account', hl', hname, hk'⟩ := hparts key' h'
  rw [r.one_account u' u account' account hl' hl hname, hk] at hk'
  exact Except.ok.inj hk'

end accounts

/-- The digest tells the two addresses apart, unless they are one. -/
def Distinguishes (r : Registrar) (x y : SipUri) : Prop :=
  (r.auth.runtime.sha256hex (normalized r.auth.runtime (x.aor r.auth.runtime))).take 32 =
      (r.auth.runtime.sha256hex (normalized r.auth.runtime (y.aor r.auth.runtime))).take 32 →
    normalized r.auth.runtime (x.aor r.auth.runtime) = normalized r.auth.runtime (y.aor r.auth.runtime)

/-- A request of one account keeps away from another's binding exactly where it asks for nothing
or its address is not, up to letter case, an address of the other in the same organization; and an
account that registers one address has one key at most. -/
theorem accounts_isolated (r : Registrar) (home : GoString → GoString) :
    (∀ checked start req uri account other otherUri key, req.to_ = some uri → uri.user ≠ [] →
      uri.host ≠ [] → r.authorize checked req uri.user = .ok account → otherUri.user = other.username →
      r.ReachedThrough other otherUri key → r.Distinguishes uri otherUri →
      (r.Isolates checked start req key ↔ ¬r.Actionable req ∨ account.orgId ≠ other.orgId ∨
        ¬uri.Same r.auth.runtime otherUri)) ∧
    ∀ (ι : Type) [DecidableEq ι] (events : List (EdgeEvent ι)) (e : Edge ι),
      run (Edge.step · r) (Edge.init ι) events = some e →
      Meets (Edge.step · r) (r.OneAddress home) (Edge.init ι) events →
      ∀ name key key', r.HoldsKey e name key → r.HoldsKey e name key' → key = key' := by
  constructor
  · intro checked start req uri account other otherUri key hto huser hhost ha _ hreach hdist
    obtain ⟨hash, hhash, hkey⟩ := hreach
    rw [aorSubjectToken_aor] at hhash
    cases hhash
    have hv := handleRegister_eq hto huser hhost ha
    constructor
    · intro hiso
      by_contra hno
      simp only [not_or, not_not] at hno
      obtain ⟨hact, horg, hsame⟩ := hno
      refine not_isolates hv ?_ hact hiso
      rw [horg, (SipUri.normalized_aor_eq_iff _ _ _).mpr hsame]
      exact hkey
    · intro hcond
      by_cases hact : r.Actionable req
      · refine isolates_of_off ⟨_, _, hv, ?_⟩
        intro hk
        obtain ⟨horg, hhash⟩ := registrationKVKey_inj hk hkey
        have hsame := (SipUri.normalized_aor_eq_iff _ _ _).mp (hdist hhash)
        exact hcond.elim (· hact) (·.elim (· horg) (· hsame))
      · exact isolates_of_not_actionable ⟨_, _, hv⟩ hact
  · intro ι _ events e hrun hmeets name key key' h h'
    have hinit : HomedEdge r home (Edge.init ι) :=
      ⟨nofun, nofun⟩
    have he := run_keeps_of (HomedEdge r home) (fun _ _ _ hC hI hs => hI.step hC hs) hmeets hinit hrun
    exact he.key_unique h h'

section sample

def sampleAccount (name : GoString) : Credential := ⟨['o'], name, ['r'], [], [], []⟩

/-- A registrar whose digests are plain text and whose account store has the accounts `Alice` and
`alice` of one organization. -/
def sample : Registrar where
  auth :=
    { runtime := sampleRuntime
      realm := ['r']
      secret := []
      parseCredentials := fun name => some ⟨name, ['r'], ['f', '.', 's', '.'], [], [], [], [], [], 1⟩ }
  expiry := ⟨60000000000, 3600000000000, 300000000000⟩
  server := []
  lookup name := if name = ['A', 'l'] ∨ name = ['a', 'l'] then .ok (sampleAccount name) else .error .notFound
  parsesUri _ := true
  one_account := by
    intro u v c d hc hd _
    split at hc <;> split at hd <;> cases hc <;> cases hd
    rfl

def alUri : SipUri := ⟨['s', 'i', 'p'], ['a', 'l'], ['h'], by decide, by decide⟩

/-- The address of the other account on the same host, and on another. -/
def capitalUri : SipUri := ⟨['s', 'i', 'p'], ['A', 'l'], ['h'], by decide, by decide⟩

def elsewhereUri : SipUri := ⟨['s', 'i', 'p'], ['A', 'l'], ['i'], by decide, by decide⟩

def sampleRequest (uri : SipUri) : Request :=
  ⟨some uri, uri.user, [some ⟨['c'], false, []⟩], [], [], [], [], [], none⟩

def sampleEvents : List (EdgeEvent Unit) :=
  [.register () 0 0 (sampleRequest capitalUri), .proceed () 0 .ok, .proceed () 0 .ok,
    .register () 1 0 (sampleRequest elsewhereUri), .proceed () 1 .ok, .proceed () 1 .ok]

def alKey : GoString := ['o', '.', 's', 'i', 'p', '_', 'a', 'l', '_', 'h']

def elsewhereKey : GoString := ['o', '.', 's', 'i', 'p', '_', 'a', 'l', '_', 'i']

theorem sample_reached : sample.ReachedThrough (sampleAccount ['a', 'l']) alUri alKey :=
  ⟨['s', 'i', 'p', '_', 'a', 'l', '_', 'h'], rfl, rfl⟩

theorem sample_actionable (uri : SipUri) : sample.Actionable (sampleRequest uri) :=
  nofun

theorem sample_runs : (run (Edge.step · sample) (Edge.init Unit) sampleEvents).isSome := by decide

/-- `Al` writes the binding of `al`, and has two bindings at a time. -/
theorem sample_not_isolated :
    sample.authorize 0 (sampleRequest capitalUri) capitalUri.user = .ok (sampleAccount ['A', 'l']) ∧
    sample.ReachedThrough (sampleAccount ['a', 'l']) alUri alKey ∧
    ¬sample.Isolates 0 0 (sampleRequest capitalUri) alKey ∧
    ∃ e, run (Edge.step · sample) (Edge.init Unit) sampleEvents = some e ∧
      sample.HoldsKey e ['A', 'l'] alKey ∧ sample.HoldsKey e ['A', 'l'] elsewhereKey := by
  refine ⟨by decide, sample_reached, not_isolates rfl rfl (sample_actionable _), ?_⟩
  obtain ⟨e, he⟩ := Option.isSome_iff_exists.mp sample_runs
  have hkeys : ∀ key, ((run (Edge.step · sample) (Edge.init Unit) sampleEvents).bind
      (·.store.bindings.get? key)) = e.store.bindings.get? key := by
    intro key
    rw [he]
    rfl
  refine ⟨e, he, ?_, ?_⟩
  · exact ⟨_, capitalUri, sampleAccount ['A', 'l'], (hkeys alKey).symm.trans rfl, rfl, rfl, rfl⟩
  · exact ⟨_, elsewhereUri, sampleAccount ['A', 'l'], (hkeys elsewhereKey).symm.trans rfl, rfl, rfl, rfl⟩

/-- `Al` cannot reach what `al` has on another host, and has one key while it registers one address. -/
theorem sample_isolated_elsewhere : sample.Isolates 0 0 (sampleRequest elsewhereUri) alKey ∧
    ∀ e, run (Edge.step · sample) (Edge.init Unit) (sampleEvents.take 3) = some e →
      ∀ name key key', sample.HoldsKey e name key → sample.HoldsKey e name key' → key = key' := by
  constructor
  · exact ((accounts_isolated sample id).1 0 0 (sampleRequest elsewhereUri) elsewhereUri
      (sampleAccount ['A', 'l']) (sampleAccount ['a', 'l']) alUri alKey rfl (by decide) (by decide)
      (by decide) rfl sample_reached (fun h => absurd h (by decide))).mpr
      (.inr (.inr fun h => absurd h.2.2 (by decide)))
  · intro e he
    have hone : sample.OneAddress (fun _ => normalized sampleRuntime (capitalUri.aor sampleRuntime))
        (Edge.init Unit) (.register () 0 0 (sampleRequest capitalUri)) := by
      rintro - uri account ⟨⟩ -
      rfl
    exact (accounts_isolated sample _).2 Unit (sampleEvents.take 3) e he
      ⟨hone, fun _ _ => ⟨trivial, fun _ _ => ⟨trivial, fun _ _ => trivial⟩⟩⟩

end sample

end Registrar

end OptimiqVoice.Sipd

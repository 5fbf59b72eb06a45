import OptimiqVoice.Lib.Pairing
import OptimiqVoice.Mediad.Ports

namespace OptimiqVoice.Mediad

open Lib
open Sipd (GoString)
open Function (update update_apply)

namespace Manager

def pairing (m : Manager) : Pairing GoString GoString where
  edge := m.bridges.get?
  mate id := (m.sessions.get? id).bind fun s => (m.peer s.serial).map Session.id

/-- The relays that run are the ones the bridge table names. -/
structure Relays (m : Manager) : Prop where
  sound : m.pairing.Sound
  live : ∀ id s p, m.sessions.get? id = some s → m.peer s.serial = some p →
    m.sessions.get? p.id = some p ∧ p.audioPayloadType = s.audioPayloadType
  -- a session that was never in the table
  single : ∀ t ∈ m.tasks, t.holding.owed = 0 → ∀ s ∈ t.holding.sessions, m.peer s.serial = none
  unborn : ∀ n, m.fresh ≤ n → m.peer n = none

attribute [local simp] names

section relays

variable {m m' : Manager} {out : List Expiry}

variable {id id' : GoString} {s : Session}

theorem Roster.eq_of_serial (h : Roster out m) {s' : Session}
    (hs : m.sessions.get? id = some s) (hs' : m.sessions.get? id' = some s')
    (heq : s.serial = s'.serial) : id = id' := by
  have hss : s = s' :=
    Multiset.inj_on_of_nodup_map h.distinct s (mem_known out hs) s' (mem_known out hs') heq
  rw [← h.keyed id s hs, ← h.keyed id' s' hs', hss]

attribute [local simp] pairing

theorem mate_eq (h : m.sessions.get? id = some s) :
    m.pairing.mate id = (m.peer s.serial).map Session.id := by
  simp [h]

theorem Relays.peer_of_mate (h : Relays m) {s' : Session}
    (hs : m.sessions.get? id = some s) (hs' : m.sessions.get? id' = some s')
    (hmate : m.pairing.mate id = some id') : m.peer s.serial = some s' := by
  rw [mate_eq hs, Option.map_eq_some_iff] at hmate
  obtain ⟨p, hp, rfl⟩ := hmate
  have hlive := (h.live id s p hs hp).1
  rw [hs'] at hlive
  rw [hp, hlive]

theorem Relays.live_of_mate (h : Relays m) (hmate : m.pairing.mate id = some id') :
    ∃ s s', m.sessions.get? id = some s ∧ m.sessions.get? id' = some s' ∧
      m.peer s.serial = some s' := by
  cases hs : m.sessions.get? id with
  | none => simp [hs] at hmate
  | some s =>
    have hmate' := hmate
    rw [mate_eq hs, Option.map_eq_some_iff] at hmate'
    obtain ⟨p, hp, rfl⟩ := hmate'
    exact ⟨s, p, rfl, (h.live id s p hs hp).1, hp⟩

def Distinct (m : Manager) : Prop :=
  ∀ ⦃id id' s s'⦄, m.sessions.get? id = some s → m.sessions.get? id' = some s' →
    s.serial = s'.serial → id = id'

attribute [local simp] setPeer

theorem mate_clearPeer (hdistinct : m.Distinct) (id id' : GoString) :
    (m.clearPeer id).pairing.mate id' = if id' = id then none else m.pairing.mate id' := by
  rw [clearPeer]
  cases hs : m.sessions.get? id with
  | none =>
    by_cases hid : id' = id
    · simp [hid, hs]
    · simp [hid]
  | some s =>
    by_cases hid : id' = id
    · simp [hid, hs]
    · cases hs' : m.sessions.get? id' with
      | none => simp [hid, hs']
      | some s' =>
        have hne : s'.serial ≠ s.serial := fun heq => hid (hdistinct hs' hs heq)
        simp [hid, hs', hne]

theorem pairing_detachLocked (hdistinct : m.Distinct) (bridgeId x y : GoString) :
    (m.detachLocked bridgeId (x, y)).pairing = m.pairing.cut bridgeId x y := by
  obtain ⟨peer, hx⟩ := clearPeer_eq m x
  have hdistinct' : (m.clearPeer x).Distinct := by
    rw [hx]
    exact hdistinct
  have hedge : (m.detachLocked bridgeId (x, y)).pairing.edge =
      update m.pairing.edge bridgeId none := by
    funext k
    change (((m.clearPeer x).clearPeer y).bridges.erase bridgeId).get? k = _
    rw [bridges_clearPeer, bridges_clearPeer, Dict.get?_erase, update_apply]
    simp only [eq_comm]
    rfl
  have hmate : (m.detachLocked bridgeId (x, y)).pairing.mate =
      update (update m.pairing.mate x none) y none := by
    funext id
    have hframe : (m.detachLocked bridgeId (x, y)).pairing.mate id =
        ((m.clearPeer x).clearPeer y).pairing.mate id := rfl
    rw [hframe, mate_clearPeer hdistinct', mate_clearPeer hdistinct, update_apply, update_apply]
  rw [Pairing.cut, ← hedge, ← hmate]

theorem peer_clearPeer {n : Nat} {p : Session}
    (h : (m.clearPeer id).peer n = some p) : m.peer n = some p := by
  rw [clearPeer] at h
  cases hs : m.sessions.get? id with
  | none => simpa [hs] using h
  | some s =>
    simp only [hs, setPeer, update_apply] at h
    split_ifs at h
    exact h

theorem peer_unbridgeSessionLocked {n : Nat} {p : Session}
    (h : (m.unbridgeSessionLocked id).peer n = some p) : m.peer n = some p := by
  rw [unbridgeSessionLocked] at h
  split at h
  · exact peer_clearPeer (peer_clearPeer h)
  · exact h

variable {bridgeId : GoString} {pair : GoString × GoString}

theorem joins_of_find
    (h : m.bridges.entries.find? (fun entry => names id entry.2) = some (bridgeId, pair)) :
    m.bridges.get? bridgeId = some pair ∧ (pair.1 = id ∨ pair.2 = id) := by
  refine ⟨Dict.get?_of_mem (List.mem_of_find?_eq_some h), ?_⟩
  have hnames := List.find?_some h
  simpa using hnames

theorem Relays.mate_of_find (h : Relays m)
    (hfind : m.bridges.entries.find? (fun entry => names id entry.2) = none) :
    m.pairing.mate id = none := by
  cases hmate : m.pairing.mate id with
  | none => rfl
  | some id' =>
    obtain ⟨k, hk | hk⟩ := h.sound.named id id' hmate
    · have hnot := List.find?_eq_none.mp hfind _ (Dict.mem_of_get? hk)
      simp at hnot
    · have hnot := List.find?_eq_none.mp hfind _ (Dict.mem_of_get? hk)
      simp at hnot

theorem Relays.shrink (h : Relays m) (hsound : m'.pairing.Sound)
    (hsub : ∀ id s, m'.sessions.get? id = some s → m.sessions.get? id = some s)
    (hpeer : ∀ n p, m'.peer n = some p → m.peer n = some p)
    (htasks : ∀ t ∈ m'.tasks, t.holding.owed = 0 → t ∈ m.tasks ∨ t.Bare)
    (hfresh : m'.fresh = m.fresh) : Relays m' := by
  have hnone : ∀ n, m.peer n = none → m'.peer n = none := by
    intro n hn
    cases hp : m'.peer n with
    | none => rfl
    | some p => rw [hpeer n p hp] at hn; cases hn
  refine ⟨hsound, ?_, ?_, ?_⟩
  · intro id s p hs hp
    obtain ⟨hlive, hcodec⟩ := h.live id s p (hsub id s hs) (hpeer _ p hp)
    refine ⟨?_, hcodec⟩
    -- the mate of a mate is in the table, and the table holds no other session for it
    have hmate : m'.pairing.mate id = some p.id := by rw [mate_eq hs, hp, Option.map_some]
    obtain ⟨k, hk⟩ := hsound.named id p.id hmate
    have hback := (hsound.mate_of_joins hk.symm).2
    cases hq : m'.sessions.get? p.id with
    | none => simp [hq] at hback
    | some q => rw [← hsub p.id q hq, hlive]
  · intro t ht howed s hs
    obtain ht' | hbare := htasks t ht howed
    · exact hnone _ (h.single t ht' howed s hs)
    · rw [hbare] at hs
      simp at hs
  · intro n hn
    exact hnone n (h.unborn n (hfresh ▸ hn))

theorem unbridgeSessionLocked_spec (h : Relays m) (hdistinct : m.Distinct) (id : GoString) :
    Relays (m.unbridgeSessionLocked id) ∧ (m.unbridgeSessionLocked id).pairing.mate id = none := by
  obtain ⟨peer, bridges, heq⟩ := unbridgeSessionLocked_eq m id
  have hrest : (m.unbridgeSessionLocked id).pairing.Sound → Relays (m.unbridgeSessionLocked id) := by
    intro hsound
    refine h.shrink hsound ?_ (fun n p => peer_unbridgeSessionLocked) ?_ ?_
    · intro id' s hs
      rw [heq] at hs
      exact hs
    · intro t ht howed
      rw [heq] at ht
      exact .inl ht
    · rw [heq]
  cases hfind : m.bridges.entries.find? (fun entry => names id entry.2) with
  | none =>
    have hsame : m.unbridgeSessionLocked id = m := by rw [unbridgeSessionLocked, hfind]
    rw [hsame]
    exact ⟨h, h.mate_of_find hfind⟩
  | some entry =>
    obtain ⟨bridgeId, x, y⟩ := entry
    obtain ⟨hget, hid⟩ := joins_of_find hfind
    have hcut : (m.unbridgeSessionLocked id).pairing = m.pairing.cut bridgeId x y := by
      rw [unbridgeSessionLocked, hfind]
      exact pairing_detachLocked hdistinct bridgeId x y
    refine ⟨hrest ?_, ?_⟩
    · rw [hcut]
      exact h.sound.cut (.inl hget)
    · rw [hcut]
      obtain rfl | rfl := hid <;> simp [Pairing.cut, update_apply]

theorem Roster.distinct_table (h : Roster out m) : m.Distinct :=
  fun _ _ _ _ hs hs' heq => h.eq_of_serial hs hs' heq

theorem Relays.takeOut (h : Relays m) (hdistinct : m.Distinct) (id : GoString) (s : Session) :
    Relays (m.takeOut id s) := by
  have hdistinct' : { m with sessions := m.sessions.erase id }.Distinct := by
    intro i i' t t' ht ht' heq
    rw [Dict.get?_erase] at ht ht'
    split_ifs at ht ht'
    exact hdistinct ht ht' heq
  -- the session that is gone has no mate
  have herased : ∀ i, { m with sessions := m.sessions.erase id }.pairing.mate i =
      if i = id then none else m.pairing.mate i := by
    intro i
    by_cases hi : id = i
    · simp [Dict.get?_erase, hi]
    · simp [Dict.get?_erase, hi, Ne.symm hi]
  have hsound : (m.takeOut id s).pairing.Sound := by
    change ({ m with sessions := m.sessions.erase id }.unbridgeSessionLocked id).pairing.Sound
    rw [unbridgeSessionLocked]
    cases hfind : m.bridges.entries.find? (fun entry => names id entry.2) with
    | none =>
      have hmate := h.mate_of_find hfind
      have heq : { m with sessions := m.sessions.erase id }.pairing = m.pairing := by
        have hfun : { m with sessions := m.sessions.erase id }.pairing.mate = m.pairing.mate := by
          funext i
          rw [herased]
          split_ifs with hi
          · rw [hi, hmate]
          · rfl
        exact congrArg (Pairing.mk m.bridges.get?) hfun
      simpa only [hfind, heq] using h.sound
    | some entry =>
      obtain ⟨bridgeId, x, y⟩ := entry
      obtain ⟨hget, hid⟩ := joins_of_find hfind
      have heq : { m with sessions := m.sessions.erase id }.pairing.cut bridgeId x y =
          m.pairing.cut bridgeId x y := by
        have hfun : ({ m with sessions := m.sessions.erase id }.pairing.cut bridgeId x y).mate =
            (m.pairing.cut bridgeId x y).mate := by
          funext i
          simp only [Pairing.cut, update_apply, herased]
          obtain rfl | rfl := hid <;> split_ifs <;> rfl
        exact congrArg (Pairing.mk _) hfun
      simp only
      rw [pairing_detachLocked hdistinct', heq]
      exact h.sound.cut (.inl hget)
  obtain ⟨peer, bridges, heq⟩ := takeOut_eq m id s
  refine h.shrink hsound ?_ ?_ ?_ (by rw [heq])
  · intro i t ht
    rw [heq, Dict.get?_erase] at ht
    split_ifs at ht
    exact ht
  · intro n p hp
    exact peer_unbridgeSessionLocked (m := { m with sessions := m.sessions.erase id }) hp
  · intro t ht howed
    rw [heq] at ht
    exact .inl ht

theorem Relays.collect (cfg : Config) (now : Int) {entries : List (GoString × Session)}
    (h : Relays m) (hdistinct : m.Distinct) : Relays (collect cfg now entries m).1 := by
  induction entries generalizing m with
  | nil => exact h
  | cons entry rest ih =>
    obtain ⟨id, s⟩ := entry
    rw [Manager.collect]
    cases m.verdict cfg now s with
    | none => exact ih h hdistinct
    | some e =>
      apply ih (h.takeOut hdistinct id s)
      intro i i' t t' ht ht' heq
      obtain ⟨peer, bridges, hout⟩ := takeOut_eq m id s
      rw [hout, Dict.get?_erase] at ht ht'
      split_ifs at ht ht'
      exact hdistinct ht ht' heq

theorem Relays.endAll (h : Relays m) (out : List Expiry) : Relays (m.endAll out) := by
  cases out with
  | nil => exact h
  | cons victim rest =>
    refine h.shrink h.sound (fun _ _ => id) (fun _ _ => id) ?_ rfl
    intro t ht howed
    obtain ht | ht := List.mem_append.mp ht
    · exact .inl ht
    · obtain rfl : t = _ := List.mem_singleton.mp ht
      rw [Task.holding_first] at howed
      simp at howed

theorem Relays.drain (h : Relays m) : Relays m.drain := by
  rw [Manager.drain]
  split_ifs
  · exact h
  · apply Relays.endAll
    refine h.shrink ?_ ?_ (fun _ _ => id) (fun t ht _ => .inl ht) rfl
    · constructor
      · rintro k x y ⟨⟩
      · rintro x y ⟨⟩
      · rintro j k x y (⟨⟨⟩⟩ | ⟨⟨⟩⟩)
    · rintro id s ⟨⟩

/-- The bridge id of a `Bridge` is free, or its pair has a session in common
with the one that is asked for. -/
def Reusable (m : Manager) (bridgeId first second : GoString) : Prop :=
  ∀ pair, m.bridges.get? bridgeId = some pair → names first pair ∨ names second pair

theorem Relays.not_names (h : Relays m)
    (hmate : m.pairing.mate id = none) (hget : m.bridges.get? bridgeId = some pair) :
    ¬names id pair := by
  obtain ⟨x, y⟩ := pair
  obtain ⟨-, hx, hy⟩ := h.sound.mated bridgeId x y hget
  intro hnames
  have hid : x = id ∨ y = id := by simpa using hnames
  obtain rfl | rfl := hid
  · rw [hmate] at hx
    cases hx
  · rw [hmate] at hy
    cases hy

theorem bridges_unbridgeSessionLocked {k : GoString}
    (h : (m.unbridgeSessionLocked id).bridges.get? k = some pair) : m.bridges.get? k = some pair := by
  rw [unbridgeSessionLocked] at h
  split at h
  · simp only [detachLocked, bridges_clearPeer, Dict.get?_erase] at h
    split_ifs at h
    exact h
  · exact h

def couple (m : Manager) (bridgeId : GoString) (a b : Session) : Manager :=
  { (m.setPeer a (some b)).setPeer b (some a) with bridges := m.bridges.set bridgeId (a.id, b.id) }

theorem pairing_couple (hdistinct : m.Distinct) {a b : Session} (ha : m.sessions.get? a.id = some a)
    (hb : m.sessions.get? b.id = some b) (bridgeId : GoString) :
    (m.couple bridgeId a b).pairing = m.pairing.join bridgeId a.id b.id := by
  have hedge : (m.couple bridgeId a b).pairing.edge =
      update m.pairing.edge bridgeId (some (a.id, b.id)) := by
    funext k
    change (m.bridges.set bridgeId (a.id, b.id)).get? k = _
    rw [Dict.get?_set, update_apply]
    simp only [eq_comm]
    rfl
  have hmate : (m.couple bridgeId a b).pairing.mate =
      update (update m.pairing.mate a.id (some b.id)) b.id (some a.id) := by
    funext id
    rw [update_apply, update_apply]
    cases hs : m.sessions.get? id with
    | none =>
      have hida : id ≠ a.id := by
        rintro rfl
        rw [ha] at hs
        cases hs
      have hidb : id ≠ b.id := by
        rintro rfl
        rw [hb] at hs
        cases hs
      simp [couple, hs, hida, hidb]
    | some s =>
      have hserial : ∀ {x : Session}, m.sessions.get? x.id = some x → (s.serial = x.serial ↔ id = x.id) := by
        intro x hx
        constructor
        · exact hdistinct hs hx
        · rintro rfl
          rw [hx] at hs
          cases hs
          rfl
      simp only [pairing, couple, setPeer, hs, Option.bind_some, update_apply, hserial ha,
        hserial hb]
      split_ifs <;> rfl
  rw [Pairing.join, ← hedge, ← hmate]

theorem Relays.couple (h : Relays m) (hroster : Roster out m) {a b : Session}
    (ha : m.sessions.get? a.id = some a) (hb : m.sessions.get? b.id = some b) (hne : a.id ≠ b.id)
    (hcodec : a.audioPayloadType = b.audioPayloadType) (hfree : m.bridges.get? bridgeId = none)
    (hmatea : m.pairing.mate a.id = none) (hmateb : m.pairing.mate b.id = none) :
    Relays (m.couple bridgeId a b) := by
  have hdistinct := hroster.distinct_table
  have hpeer : ∀ n, n ≠ a.serial → n ≠ b.serial → (m.couple bridgeId a b).peer n = m.peer n := by
    intro n hna hnb
    simp [Manager.couple, hna, hnb]
  refine ⟨?_, ?_, ?_, ?_⟩
  · rw [pairing_couple hdistinct ha hb]
    exact h.sound.join hfree hmatea hmateb hne
  · intro id s p hs hp
    change m.sessions.get? id = some s at hs
    change m.sessions.get? p.id = some p ∧ _
    simp only [Manager.couple, setPeer, update_apply] at hp
    split_ifs at hp with hsb hsa
    · obtain rfl : a = p := by simpa using hp
      obtain rfl := hdistinct hs hb hsb
      rw [hb] at hs
      cases hs
      exact ⟨ha, hcodec⟩
    · obtain rfl : b = p := by simpa using hp
      obtain rfl := hdistinct hs ha hsa
      rw [ha] at hs
      cases hs
      exact ⟨hb, hcodec.symm⟩
    · exact h.live id s p hs hp
  · intro t ht howed s hs
    rw [hpeer s.serial (Ne.symm (hroster.ne_held ha ht hs)) (Ne.symm (hroster.ne_held hb ht hs))]
    exact h.single t ht howed s hs
  · intro n hn
    have hlt : ∀ {x : Session}, m.sessions.get? x.id = some x → n ≠ x.serial := by
      rintro x hx rfl
      have hold := hroster.older x (mem_known out hx)
      exact absurd hold (Nat.not_lt.mpr hn)
    rw [hpeer n (hlt ha) (hlt hb)]
    exact h.unborn n hn

theorem mate_unbridgeSessionLocked (h : m.pairing.mate id = none) (id' : GoString) :
    (m.unbridgeSessionLocked id').pairing.mate id = none := by
  obtain ⟨peer, bridges, heq⟩ := unbridgeSessionLocked_eq m id'
  have hsessions : (m.unbridgeSessionLocked id').sessions = m.sessions := by rw [heq]
  cases hs : m.sessions.get? id with
  | none => simp [hsessions, hs]
  | some s =>
    rw [mate_eq hs, Option.map_eq_none_iff] at h
    rw [mate_eq (hsessions ▸ hs), Option.map_eq_none_iff]
    cases hp : (m.unbridgeSessionLocked id').peer s.serial with
    | none => rfl
    | some p =>
      rw [peer_unbridgeSessionLocked hp] at h
      cases h

theorem Relays.bridge (h : Relays m) (hroster : Roster out m) {first second : GoString}
    (hreuse : m.Reusable bridgeId first second) (hok : m.bridge bridgeId first second = .ok m') :
    Relays m' := by
  rw [Manager.bridge] at hok
  split_ifs at hok with hbridge hids hself hclosed
  split at hok
  · cases hok
  · cases hok
  · rename_i a b hfirst hsecond
    split_ifs at hok with hcodec
    obtain rfl := hroster.keyed _ a hfirst
    obtain rfl := hroster.keyed _ b hsecond
    obtain ⟨peer₁, bridges₁, heq₁⟩ := unbridgeSessionLocked_eq m a.id
    obtain ⟨peer₂, bridges₂, heq₂⟩ :=
      unbridgeSessionLocked_eq (m.unbridgeSessionLocked a.id) b.id
    have hroster₁ : Roster out (m.unbridgeSessionLocked a.id) := by
      rw [heq₁]
      exact ⟨hroster.keyed, hroster.distinct, hroster.older, hroster.unclosed, hroster.unborn⟩
    obtain ⟨h₁, hmatea⟩ := unbridgeSessionLocked_spec h hroster.distinct_table a.id
    obtain ⟨h₂, hmateb⟩ := unbridgeSessionLocked_spec h₁ hroster₁.distinct_table b.id
    have hmatea₂ := mate_unbridgeSessionLocked hmatea b.id
    -- an entry of the name would name one of the two, and they have no mates now
    have hfree : ((m.unbridgeSessionLocked a.id).unbridgeSessionLocked b.id).bridges.get? bridgeId =
        none := by
      cases hget : ((m.unbridgeSessionLocked a.id).unbridgeSessionLocked b.id).bridges.get? bridgeId with
      | none => rfl
      | some pair =>
        obtain hnames | hnames :=
          hreuse pair (bridges_unbridgeSessionLocked (bridges_unbridgeSessionLocked hget))
        · exact absurd hnames (h₂.not_names hmatea₂ hget)
        · exact absurd hnames (h₂.not_names hmateb hget)
    have hsessions : ((m.unbridgeSessionLocked a.id).unbridgeSessionLocked b.id).sessions =
        m.sessions := by
      rw [heq₂, heq₁]
    have hroster₂ : Roster out ((m.unbridgeSessionLocked a.id).unbridgeSessionLocked b.id) := by
      rw [heq₂]
      exact ⟨hroster₁.keyed, hroster₁.distinct, hroster₁.older, hroster₁.unclosed, hroster₁.unborn⟩
    cases hok
    exact h₂.couple hroster₂ (hsessions ▸ hfirst) (hsessions ▸ hsecond) hself (by simpa using hcodec)
      hfree hmatea₂ hmateb

variable {n : Nat} {t t' : Task} {started : List Task}

theorem Relays.frame (h : Relays m) (hsessions : m'.sessions = m.sessions) (hpeer : m'.peer = m.peer)
    (hbridges : m'.bridges = m.bridges) (hfresh : m.fresh ≤ m'.fresh)
    (htasks : ∀ u ∈ m'.tasks, u ∈ m.tasks ∨ (u.holding.owed = 0 → ∀ s ∈ u.holding.sessions,
      m.peer s.serial = none)) : Relays m' := by
  have hpairing : m'.pairing = m.pairing := by rw [pairing, hsessions, hpeer, hbridges]; rfl
  refine ⟨hpairing ▸ h.sound, ?_, ?_, ?_⟩
  · rw [hsessions, hpeer]
    exact h.live
  · intro u hu howed s hs
    rw [hpeer]
    obtain hu | hu := htasks u hu
    · exact h.single u hu howed s hs
    · exact hu howed s hs
  · intro k hk
    rw [hpeer]
    exact h.unborn k (le_trans hfresh hk)

theorem Relays.enrol (h : Relays m) (hnew : m.peer s.serial = none)
    (hget : m.sessions.get? s.id = none) : Relays ((m.enrol s).goOn n .finished []) := by
  have hsessions : ∀ id, ((m.enrol s).goOn n .finished []).sessions.get? id =
      if s.id = id then some s else m.sessions.get? id := fun id => Dict.get?_set _ _ _ _
  have hmate : ((m.enrol s).goOn n .finished []).pairing.mate = m.pairing.mate := by
    funext id
    change (((m.enrol s).goOn n .finished []).sessions.get? id).bind _ = _
    rw [hsessions]
    split_ifs with hid
    · have hpeer : (m.enrol s).peer s.serial = none := hnew
      simp [← hid, hget, Manager.goOn, hpeer]
    · rfl
  have hpairing : ((m.enrol s).goOn n .finished []).pairing = m.pairing :=
    congrArg (Pairing.mk m.bridges.get?) hmate
  refine ⟨hpairing ▸ h.sound, ?_, ?_, h.unborn⟩
  · intro id s' p hs' hp
    change m.peer s'.serial = some p at hp
    rw [hsessions] at hs' ⊢
    split_ifs at hs' with hid
    · cases hs'
      rw [hnew] at hp
      cases hp
    · obtain ⟨hlive, hcodec⟩ := h.live id s' p hs' hp
      rw [if_neg]
      · exact ⟨hlive, hcodec⟩
      · intro heq
        rw [heq, hlive] at hget
        cases hget
  · intro u hu howed s' hs'
    obtain hu | rfl | hu := mem_goOn hu
    · exact h.single u hu howed s' hs'
    · simp [Task.holding] at hs'
    · cases hu

theorem Relays.goOn (h : Relays m) (hbooks : Books out m) (hn : m.tasks[n]? = some t) {mv : Move}
    (heffect : Effect m t mv) : Relays (mv.1.goOn n mv.2.1 mv.2.2) := by
  have ht : t ∈ m.tasks := List.mem_of_getElem? hn
  have hframe : ∀ {m' : Manager} {t' : Task} {started : List Task}, m'.sessions = m.sessions →
      m'.peer = m.peer → m'.bridges = m.bridges → m.fresh ≤ m'.fresh → m'.tasks = m.tasks →
      (t'.holding.owed = 0 → ∀ s ∈ t'.holding.sessions, m.peer s.serial = none) →
      (∀ u ∈ started, u.Bare) → Relays (m'.goOn n t' started) := by
    intro m' t' started hsessions hpeer hbridges hfresh htasks ht' hbare
    refine h.frame hsessions hpeer hbridges hfresh ?_
    intro u hu
    obtain hu | rfl | hu := mem_goOn hu
    · exact .inl (htasks ▸ hu)
    · exact .inr ht'
    · rw [hbare u hu]
      exact .inr (by simp)
  cases heffect with
  | quiet hsame hrelay htasks hlog hquiet hhold hbare =>
    refine hframe hsame.sessions hrelay.1 hrelay.2 hsame.fresh.ge htasks ?_ hbare
    rw [hhold]
    exact h.single t ht
  | described hget hhold =>
    refine hframe rfl rfl rfl le_rfl rfl ?_ (by simp)
    rw [hhold]
    exact h.single t ht
  | bound huse hbare hhold => exact hframe rfl rfl rfl le_rfl rfl (by simp [hhold]) (by simp)
  | @built t' s hserial hhold hhold' =>
    refine hframe rfl rfl rfl (Nat.le_succ _) rfl ?_ (by simp)
    have hnone := h.unborn s.serial hserial.ge
    simp [hhold', hnone]
  | inserted hhold hopen hget =>
    exact h.enrol (h.single t ht (by rw [hhold]) _ (by rw [hhold]; simp)) hget
  | shut hhold hhold' hmem =>
    refine hframe rfl rfl rfl le_rfl rfl ?_ (by simp)
    intro howed s hs
    apply h.single t ht
    · rw [hhold, ← hhold']
      exact howed
    · rw [hhold, ← hhold']
      exact hs
  | freed hhold hhold' hle =>
    refine hframe rfl rfl rfl le_rfl rfl ?_ (by simp)
    intro howed s hs
    apply h.single t ht
    · rw [hhold' ] at howed
      rw [hhold]
      exact howed
    · rw [hhold]
      exact Multiset.mem_of_le hle hs
  | ended hhold hhold' howed =>
    refine hframe rfl rfl rfl le_rfl rfl ?_ (by simp)
    intro hzero s hs
    rw [hhold'] at hzero hs
    rw [howed, hzero] at hs
    simp at hs
  | @twice mv s hmem hclosed => exact absurd hclosed (hbooks.roster.not_closed hn hmem)

/-- What is asked of a step: a `Bridge` takes a free id, or one whose pair has a
session in common with the pair it is for. -/
def BridgesOver (m : Manager) (e : Event) : Prop :=
  ∀ bridgeId first second, e = .bridge bridgeId first second → m.Reusable bridgeId first second

theorem Relays.step {cfg : Config} {e : Event} (h : Relays m) (hbooks : Books [] m)
    (hover : m.BridgesOver e) (hstep : m.step cfg e = some m') : Relays m' := by
  have hspawn : ∀ task : Task, task.Bare → Relays (m.spawn task) := by
    intro task hbare
    refine h.frame rfl rfl rfl le_rfl ?_
    intro u hu
    obtain hu | hu := List.mem_append.mp hu
    · exact .inl hu
    · obtain rfl : u = task := List.mem_singleton.mp hu
      rw [hbare]
      exact .inr (by simp)
  have hsame : ∀ {m' : Manager}, m'.sessions = m.sessions → m'.peer = m.peer →
      m'.bridges = m.bridges → m'.fresh = m.fresh → m'.tasks = m.tasks → Relays m' := by
    intro m' hsessions hpeer hbridges hfresh htasks
    exact h.frame hsessions hpeer hbridges hfresh.ge fun u hu => .inl (htasks ▸ hu)
  cases step_turn hstep with
  | still => exact h
  | refused | heard _ _ _ | stopped _ => exact hsame rfl rfl rfl rfl rfl
  | spawned ht => exact hspawn _ (by obtain ⟨_, rfl⟩ | ⟨_, _, _, rfl⟩ := ht <;> rfl)
  | released hget => exact (h.takeOut hbooks.roster.distinct_table _ _).endAll _
  | bridged he hb => exact h.bridge hbooks.roster (hover _ _ _ he) hb
  | @unbridged bridgeId pair hget =>
    obtain ⟨x, y⟩ := pair
    obtain ⟨peer, bridges, heq⟩ := detachLocked_eq m bridgeId (x, y)
    refine h.shrink ?_ ?_ (fun n p hp => peer_clearPeer (peer_clearPeer hp)) ?_ ?_
    · rw [pairing_detachLocked hbooks.roster.distinct_table]
      exact h.sound.cut (.inl hget)
    · intro id s hs
      rwa [heq] at hs
    · intro u hu howed
      rw [heq] at hu
      exact .inl hu
    · rw [heq]
  | reaped now => exact (Relays.collect cfg now h hbooks.roster.distinct_table).endAll _
  | drained => exact h.drain
  | advanced he hn hmv => exact h.goOn hbooks hn (advance_effect hmv)

theorem relays_newManager (allocator : Allocator) : Relays (newManager allocator) := by
  refine ⟨⟨?_, ?_, ?_⟩, ?_, ?_, fun _ _ => rfl⟩
  · rintro k x y ⟨⟩
  · rintro x y ⟨⟩
  · rintro j k x y (⟨⟨⟩⟩ | ⟨⟨⟩⟩)
  · rintro id s p ⟨⟩
  · rintro t ⟨⟩

/-- A peer is live, points back and speaks the same codec, and one entry of the
bridge table names the two; an entry names two live sessions that are peers. -/
structure Paired (m : Manager) : Prop where
  peers : ∀ id s p, m.sessions.get? id = some s → m.peer s.serial = some p →
    m.sessions.get? p.id = some p ∧ m.peer p.serial = some s ∧
      s.audioPayloadType = p.audioPayloadType ∧
      ∃! bridgeId, m.bridges.get? bridgeId = some (id, p.id) ∨ m.bridges.get? bridgeId = some (p.id, id)
  entries : ∀ bridgeId first second, m.bridges.get? bridgeId = some (first, second) →
    ∃ a b, m.sessions.get? first = some a ∧ m.sessions.get? second = some b ∧
      m.peer a.serial = some b ∧ m.peer b.serial = some a

theorem Relays.paired (h : Relays m) : Paired m := by
  constructor
  · intro id s p hs hp
    obtain ⟨hlive, hcodec⟩ := h.live id s p hs hp
    have hmate : m.pairing.mate id = some p.id := by rw [mate_eq hs, hp, Option.map_some]
    obtain ⟨k, hk⟩ := h.sound.named id p.id hmate
    have hback := h.peer_of_mate hlive hs (h.sound.mate_of_joins hk.symm).2
    exact ⟨hlive, hback, hcodec.symm, k, hk, fun j hj => h.sound.once j k id p.id hj hk⟩
  · intro bridgeId first second hget
    obtain ⟨-, hfirst, hsecond⟩ := h.sound.mated bridgeId first second hget
    obtain ⟨a, b, ha, hb, hab⟩ := h.live_of_mate hfirst
    exact ⟨a, b, ha, hb, hab, h.peer_of_mate hb ha hsecond⟩

end relays

/-- In every run whose bridges reuse no id of two other sessions, media bridges
are pairs in every state. -/
theorem paired_of_run (cfg : Config) (allocator : Allocator) (hfree : allocator.inUse = ∅)
    (es : List Event) (m : Manager) (hover : Meets (step cfg) BridgesOver (newManager allocator) es)
    (hrun : run (step cfg) (newManager allocator) es = some m) : Paired m := by
  have hinv : Books [] m ∧ Relays m := by
    apply run_keeps_of (fun m => Books [] m ∧ Relays m) _ hover
      ⟨books_newManager allocator hfree, relays_newManager allocator⟩ hrun
    intro m e m' hC h hstep
    exact ⟨h.1.step hstep, h.2.step h.1 hC hstep⟩
  exact hinv.2.paired

section samples

/-- A relay moves from `a`, `b` to `b`, `c` under its id. -/
def movedBridge : List Event :=
  sampleAllocate 0 ['a'] ++ sampleAllocate 1 ['b'] ++ sampleAllocate 2 ['c'] ++
    [.bridge ['x'] ['a'] ['b'], .bridge ['x'] ['b'] ['c']]

/-- The id of a running relay is used for two other sessions. -/
def reusedBridge : List Event :=
  sampleAllocate 0 ['a'] ++ sampleAllocate 1 ['b'] ++ sampleAllocate 2 ['c'] ++
    sampleAllocate 3 ['d'] ++ [.bridge ['x'] ['a'] ['b'], .bridge ['x'] ['c'] ['d']]

def bridgesOver (m : Manager) : Event → Bool
  | .bridge bridgeId first second =>
    (m.bridges.get? bridgeId).all fun pair => names first pair || names second pair
  | _ => true

theorem bridgesOver_of_check {m : Manager} {e : Event} (h : m.bridgesOver e) : m.BridgesOver e := by
  rintro bridgeId first second rfl pair hget
  simpa [bridgesOver, hget] using h

def relayOf (m : Manager) (id : GoString) : Option GoString := m.pairing.mate id

theorem paired_of_run_moved :
    ∃ m, run (step sampleConfig) (newManager sampleAllocator) movedBridge = some m ∧
      m.relayOf ['b'] = some ['c'] ∧ Paired m := by
  have hcheck : (run (step sampleConfig) (newManager sampleAllocator) movedBridge).any
      (fun m => m.relayOf ['b'] == some ['c']) = true := by decide
  have hover : checks (step sampleConfig) bridgesOver (newManager sampleAllocator) movedBridge := by
    decide
  obtain ⟨m, hrun, hrelay⟩ := (Option.any_eq_true _ _).mp hcheck
  refine ⟨m, hrun, by simpa using hrelay, ?_⟩
  exact paired_of_run sampleConfig sampleAllocator rfl movedBridge m
    (meets_of_checks (fun _ _ => bridgesOver_of_check) hover) hrun

/-- The legs of the first relay go on sending to each other, and no entry of the
bridge table names them. -/
theorem relay_left_over :
    ∃ m, run (step sampleConfig) (newManager sampleAllocator) reusedBridge = some m ∧
      m.relayOf ['a'] = some ['b'] ∧ ¬Paired m := by
  have hcheck : (run (step sampleConfig) (newManager sampleAllocator) reusedBridge).any
      (fun m => m.relayOf ['a'] == some ['b'] &&
        decide (∀ entry ∈ m.bridges.entries, ¬names ['a'] entry.2)) = true := by decide
  obtain ⟨m, hrun, hm⟩ := (Option.any_eq_true _ _).mp hcheck
  obtain ⟨hrelay, hnone⟩ := Bool.and_eq_true_iff.mp hm
  have hrelay' : m.relayOf ['a'] = some ['b'] := by simpa using hrelay
  refine ⟨m, hrun, hrelay', ?_⟩
  intro hpaired
  obtain ⟨s, hs, hmate⟩ := Option.bind_eq_some_iff.mp hrelay'
  obtain ⟨p, hp, hid⟩ := Option.map_eq_some_iff.mp hmate
  obtain ⟨-, -, -, bridgeId, hentry, -⟩ := hpaired.peers ['a'] s p hs hp
  have hnames := of_decide_eq_true hnone
  obtain hentry | hentry := hentry
  · exact hnames _ (Dict.mem_of_get? hentry) (by simp)
  · exact hnames _ (Dict.mem_of_get? hentry) (by simp)

end samples

end Manager

end OptimiqVoice.Mediad

import OptimiqVoice.Lib.Pool
import OptimiqVoice.Lib.History
import OptimiqVoice.Mediad.Manager

namespace OptimiqVoice.Mediad

open Lib
open Sipd (GoString)

def Stage.isOpen : Stage → Bool
  | .telling => true
  | .flushing => true
  | .reading => true
  | .closing _ => true
  | _ => false

def Stage.holdsPort : Stage → Bool
  | .freeing _ => true
  | stage => stage.isOpen

/-- What a goroutine has in hand: sessions outside the table, those among them
that are still open, those it has yet to announce, and port pairs. -/
structure Holding where
  (sessions unclosed owed : Multiset Session)
  ports : Multiset Nat

namespace Task

def holding : Task → Holding
  | .constructing _ port => ⟨0, 0, 0, {port}⟩
  | .abandoning port => ⟨0, 0, 0, {port}⟩
  | .inserting s => ⟨{s}, {s}, 0, {s.port}⟩
  | .discarding s => ⟨{s}, {s}, 0, {s.port}⟩
  | .returning s => ⟨{s}, 0, 0, {s.port}⟩
  | .ending victim rest stage =>
    ⟨victim.session ::ₘ ↑(rest.map Expiry.session),
      (if stage.isOpen then {victim.session} else 0) + ↑(rest.map Expiry.session),
      victim.session ::ₘ ↑(rest.map Expiry.session),
      (if stage.holdsPort then {victim.session.port} else 0) + ↑(rest.map fun e => e.session.port)⟩
  | _ => ⟨0, 0, 0, 0⟩

theorem holding_first (victim : Expiry) (rest : List Expiry) (reason : EndReason) :
    (Task.ending victim rest (Stage.first reason)).holding =
      ⟨↑((victim :: rest).map Expiry.session), ↑((victim :: rest).map Expiry.session),
        ↑((victim :: rest).map Expiry.session), ↑((victim :: rest).map fun e => e.session.port)⟩ := by
  cases reason <;> rfl

def Bare (t : Task) : Prop := t.holding = ⟨0, 0, 0, 0⟩

end Task

/-- One thing that is kept account of: what a goroutine holds of it, and what a
session stands for. A goroutine that starts on sessions taken out of the table
holds what they stand for. -/
structure Account (α : Type) where
  ofHolding : Holding → Multiset α
  ofSession : Session → α
  bare : ofHolding ⟨0, 0, 0, 0⟩ = 0
  first : ∀ victim rest reason, ofHolding (Task.ending victim rest (Stage.first reason)).holding =
      ↑((victim :: rest).map fun e => ofSession e.session)

namespace Account

def people : Account Session :=
  ⟨Holding.sessions, id, rfl, fun v rest reason => by rw [Task.holding_first]; rfl⟩

def unclosed : Account Session :=
  ⟨Holding.unclosed, id, rfl, fun v rest reason => by rw [Task.holding_first]; rfl⟩

def owed : Account Session :=
  ⟨Holding.owed, id, rfl, fun v rest reason => by rw [Task.holding_first]; rfl⟩

def ports : Account Nat :=
  ⟨Holding.ports, Session.port, rfl, fun v rest reason => by rw [Task.holding_first]⟩

end Account

namespace Happening

def enters : Happening → Option Session
  | .entered s => some s
  | _ => none

def ends : Happening → Option Session
  | .sessionEnded s _ => some s
  | _ => none

/-- What an entry of the history does to the table. -/
def tabulate (table : GoString → Option Session) : Happening → GoString → Option Session
  | .entered s => Function.update table s.id (some s)
  | .left s => Function.update table s.id none
  | _ => table

def isQuiet : Happening → Bool
  | .entered _ => false
  | .left _ => false
  | .sessionEnded _ _ => false
  | .settled _ (.ok _) => false
  | _ => true

end Happening

/-- The sessions in the table after a history. -/
def present (log : List Happening) : GoString → Option Session :=
  log.foldl Happening.tabulate fun _ => none

/-- A descriptor is given out for the session that is in the table under the id,
and no session enters over another. -/
structure Truthful (before : List Happening) (h : Happening) : Prop where
  described : ∀ id d, h = .settled id (.ok d) → ∃ s, present before id = some s ∧ d = describe s
  entered : ∀ s, h = .entered s → present before s.id = none

theorem present_append (log new : List Happening) :
    present (log ++ new) = new.foldl Happening.tabulate (present log) :=
  List.foldl_append

variable {new : List Happening}

attribute [local simp] Happening.isQuiet

theorem foldl_tabulate_quiet (h : ∀ x ∈ new, x.isQuiet)
    (table : GoString → Option Session) : new.foldl Happening.tabulate table = table := by
  induction new generalizing table with
  | nil => rfl
  | cons x new ih =>
    have hx : x.tabulate table = table := by
      have hq := h x List.mem_cons_self
      cases x <;> first | rfl | simp at hq
    rw [List.foldl_cons, hx]
    exact ih (fun y hy => h y (.tail _ hy)) table

attribute [local simp] Happening.tabulate

theorem foldl_tabulate_left (gone : List Session) (table : GoString → Option Session)
    (id : GoString) : (gone.map Happening.left).foldl Happening.tabulate table id =
      if id ∈ gone.map Session.id then none else table id := by
  induction gone generalizing table with
  | nil => simp
  | cons s gone ih =>
    rw [List.map_cons, List.foldl_cons, ih]
    by_cases hid : id = s.id
    · simp [hid]
    · simp [hid]

theorem filterMap_quiet (h : ∀ x ∈ new, x.isQuiet) :
    new.filterMap Happening.enters = [] ∧ new.filterMap Happening.ends = [] := by
  constructor <;>
  · apply List.filterMap_eq_nil_iff.mpr
    intro x hx
    have hq := h x hx
    cases x <;> first | rfl | simp at hq

theorem truthful_of_isQuiet {h : Happening} (hq : h.isQuiet) (before : List Happening) :
    Truthful before h := by
  constructor
  · rintro id d rfl
    simp at hq
  · rintro s rfl
    simp at hq

theorem present_of_stayed {log : List Happening} (h : Each Truthful (log ++ new)) {id : GoString}
    {s : Session} (hs : present log id = some s) (hstay : ∀ s', .left s' ∈ new → s'.id ≠ id) :
    present (log ++ new) id = some s := by
  induction new generalizing log with
  | nil => simpa using hs
  | cons x new ih =>
    have hx : present (log ++ [x]) id = some s := by
      rw [present_append]
      cases x with
      | entered s' =>
        have hne : id ≠ s'.id := by
          intro hid
          have hnone := (h log (.entered s') new rfl).entered s' rfl
          rw [← hid, hs] at hnone
          cases hnone
        simpa [hne] using hs
      | left s' =>
        have hne : id ≠ s'.id := Ne.symm (hstay s' List.mem_cons_self)
        simpa [hne] using hs
      | _ => exact hs
    rw [← List.singleton_append, ← List.append_assoc] at h ⊢
    exact ih h hx fun s' hs' => hstay s' (.tail _ hs')

namespace Manager

/-- What is accounted for: in the table, in the hands of the goroutines, and
taken out of the table a moment ago. -/
def total {α : Type} (a : Account α) (out : List Expiry) (m : Manager) : Multiset α :=
  ↑(m.sessions.values.map a.ofSession) + pooled (fun t => a.ofHolding t.holding) m.tasks +
    ↑(out.map fun e => a.ofSession e.session)

/-- Agreement on all the books are about, tasks and history apart. -/
structure Same (m m' : Manager) : Prop where
  sessions : m'.sessions = m.sessions
  closed : m'.closed = m.closed
  inUse : m'.allocator.inUse = m.allocator.inUse
  fresh : m'.fresh = m.fresh
  isClosed : m'.isClosed = m.isClosed

def enrol (m : Manager) (s : Session) : Manager :=
  ({ m with sessions := m.sessions.set s.id s }.tell (.entered s)).tell
    (.settled s.id (.ok (describe s)))

/-- The ways in which a step of one goroutine changes the books. -/
inductive Effect (m : Manager) (t : Task) : Move → Prop
  | quiet {m' : Manager} {t' : Task} {started : List Task} {new : List Happening}
      (hsame : Same m m') (hrelay : m'.peer = m.peer ∧ m'.bridges = m.bridges)
      (htasks : m'.tasks = m.tasks) (hlog : m'.log = m.log ++ new)
      (hquiet : ∀ h ∈ new, h.isQuiet) (hhold : t'.holding = t.holding)
      (hbare : ∀ u ∈ started, u.Bare) : Effect m t (m', t', started)
  | described {t' : Task} {id : GoString} {s : Session} (hget : m.sessions.get? id = some s)
      (hhold : t'.holding = t.holding) :
      Effect m t (m.tell (.settled id (.ok (describe s))), t', [])
  | bound {t' : Task} {allocator : Allocator} {port : Nat}
      (huse : allocator.inUse.val = port ::ₘ m.allocator.inUse.val) (hbare : t.Bare)
      (hhold : t'.holding = ⟨0, 0, 0, {port}⟩) : Effect m t ({ m with allocator := allocator }, t', [])
  | built {t' : Task} {s : Session} (hserial : s.serial = m.fresh)
      (hhold : t.holding = ⟨0, 0, 0, {s.port}⟩) (hhold' : t'.holding = ⟨{s}, {s}, 0, {s.port}⟩) :
      Effect m t ({ m with fresh := m.fresh + 1 }, t', [])
  | inserted {s : Session} (hhold : t.holding = ⟨{s}, {s}, 0, {s.port}⟩) (hopen : m.closed = false)
      (hget : m.sessions.get? s.id = none) : Effect m t (m.enrol s, .finished, [])
  | shut {t' : Task} {s : Session} {h : Holding} (hhold : t.holding = { h with unclosed := s ::ₘ h.unclosed })
      (hhold' : t'.holding = h) (hmem : s ∈ h.sessions) :
      Effect m t ({ m with isClosed := Function.update m.isClosed s.serial true }, t', [])
  | freed {t' : Task} {port : Nat} {h : Holding}
      (hhold : t.holding = { h with ports := port ::ₘ h.ports })
      (hhold' : t'.holding = { h with sessions := t'.holding.sessions })
      (hle : t'.holding.sessions ≤ h.sessions) :
      Effect m t ({ m with allocator := m.allocator.release port }, t', [])
  | ended {t' : Task} {s : Session} {reason : EndReason} {h : Holding}
      (hhold : t.holding = { h with sessions := s ::ₘ h.sessions, owed := s ::ₘ h.owed })
      (hhold' : t'.holding = h) (howed : h.sessions = h.owed) :
      Effect m t (m.tell (.sessionEnded s reason), t', [])
  | twice {mv : Move} {s : Session} (hmem : s ∈ t.holding.unclosed)
      (hclosed : m.isClosed s.serial = true) : Effect m t mv

theorem clearPeer_eq (m : Manager) (id : GoString) :
    ∃ peer, m.clearPeer id = { m with peer := peer } := by
  rw [clearPeer]
  split
  · exact ⟨_, rfl⟩
  · exact ⟨m.peer, rfl⟩

@[simp] theorem bridges_clearPeer (m : Manager) (id : GoString) :
    (m.clearPeer id).bridges = m.bridges := by
  obtain ⟨peer, h⟩ := clearPeer_eq m id
  rw [h]

theorem detachLocked_eq (m : Manager) (bridgeId : GoString) (pair : GoString × GoString) :
    ∃ peer bridges, m.detachLocked bridgeId pair = { m with peer := peer, bridges := bridges } := by
  obtain ⟨peer, hfirst⟩ := clearPeer_eq m pair.1
  obtain ⟨peer', hsecond⟩ := clearPeer_eq (m.clearPeer pair.1) pair.2
  rw [detachLocked, hsecond, hfirst]
  exact ⟨peer', _, rfl⟩

theorem unbridgeSessionLocked_eq (m : Manager) (id : GoString) :
    ∃ peer bridges, m.unbridgeSessionLocked id = { m with peer := peer, bridges := bridges } := by
  rw [unbridgeSessionLocked]
  split
  · exact detachLocked_eq m _ _
  · exact ⟨m.peer, m.bridges, rfl⟩

theorem takeOut_eq (m : Manager) (id : GoString) (s : Session) :
    ∃ peer bridges, m.takeOut id s = { m with
      sessions := m.sessions.erase id, peer := peer, bridges := bridges,
      log := m.log ++ [.left s] } := by
  obtain ⟨peer, bridges, h⟩ :=
    unbridgeSessionLocked_eq { m with sessions := m.sessions.erase id } id
  rw [takeOut, h]
  exact ⟨peer, bridges, rfl⟩

variable {m : Manager}

theorem bridge_eq {m' : Manager} {bridgeId first second : GoString}
    (h : m.bridge bridgeId first second = .ok m') :
    ∃ peer bridges, m' = { m with peer := peer, bridges := bridges } := by
  rw [bridge] at h
  split_ifs at h
  split at h
  · cases h
  · cases h
  · split_ifs at h
    obtain ⟨peer, bridges, hfirst⟩ := unbridgeSessionLocked_eq m first
    obtain ⟨peer', bridges', hsecond⟩ := unbridgeSessionLocked_eq (m.unbridgeSessionLocked first) second
    rw [hsecond, hfirst] at h
    cases h
    exact ⟨_, _, rfl⟩

theorem endAll_eq (m : Manager) (out : List Expiry) :
    ∃ tasks, m.endAll out = { m with tasks := tasks } := by
  cases out with
  | nil => exact ⟨m.tasks, rfl⟩
  | cons victim rest => exact ⟨_, rfl⟩

theorem verdict_session {cfg : Config} {now : Int} {s : Session} {e : Expiry}
    (h : m.verdict cfg now s = some e) : e.session = s := by
  rw [verdict] at h
  split_ifs at h
  · cases h
    rfl
  · cases h
    rfl

theorem Same.refl (m : Manager) : Same m m := ⟨rfl, rfl, rfl, rfl, rfl⟩

variable {t : Task}

variable {t' : Task}

theorem effect_tell {h : Happening} (hq : h.isQuiet)
    (hhold : t'.holding = t.holding) : Effect m t (m.tell h, t', []) :=
  .quiet ⟨rfl, rfl, rfl, rfl, rfl⟩ ⟨rfl, rfl⟩ rfl rfl (by simpa using hq) hhold (by simp)

theorem effect_stay (hhold : t'.holding = t.holding) : Effect m t (m, t', []) :=
  .quiet (Same.refl m) ⟨rfl, rfl⟩ rfl (List.append_nil _).symm (by simp) hhold (by simp)

theorem check_effect (m : Manager) (opts : AllocateOptions) :
    Effect m (.checking opts) (m.check opts) := by
  rw [check]
  split_ifs
  · exact effect_tell rfl rfl
  · split
    · exact .described ‹_› rfl
    · exact effect_stay rfl

theorem bind_effect (c : Choice) (m : Manager) (opts : AllocateOptions) :
    Effect m (.binding opts) (m.bind c opts) := by
  rw [bind]
  split
  · rename_i allocator heq
    have huse : (m.allocator.allocate c.binds).2.inUse = m.allocator.inUse :=
      Allocator.allocate_none (by rw [heq])
    rw [heq] at huse
    exact .quiet ⟨rfl, rfl, huse, rfl, rfl⟩ ⟨rfl, rfl⟩ rfl rfl (by simp) rfl (by simp)
  · rename_i port allocator heq
    have huse : (m.allocator.allocate c.binds).2.inUse.val = port ::ₘ m.allocator.inUse.val :=
      Allocator.allocate_some (by rw [heq])
    rw [heq] at huse
    exact .bound huse rfl rfl

theorem construct_effect (cfg : Config) (c : Choice) (m : Manager) (opts : AllocateOptions)
    (port : Nat) : Effect m (.constructing opts port) (m.construct cfg c opts port) := by
  rw [construct]
  split
  · exact effect_tell rfl rfl
  · exact .built rfl rfl rfl

theorem insert_effect (m : Manager) (s : Session) : Effect m (.inserting s) (m.insert s) := by
  rw [insert]
  split_ifs with hclosed
  · exact effect_tell rfl rfl
  · split
    · exact .described ‹_› rfl
    · exact .inserted rfl (by simpa using hclosed) ‹_›

theorem announceRecording_effect (r : Recording)
    (hhold : t'.holding = t.holding) : Effect m t (m.announceRecording r, t', []) := by
  rw [announceRecording]
  split_ifs
  · exact effect_stay hhold
  · exact .quiet ⟨rfl, rfl, rfl, rfl, rfl⟩ ⟨rfl, rfl⟩ rfl rfl (by simp) hhold (by simp)
  · exact .quiet ⟨rfl, rfl, rfl, rfl, rfl⟩ ⟨rfl, rfl⟩ rfl rfl (by simp) hhold (by simp)

attribute [local simp] Task.holding Stage.isOpen Stage.holdsPort

theorem finish_effect {c : Choice} {victim : Expiry} {rest : List Expiry}
    {stage : Stage} {mv : Move} (h : m.finish c victim rest stage = some mv) :
    Effect m (.ending victim rest stage) mv := by
  cases stage with
  | telling =>
    cases h
    exact effect_tell rfl rfl
  | flushing =>
    cases h
    cases c.digit with
    | none => exact effect_stay rfl
    | some digit => exact effect_tell rfl rfl
  | reading =>
    cases h
    exact effect_stay rfl
  | closing recording =>
    rw [finish] at h
    split_ifs at h with hclosed
    · exact .twice (by simp) hclosed
    · cases h
      exact .shut (by simp) rfl
        (by simp)
  | freeing recording =>
    cases h
    exact .freed (by simp) rfl le_rfl
  | awaiting recording =>
    cases recording with
    | none =>
      cases h
      exact effect_stay rfl
    | some r =>
      rw [finish] at h
      split_ifs at h with hdone hvoid
      · cases h
        exact announceRecording_effect r rfl
      · cases h
        exact effect_stay rfl
  | announcing =>
    cases rest with
    | nil =>
      cases h
      exact .ended (by simp) rfl rfl
    | cons next rest =>
      cases h
      apply Effect.ended _ (Task.holding_first next rest next.reason) rfl
      simp

theorem lookUp_effect (m : Manager) (id ref path : GoString) :
    Effect m (.looking id ref path) (m.lookUp id ref path) := by
  rw [lookUp]
  split_ifs
  · exact effect_tell rfl rfl
  · exact effect_tell rfl rfl
  · split
    · exact effect_tell rfl rfl
    · exact effect_stay rfl

theorem ask_effect (m : Manager) (session : Session) (ref path : GoString) :
    Effect m (.asking session ref path) (m.ask session ref path) := by
  rw [ask]
  split_ifs
  · exact effect_tell rfl rfl
  · exact effect_tell rfl rfl
  · exact effect_tell rfl rfl
  · exact effect_stay rfl

theorem claim_effect (m : Manager) (session : Session) (ref : GoString) :
    Effect m (.claiming session ref) (m.claim session ref) := by
  rw [claim]
  split
  · exact effect_tell rfl rfl
  · exact .quiet ⟨rfl, rfl, rfl, rfl, rfl⟩ ⟨rfl, rfl⟩ rfl rfl (by simp) rfl (by simp)

theorem clearSlot_same (m : Manager) (r : Recording) :
    Same m (m.clearSlot r) ∧ ((m.clearSlot r).peer = m.peer ∧ (m.clearSlot r).bridges = m.bridges) ∧
      (m.clearSlot r).tasks = m.tasks ∧ (m.clearSlot r).log = m.log := by
  rw [clearSlot]
  split_ifs <;> exact ⟨⟨rfl, rfl, rfl, rfl, rfl⟩, ⟨rfl, rfl⟩, rfl, rfl⟩

theorem advance_effect {cfg : Config} {c : Choice} {mv : Move}
    (h : m.advance cfg c t = some mv) : Effect m t mv := by
  cases t with
  | checking opts =>
    cases h
    exact check_effect m opts
  | binding opts =>
    cases h
    exact bind_effect c m opts
  | constructing opts port =>
    cases h
    exact construct_effect cfg c m opts port
  | abandoning port =>
    cases h
    exact .freed (h := ⟨0, 0, 0, 0⟩) rfl rfl le_rfl
  | inserting s =>
    cases h
    exact insert_effect m s
  | discarding s =>
    rw [advance] at h
    split_ifs at h with hclosed
    · exact .twice (by simp) hclosed
    · cases h
      exact .shut (by simp) rfl (by simp)
  | returning s =>
    cases h
    exact .freed (h := ⟨{s}, 0, 0, 0⟩) rfl rfl (Multiset.zero_le _)
  | ending victim rest stage => exact finish_effect h
  | looking id ref path =>
    cases h
    exact lookUp_effect m id ref path
  | asking session ref path =>
    cases h
    exact ask_effect m session ref path
  | claiming session ref =>
    cases h
    exact claim_effect m session ref
  | opening r =>
    rw [advance] at h
    split_ifs at h
    · cases h
      refine .quiet (Same.refl m) ⟨rfl, rfl⟩ rfl (List.append_nil _).symm (by simp) rfl ?_
      simp [Task.Bare]
    · cases h
      obtain ⟨hsame, hrelay, htasks, hlog⟩ :=
        clearSlot_same { m with isVoid := Function.update m.isVoid r.serial true } r
      exact .quiet ⟨hsame.sessions, hsame.closed, hsame.inUse, hsame.fresh, hsame.isClosed⟩ hrelay htasks
        (congrArg (· ++ [Happening.startRefused r.ref .wavFailed]) hlog)
        (by simp) rfl (by simp)
  | indexing _ | signalling _ =>
    cases h
    exact .quiet ⟨rfl, rfl, rfl, rfl, rfl⟩ ⟨rfl, rfl⟩ rfl (List.append_nil _).symm (by simp) rfl (by simp)
  | watching r =>
    cases h
    refine .quiet ⟨rfl, rfl, rfl, rfl, rfl⟩ ⟨rfl, rfl⟩ rfl rfl (by simp) rfl ?_
    simp [Task.Bare]
  | recording r =>
    rw [advance] at h
    split_ifs at h
    cases h
    exact effect_tell rfl rfl
  | clearing r =>
    cases h
    obtain ⟨hsame, hrelay, htasks, hlog⟩ := clearSlot_same m r
    exact .quiet hsame hrelay htasks (hlog.trans (List.append_nil _).symm) (by simp) rfl (by simp)
  | awaiting r =>
    rw [advance] at h
    split_ifs at h
    cases h
    exact announceRecording_effect r rfl
  | finished => cases h

section turns

variable (cfg : Config) (m : Manager) (e : Event)

/-- What a step of an instance comes to. -/
inductive Turn : Manager → Prop
  | still : Turn m
  | refused : Turn (m.tell (.settled [] (.error .sessionIdRequired)))
  | spawned {t : Task} (ht : (∃ opts, t = .checking opts) ∨ ∃ id ref path, t = .looking id ref path) :
      Turn (m.spawn t)
  | released {id : GoString} {s : Session} (hget : m.sessions.get? id = some s) :
      Turn ((m.takeOut id s).endAll [⟨s, .released, 0⟩])
  | bridged {bridgeId first second : GoString} {m' : Manager} (he : e = .bridge bridgeId first second)
      (hb : m.bridge bridgeId first second = .ok m') : Turn m'
  | unbridged {bridgeId : GoString} {pair : GoString × GoString} (hget : m.bridges.get? bridgeId = some pair) :
      Turn (m.detachLocked bridgeId pair)
  | reaped (now : Int) : Turn
      ((collect cfg now m.sessions.entries m).1.endAll (collect cfg now m.sessions.entries m).2)
  | drained : Turn m.drain
  | heard (session : Session) (now : Int) (digits : List DtmfDigit) : Turn (m.hear session now digits)
  | stopped (r : Recording) : Turn { m with stopAsked := Function.update m.stopAsked r.serial true }
  | advanced {n : Nat} {c : Choice} {t : Task} {mv : Move} (he : e = .advance n c) (hn : m.tasks[n]? = some t)
      (hmv : m.advance cfg c t = some mv) : Turn (mv.1.goOn n mv.2.1 mv.2.2)

end turns

theorem step_turn {cfg : Config} {e : Event} {m' : Manager} (h : m.step cfg e = some m') : Turn cfg m e m' := by
  cases e with
  | allocate opts =>
    rw [step] at h
    split_ifs at h <;> cases h
    · exact .refused
    · exact .spawned (.inl ⟨opts, rfl⟩)
  | release id =>
    cases h
    rw [release]
    cases hget : m.sessions.get? id with
    | none => exact .still
    | some s => exact .released hget
  | bridge bridgeId first second =>
    rw [step] at h
    split at h <;> cases h
    · exact .bridged rfl ‹_›
    · exact .still
  | unbridge bridgeId =>
    cases h
    rw [unbridge]
    cases hget : m.bridges.get? bridgeId with
    | none => exact .still
    | some pair => exact .unbridged hget
  | reapIdle now =>
    cases h
    rw [reapIdle]
    split_ifs
    · exact .still
    · exact .reaped now
  | drain =>
    cases h
    exact .drained
  | packet session now digits =>
    rw [step] at h
    split_ifs at h
    cases h
    exact .heard session now digits
  | startRecording id ref path =>
    cases h
    exact .spawned (.inr ⟨id, ref, path, rfl⟩)
  | stopRecording ref =>
    cases h
    rw [stopRecording]
    split
    · exact .still
    · split
      · split_ifs
        · exact .stopped _
        · exact .still
      · exact .still
  | advance n c =>
    obtain ⟨t, hn, hrest⟩ := Option.bind_eq_some_iff.mp h
    obtain ⟨mv, hmv, hgo⟩ := Option.bind_eq_some_iff.mp hrest
    cases hgo
    exact .advanced rfl hn hmv

end Manager

end OptimiqVoice.Mediad

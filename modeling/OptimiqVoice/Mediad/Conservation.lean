import OptimiqVoice.Mediad.Settling

namespace OptimiqVoice.Mediad

open Lib
open Sipd (GoString)
open Multiset (coe_nodup mem_add nodup_add zero_le)

namespace Task

def holders : Task → Multiset Session
  | .inserting s => {s}
  | .discarding s => {s}
  | .returning s => {s}
  | .ending victim rest stage =>
    (if stage.holdsPort then {victim.session} else 0) + ↑(rest.map Expiry.session)
  | _ => 0

/-- An `Allocate`, `Release`, `ReapIdle` or `Drain` that is under way. -/
def isOperation : Task → Bool
  | .checking _ => true
  | .binding _ => true
  | .constructing _ _ => true
  | .abandoning _ => true
  | .inserting _ => true
  | .discarding _ => true
  | .returning _ => true
  | .ending _ _ _ => true
  | _ => false

theorem bare_of_not_isOperation {t : Task} (h : t.isOperation = false) : t.Bare := by
  cases t with
  | checking _ | binding _ => rfl
  | constructing _ _ | abandoning _ | inserting _ | discarding _ | returning _ | ending _ _ _ =>
    cases h
  | _ => rfl

theorem map_holders_le (t : Task) : t.holders.map Session.port ≤ t.holding.ports := by
  cases t with
  | ending victim rest stage =>
    apply le_of_eq
    cases hport : stage.holdsPort <;> simp [holders, holding, hport, Function.comp_def]
  | inserting _ | discarding _ | returning _ => simp [holders, holding]
  | _ => exact zero_le _

theorem owed_le_sessions (t : Task) : t.holding.owed ≤ t.holding.sessions := by
  cases t with
  | ending victim rest stage => exact le_rfl
  | _ => exact zero_le _

end Task

def Happening.admits : Happening → Bool
  | .entered _ => true
  | .settled _ (.ok _) => true
  | _ => false

theorem Happening.admits_of_isQuiet {h : Happening} (hq : h.isQuiet) : h.admits = false := by
  cases h with
  | entered s => cases hq
  | settled id reply =>
    cases reply with
    | error refusal => rfl
    | ok d => cases hq
  | _ => rfl

namespace Manager

def holders (m : Manager) : Multiset Session := ↑m.sessions.values + pooled Task.holders m.tasks

def Idle (m : Manager) : Prop := ∀ t ∈ m.tasks, t.isOperation = false

/-- What is said of an instance that was drained, at any time afterwards. -/
structure Drained (m k : Manager) : Prop where
  closed : k.closed = true
  empty : k.sessions = .empty
  unadmitted : ∃ new, k.log = m.log ++ new ∧ ∀ h ∈ new, h.admits = false
  free : k.Idle → k.allocator.inUse = ∅

/-- The ports of an instance are conserved. -/
structure Conserved (cfg : Config) (m : Manager) : Prop where
  apart : (m.holders.map Session.port).Nodup
  served : ∀ n opts s c, m.tasks[n]? = some (.checking opts) → m.sessions.get? opts.sessionId = some s →
    ∃ k, m.step cfg (.advance n c) = some k ∧
      k.log = m.log ++ [.settled opts.sessionId (.ok (describe s))]
  same : ∀ before id d between d' after,
    m.log = before ++ .settled id (.ok d) :: between ++ .settled id (.ok d') :: after →
    (∀ s, .left s ∈ between → s.id ≠ id) →
    ∃ s, .entered s ∈ before ∧ s.id = id ∧ d = describe s ∧ d' = describe s
  once : (m.log.filterMap Happening.ends).Nodup
  entered : ∀ s ∈ m.log.filterMap Happening.ends, .entered s ∈ m.log
  idle : m.Idle → m.allocator.inUse.val = ↑(m.sessions.values.map Session.port)
  ended : m.Idle → ∀ s, .entered s ∈ m.log →
    (s ∈ m.log.filterMap Happening.ends ↔ m.sessions.get? s.id ≠ some s)
  drained : ∀ k, m.step cfg .drain = some k → ∀ es l, run (step cfg) k es = some l → Drained k l
  settles : ∃ es k, (∀ e ∈ es, ∃ n, e = .advance n pressing) ∧ run (step cfg) m es = some k ∧ k.Idle

section closed

variable {cfg : Config} {m k : Manager}

theorem step_drain (h : m.step cfg .drain = some k) : k.closed = true := by
  cases h
  rw [drain]
  split_ifs with hclosed
  · exact hclosed
  · obtain ⟨tasks, heq⟩ := endAll_eq { m with
      closed := true, sessions := .empty, bridges := .empty,
      log := m.log ++ m.sessions.values.map Happening.left }
      (m.sessions.values.map fun session => ⟨session, .drained, 0⟩)
    rw [heq]

theorem Books.advance_closed (h : Books [] m) (hclosed : m.closed = true) {t : Task} {mv : Move}
    (heffect : Effect m t mv) (hn : t ∈ m.tasks) :
    mv.1.closed = true ∧ ∃ new, mv.1.log = m.log ++ new ∧ ∀ x ∈ new, x.admits = false := by
  cases heffect with
  | quiet hsame hrelay htasks hlog hquiet hhold hbare =>
    exact ⟨hsame.closed.trans hclosed, _, hlog, fun x hx => Happening.admits_of_isQuiet (hquiet x hx)⟩
  | described hget hhold =>
    rw [h.chronicle.emptied hclosed] at hget
    cases hget
  | inserted hhold hopen hget => simp [hclosed] at hopen
  | ended hhold hhold' howed => exact ⟨hclosed, _, rfl, by simp [Happening.admits]⟩
  | twice hmem htwice =>
    obtain ⟨n, hn⟩ := List.mem_iff_getElem?.mp hn
    exact absurd htwice (h.roster.not_closed hn hmem)
  | _ => exact ⟨hclosed, [], (List.append_nil _).symm, by simp⟩

theorem Books.step_closed (h : Books [] m) (hclosed : m.closed = true) {e : Event}
    (hstep : m.step cfg e = some k) :
    k.closed = true ∧ ∃ new, k.log = m.log ++ new ∧ ∀ x ∈ new, x.admits = false := by
  have hempty := h.chronicle.emptied hclosed
  have hsame : m.closed = true ∧ ∃ new, m.log = m.log ++ new ∧ ∀ x ∈ new, x.admits = false :=
    ⟨hclosed, [], (List.append_nil _).symm, by simp⟩
  cases step_turn hstep with
  | refused => exact ⟨hclosed, _, rfl, by simp [Happening.admits]⟩
  | released hget =>
    rw [hempty] at hget
    cases hget
  | bridged he hb =>
    obtain ⟨peer, bridges, rfl⟩ := bridge_eq hb
    exact hsame
  | @unbridged bridgeId pair hget =>
    obtain ⟨peer, bridges, heq⟩ := detachLocked_eq m bridgeId pair
    rw [heq]
    exact hsame
  | reaped now =>
    rw [hempty]
    exact hsame
  | drained =>
    rw [Manager.drain, if_pos hclosed]
    exact hsame
  | heard session now digits =>
    refine ⟨hclosed, _, rfl, ?_⟩
    intro x hx
    obtain ⟨digit, -, rfl⟩ := List.mem_map.mp hx
    rfl
  | advanced he hn hmv => exact h.advance_closed hclosed (advance_effect hmv) (List.mem_of_getElem? hn)
  | _ => exact hsame

end closed

section conserved

variable {cfg : Config} {m : Manager}

theorem map_holders_le (m : Manager) : m.holders.map Session.port ≤ m.total .ports [] := by
  rw [holders, Multiset.map_add, map_pooled, total]
  apply le_trans _ (Multiset.le_add_right _ _)
  apply add_le_add
  · exact le_rfl
  · exact pooled_le Task.map_holders_le m.tasks

theorem total_of_idle {α : Type} (a : Account α) (h : m.Idle) :
    m.total a [] = ↑(m.sessions.values.map a.ofSession) := by
  rw [total, pooled_bare a fun t ht => Task.bare_of_not_isOperation (h t ht)]
  simp

variable {s : Session}

theorem mem_enters {log : List Happening} :
    s ∈ log.filterMap Happening.enters ↔ .entered s ∈ log := by
  rw [List.mem_filterMap]
  constructor
  · rintro ⟨x, hx, henters⟩
    cases x with
    | entered s' =>
      cases henters
      exact hx
    | _ => cases henters
  · intro h
    exact ⟨_, h, rfl⟩

theorem entered_of_present {log : List Happening} {id : GoString}
    (h : present log id = some s) : .entered s ∈ log ∧ s.id = id := by
  induction log using List.reverseRecOn with
  | nil => cases h
  | append_singleton log x ih =>
    have hlog : present log id = some s → .entered s ∈ log ++ [x] ∧ s.id = id := by
      intro hs
      exact ⟨List.mem_append_left _ (ih hs).1, (ih hs).2⟩
    rw [present_append] at h
    cases x with
    | entered s' =>
      by_cases hid : id = s'.id
      · obtain rfl : s' = s := by simpa [Happening.tabulate, hid] using h
        exact ⟨by simp, hid.symm⟩
      · exact hlog (by simpa [Happening.tabulate, hid] using h)
    | left s' =>
      by_cases hid : id = s'.id
      · simp [Happening.tabulate, hid] at h
      · exact hlog (by simpa [Happening.tabulate, hid] using h)
    | _ => exact hlog h

variable (h : Books [] m)

include h

theorem Books.nodup_enters : (m.log.filterMap Happening.enters).Nodup := by
  have hle : (↑(m.log.filterMap Happening.enters) : Multiset Session) ≤ m.known [] := by
    rw [h.chronicle.announced, known]
    apply Multiset.add_le_add_right
    apply add_le_add_left
    apply add_le_add_right
    exact pooled_le Task.owed_le_sessions m.tasks
  exact Multiset.coe_nodup.mp (Multiset.nodup_of_le hle (Multiset.Nodup.of_map _ h.roster.distinct))

theorem Books.mem_ends (hidle : m.Idle) (hs : .entered s ∈ m.log) :
    s ∈ m.log.filterMap Happening.ends ↔ m.sessions.get? s.id ≠ some s := by
  have hann := h.chronicle.announced
  have hnodup := Multiset.coe_nodup.mpr h.nodup_enters
  have hmem : s ∈ (↑(m.log.filterMap Happening.enters) : Multiset Session) := mem_enters.mpr hs
  rw [hann, total_of_idle _ hidle] at hnodup hmem
  have hvalues : s ∈ m.sessions.values.map Account.owed.ofSession ↔ m.sessions.get? s.id = some s := by
    have hid : m.sessions.values.map Account.owed.ofSession = m.sessions.values := List.map_id _
    rw [hid]
    constructor
    · intro hv
      obtain ⟨⟨id, s'⟩, hentry, rfl⟩ := List.mem_map.mp hv
      have hget := Dict.get?_of_mem hentry
      rwa [← h.roster.keyed id s' hget] at hget
    · exact Dict.mem_values_of_get?
  constructor
  · intro hends hget
    exact Multiset.disjoint_left.mp (Multiset.nodup_add.mp hnodup).2.2 (hvalues.mpr hget) hends
  · intro hne
    obtain hlive | hends := Multiset.mem_add.mp hmem
    · exact absurd (hvalues.mp hlive) hne
    · exact hends

theorem Books.same {before between after : List Happening} {id : GoString}
    {d d' : Descriptor}
    (hlog : m.log = before ++ .settled id (.ok d) :: between ++ .settled id (.ok d') :: after)
    (hstay : ∀ s, .left s ∈ between → s.id ≠ id) :
    ∃ s, .entered s ∈ before ∧ s.id = id ∧ d = describe s ∧ d' = describe s := by
  have htruthful := h.chronicle.truthful
  rw [hlog] at htruthful
  obtain ⟨s, hs, rfl⟩ :=
    (htruthful before (.settled id (.ok d)) (between ++ .settled id (.ok d') :: after)
      (by simp)).described id d rfl
  obtain ⟨s', hs', rfl⟩ := (htruthful _ _ _ rfl).described id d' rfl
  have hstayed : present (before ++ .settled id (.ok (describe s)) :: between) id = some s := by
    apply present_of_stayed htruthful.of_append hs
    intro s' hs'
    exact hstay s' (by simpa using hs')
  obtain rfl : s = s' := Option.some.inj (hstayed.symm.trans hs')
  obtain ⟨hentered, hid⟩ := entered_of_present hs
  exact ⟨s, hentered, hid, rfl, rfl⟩

theorem Books.drained {k : Manager} (hdrain : m.step cfg .drain = some k)
    {es : List Event} {l : Manager} (hrun : run (Manager.step cfg) k es = some l) : Drained k l := by
  have hk : Books [] k := h.step hdrain
  have hl : Books [] l ∧ l.closed = true ∧
      ∃ new, l.log = k.log ++ new ∧ ∀ x ∈ new, x.admits = false := by
    refine run_keeps (fun l => Books [] l ∧ l.closed = true ∧
      ∃ new, l.log = k.log ++ new ∧ ∀ x ∈ new, x.admits = false) ?_
      ⟨hk, step_drain hdrain, [], (List.append_nil _).symm, by simp⟩ hrun
    rintro l e l' ⟨hbooks, hclosed, new, hlog, hnew⟩ hstep
    obtain ⟨hclosed', more, hlog', hmore⟩ := hbooks.step_closed hclosed hstep
    refine ⟨hbooks.step hstep, hclosed', new ++ more, by rw [hlog', hlog, List.append_assoc], ?_⟩
    intro x hx
    exact (List.mem_append.mp hx).elim (hnew x) (hmore x)
  obtain ⟨hbooks, hclosed, hlog⟩ := hl
  have hempty := hbooks.chronicle.emptied hclosed
  refine ⟨hclosed, hempty, hlog, fun hidle => ?_⟩
  apply Finset.val_eq_zero.mp
  rw [hbooks.ports, total_of_idle _ hidle, hempty]
  rfl

theorem conserved_of (htakes : Takes m) : Conserved cfg m where
  apart := Multiset.nodup_of_le (map_holders_le m) (h.ports ▸ m.allocator.inUse.nodup)
  served n opts s c hn hget := by
    have hopen : m.closed = false := by
      cases hclosed : m.closed with
      | false => rfl
      | true =>
        rw [h.chronicle.emptied hclosed] at hget
        cases hget
    refine ⟨(m.tell (.settled opts.sessionId (.ok (describe s)))).goOn n .finished [], ?_, rfl⟩
    simp [step, hn, advance, check, hopen, hget, settle]
  same _ _ _ _ _ _ hlog hstay := h.same hlog hstay
  once := by
    have hnodup := Multiset.coe_nodup.mpr h.nodup_enters
    rw [h.chronicle.announced] at hnodup
    exact Multiset.coe_nodup.mp (Multiset.nodup_add.mp hnodup).2.1
  entered s hs := by
    apply mem_enters.mp
    apply Multiset.mem_coe.mp
    rw [h.chronicle.announced]
    exact Multiset.mem_add.mpr (.inr hs)
  idle hidle := h.ports.trans (total_of_idle .ports hidle)
  ended hidle _ hs := h.mem_ends hidle hs
  drained _ hdrain _ _ hrun := h.drained hdrain hrun
  settles := by
    obtain ⟨es, k, hes, hrun, hall⟩ := htakes.settles cfg
    refine ⟨es, k, hes, hrun, ?_⟩
    intro t ht
    rw [hall t ht]
    rfl

end conserved

/-- In every state an instance comes to, its ports are conserved. -/
theorem conserved_of_run (cfg : Config) (allocator : Allocator) (hfree : allocator.inUse = ∅)
    (es : List Event) (m : Manager) (hrun : run (step cfg) (newManager allocator) es = some m) :
    Conserved cfg m := by
  have hinv : Books [] m ∧ Takes m := by
    refine run_keeps (fun m => Books [] m ∧ Takes m) ?_
      ⟨books_newManager allocator hfree, takes_newManager allocator⟩ hrun
    intro m e m' h hstep
    exact ⟨h.1.step hstep, h.2.step hstep⟩
  exact conserved_of hinv.1 hinv.2

/-- Two `Allocate` of one id that are built side by side, and a `Drain` on which
both sockets come back. -/
def sideBySide : List Event :=
  [.allocate ⟨['a'], ['o'], ['c'], [], 0, 101, false⟩, .allocate ⟨['a'], ['o'], ['c'], [], 0, 101, false⟩] ++
    List.replicate 3 (.advance 0 sampleChoice) ++ List.replicate 4 (.advance 1 sampleChoice) ++
    [.advance 0 sampleChoice, .drain] ++ List.replicate 2 (.advance 0 sampleChoice) ++
    List.replicate 6 (.advance 2 sampleChoice)

theorem conserved_sideBySide :
    ∃ m s, run (step sampleConfig) (newManager sampleAllocator) sideBySide = some m ∧
      .entered s ∈ m.log ∧ .sessionEnded s .drained ∈ m.log ∧
      m.log.count (.settled ['a'] (.ok (describe s))) = 2 ∧ m.allocator.inUse = ∅ ∧
      Conserved sampleConfig m := by
  have hcheck : (run (step sampleConfig) (newManager sampleAllocator) sideBySide).any
      (fun m => decide (.entered ⟨1, ['a'], ['o'], ['c'], [], 7, .relay, 0, 101, 10002, 1000⟩ ∈ m.log) &&
        decide (.sessionEnded ⟨1, ['a'], ['o'], ['c'], [], 7, .relay, 0, 101, 10002, 1000⟩ .drained ∈ m.log) &&
        m.log.count (.settled ['a'] (.ok (describe
          ⟨1, ['a'], ['o'], ['c'], [], 7, .relay, 0, 101, 10002, 1000⟩))) == 2 &&
        m.allocator.inUse == ∅) = true := by decide
  obtain ⟨m, hrun, hm⟩ := (Option.any_eq_true _ _).mp hcheck
  simp only [Bool.and_eq_true, decide_eq_true_eq, beq_iff_eq] at hm
  obtain ⟨⟨⟨hentered, hended⟩, htwice⟩, hfree⟩ := hm
  exact ⟨m, _, hrun, hentered, hended, htwice, hfree,
    conserved_of_run sampleConfig sampleAllocator rfl sideBySide m hrun⟩

/-- Wherever the goroutines stand, a port in use and a session have one holder each. -/
theorem accounted_of_run {cfg : Config} {allocator : Allocator} {es : List Event} {m : Manager}
    (hfree : allocator.inUse = ∅) (hrun : run (step cfg) (newManager allocator) es = some m) :
    m.allocator.inUse.val = m.total .ports [] ∧ ((m.known []).map Session.serial).Nodup ∧
      ∀ s ∈ m.total .unclosed [], m.isClosed s.serial = false := by
  have h := run_keeps (Books []) (fun _ _ _ h => h.step) (books_newManager _ hfree) hrun
  exact ⟨h.ports, h.roster.distinct, h.roster.unclosed⟩

theorem accounted_halfway :
    let m := (run (step sampleConfig) (newManager sampleAllocator) (sideBySide.take 8)).get (by decide)
    m.allocator.inUse.val = m.total .ports [] :=
  (accounted_of_run rfl (Option.some_get _).symm).1

end Manager

end OptimiqVoice.Mediad

import OptimiqVoice.Mediad.Ledger

namespace OptimiqVoice.Mediad

open Lib
open Sipd (GoString)
open Multiset (coe_add coe_eq_coe coe_singleton cons_coe map_add map_cons map_le_map mem_add mem_cons mem_map_of_mem mem_of_le nodup_add nodup_cons singleton_add)

namespace Manager

section tasks

variable {m : Manager} {n : Nat} {t t' : Task} {started : List Task}

theorem mem_goOn {u : Task} (h : u ∈ (m.goOn n t' started).tasks) :
    u ∈ m.tasks ∨ u = t' ∨ u ∈ started := by
  obtain h | h := List.mem_append.mp h
  · obtain h | h := List.mem_or_eq_of_mem_set h
    · exact .inl h
    · exact .inr (.inl h)
  · exact .inr (.inr h)

theorem mem_goOn_of_ne {u : Task} (hn : m.tasks[n]? = some t) (hu : u ∈ m.tasks) (hne : u ≠ t) :
    u ∈ (m.goOn n t' started).tasks := by
  obtain ⟨i, hi⟩ := List.mem_iff_getElem?.mp hu
  have hin : n ≠ i := by
    rintro rfl
    exact hne (Option.some.inj (hi.symm.trans hn))
  apply List.mem_append_left
  apply List.mem_iff_getElem?.mpr
  exact ⟨i, by rw [List.getElem?_set_ne hin, hi]⟩

end tasks

variable {id : GoString} {s : Session}

section totals

variable {α : Type} (a : Account α) {out : List Expiry} {m m' : Manager}

theorem total_goOn {n : Nat} {t : Task} (hn : m.tasks[n]? = some t) (htasks : m'.tasks = m.tasks)
    (t' : Task) (started : List Task) : (m'.goOn n t' started).total a out + a.ofHolding t.holding =
      ↑(m'.sessions.values.map a.ofSession) + pooled (fun t => a.ofHolding t.holding) m.tasks +
        a.ofHolding t'.holding + pooled (fun t => a.ofHolding t.holding) started +
        ↑(out.map fun e => a.ofSession e.session) := by
  have hset := pooled_set (f := fun t => a.ofHolding t.holding) hn t'
  rw [total, goOn, htasks, pooled_append]
  calc _ = ↑(m'.sessions.values.map a.ofSession) +
        (pooled (fun t => a.ofHolding t.holding) (m.tasks.set n t') + a.ofHolding t.holding) +
        pooled (fun t => a.ofHolding t.holding) started +
        ↑(out.map fun e => a.ofSession e.session) := by abel
    _ = _ := by
      rw [hset]
      abel

theorem total_goOn_same {n : Nat} {t : Task} (hn : m.tasks[n]? = some t)
    (htasks : m'.tasks = m.tasks) (hsessions : m'.sessions = m.sessions) (t' : Task)
    (started : List Task) : (m'.goOn n t' started).total a out + a.ofHolding t.holding =
      m.total a out + a.ofHolding t'.holding + pooled (fun t => a.ofHolding t.holding) started := by
  rw [total_goOn a hn htasks, hsessions, total]
  abel

theorem total_spawn {t : Task} :
    (m.spawn t).total a out = m.total a out + a.ofHolding t.holding := by
  simp only [total, spawn, pooled_append, pooled_cons, pooled_nil]
  abel

theorem total_takeOut (h : m.sessions.get? id = some s) {e : Expiry}
    (he : e.session = s) : (m.takeOut id s).total a (e :: out) = m.total a out := by
  obtain ⟨peer, bridges, heq⟩ := takeOut_eq m id s
  have hvalues : (↑(m.sessions.values.map a.ofSession) : Multiset α) =
      a.ofSession s ::ₘ ↑((m.sessions.erase id).values.map a.ofSession) := by
    rw [cons_coe, coe_eq_coe]
    exact (Dict.values_perm_erase h).map a.ofSession
  rw [heq, total, total, hvalues, List.map_cons, he, ← cons_coe, ← singleton_add, ← singleton_add]
  abel

theorem total_endAll : (m.endAll out).total a [] = m.total a out := by
  cases out with
  | nil => rfl
  | cons victim rest =>
    rw [endAll, total_spawn, a.first, total, total]
    simp

end totals

def known (out : List Expiry) (m : Manager) : Multiset Session :=
  m.total .people out + ↑(m.log.filterMap Happening.ends)

/-- Every session is known once: in the table under its id, in the hands of one
goroutine, or as announced. -/
structure Roster (out : List Expiry) (m : Manager) : Prop where
  keyed : ∀ id s, m.sessions.get? id = some s → s.id = id
  distinct : ((m.known out).map Session.serial).Nodup
  older : ∀ s ∈ m.known out, s.serial < m.fresh
  unclosed : ∀ s ∈ m.total .unclosed out, m.isClosed s.serial = false
  unborn : ∀ n, m.fresh ≤ n → m.isClosed n = false

theorem unclosed_le_sessions (t : Task) : t.holding.unclosed ≤ t.holding.sessions := by
  cases t with
  | ending victim rest stage =>
    simp only [Task.holding]
    rw [← singleton_add]
    apply add_le_add_left
    split_ifs
    · exact le_rfl
    · exact Multiset.zero_le _
  | _ => simp [Task.holding]

theorem unclosed_le_known (out : List Expiry) (m : Manager) :
    m.total .unclosed out ≤ m.known out := by
  apply le_trans _ (Multiset.le_add_right _ _)
  apply add_le_add_left
  apply add_le_add_right
  exact pooled_le unclosed_le_sessions m.tasks

theorem known_le {out out' : List Expiry} {m m' : Manager}
    (hpeople : m'.total .people out' ≤ m.total .people out)
    (hends : m'.log.filterMap Happening.ends = m.log.filterMap Happening.ends) :
    m'.known out' ≤ m.known out := by
  rw [known, known, hends]
  exact Multiset.add_le_add_right hpeople

section roster

variable {out : List Expiry} {m m' : Manager}

theorem Roster.shrink (h : Roster out m) {out' : List Expiry}
    (hkeyed : ∀ id s, m'.sessions.get? id = some s → s.id = id)
    (hknown : m'.known out' ≤ m.known out)
    (hunclosed : m'.total .unclosed out' ≤ m.total .unclosed out) (hfresh : m'.fresh = m.fresh)
    (hclosed : m'.isClosed = m.isClosed) : Roster out' m' where
  keyed := hkeyed
  distinct := Multiset.nodup_of_le (map_le_map hknown) h.distinct
  older s hs := hfresh ▸ h.older s (mem_of_le hknown hs)
  unclosed s hs := hclosed ▸ h.unclosed s (mem_of_le hunclosed hs)
  unborn n hn := hclosed ▸ h.unborn n (hfresh ▸ hn)

theorem Roster.built (h : Roster out m) (hserial : s.serial = m.fresh)
    (hkeyed : ∀ id s, m'.sessions.get? id = some s → s.id = id)
    (hknown : m'.known out = s ::ₘ m.known out)
    (hunclosed : m'.total .unclosed out = s ::ₘ m.total .unclosed out)
    (hfresh : m'.fresh = m.fresh + 1) (hclosed : m'.isClosed = m.isClosed) : Roster out m' where
  keyed := hkeyed
  distinct := by
    rw [hknown, map_cons, nodup_cons]
    refine ⟨?_, h.distinct⟩
    intro hmem
    obtain ⟨s', hs', heq⟩ := Multiset.mem_map.mp hmem
    have hlt := h.older s' hs'
    omega
  older s' hs' := by
    rw [hknown, mem_cons] at hs'
    obtain rfl | hs' := hs'
    · omega
    · have hlt := h.older s' hs'
      omega
  unclosed s' hs' := by
    rw [hunclosed, mem_cons] at hs'
    rw [hclosed]
    obtain rfl | hs' := hs'
    · exact h.unborn _ (by omega)
    · exact h.unclosed s' hs'
  unborn n hn := by
    rw [hclosed]
    exact h.unborn n (by omega)

theorem Roster.shut (h : Roster out m) (hkeyed : ∀ id s, m'.sessions.get? id = some s → s.id = id)
    (hknown : m'.known out = m.known out)
    (hunclosed : m.total .unclosed out = s ::ₘ m'.total .unclosed out) (hfresh : m'.fresh = m.fresh)
    (hclosed : m'.isClosed = Function.update m.isClosed s.serial true) : Roster out m' where
  keyed := hkeyed
  distinct := hknown ▸ h.distinct
  older s' hs' := hfresh ▸ h.older s' (hknown ▸ hs')
  unclosed s' hs' := by
    have hnodup : ((s ::ₘ m'.total .unclosed out).map Session.serial).Nodup := by
      rw [← hunclosed]
      exact Multiset.nodup_of_le (map_le_map (unclosed_le_known out m)) h.distinct
    rw [map_cons, nodup_cons] at hnodup
    have hne : s'.serial ≠ s.serial := by
      intro heq
      exact hnodup.1 (heq ▸ mem_map_of_mem _ hs')
    rw [hclosed, Function.update_of_ne hne]
    exact h.unclosed s' (hunclosed ▸ Multiset.mem_cons_of_mem hs')
  unborn n hn := by
    have hlt : s.serial < m.fresh := by
      apply h.older
      apply mem_of_le (unclosed_le_known out m)
      rw [hunclosed]
      exact Multiset.mem_cons_self s _
    rw [hclosed, Function.update_of_ne (by omega)]
    exact h.unborn n (by omega)

theorem mem_known (out : List Expiry) (hs : m.sessions.get? id = some s) : s ∈ m.known out := by
  apply Multiset.mem_add.mpr
  refine .inl (Multiset.mem_add.mpr (.inl (Multiset.mem_add.mpr (.inl ?_))))
  simpa [Account.people] using Dict.mem_values_of_get? hs

theorem Roster.ne_held (h : Roster out m) {s' : Session} {t : Task}
    (hs : m.sessions.get? id = some s) (ht : t ∈ m.tasks) (hs' : s' ∈ t.holding.sessions) :
    s.serial ≠ s'.serial := by
  intro heq
  have hlive : s ∈ (↑(m.sessions.values.map Account.people.ofSession) : Multiset Session) := by
    simpa [Account.people] using Dict.mem_values_of_get? hs
  have hhand : s' ∈ pooled (fun t => Account.people.ofHolding t.holding) m.tasks :=
    mem_pooled.mpr ⟨t, ht, hs'⟩
  have hnodup := h.distinct
  rw [known, total, map_add, map_add, map_add] at hnodup
  have hdisjoint := (Multiset.nodup_add.mp (Multiset.nodup_add.mp (Multiset.nodup_add.mp hnodup).1).1).2.2
  apply Multiset.disjoint_left.mp hdisjoint (mem_map_of_mem _ hlive)
  rw [heq]
  exact mem_map_of_mem _ hhand

theorem Roster.not_closed (h : Roster out m) {n : Nat} {t : Task} (hn : m.tasks[n]? = some t)
    (hs : s ∈ t.holding.unclosed) : ¬m.isClosed s.serial = true := by
  have hmem : s ∈ m.total .unclosed out := by
    apply Multiset.mem_add.mpr
    refine .inl (Multiset.mem_add.mpr (.inr ?_))
    exact mem_pooled.mpr ⟨t, List.mem_of_getElem? hn, hs⟩
  rw [h.unclosed s hmem]
  simp

end roster

/-- The history tells of the table, and of every session that left it. -/
structure Chronicle (out : List Expiry) (m : Manager) : Prop where
  announced : (↑(m.log.filterMap Happening.enters) : Multiset Session) =
    m.total .owed out + ↑(m.log.filterMap Happening.ends)
  present : Mediad.present m.log = m.sessions.get?
  truthful : Each Truthful m.log
  emptied : m.closed = true → m.sessions = .empty

structure Books (out : List Expiry) (m : Manager) : Prop where
  roster : Roster out m
  ports : m.allocator.inUse.val = m.total .ports out
  chronicle : Chronicle out m

section books

variable {out out' : List Expiry} {m m' : Manager} {n : Nat} {t t' : Task} {started : List Task}

theorem Books.quiet (h : Books out m) (hsame : Same m m')
    (htotal : ∀ {α : Type} (a : Account α), m'.total a out' = m.total a out)
    {new : List Happening} (hlog : m'.log = m.log ++ new) (hquiet : ∀ x ∈ new, x.isQuiet) :
    Books out' m' where
  roster := by
    apply h.roster.shrink (hsame.sessions ▸ h.roster.keyed) _ (htotal _).le hsame.fresh hsame.isClosed
    apply known_le (htotal _).le
    rw [hlog, List.filterMap_append, (filterMap_quiet hquiet).2, List.append_nil]
  ports := by rw [hsame.inUse, h.ports, htotal]
  chronicle :=
    { announced := by
        obtain ⟨henters, hends⟩ := filterMap_quiet hquiet
        rw [hlog, List.filterMap_append, List.filterMap_append, henters, hends, List.append_nil,
          List.append_nil, h.chronicle.announced, htotal]
      present := by
        rw [hlog, present_append, foldl_tabulate_quiet hquiet, h.chronicle.present, hsame.sessions]
      truthful := by
        rw [hlog]
        apply h.chronicle.truthful.append_of_forall
        intro x hx before
        exact truthful_of_isQuiet (hquiet x hx) before
      emptied := by
        rw [hsame.closed, hsame.sessions]
        exact h.chronicle.emptied }

theorem total_goOn_eq {α : Type} (a : Account α) (hn : m.tasks[n]? = some t)
    (htasks : m'.tasks = m.tasks) (hsessions : m'.sessions = m.sessions) {x y : Multiset α}
    (h : a.ofHolding t'.holding + pooled (fun t => a.ofHolding t.holding) started + x =
      a.ofHolding t.holding + y) : (m'.goOn n t' started).total a out + x = m.total a out + y := by
  apply add_right_cancel (b := a.ofHolding t.holding)
  calc _ = (m'.goOn n t' started).total a out + a.ofHolding t.holding + x := by abel
    _ = m.total a out + (a.ofHolding t'.holding +
          pooled (fun t => a.ofHolding t.holding) started + x) := by
      rw [total_goOn_same a hn htasks hsessions]
      abel
    _ = _ := by
      rw [h]
      abel

theorem pooled_bare {α : Type} (a : Account α) (h : ∀ u ∈ started, u.Bare) :
    pooled (fun t => a.ofHolding t.holding) started = 0 := by
  apply pooled_eq_zero
  intro u hu
  rw [h u hu, a.bare]

theorem total_goOn_keep {α : Type} (a : Account α) (hn : m.tasks[n]? = some t)
    (htasks : m'.tasks = m.tasks) (hsessions : m'.sessions = m.sessions)
    (h : a.ofHolding t'.holding = a.ofHolding t.holding) (hbare : ∀ u ∈ started, u.Bare) :
    (m'.goOn n t' started).total a out = m.total a out := by
  have heq : (m'.goOn n t' started).total a out + 0 = m.total a out + 0 := by
    apply total_goOn_eq a hn htasks hsessions
    rw [pooled_bare a hbare, h, add_zero]
  simpa using heq

attribute [local simp] Happening.ends

section

variable (h : Books out m)

include h

theorem Books.described (hn : m.tasks[n]? = some t)
    (hget : m.sessions.get? id = some s) (hhold : t'.holding = t.holding) :
    Books out ((m.tell (.settled id (.ok (describe s)))).goOn n t' []) := by
  have htotal : ∀ {α : Type} (a : Account α),
      ((m.tell (.settled id (.ok (describe s)))).goOn n t' []).total a out = m.total a out :=
    fun a => total_goOn_keep a hn rfl rfl (by rw [hhold]) (by simp)
  have hends : (m.log ++ [Happening.settled id (.ok (describe s))]).filterMap Happening.ends =
      m.log.filterMap Happening.ends := by
    rw [filterMap_snoc]
    exact List.append_nil _
  refine ⟨h.roster.shrink h.roster.keyed (known_le (htotal _).le hends) (htotal _).le rfl rfl, ?_, ?_⟩
  · exact h.ports.trans (htotal _).symm
  · refine ⟨?_, ?_, ?_, h.chronicle.emptied⟩
    · rw [htotal, goOn, tell, filterMap_snoc, filterMap_snoc]
      simpa [Happening.enters] using h.chronicle.announced
    · exact (present_append _ _).trans h.chronicle.present
    · apply h.chronicle.truthful.snoc
      constructor
      · rintro _ _ ⟨rfl, rfl⟩
        exact ⟨s, by rw [h.chronicle.present, hget], rfl⟩
      · rintro _ ⟨⟩

theorem Books.untold (hroster : Roster out m') (hports : m'.allocator.inUse.val = m'.total .ports out)
    (howed : m'.total .owed out = m.total .owed out) (hlog : m'.log = m.log) (hsessions : m'.sessions = m.sessions)
    (hclosed : m'.closed = m.closed) : Books out m' := by
  refine ⟨hroster, hports, ?_⟩
  constructor <;> simp only [hlog, howed, hsessions, hclosed]
  · exact h.chronicle.announced
  · exact h.chronicle.present
  · exact h.chronicle.truthful
  · exact h.chronicle.emptied

theorem Books.bound (hn : m.tasks[n]? = some t) {allocator : Allocator}
    {port : Nat} (huse : allocator.inUse.val = port ::ₘ m.allocator.inUse.val) (hbare : t.Bare)
    (hhold : t'.holding = ⟨0, 0, 0, {port}⟩) :
    Books out ({ m with allocator := allocator }.goOn n t' []) := by
  let m' := { m with allocator := allocator }.goOn n t' []
  have htotal : ∀ {α : Type} (a : Account α), a.ofHolding t'.holding = a.ofHolding t.holding →
      m'.total a out = m.total a out :=
    fun a ha => total_goOn_keep a hn rfl rfl ha (by simp)
  have hpeople := htotal .people (by rw [hhold, hbare]; rfl)
  have hunclosed := htotal .unclosed (by rw [hhold, hbare]; rfl)
  have howed := htotal .owed (by rw [hhold, hbare]; rfl)
  have hports : m'.total .ports out + 0 = m.total .ports out + {port} := by
    apply total_goOn_eq .ports hn rfl rfl
    rw [hhold, hbare]
    rfl
  rw [add_zero, ← h.ports, add_comm, singleton_add] at hports
  exact h.untold (h.roster.shrink h.roster.keyed (known_le hpeople.le rfl) hunclosed.le rfl rfl)
    (huse.trans hports.symm) howed rfl rfl rfl

theorem Books.built (hn : m.tasks[n]? = some t)
    (hserial : s.serial = m.fresh) (hhold : t.holding = ⟨0, 0, 0, {s.port}⟩)
    (hhold' : t'.holding = ⟨{s}, {s}, 0, {s.port}⟩) :
    Books out ({ m with fresh := m.fresh + 1 }.goOn n t' []) := by
  let m' := { m with fresh := m.fresh + 1 }.goOn n t' []
  have hpeople : m'.total .people out + 0 = m.total .people out + {s} := by
    apply total_goOn_eq .people hn rfl rfl
    rw [hhold, hhold']
    rfl
  have hunclosed : m'.total .unclosed out + 0 = m.total .unclosed out + {s} := by
    apply total_goOn_eq .unclosed hn rfl rfl
    rw [hhold, hhold']
    rfl
  have howed : m'.total .owed out = m.total .owed out :=
    total_goOn_keep .owed hn rfl rfl (by rw [hhold, hhold']; rfl) (by simp)
  have hports : m'.total .ports out = m.total .ports out :=
    total_goOn_keep .ports hn rfl rfl (by rw [hhold, hhold']; rfl) (by simp)
  rw [add_zero, add_comm _ ({s} : Multiset Session), singleton_add] at hpeople hunclosed
  have hknown : m'.known out = s ::ₘ m.known out := by
    rw [known, hpeople, Multiset.cons_add]
    rfl
  exact h.untold (h.roster.built hserial h.roster.keyed hknown hunclosed rfl rfl) (h.ports.trans hports.symm) howed
    rfl rfl rfl

end

variable {held : Holding}

theorem Books.shut (h : Books out m) (hn : m.tasks[n]? = some t)
    (hhold : t.holding = { held with unclosed := s ::ₘ held.unclosed }) (hhold' : t'.holding = held) :
    Books out ({ m with isClosed := Function.update m.isClosed s.serial true }.goOn n t' []) := by
  let m' := { m with isClosed := Function.update m.isClosed s.serial true }.goOn n t' []
  have htotal : ∀ {α : Type} (a : Account α), a.ofHolding t'.holding = a.ofHolding t.holding →
      m'.total a out = m.total a out :=
    fun a ha => total_goOn_keep a hn rfl rfl ha (by simp)
  have hpeople := htotal .people (by rw [hhold, hhold']; rfl)
  have howed := htotal .owed (by rw [hhold, hhold']; rfl)
  have hports := htotal .ports (by rw [hhold, hhold']; rfl)
  have hunclosed : m'.total .unclosed out + {s} = m.total .unclosed out + 0 := by
    apply total_goOn_eq .unclosed hn rfl rfl
    rw [hhold, hhold', pooled_nil, add_zero, add_zero, add_comm]
    rfl
  rw [add_zero, add_comm, singleton_add] at hunclosed
  have hknown : m'.known out = m.known out := by
    rw [known, hpeople]
    rfl
  exact h.untold (h.roster.shut h.roster.keyed hknown hunclosed.symm rfl rfl) (h.ports.trans hports.symm) howed
    rfl rfl rfl

theorem Books.freed (h : Books out m) (hn : m.tasks[n]? = some t) {port : Nat}
    (hhold : t.holding = { held with ports := port ::ₘ held.ports })
    (hhold' : t'.holding = { held with sessions := t'.holding.sessions })
    (hle : t'.holding.sessions ≤ held.sessions) :
    Books out ({ m with allocator := m.allocator.release port }.goOn n t' []) := by
  let m' := { m with allocator := m.allocator.release port }.goOn n t' []
  have htotal : ∀ {α : Type} (a : Account α), a.ofHolding t'.holding = a.ofHolding t.holding →
      m'.total a out = m.total a out :=
    fun a ha => total_goOn_keep a hn rfl rfl ha (by simp)
  have hunclosed := htotal .unclosed (by rw [hhold, hhold']; rfl)
  have howed := htotal .owed (by rw [hhold, hhold']; rfl)
  obtain ⟨gone, hgone⟩ := Multiset.le_iff_exists_add.mp hle
  have hpeople : m'.total .people out + gone = m.total .people out + 0 := by
    apply total_goOn_eq .people hn rfl rfl
    rw [hhold, pooled_nil, add_zero, add_zero]
    exact hgone.symm
  have hports : m'.total .ports out + {port} = m.total .ports out + 0 := by
    apply total_goOn_eq .ports hn rfl rfl
    rw [hhold, hhold', pooled_nil, add_zero, add_zero, add_comm]
    rfl
  have hpeople_le : m'.total .people out ≤ m.total .people out := by
    rw [add_zero] at hpeople
    exact hpeople ▸ Multiset.le_add_right _ _
  refine h.untold (h.roster.shrink h.roster.keyed (known_le hpeople_le rfl) hunclosed.le rfl rfl) ?_ howed rfl rfl rfl
  rw [add_zero, ← h.ports, add_comm, singleton_add] at hports
  change (m.allocator.inUse.erase port).val = m'.total .ports out
  rw [Finset.erase_val, ← hports, Multiset.erase_cons_head]

theorem total_enrol {α : Type} (a : Account α) (out : List Expiry) (hget : m.sessions.get? s.id = none)
    (hn : m.tasks[n]? = some t) :
    ((m.enrol s).goOn n .finished []).total a out + a.ofHolding t.holding =
      m.total a out + {a.ofSession s} := by
  have hbare : a.ofHolding Task.finished.holding = 0 := a.bare
  have hsessions : (m.enrol s).sessions = m.sessions.set s.id s := rfl
  have htasks : (m.enrol s).tasks = m.tasks := rfl
  rw [total_goOn a hn htasks, hsessions, Dict.values_set_of_get?_eq_none hget, hbare, total,
    List.map_append, ← coe_add]
  simp only [List.map_cons, List.map_nil, coe_singleton, pooled_nil]
  abel

section

variable (h : Books out m)

include h

attribute [local simp] Happening.tabulate

theorem Books.inserted (hn : m.tasks[n]? = some t)
    (hhold : t.holding = ⟨{s}, {s}, 0, {s.port}⟩) (hopen : m.closed = false)
    (hget : m.sessions.get? s.id = none) : Books out ((m.enrol s).goOn n .finished []) := by
  let m' := (m.enrol s).goOn n .finished []
  have htotal : ∀ {α : Type} (a : Account α), a.ofHolding t.holding = {a.ofSession s} →
      m'.total a out = m.total a out := by
    intro α a ha
    apply add_right_cancel (b := a.ofHolding t.holding)
    rw [total_enrol a out hget hn, ha]
  have hpeople := htotal .people (by rw [hhold]; rfl)
  have hunclosed := htotal .unclosed (by rw [hhold]; rfl)
  have hports := htotal .ports (by rw [hhold]; rfl)
  have hkeyed : ∀ id s', (m.sessions.set s.id s).get? id = some s' → s'.id = id := by
    intro id s' hs'
    rw [Dict.get?_set] at hs'
    split_ifs at hs' with hid
    · obtain rfl : s = s' := by simpa using hs'
      exact hid
    · exact h.roster.keyed id s' hs'
  have hpresent : Mediad.present (m.log ++ [.entered s]) = (m.sessions.set s.id s).get? := by
    rw [present_append, h.chronicle.present]
    funext id
    rw [Dict.get?_set]
    by_cases hid : s.id = id
    · simp [hid]
    · simp [hid, Function.update_of_ne (Ne.symm hid)]
  have hends : m'.log.filterMap Happening.ends = m.log.filterMap Happening.ends := by
    have hlog : m'.log = m.log ++ [.entered s] ++ [.settled s.id (.ok (describe s))] := rfl
    rw [hlog, filterMap_snoc, filterMap_snoc]
    simp
  refine ⟨h.roster.shrink hkeyed (known_le hpeople.le hends) hunclosed.le rfl rfl,
    h.ports.trans hports.symm, ?_⟩
  refine ⟨?_, ?_, ?_, ?_⟩
  · have howed : m'.total .owed out + 0 = m.total .owed out + {s} := by
      have heq := total_enrol .owed out hget hn
      rw [hhold] at heq
      exact heq
    have hlog : m'.log = m.log ++ [.entered s] ++ [.settled s.id (.ok (describe s))] := rfl
    rw [add_zero] at howed
    rw [howed, hlog]
    simp only [filterMap_snoc, Happening.enters, Happening.ends, Option.toList_some,
      Option.toList_none, List.append_nil]
    rw [← coe_add, h.chronicle.announced, coe_singleton]
    abel
  · exact (present_append _ _).trans hpresent
  · apply Each.snoc
    · apply h.chronicle.truthful.snoc
      constructor
      · rintro _ _ ⟨⟩
      · rintro _ ⟨rfl⟩
        exact (congrFun h.chronicle.present s.id).trans hget
    · constructor
      · rintro _ _ ⟨rfl, rfl⟩
        exact ⟨s, (congrFun hpresent s.id).trans (Dict.get?_set_self _ _ _), rfl⟩
      · rintro _ ⟨⟩
  · intro hclosed
    exact absurd (hopen.symm.trans hclosed) (by simp)

theorem Books.ended (hn : m.tasks[n]? = some t) {reason : EndReason}
    (hhold : t.holding = { held with sessions := s ::ₘ held.sessions, owed := s ::ₘ held.owed })
    (hhold' : t'.holding = held) : Books out ((m.tell (.sessionEnded s reason)).goOn n t' []) := by
  let m' := (m.tell (.sessionEnded s reason)).goOn n t' []
  have hunclosed : m'.total .unclosed out = m.total .unclosed out :=
    total_goOn_keep .unclosed hn rfl rfl (by rw [hhold, hhold']; rfl) (by simp)
  have hports : m'.total .ports out = m.total .ports out :=
    total_goOn_keep .ports hn rfl rfl (by rw [hhold, hhold']; rfl) (by simp)
  have hpeople : m'.total .people out + {s} = m.total .people out + 0 := by
    apply total_goOn_eq .people hn rfl rfl
    rw [hhold, hhold', pooled_nil, add_zero, add_zero, add_comm]
    rfl
  have howed : m'.total .owed out + {s} = m.total .owed out + 0 := by
    apply total_goOn_eq .owed hn rfl rfl
    rw [hhold, hhold', pooled_nil, add_zero, add_zero, add_comm]
    rfl
  rw [add_zero] at hpeople howed
  have hlog : m'.log = m.log ++ [.sessionEnded s reason] := rfl
  -- the session passes from the goroutine's hands to the announced ones
  have hknown : m'.known out = m.known out := by
    rw [known, known, hlog, filterMap_snoc, ← hpeople, ← coe_add]
    simp only [Happening.ends, Option.toList_some, coe_singleton]
    abel
  refine ⟨h.roster.shrink h.roster.keyed hknown.le hunclosed.le rfl rfl, h.ports.trans hports.symm, ?_⟩
  refine ⟨?_, ?_, ?_, h.chronicle.emptied⟩
  · have hann := h.chronicle.announced
    rw [← howed] at hann
    rw [hlog, filterMap_snoc, filterMap_snoc]
    simp only [Happening.enters, Happening.ends, Option.toList_some, Option.toList_none,
      List.append_nil]
    rw [← coe_add, coe_singleton, hann]
    abel
  · exact (present_append _ _).trans h.chronicle.present
  · exact h.chronicle.truthful.snoc ⟨nofun, nofun⟩

theorem Books.goOn (hn : m.tasks[n]? = some t) {mv : Move}
    (heffect : Effect m t mv) : Books out (mv.1.goOn n mv.2.1 mv.2.2) := by
  cases heffect with
  | quiet hsame hrelay htasks hlog hquiet hhold hbare =>
    refine h.quiet ⟨hsame.sessions, hsame.closed, hsame.inUse, hsame.fresh, hsame.isClosed⟩ ?_ hlog
      hquiet
    intro α a
    exact total_goOn_keep a hn htasks hsame.sessions (by rw [hhold]) hbare
  | described hget hhold => exact h.described hn hget hhold
  | bound huse hbare hhold => exact h.bound hn huse hbare hhold
  | built hserial hhold hhold' => exact h.built hn hserial hhold hhold'
  | inserted hhold hopen hget => exact h.inserted hn hhold hopen hget
  | shut hhold hhold' hmem => exact h.shut hn hhold hhold'
  | freed hhold hhold' hle => exact h.freed hn hhold hhold' hle
  | ended hhold hhold' howed => exact h.ended hn hhold hhold'
  | twice hmem hclosed => exact absurd hclosed (h.roster.not_closed hn hmem)

theorem Books.takeOut
    (hget : m.sessions.get? id = some s) {e : Expiry} (he : e.session = s) :
    Books (e :: out) (m.takeOut id s) := by
  have htotal : ∀ {α : Type} (a : Account α), (m.takeOut id s).total a (e :: out) = m.total a out :=
    fun a => total_takeOut a hget he
  have hid : s.id = id := h.roster.keyed id s hget
  obtain ⟨peer, bridges, heq⟩ := takeOut_eq m id s
  have hkeyed : ∀ id' s', (m.takeOut id s).sessions.get? id' = some s' → s'.id = id' := by
    intro id' s' hs'
    rw [heq, Dict.get?_erase] at hs'
    split_ifs at hs'
    exact h.roster.keyed id' s' hs'
  have hends : (m.takeOut id s).log.filterMap Happening.ends = m.log.filterMap Happening.ends := by
    rw [heq, filterMap_snoc]
    exact List.append_nil _
  refine ⟨h.roster.shrink hkeyed (known_le (htotal _).le hends) (htotal _).le (by rw [heq])
    (by rw [heq]), ?_, ?_⟩
  · rw [htotal, ← h.ports, heq]
  · refine ⟨?_, ?_, ?_, ?_⟩
    · rw [htotal, heq, filterMap_snoc, filterMap_snoc]
      simpa [Happening.enters] using h.chronicle.announced
    · rw [heq, present_append, h.chronicle.present]
      funext id'
      rw [Dict.get?_erase]
      by_cases hid' : id = id'
      · simp [hid, hid']
      · simp [hid, hid', Function.update_of_ne (Ne.symm hid')]
    · rw [heq]
      exact h.chronicle.truthful.snoc ⟨by simp, by simp⟩
    · intro hclosed
      rw [heq] at hclosed
      rw [h.chronicle.emptied hclosed, Dict.get?_empty] at hget
      cases hget

theorem Books.endAll : Books [] (m.endAll out) := by
  obtain ⟨tasks, heq⟩ := endAll_eq m out
  refine h.quiet ?_ (fun a => total_endAll a) (?_ : _ = m.log ++ []) (by simp)
  · rw [heq]
    exact ⟨rfl, rfl, rfl, rfl, rfl⟩
  · rw [heq, List.append_nil]

theorem Books.perm (hperm : out.Perm out') : Books out' m := by
  refine h.quiet (Same.refl m) ?_ (List.append_nil _).symm (by simp)
  intro α a
  rw [total, total, Multiset.coe_eq_coe.mpr (hperm.symm.map fun e => a.ofSession e.session)]

end

theorem Books.collect (cfg : Config) (now : Int) {entries : List (GoString × Session)}
    (hnodup : (entries.map Prod.fst).Nodup)
    (hget : ∀ entry ∈ entries, m.sessions.get? entry.1 = some entry.2) (h : Books out m) :
    Books ((collect cfg now entries m).2 ++ out) (collect cfg now entries m).1 := by
  induction entries generalizing m out with
  | nil => exact h
  | cons entry rest ih =>
    obtain ⟨id, s⟩ := entry
    rw [List.map_cons, List.nodup_cons] at hnodup
    rw [Manager.collect]
    cases hv : m.verdict cfg now s with
    | none => exact ih hnodup.2 (fun entry hm => hget entry (.tail _ hm)) h
    | some e =>
      have hrest : ∀ entry ∈ rest, (m.takeOut id s).sessions.get? entry.1 = some entry.2 := by
        intro entry hm
        obtain ⟨peer, bridges, heq⟩ := takeOut_eq m id s
        have hne : id ≠ entry.1 := by
          intro hid
          exact hnodup.1 (List.mem_map.mpr ⟨entry, hm, hid.symm⟩)
        rw [heq, Dict.get?_erase, if_neg hne]
        exact hget entry (.tail _ hm)
      have hnext := ih hnodup.2 hrest (h.takeOut (hget _ List.mem_cons_self) (verdict_session hv))
      exact hnext.perm List.perm_middle

theorem Books.drain (h : Books [] m) : Books [] m.drain := by
  rw [Manager.drain]
  split_ifs with hclosed
  · exact h
  · apply Books.endAll
    have htotal : ∀ {α : Type} (a : Account α) (closed : Bool) (log : List Happening),
        { m with closed := closed, sessions := .empty, bridges := .empty, log := log }.total a
          (m.sessions.values.map fun s => ⟨s, .drained, 0⟩) = m.total a [] := by
      intro α a closed log
      rw [total, total, List.map_map]
      have hempty : (Dict.empty : Dict GoString Session).values = [] := rfl
      rw [hempty]
      simp only [List.map_nil, Multiset.coe_nil, zero_add, add_zero]
      exact add_comm _ _
    have hnone : ∀ f : Happening → Option Session, (∀ s, f (.left s) = none) →
        (m.sessions.values.map Happening.left).filterMap f = [] := by
      intro f hf
      apply List.filterMap_eq_nil_iff.mpr
      intro x hx
      obtain ⟨s, -, rfl⟩ := List.mem_map.mp hx
      exact hf s
    have hends : (m.log ++ m.sessions.values.map Happening.left).filterMap Happening.ends =
        m.log.filterMap Happening.ends := by
      rw [List.filterMap_append, hnone _ fun _ => rfl, List.append_nil]
    refine ⟨h.roster.shrink ?_ (known_le (htotal _ _ _).le hends) (htotal _ _ _).le rfl rfl, ?_, ?_⟩
    · intro id s hs
      cases hs
    · exact h.ports.trans (htotal _ _ _).symm
    · refine ⟨?_, ?_, ?_, fun _ => rfl⟩
      · rw [htotal, List.filterMap_append, List.filterMap_append, hnone _ fun _ => rfl,
          hnone _ fun _ => rfl, List.append_nil, List.append_nil]
        exact h.chronicle.announced
      · rw [present_append, h.chronicle.present]
        funext id
        rw [foldl_tabulate_left, Dict.get?_empty]
        split_ifs with hid
        · rfl
        · cases hget : m.sessions.get? id with
          | none => rfl
          | some s =>
            refine absurd (List.mem_map.mpr ⟨s, Dict.mem_values_of_get? hget, ?_⟩) hid
            exact h.roster.keyed id s hget
      · apply h.chronicle.truthful.append_of_forall
        intro x hx before
        obtain ⟨s, -, rfl⟩ := List.mem_map.mp hx
        exact ⟨by simp, by simp⟩

theorem Books.spawn (h : Books out m) (ht : t.Bare) : Books out (m.spawn t) := by
  refine h.quiet ⟨rfl, rfl, rfl, rfl, rfl⟩ ?_ (List.append_nil _).symm (by simp)
  intro α a
  rw [total_spawn, ht, a.bare, add_zero]

theorem Books.step {cfg : Config} {e : Event} (h : Books [] m) (hstep : m.step cfg e = some m') :
    Books [] m' := by
  have hsame : ∀ {m' : Manager}, Same m m' → m'.tasks = m.tasks → m'.log = m.log → Books [] m' := by
    intro m' hsame htasks hlog
    refine h.quiet hsame (fun a => ?_) (hlog.trans (List.append_nil _).symm) (by simp)
    rw [total, total, hsame.sessions, htasks]
  cases step_turn hstep with
  | still => exact h
  | refused => exact h.quiet ⟨rfl, rfl, rfl, rfl, rfl⟩ (fun a => rfl) rfl (by simp [Happening.isQuiet])
  | spawned ht => exact h.spawn (by obtain ⟨_, rfl⟩ | ⟨_, _, _, rfl⟩ := ht <;> rfl)
  | released hget => exact (h.takeOut hget rfl).endAll
  | bridged he hb =>
    obtain ⟨peer, bridges, rfl⟩ := bridge_eq hb
    exact hsame ⟨rfl, rfl, rfl, rfl, rfl⟩ rfl rfl
  | @unbridged bridgeId pair hget =>
    obtain ⟨peer, bridges, heq⟩ := detachLocked_eq m bridgeId pair
    rw [heq]
    exact hsame ⟨rfl, rfl, rfl, rfl, rfl⟩ rfl rfl
  | reaped now =>
    have hsweep := Books.collect cfg now m.sessions.nodup (fun entry hm => Dict.get?_of_mem hm) h
    rw [List.append_nil] at hsweep
    exact hsweep.endAll
  | drained => exact h.drain
  | heard session now digits =>
    refine h.quiet ⟨rfl, rfl, rfl, rfl, rfl⟩ (fun a => rfl) rfl ?_
    intro x hx
    obtain ⟨digit, -, rfl⟩ := List.mem_map.mp hx
    rfl
  | stopped r => exact hsame ⟨rfl, rfl, rfl, rfl, rfl⟩ rfl rfl
  | advanced he hn hmv => exact h.goOn hn (advance_effect hmv)

attribute [local simp] Dict.values newManager Dict.empty total

theorem books_newManager (allocator : Allocator) (h : allocator.inUse = ∅) :
    Books [] (newManager allocator) := by
  refine ⟨⟨?_, ?_, ?_, ?_, fun _ _ => rfl⟩, ?_, ⟨rfl, rfl, each_nil, ?_⟩⟩
  · intro id s hs
    cases hs
  · simp [known]
  · simp [known]
  · simp
  · simp [h]
  · intro hclosed
    cases hclosed

end books

end Manager

end OptimiqVoice.Mediad

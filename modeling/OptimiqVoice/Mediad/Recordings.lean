import OptimiqVoice.Mediad.Takes

namespace OptimiqVoice.Mediad

open Lib
open Sipd (GoString)
open Function (update update_apply update_self)

attribute [local simp] Task.awaited

namespace Manager

section takes

variable {m m' : Manager} {n : Nat} {t t' : Task} {started : List Task}

theorem isPlain_recording {x : Happening} (h : x.isPlain) : x.recording? = none := by
  cases x <;> first | rfl | simp [Happening.isPlain, Happening.recording?] at h

theorem isPlain_other {new : List Happening} (h : ∀ x ∈ new, x.isPlain) : ∀ x ∈ new, ∀ r,
    x ≠ .claimed r ∧ x ≠ .started r ∧ x ≠ .recordingFinished r := by
  intro x hx r
  refine ⟨?_, ?_, ?_⟩ <;> rintro rfl <;> cases isPlain_recording (h _ hx)

theorem clearSlot_eq (m : Manager) (r : Recording) :
    ∃ slot, m.clearSlot r = { m with slot := slot } ∧ ∀ i r', slot i = some r' → m.slot i = some r' := by
  rw [clearSlot]
  split_ifs
  · refine ⟨_, rfl, fun i r' hr' => ?_⟩
    simp only [update_apply] at hr'
    split_ifs at hr'
    exact hr'
  · exact ⟨m.slot, rfl, fun _ _ => id⟩

theorem announceRecording_eq {r : Recording} (h : m.isTold r.serial = false) :
    ∃ recordings, m.announceRecording r = { m with
      recordings := recordings, isTold := update m.isTold r.serial true,
      log := m.log ++ [.recordingFinished r] } := by
  rw [announceRecording, if_neg (by simp [h])]
  exact ⟨_, rfl⟩

section turns

variable {r : Recording} (hn : m.tasks[n]? = some t)

include hn

theorem Takes.holds (h : Takes m) (hr : r ∈ t.starter + t.carrier + t.awaited) :
    .claimed r ∈ m.log :=
  h.mentioned t (List.mem_of_getElem? hn) r hr

theorem waits_goOn (hm : m'.tasks = m.tasks) (hwatch : t.watch = none)
    (hr : .awaiting r ∈ m.tasks) : .awaiting r ∈ (m'.goOn n t' started).tasks := by
  refine mem_goOn_of_ne (hm ▸ hn) (hm ▸ hr) ?_
  rintro rfl
  cases hwatch

omit hn in
theorem fits_goOn {k : Manager} (hm : m'.tasks = m.tasks) (ht' : Fits m k t')
    (hstarted : ∀ u ∈ started, Fits m k u) :
    ∀ u ∈ (m'.goOn n t' started).tasks, u ∈ m.tasks ∨ Fits m k u := by
  intro u hu
  obtain hu | rfl | hu := mem_goOn hu
  · exact .inl (hm ▸ hu)
  · exact .inr ht'
  · exact .inr (hstarted u hu)

theorem Takes.quiet (h : Takes m) (new : List Happening) (hm : m'.tasks = m.tasks)
    (hlog : m'.log = m.log ++ new)
    (hnew : ∀ x ∈ new, ∀ r, x ≠ .claimed r ∧ x ≠ .started r ∧ x ≠ .recordingFinished r)
    (htakes : m'.takes = m.takes) (hslot : ∀ i r, m'.slot i = some r → m.slot i = some r)
    (hdone : m'.isDone = m.isDone) (htold : m'.isTold = m.isTold) (hvoid : m'.isVoid = m.isVoid)
    (hstarter : t'.starter + pooled Task.starter started = t.starter)
    (hcarrier : t'.carrier + pooled Task.carrier started = t.carrier) (hwatch : t.watch = none)
    (ht' : Fits m (m'.goOn n t' started) t')
    (hstarted : ∀ u ∈ started, Fits m (m'.goOn n t' started) u) : Takes (m'.goOn n t' started) :=
  h.turn new (turns_of_quiet hlog hnew htakes hslot hdone htold hvoid (pooled_goOn_keep hn hm hstarter)
    (pooled_goOn_keep hn hm hcarrier) (fits_goOn hm ht' hstarted)
    fun r hr => .inr (waits_goOn hn hm hwatch hr))

end turns

attribute [local simp] Task.starter Task.carrier Task.written Manager.goOn

section deeds

variable {r : Recording}

theorem aside_finished : Task.finished.Aside := ⟨rfl, rfl, rfl, rfl, rfl, rfl⟩

theorem aside_after (h : t' = .finished ∨ ∃ next rest, t' = .ending next rest (.first next.reason)) :
    t'.Aside := by
  obtain rfl | ⟨next, rest, rfl⟩ := h
  · exact aside_finished
  · exact Task.aside_first next rest next.reason

variable (h : Takes m)

include h

theorem Takes.voided (hn : m.tasks[n]? = some (.opening r))
    {slot : Nat → Option Recording} (hslot : ∀ i r', slot i = some r' → m.slot i = some r') :
    Takes (({ m with isVoid := update m.isVoid r.serial true, slot := slot }.refuseStart
      r.ref .wavFailed).1.goOn n .finished []) := by
  have hr := h.holds hn (r := r) (by simp)
  have hstarters : pooled Task.starter m.tasks =
      r ::ₘ pooled Task.starter (m.goOn n .finished []).tasks := pooled_goOn_lose hn rfl rfl
  have hcarriers : pooled Task.carrier m.tasks =
      r ::ₘ pooled Task.carrier (m.goOn n .finished []).tasks := pooled_goOn_lose hn rfl rfl
  have hnodup := h.starters
  rw [hstarters, Multiset.nodup_cons] at hnodup
  exact h.turn [.startRefused r.ref .wavFailed] {
    log := rfl
    unclaimed := by simp
    takes := rfl
    slot := hslot
    done := .inl rfl
    void := .inr ⟨r, hr, ⟨hstarters ▸ Multiset.mem_cons_self r _, hnodup.1⟩, rfl⟩
    told := .inl rfl
    finished := by simp
    starters := hstarters ▸ Multiset.le_cons_self _ r
    carriers := by
      intro r' hr'
      rw [hcarriers, Multiset.mem_cons] at hr'
      obtain rfl | hr' := hr'
      · exact .inr (.inr (update_self ..))
      · exact .inl hr'
    begun := by simp
    tasks := fits_goOn rfl (fits_of_aside aside_finished) (List.forall_mem_nil _)
    waits := fun r' hr' => .inr (waits_goOn hn rfl rfl hr') }

theorem Takes.answered (hn : m.tasks[n]? = some (.watching r)) :
    Takes ((m.tell (.started r)).goOn n .finished [.awaiting r]) := by
  have hr := h.holds hn (r := r) (by simp)
  have hstarters : pooled Task.starter m.tasks =
      r ::ₘ pooled Task.starter (m.goOn n .finished [.awaiting r]).tasks := pooled_goOn_lose hn rfl rfl
  have hcarriers : pooled Task.carrier (m.goOn n .finished [.awaiting r]).tasks =
      pooled Task.carrier m.tasks := pooled_goOn_keep hn rfl rfl
  have hnodup := h.starters
  rw [hstarters, Multiset.nodup_cons] at hnodup
  exact h.turn [.started r] {
    log := rfl
    unclaimed := by simp
    takes := rfl
    slot := fun _ _ => id
    done := .inl rfl
    void := .inl rfl
    told := .inl rfl
    finished := by simp
    starters := hstarters ▸ Multiset.le_cons_self _ r
    carriers := fun r' hr' => .inl (hcarriers.symm ▸ hr')
    begun := by
      intro r' hr'
      obtain rfl : r' = r := by simpa using hr'
      exact ⟨hr, hstarters ▸ Multiset.mem_cons_self r' _, hnodup.1, rfl, by simp⟩
    tasks := by
      refine fits_goOn rfl (fits_of_aside aside_finished) (List.forall_mem_singleton.mpr ⟨?_, ?_, ?_⟩)
      · simpa using hr
      · simp
      · rintro r' ⟨⟩
        simp [tell]
    waits := fun r' hr' => .inr (waits_goOn hn rfl rfl hr') }

theorem Takes.closed (hn : m.tasks[n]? = some (.signalling r)) :
    Takes ({ m with isDone := update m.isDone r.serial true }.goOn n .finished []) := by
  have hr := h.holds hn (r := r) (by simp)
  have hwritten := h.writing _ (List.mem_of_getElem? hn) r (Multiset.mem_singleton_self r)
  have hcarriers : pooled Task.carrier m.tasks =
      r ::ₘ pooled Task.carrier (m.goOn n .finished []).tasks := pooled_goOn_lose hn rfl rfl
  exact h.turn [] {
    log := (List.append_nil _).symm
    unclaimed := by simp
    takes := rfl
    slot := fun _ _ => id
    done := .inr ⟨r, hr, hwritten, rfl⟩
    void := .inl rfl
    told := .inl rfl
    finished := by simp
    starters := (pooled_goOn_keep hn rfl rfl).le
    carriers := by
      intro r' hr'
      rw [hcarriers, Multiset.mem_cons] at hr'
      obtain rfl | hr' := hr'
      · exact .inr (.inl (update_self ..))
      · exact .inl hr'
    begun := by simp
    tasks := fits_goOn rfl (fits_of_aside aside_finished) (List.forall_mem_nil _)
    waits := fun r' hr' => .inr (waits_goOn hn rfl rfl hr') }

theorem Takes.announce (hn : m.tasks[n]? = some t) (hr : .claimed r ∈ m.log)
    (hdone : m.isDone r.serial = true) (hstarter : t'.starter = t.starter)
    (hcarrier : t'.carrier = t.carrier) (hfits : ∀ k, Fits m k t')
    (hwatch : ∀ r', .awaiting r' = t → r' = r) : Takes ((m.announceRecording r).goOn n t' []) := by
  have hstarters : pooled Task.starter (m.goOn n t' []).tasks = pooled Task.starter m.tasks :=
    pooled_goOn_keep hn rfl (by simpa using hstarter)
  have hcarriers : pooled Task.carrier (m.goOn n t' []).tasks = pooled Task.carrier m.tasks :=
    pooled_goOn_keep hn rfl (by simpa using hcarrier)
  have hwaits : ∀ r', .awaiting r' ∈ m.tasks → r' = r ∨ .awaiting r' ∈ (m.goOn n t' []).tasks := by
    intro r' hr'
    by_cases heq : .awaiting r' = t
    · exact .inl (hwatch r' heq)
    · exact .inr (mem_goOn_of_ne hn hr' heq)
  cases htold : m.isTold r.serial with
  | true =>
    rw [announceRecording, if_pos htold]
    exact h.turn [] (turns_of_quiet (List.append_nil _).symm (by simp) rfl (fun _ _ => id) rfl rfl rfl
      hstarters hcarriers (fits_goOn rfl (hfits _) (List.forall_mem_nil _))
      fun r' hr' => (hwaits r' hr').imp_left fun heq : r' = r => heq ▸ htold)
  | false =>
    obtain ⟨recordings, hann⟩ := announceRecording_eq htold
    have hup : update m.isTold r.serial true r.serial = true := update_self ..
    rw [hann]
    exact h.turn [.recordingFinished r] {
      log := rfl
      unclaimed := by simp
      takes := rfl
      slot := fun _ _ => id
      done := .inl rfl
      void := .inl rfl
      told := .inr ⟨r, hr, List.mem_singleton_self _, rfl⟩
      finished := by
        intro r' hr'
        obtain rfl : r' = r := by simpa using hr'
        exact ⟨rfl, hr, hdone, htold, hup⟩
      starters := hstarters.le
      carriers := fun r' hr' => .inl (hcarriers.symm ▸ hr')
      begun := by simp
      tasks := fits_goOn rfl (hfits _) (List.forall_mem_nil _)
      waits := fun r' hr' => (hwaits r' hr').imp_left fun heq : r' = r => heq ▸ hup }

end deeds

theorem Takes.goOn (h : Takes m) (hn : m.tasks[n]? = some t) {mv : Move} (hdeed : Deed m t mv) :
    Takes (mv.1.goOn n mv.2.1 mv.2.2) := by
  have ht : t ∈ m.tasks := List.mem_of_getElem? hn
  have hnil : m.log = m.log ++ [] := (List.append_nil _).symm
  cases hdeed with
  | @plain m' t' new hdone htold hvoid htakes hslot heq hlog hplain hstarter hcarrier hwritten hawaited
      hlooked hwatch =>
    refine h.quiet hn new heq hlog (isPlain_other hplain) htakes (fun i r' hr' => hslot ▸ hr') hdone htold
      hvoid (by simpa using hstarter) (by simpa using hcarrier) hwatch.1 ⟨?_, ?_, ?_⟩ (List.forall_mem_nil _)
    · rw [hstarter, hcarrier, hawaited]
      exact h.mentioned t ht
    · rw [hwritten]
      exact fun r hr => hlog ▸ List.mem_append_left _ (h.writing t ht r hr)
    · simp [hwatch.2]
  | @claimed s ref heq hslot =>
    subst heq
    refine h.claim (r := ⟨m.takes, ref, s⟩) rfl rfl rfl ?_ rfl rfl rfl (pooled_goOn_gain hn rfl rfl)
      (pooled_goOn_gain hn rfl rfl) ?_ fun r' hr' => waits_goOn hn rfl rfl hr'
    · intro i r' hr'
      simp only [Manager.goOn, tell, update_apply] at hr'
      split_ifs at hr'
      · exact .inr (Option.some.inj hr').symm
      · exact .inl hr'
    · exact fun u hu => (mem_goOn hu).imp_right fun hu' => hu'.resolve_right (by simp)
  | @opened r heq =>
    subst heq
    have hr := h.holds hn (r := r) (by simp)
    refine h.quiet hn [] rfl hnil (by simp) rfl (fun _ _ => id) rfl rfl rfl rfl rfl rfl
      ⟨?_, ?_, ?_⟩ (List.forall_mem_singleton.mpr ⟨?_, ?_, ?_⟩) <;>
    simp [Task.watch, hr]
  | @voided r heq =>
    subst heq
    obtain ⟨slot, hslot, hold⟩ := clearSlot_eq { m with isVoid := update m.isVoid r.serial true } r
    rw [hslot]
    exact h.voided hn hold
  | @started r heq =>
    subst heq
    exact h.answered hn
  | @wrote r heq =>
    subst heq
    have hr := h.holds hn (r := r) (by simp)
    refine h.quiet hn [.fileClosed r] rfl rfl (by simp) rfl (fun _ _ => id) rfl rfl rfl rfl rfl rfl
      ⟨?_, ?_, ?_⟩ (List.forall_mem_nil _) <;>
    simp [Task.watch, hr, tell]
  | @cleared r heq =>
    subst heq
    have hr := h.holds hn (r := r) (by simp)
    have hwritten := h.writing _ ht r (Multiset.mem_singleton_self r)
    obtain ⟨slot, hslot, hold⟩ := clearSlot_eq m r
    rw [hslot]
    refine h.quiet hn [] rfl hnil (by simp) rfl hold rfl rfl rfl rfl rfl rfl ⟨?_, ?_, ?_⟩
      (List.forall_mem_nil _) <;>
    simp [Task.watch, hr, hwritten]
  | @done r heq =>
    subst heq
    exact h.closed hn
  | @announced r t' hdone heq =>
    obtain ⟨rfl, rfl⟩ | ⟨victim, rest, rfl, rfl⟩ := heq
    · exact h.announce hn (h.holds hn (by simp)) hdone rfl rfl
        (fun k => fits_of_aside aside_finished) fun r' heq => Task.awaiting.inj heq
    · refine h.announce hn (h.holds hn (by simp)) hdone rfl rfl ?_ fun r' heq => by cases heq
      intro k
      constructor <;> simp [Task.watch]
  | @waived r victim rest hvoid heq =>
    subst heq
    refine h.quiet hn [] rfl hnil (by simp) rfl (fun _ _ => id) rfl rfl rfl rfl rfl rfl ⟨?_, ?_, ?_⟩
      (List.forall_mem_nil _) <;>
    simp [Task.watch]
  | @read victim rest heq =>
    subst heq
    refine h.quiet hn [] rfl hnil (by simp) rfl (fun _ _ => id) rfl rfl rfl rfl rfl rfl ⟨?_, ?_, ?_⟩
      (List.forall_mem_nil _)
    · cases hslot : m.slot victim.session.serial with
      | none => simp
      | some r => simpa using h.slotted _ r hslot
    · simp
    · simp [Task.watch]
  | @ended victim rest t' heq ht' =>
    subst heq
    have haside := aside_after ht'
    exact h.quiet hn [.sessionEnded victim.session victim.reason] rfl rfl (by simp) rfl (fun _ _ => id) rfl
      rfl rfl (by rw [haside.starter]; rfl) (by rw [haside.carrier]; rfl) rfl (fits_of_aside haside)
      (List.forall_mem_nil _)

theorem Takes.outside (h : Takes m) (hout : Outside m m') : Takes m' := by
  obtain ⟨new, hlog, hnew⟩ := hout.log
  obtain ⟨more, htasks, hmore⟩ := hout.tasks
  have hzero : ∀ f : Task → Multiset Recording, (∀ u, u.Aside → f u = 0) →
      pooled f m'.tasks = pooled f m.tasks := by
    intro f hf
    rw [htasks, pooled_append, pooled_eq_zero fun u hu => hf u (hmore u hu), add_zero]
  refine h.turn new (turns_of_quiet hlog (isPlain_other hnew) hout.takes (fun i r' hr' => hout.slot ▸ hr')
    hout.isDone hout.isTold hout.isVoid (hzero _ fun u hu => hu.starter) (hzero _ fun u hu => hu.carrier)
    ?_ ?_)
  · intro u hu
    rw [htasks] at hu
    exact (List.mem_append.mp hu).imp_right fun hu' => fits_of_aside (hmore u hu')
  · intro r' hr'
    rw [htasks]
    exact .inr (List.mem_append_left _ hr')

theorem Takes.step {cfg : Config} {e : Event} (h : Takes m) (hstep : m.step cfg e = some m') :
    Takes m' := by
  by_cases he : ∃ n c, e = .advance n c
  · obtain ⟨n, c, rfl⟩ := he
    obtain ⟨t, hn, hrest⟩ := Option.bind_eq_some_iff.mp hstep
    obtain ⟨mv, hmv, hgo⟩ := Option.bind_eq_some_iff.mp hrest
    cases hgo
    exact h.goOn hn (advance_deed hmv)
  · apply h.outside (step_outside _ hstep)
    intro n c heq
    exact he ⟨n, c, heq⟩

theorem takes_newManager (allocator : Allocator) : Takes (newManager allocator) := by
  constructor <;> simp [newManager, each_nil, pooled]

end takes

/-- Recordings and the ends of their sessions: a teardown that has looked at the
slot has in hand every recording of the session that is not announced, and no
end was announced before the recordings of the session. -/
structure InOrder (m : Manager) : Prop where
  covered : ∀ t ∈ m.tasks, ∀ s, t.looked = some s → ∀ r, .claimed r ∈ m.log → r.session = s →
    m.isVoid r.serial = true ∨ m.isTold r.serial = true ∨ r ∈ t.awaited
  ended : Each (fun before x => ∀ s reason, x = .sessionEnded s reason →
    ∀ r, .claimed r ∈ m.log → r.session = s →
      m.isVoid r.serial = true ∨ .recordingFinished r ∈ before) m.log

/-- What is asked of a step: a recording takes the slot of a session that is in
the table, and a teardown looks at the slot when every recording that has left
it is announced (or was refused, its file not created). -/
def InTime (m : Manager) (e : Event) : Prop :=
  ∀ n c t, e = .advance n c → m.tasks[n]? = some t →
    (∀ s ref, t = .claiming s ref → m.sessions.get? s.id = some s) ∧
    ∀ victim rest, t = .ending victim rest .reading → ∀ r, .claimed r ∈ m.log →
      r.session = victim.session → m.slot victim.session.serial = some r ∨
        m.isTold r.serial = true ∨ m.isVoid r.serial = true

section order

variable {m k : Manager} {n : Nat} {t : Task}

/-- The recordings so far of the session a teardown has looked at are settled, or in its hand. -/
def Covers (k m : Manager) (u : Task) : Prop :=
  ∀ s, u.looked = some s → ∀ r, .claimed r ∈ m.log → r.session = s →
    k.isVoid r.serial = true ∨ k.isTold r.serial = true ∨ r ∈ u.awaited

theorem covers_of_unlooked {u : Task} (h : u.looked = none) : Covers k m u := by
  intro s hs
  rw [h] at hs
  cases hs

theorem InOrder.mono (h : InOrder m) (new : List Happening) (hlog : k.log = m.log ++ new)
    (hclaimed : ∀ r, .claimed r ∉ new) (hvoid : ∀ i, m.isVoid i = true → k.isVoid i = true)
    (htold : ∀ i, m.isTold i = true → k.isTold i = true)
    (htasks : ∀ u ∈ k.tasks, u ∈ m.tasks ∨ Covers k m u)
    (hnew : ∀ before s reason after, new = before ++ .sessionEnded s reason :: after →
      ∀ r, .claimed r ∈ m.log → r.session = s →
        m.isVoid r.serial = true ∨ .recordingFinished r ∈ m.log ++ before) : InOrder k := by
  have hold : ∀ r, .claimed r ∈ k.log → .claimed r ∈ m.log := by
    intro r hr
    rw [hlog] at hr
    exact (List.mem_append.mp hr).resolve_right (hclaimed r)
  constructor
  · intro u hu s hs r hr hsession
    obtain hu | hu := htasks u hu
    · obtain hv | ht | ha := h.covered u hu s hs r (hold r hr) hsession
      · exact .inl (hvoid _ hv)
      · exact .inr (.inl (htold _ ht))
      · exact .inr (.inr ha)
    · exact hu s hs r (hold r hr) hsession
  · have hbefore : Each (fun before x => ∀ s reason, x = .sessionEnded s reason →
        ∀ r, .claimed r ∈ k.log → r.session = s →
          k.isVoid r.serial = true ∨ .recordingFinished r ∈ before) m.log := by
      refine h.ended.mono ?_
      intro before x hx s reason heq r hr hsession
      exact (hx s reason heq r (hold r hr) hsession).imp_left (hvoid _)
    rw [hlog] at hbefore ⊢
    apply hbefore.append
    rintro before x after heq s reason rfl r hr hsession
    exact (hnew before s reason after heq r (hold r (hlog ▸ hr)) hsession).imp_left (hvoid _)

variable {out : List Expiry}

/-- The sessions of whose ends there is word are not in the table. -/
theorem Roster.not_ended (h : Roster out m) {id : GoString} {s : Session}
    (hs : m.sessions.get? id = some s) (reason : EndReason) : .sessionEnded s reason ∉ m.log := by
  intro hmem
  have hnodup := h.distinct
  rw [known, Multiset.map_add] at hnodup
  have hdisjoint := (Multiset.nodup_add.mp hnodup).2.2
  refine Multiset.disjoint_left.mp hdisjoint (Multiset.mem_map_of_mem Session.serial (?_ : s ∈ _)) ?_
  · refine Multiset.mem_add.mpr (.inl (Multiset.mem_add.mpr (.inl ?_)))
    simpa [Account.people] using Dict.mem_values_of_get? hs
  · exact Multiset.mem_map_of_mem _ (List.mem_filterMap.mpr ⟨_, hmem, rfl⟩)

theorem looked_held {s : Session} (h : t.looked = some s) : s ∈ t.holding.sessions := by
  cases t with
  | ending victim rest stage =>
    cases stage <;> simp_all [Task.looked, Task.holding]
  | _ => cases h

theorem InOrder.claim (h : InOrder m) (hroster : Roster out m) {r : Recording}
    (hlive : m.sessions.get? r.session.id = some r.session) (hlog : k.log = m.log ++ [.claimed r])
    (hvoid : k.isVoid = m.isVoid) (htold : k.isTold = m.isTold)
    (htasks : ∀ u ∈ k.tasks, u ∈ m.tasks ∨ u.looked = none) : InOrder k := by
  have hold : ∀ r', .claimed r' ∈ k.log → .claimed r' ∈ m.log ∨ r' = r := by
    intro r' hr'
    rw [hlog] at hr'
    simpa using hr'
  constructor
  · intro u hu s hs r' hr' hsession
    obtain hu | hu := htasks u hu
    · rw [hvoid, htold]
      obtain hr' | rfl := hold r' hr'
      · exact h.covered u hu s hs r' hr' hsession
      · subst hsession
        exact absurd rfl (hroster.ne_held hlive hu (looked_held hs))
    · rw [hu] at hs
      cases hs
  · rw [hlog, hvoid]
    apply Each.snoc
    · intro before x after heq s reason hx r' hr' hsession
      rw [← hlog] at hr'
      obtain hr' | rfl := hold r' hr'
      · exact h.ended before x after heq s reason hx r' hr' hsession
      · subst hsession hx
        refine absurd ?_ (hroster.not_ended hlive reason)
        rw [heq]
        simp
    · rintro s reason ⟨⟩

theorem announceRecording_spec (m : Manager) (r : Recording) :
    ∃ recordings isTold new, m.announceRecording r = { m with
        recordings := recordings, isTold := isTold, log := m.log ++ new } ∧
      isTold r.serial = true ∧ (∀ i, m.isTold i = true → isTold i = true) ∧
      ∀ x ∈ new, x = .recordingFinished r := by
  cases htold : m.isTold r.serial with
  | true =>
    refine ⟨m.recordings, m.isTold, [], ?_, htold, fun _ => id, by simp⟩
    rw [announceRecording, if_pos htold, List.append_nil]
  | false =>
    obtain ⟨recordings, heq⟩ := announceRecording_eq htold
    refine ⟨recordings, _, _, heq, update_self _ _ _, ?_, by simp⟩
    intro i hi
    rw [update_apply, hi, ite_self]

theorem isPlain_sessionEnded {x : Happening} (h : x.isPlain) (s : Session) (reason : EndReason) :
    x ≠ .sessionEnded s reason := by
  rintro rfl
  simp [Happening.isPlain] at h

section moves

variable {m' : Manager} {t' : Task} {started : List Task}

theorem InOrder.moved (h : InOrder m) (new : List Happening) (heq : m'.tasks = m.tasks)
    (hlog : m'.log = m.log ++ new) (hclaimed : ∀ r, .claimed r ∉ new)
    (hvoid : ∀ i, m.isVoid i = true → m'.isVoid i = true)
    (htold : ∀ i, m.isTold i = true → m'.isTold i = true) (ht' : Covers m' m t')
    (hstarted : ∀ u ∈ started, u.looked = none)
    (hnew : ∀ before s reason after, new = before ++ .sessionEnded s reason :: after →
      ∀ r, .claimed r ∈ m.log → r.session = s →
        m.isVoid r.serial = true ∨ .recordingFinished r ∈ m.log ++ before) :
    InOrder (m'.goOn n t' started) := by
  refine h.mono new hlog hclaimed hvoid htold (fun u hu => ?_) hnew
  obtain hu | rfl | hu := mem_goOn hu
  · exact .inl (heq ▸ hu)
  · exact .inr ht'
  · exact .inr (covers_of_unlooked (hstarted u hu))

theorem InOrder.quiet (h : InOrder m) (new : List Happening) (heq : m'.tasks = m.tasks)
    (hlog : m'.log = m.log ++ new) (hclaimed : ∀ r, .claimed r ∉ new)
    (hends : ∀ s reason, .sessionEnded s reason ∉ new)
    (hvoid : ∀ i, m.isVoid i = true → m'.isVoid i = true) (htold : m'.isTold = m.isTold)
    (hlooked : t'.looked = none) (hstarted : ∀ u ∈ started, u.looked = none) :
    InOrder (m'.goOn n t' started) := by
  refine h.moved new heq hlog hclaimed hvoid (fun i hi => htold ▸ hi) (covers_of_unlooked hlooked)
    hstarted ?_
  rintro before s reason after rfl
  exact absurd (by simp) (hends s reason)

end moves

theorem InOrder.goOn (h : InOrder m) (htakes : Takes m) (hroster : Roster out m)
    (hn : m.tasks[n]? = some t)
    (hlive : ∀ s ref, t = .claiming s ref → m.sessions.get? s.id = some s)
    (hread : ∀ victim rest, t = .ending victim rest .reading → ∀ r, .claimed r ∈ m.log →
      r.session = victim.session → m.slot victim.session.serial = some r ∨
        m.isTold r.serial = true ∨ m.isVoid r.serial = true)
    {mv : Move} (hdeed : Deed m t mv) : InOrder (mv.1.goOn n mv.2.1 mv.2.2) := by
  have ht : t ∈ m.tasks := List.mem_of_getElem? hn
  have hnil : ∀ u ∈ ([] : List Task), u.looked = none := List.forall_mem_nil _
  cases hdeed with
  | @plain m' t' new hdone htold hvoid htakes' hslot heq hlog hplain hstarter hcarrier hwritten hawaited
      hlooked hwatch =>
    refine h.moved new heq hlog ?_ (fun i hi => hvoid ▸ hi) (fun i hi => htold ▸ hi) ?_ hnil ?_
    · intro r hr
      cases isPlain_recording (hplain _ hr)
    · rw [Covers, hlooked, hvoid, htold, hawaited]
      exact h.covered t ht
    · rintro before s reason after rfl
      exact absurd rfl (isPlain_sessionEnded (hplain _ (by simp)) s reason)
  | @claimed s ref heq hslot =>
    refine h.claim hroster (r := ⟨m.takes, ref, s⟩) (hlive s ref heq) rfl rfl rfl ?_
    intro u hu
    obtain hu | rfl | hu := mem_goOn hu
    · exact .inl hu
    · exact .inr rfl
    · cases hu
  | @opened r heq =>
    refine h.quiet [] rfl (List.append_nil _).symm (by simp) (by simp) (fun _ => id) rfl rfl ?_
    exact List.forall_mem_singleton.mpr rfl
  | @voided r heq =>
    obtain ⟨slot, hslot, -⟩ := clearSlot_eq { m with isVoid := update m.isVoid r.serial true } r
    simp only [hslot]
    refine h.quiet [.startRefused r.ref .wavFailed] rfl rfl (by simp) (by simp) ?_ rfl rfl hnil
    intro i hi
    change update m.isVoid r.serial true i = true
    rw [update_apply, hi, ite_self]
  | @started r heq =>
    refine h.quiet [.started r] rfl rfl (by simp) (by simp) (fun _ => id) rfl rfl ?_
    exact List.forall_mem_singleton.mpr rfl
  | @wrote r heq =>
    exact h.quiet [.fileClosed r] rfl rfl (by simp) (by simp) (fun _ => id) rfl rfl hnil
  | @cleared r heq =>
    obtain ⟨slot, hslot, -⟩ := clearSlot_eq m r
    simp only [hslot]
    exact h.quiet [] rfl (List.append_nil _).symm (by simp) (by simp) (fun _ => id) rfl rfl hnil
  | @done r heq =>
    exact h.quiet [] rfl (List.append_nil _).symm (by simp) (by simp) (fun _ => id) rfl rfl hnil
  | @announced r t' hdone heq =>
    obtain ⟨recordings, isTold, new, hann, htoldr, htold, hnew⟩ := announceRecording_spec m r
    simp only [hann]
    refine h.moved new rfl rfl ?_ (fun _ => id) htold ?_ hnil ?_
    · intro r' hr'
      cases hnew _ hr'
    · obtain ⟨-, rfl⟩ | ⟨victim, rest, rfl, rfl⟩ := heq
      · exact covers_of_unlooked rfl
      · intro s hs r' hr' hsession
        obtain hv | ht' | ha := h.covered _ ht s hs r' hr' hsession
        · exact .inl hv
        · exact .inr (.inl (htold _ ht'))
        · obtain rfl : r' = r := by simpa using ha
          exact .inr (.inl htoldr)
    · rintro before s reason after rfl
      cases hnew (.sessionEnded s reason) (by simp)
  | @waived r victim rest hvoid heq =>
    subst heq
    refine h.moved [] rfl (List.append_nil _).symm (by simp) (fun _ => id) (fun _ => id) ?_ hnil (by simp)
    intro s hs r' hr' hsession
    obtain hv | ht' | ha := h.covered _ ht s hs r' hr' hsession
    · exact .inl hv
    · exact .inr (.inl ht')
    · obtain rfl : r' = r := by simpa using ha
      exact .inl hvoid
  | @read victim rest heq =>
    refine h.moved [] rfl (List.append_nil _).symm (by simp) (fun _ => id) (fun _ => id) ?_ hnil (by simp)
    intro s hs r' hr' hsession
    obtain rfl : victim.session = s := Option.some.inj hs
    obtain hslot | ht' | hv := hread victim rest heq r' hr' hsession
    · exact .inr (.inr (by simp [hslot]))
    · exact .inr (.inl ht')
    · exact .inl hv
  | @ended victim rest t' heq ht' =>
    have haside := aside_after ht'
    refine h.moved [.sessionEnded victim.session victim.reason] rfl rfl (by simp) (fun _ => id)
      (fun _ => id) (covers_of_unlooked haside.looked) hnil ?_
    intro before s reason after hnew r hr hsession
    obtain ⟨rfl, hlast, -⟩ : before = [] ∧ Happening.sessionEnded victim.session victim.reason =
        .sessionEnded s reason ∧ after = [] := by
      cases before with
      | nil => simpa [eq_comm] using hnew
      | cons x before => simp at hnew
    obtain ⟨rfl, -⟩ := Happening.sessionEnded.inj hlast
    subst heq
    obtain hv | hd | ha := h.covered _ ht victim.session rfl r hr hsession
    · exact .inl hv
    · exact .inr (List.mem_append_left _ ((htakes.told r hr).mp hd))
    · simp at ha

theorem InOrder.step {cfg : Config} {e : Event} (h : InOrder m) (htakes : Takes m)
    (hroster : Roster out m) (hin : m.InTime e) (hstep : m.step cfg e = some k) : InOrder k := by
  by_cases he : ∃ n c, e = .advance n c
  · obtain ⟨n, c, rfl⟩ := he
    obtain ⟨t, hn, hrest⟩ := Option.bind_eq_some_iff.mp hstep
    obtain ⟨mv, hmv, hgo⟩ := Option.bind_eq_some_iff.mp hrest
    cases hgo
    obtain ⟨hlive, hread⟩ := hin n c t rfl hn
    exact h.goOn htakes hroster hn hlive hread (advance_deed hmv)
  · have hout : Outside m k := step_outside (fun n c heq => he ⟨n, c, heq⟩) hstep
    obtain ⟨new, hlog, hnew⟩ := hout.log
    obtain ⟨more, htasks, hmore⟩ := hout.tasks
    refine h.mono new hlog ?_ (fun i hi => hout.isVoid ▸ hi) (fun i hi => hout.isTold ▸ hi) ?_ ?_
    · intro r hr
      cases isPlain_recording (hnew _ hr)
    · intro u hu
      rw [htasks] at hu
      exact (List.mem_append.mp hu).imp_right fun hu' => covers_of_unlooked (hmore u hu').looked
    · rintro before s reason after rfl
      exact absurd rfl (isPlain_sessionEnded (hnew _ (by simp)) s reason)

end order

end Manager

end OptimiqVoice.Mediad

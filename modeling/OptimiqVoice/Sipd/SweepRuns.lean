import OptimiqVoice.Sipd.AccountKeys
import OptimiqVoice.Sipd.SweepSafety

namespace OptimiqVoice.Sipd

open Lib
open Function (update update_eq_self)

namespace Edge

variable {ι : Type} [DecidableEq ι] {e e' : Edge ι} {r : Registrar} {i : ι} {n : Nat} {t : Option Task}

theorem Due.setTask (h : e.Due) (ht : ∀ c ∈ t.elim [] Task.judged, c.binding.expiresAt ≤ e.clock) :
    (e.setTask i n t).Due := by
  intro u task hu
  rw [taskAt_setTask] at hu
  by_cases hui : u = (i, n)
  · rw [if_pos hui] at hu
    subst hu
    exact ht
  · rw [if_neg hui] at hu
    exact h u task hu

theorem Swept.setTask_same (h : e.Swept) (hh : t.elim [] Task.held = e.custody.held (i, n))
    (hw : t.elim false Task.writing = e.custody.writing (i, n))
    (hf : t.bind Task.flight = e.custody.flight (i, n))
    (ht : ∀ c ∈ t.elim [] Task.judged, c.binding.expiresAt ≤ e.clock) : (e.setTask i n t).Swept where
  sound := by
    rw [custody_setTask_eq hh hw hf]
    exact h.sound
  due := h.due.setTask ht
  safe := h.safe

theorem custody_setTask_held (hw : t.elim false Task.writing = e.custody.writing (i, n))
    (hf : t.bind Task.flight = e.custody.flight (i, n)) : (e.setTask i n t).custody =
      { e.custody with held := update e.custody.held (i, n) (t.elim [] Task.held) } := by
  rw [custody_setTask, hw, hf, update_eq_self, update_eq_self]

omit [DecidableEq ι] in
theorem custody_note (notes : List (EdgeNote ι)) : (e.note notes).custody =
    { e.custody with published := e.custody.published ++ notes.filterMap EdgeNote.published } := by
  ext1
  · rfl
  · rfl
  · rfl
  · rfl
  · rfl
  · exact List.filterMap_append

variable {now : Int} {o : Outcome}

attribute [local simp] Task.writing Task.held

theorem Swept.deleted (h : e.Swept) {copy : Copy} {rest : List Copy}
    (ht : e.taskAt (i, n) = some (.sweeping now (copy :: rest))) (ho : o.applied)
    (hp : e.proceed r i n o (.sweeping now (copy :: rest)) = some e') : e'.Swept := by
  obtain ⟨hheld, hwriting, -⟩ := profile_of ht
  obtain ⟨⟨k, hk⟩, -⟩ := h.sound.held_key (i, n) copy (by simp [hheld])
  have hk' := Copy.key_eq_some.mp hk
  cases hp
  refine ⟨?_, ?_, ?_⟩
  · have hrem := h.sound.remove (e.store.delete o copy.binding.orgId copy.binding.aorHash).bindings.get?
      hheld hwriting fun l y hy => ⟨(get?_of_delete hy).1, fun hl =>
        (get?_of_delete hy).2 ho (Copy.key_eq_some.mp hl)⟩
    rw [custody_note, custody_setTask]
    simp only [store_note, store_setTask, revision_delete]
    convert hrem using 1
    ext1
    · rfl
    · rfl
    · rfl
    · change update e.custody.writing (i, n) (Task.sweeping now (copy :: rest)).writing = e.custody.writing
      rw [← hwriting, update_eq_self]
    · rfl
    · change e.custody.published ++ [] = e.custody.published
      rw [List.append_nil]
  · have hdue : Due { e with store := e.store.delete o copy.binding.orgId copy.binding.aorHash } := h.due
    have hnew := hdue.setTask (i := i) (n := n) (t := some (.expiring now copy rest)) fun c hc =>
      h.due (i, n) _ ht c (.tail _ hc)
    exact hnew
  · intro c clock hm
    obtain hm | hm := List.mem_append.mp hm
    · exact h.safe c clock hm
    · simp only [hk', ho, if_true, List.mem_singleton, EdgeNote.swept.injEq] at hm
      obtain ⟨hc, rfl⟩ := hm
      have hcopy := h.sound.current (i, n) copy (by simp [hheld]) k c hk hc.symm
      rw [hcopy]
      exact h.due (i, n) _ ht copy (.head _)

attribute [local simp] Task.flight

theorem Swept.published (h : e.Swept) {copy : Copy} {rest : List Copy}
    (ht : e.taskAt (i, n) = some (.expiring now copy rest))
    (hp : e.proceed r i n o (.expiring now copy rest) = some e') : e'.Swept := by
  obtain ⟨hheld, hwriting, hflight⟩ : _ = rest ∧ _ = false ∧ _ = some copy := profile_of ht
  have hrest : (restOf now rest).elim [] Task.held = rest ∧ (restOf now rest).elim false Task.writing = false ∧
      (restOf now rest).bind Task.flight = none ∧ (restOf now rest).elim [] Task.judged = rest := by
    cases rest with
    | nil | cons _ _ => exact ⟨rfl, rfl, rfl, rfl⟩
  obtain ⟨hh, hw, hf, hj⟩ := hrest
  have htask : (e.setTask i n (restOf now rest)).custody =
      { e.custody with flight := update e.custody.flight (i, n) none } := by
    rw [custody_setTask, hh, hw, hf, ← hheld, ← hwriting, update_eq_self, update_eq_self]
  have hdue : (e.setTask i n (restOf now rest)).Due := by
    refine h.due.setTask ?_
    rw [hj]
    exact h.due (i, n) _ ht
  by_cases ho : o.applied
  · simp only [Edge.proceed, ho, if_true] at hp
    cases hp
    refine ⟨?_, hdue, h.safe_note (by simp)⟩
    rw [custody_note, htask]
    exact h.sound.publish hflight
  · simp only [Edge.proceed, ho] at hp
    cases hp
    refine ⟨?_, hdue, h.safe_note (by simp)⟩
    rw [custody_note, htask]
    simpa using h.sound.lose (i, n)

theorem Swept.loaded (h : e.Swept) {keys : List GoString} {found : List Copy}
    (hord : e.Orderly (.proceed i n o)) (ht : e.taskAt (i, n) = some (.loading keys found))
    (hp : e.proceed r i n o (.loading keys found) = some e') : e'.Swept := by
  obtain ⟨hheld, hwriting, hflight⟩ := profile_of ht
  cases keys with
  | nil =>
    cases hp
    exact h.setTask_same hheld.symm hwriting.symm hflight.symm (by simp [Task.judged])
  | cons k keys =>
    obtain ⟨hidle, huntracked⟩ : e.Idle (some k) ∧ ∀ j, e.custody.tracked j k = none := by
      simpa [Orderly, ht] using hord
    by_cases ho : o = .ok
    · rw [Edge.proceed, if_pos ho] at hp
      cases hp
      cases hk : e.store.bindings.get? k with
      | none =>
        refine h.setTask_same ?_ hwriting.symm hflight.symm (by simp [Task.judged])
        simpa using hheld.symm
      | some copy =>
        refine ⟨?_, h.due.setTask (by simp [Task.judged]), h.safe⟩
        have hload := h.sound.load (t := (i, n)) (k := k) (x := copy) hk hidle huntracked
        rw [custody_setTask_held (by exact hwriting.symm) (by exact hflight.symm)]
        rw [hheld] at hload
        exact hload
    · rw [Edge.proceed, if_neg ho] at hp
      cases hp
      refine ⟨?_, h.due.setTask (by simp), h.safe⟩
      have hrel := h.sound.release (t := (i, n)) (l := []) (List.nil_sublist _) hwriting
      rw [custody_setTask_held (by exact hwriting.symm) (by exact hflight.symm)]
      exact hrel

theorem get?_adopt (tracked : Dict GoString Copy) (found : List Copy) :
    (adopt tracked found).get? = Custody.given Copy.key tracked.get? found := by
  induction found generalizing tracked with
  | nil => rfl
  | cons copy rest ih =>
    cases hk : copy.binding.key with
    | error err =>
      have h := ih tracked
      simpa [adopt, Custody.given, hk, Copy.key, Except.toOption] using h
    | ok k =>
      have hset : (tracked.set k copy).get? = update tracked.get? k (some copy) := by
        funext j
        by_cases hj : k = j
        · simp [hj]
        · simp [Dict.get?_set, hj, Ne.symm hj]
      have h := ih (tracked.set k copy)
      rw [hset] at h
      simpa [adopt, Custody.given, hk, Copy.key, Except.toOption] using h

theorem Swept.adopted (h : e.Swept) {found : List Copy}
    (ht : e.taskAt (i, n) = some (.adopting found))
    (hp : e.proceed r i n o (.adopting found) = some e') : e'.Swept := by
  obtain ⟨hheld, hwriting, hflight⟩ := profile_of ht
  cases hp
  refine ⟨?_, ?_, h.safe⟩
  · have hall := h.sound.trackAll hheld hwriting
    have hw : (e.setTracked i (adopt (e.instances i).tracked found)).custody.writing (i, n) = false := by
      rw [custody_setTracked]
      exact hwriting
    have hf : (e.setTracked i (adopt (e.instances i).tracked found)).custody.flight (i, n) = none := by
      rw [custody_setTracked]
      exact hflight
    rw [custody_setTask_held (by exact hw.symm) (by exact hf.symm), custody_setTracked, get?_adopt]
    exact hall
  · have hdue : (e.setTracked i (adopt (e.instances i).tracked found)).Due := by
      intro u task hu
      exact h.due u task (by simpa [taskAt] using hu)
    exact hdue.setTask (by simp)

theorem Swept.started (h : e.Swept) {task : Task} (hp : e.start i n task = some e') (hh : task.held = [])
    (hw : task.writing = false) (hf : task.flight = none) (hj : task.judged = []) : e'.Swept := by
  obtain ⟨hn, rfl⟩ := start_eq_some hp
  refine h.setTask_same ?_ ?_ ?_ ?_
  · simpa [custody, taskAt, hn] using hh
  · simpa [custody, taskAt, hn] using hw
  · simpa [custody, taskAt, hn] using hf
  · simp [hj]

variable {tracked : Dict GoString Copy}

omit [DecidableEq ι] in
theorem mem_lapsed {x : Copy} (h : x ∈ lapsed now tracked) :
    (∃ k, tracked.get? k = some x) ∧ x.binding.expired now := by
  obtain ⟨⟨k, y⟩, hm, rfl⟩ := List.mem_map.mp h
  obtain ⟨hm, hx⟩ := List.mem_filter.mp hm
  exact ⟨⟨k, Dict.get?_of_mem hm⟩, hx⟩

theorem get?_untrackLapsed {k : GoString} {x : Copy}
    (h : (untrackLapsed now tracked).get? k = some x) :
    tracked.get? k = some x ∧ x.binding.expired now = false := by
  obtain ⟨hm, hx⟩ := List.mem_filter.mp (Dict.mem_of_get? h)
  exact ⟨Dict.get?_of_mem hm, by simpa using hx⟩

theorem nodup_lapsed (hkey : ∀ k x, tracked.get? k = some x → x.key = some k) :
    ((lapsed now tracked).map Copy.key).Nodup := by
  have hmap : (lapsed now tracked).map Copy.key =
      ((tracked.entries.filter fun e => e.2.binding.expired now).map Prod.fst).map some := by
    rw [lapsed, List.map_map, List.map_map]
    refine List.map_congr_left fun entry hm => ?_
    exact hkey entry.1 entry.2 (Dict.get?_of_mem (List.mem_of_mem_filter hm))
  rw [hmap]
  refine List.Nodup.map (Option.some_injective _) ?_
  exact tracked.nodup.sublist (List.filter_sublist.map _)

theorem Swept.collected (h : e.Swept) {order : List Copy} (hnow : now ≤ e.clock)
    (hperm : order.Perm (lapsed now (e.instances i).tracked)) (hidle : ∀ c ∈ order, e.Idle c.key)
    (hp : (e.setTracked i (untrackLapsed now (e.instances i).tracked)).start i n (.sweeping now order) = some e') :
    e'.Swept := by
  obtain ⟨hn, rfl⟩ := start_eq_some hp
  rw [tasks_setTracked] at hn
  have hmem : ∀ x ∈ order, (∃ k, (e.instances i).tracked.get? k = some x) ∧ x.binding.expired now :=
    fun x hx => mem_lapsed (hperm.mem_iff.mp hx)
  have hheld : e.custody.held (i, n) = [] := by simp [custody, taskAt, hn]
  refine ⟨?_, ?_, h.safe⟩
  · have hcol := h.sound.collect
      (update e.custody.tracked i (untrackLapsed now (e.instances i).tracked).get?) (t := (i, n)) (l := order)
      hheld (fun x hx => (hmem x hx).1) ?_ hidle ?_ ?_
    · have hw : (e.setTracked i (untrackLapsed now (e.instances i).tracked)).custody.writing (i, n) = false := by
        simp [custody, taskAt, hn]
      have hf : (e.setTracked i (untrackLapsed now (e.instances i).tracked)).custody.flight (i, n) = none := by
        simp [custody, taskAt, hn]
      rw [custody_setTask_held (by exact hw.symm) (by exact hf.symm), custody_setTracked]
      exact hcol
    · exact (hperm.map Copy.key).nodup_iff.mpr (nodup_lapsed fun k x hx => (h.sound.tracked_key i k x hx).1)
    · intro j k x hx
      by_cases hj : j = i
      · subst hj
        rw [Function.update_self] at hx
        exact (get?_untrackLapsed hx).1
      · rwa [Function.update_of_ne hj] at hx
    · intro k x hx hxo
      rw [Function.update_self] at hx
      have := (get?_untrackLapsed hx).2
      simp [(hmem x hxo).2] at this
  · have hdue : (e.setTracked i (untrackLapsed now (e.instances i).tracked)).Due := by
      intro u task hu
      exact h.due u task (by simpa [taskAt] using hu)
    refine hdue.setTask fun c hc => ?_
    have hexp : c.binding.expiresAt ≤ now := by simpa [Binding.expired] using (hmem c hc).2
    exact hexp.trans hnow

theorem Swept.restarted (h : e.Swept) (i : ι) : (e.setInstance i ⟨Dict.empty, Dict.empty⟩).Swept := by
  have htask : ∀ u, (e.setInstance i ⟨Dict.empty, Dict.empty⟩).taskAt u = if u.1 = i then none else e.taskAt u := by
    intro u
    by_cases hu : u.1 = i <;> simp [taskAt, setInstance, hu]
  refine ⟨?_, ?_, h.safe⟩
  · refine h.sound.restart i rfl rfl ?_ ?_ ?_
    · funext j k
      by_cases hj : j = i
      · subst hj
        simp [custody, setInstance]
      · simp [custody, setInstance, hj]
    · intro u hu
      simp only [custody, htask, hu, if_true]
      exact ⟨rfl, rfl⟩
    · intro u hu
      simp [custody, htask, hu]
  · intro u task hu
    rw [htask] at hu
    exact h.due u task (Option.ite_none_left_eq_some.mp hu).2

theorem Swept.proceeded (h : e.Swept) {task : Task} (hord : e.Orderly (.proceed i n o))
    (ht : e.taskAt (i, n) = some task) (hp : e.proceed r i n o task = some e') : e'.Swept := by
  cases task with
  | handling hd =>
    cases hp
    exact h.handling hord ht
  | sweeping now copies =>
    cases copies with
    | nil =>
      cases hp
      exact h.setTask_same (by simp [custody, ht]) (by simp [custody, ht]) (by simp [custody, ht]) nofun
    | cons copy rest =>
      have ho : o.applied := by simpa [Orderly, ht] using hord
      exact h.deleted ht ho hp
  | expiring now copy rest => exact h.published ht hp
  | listing => cases hp
  | loading keys found => exact h.loaded hord ht hp
  | adopting found => exact h.adopted ht hp

theorem Swept.step (h : e.Swept) {ev : EdgeEvent ι} (hord : e.Orderly ev) (hs : e.step r ev = some e') :
    e'.Swept := by
  cases ev with
  | tick elapsed =>
    cases hs
    refine ⟨h.sound, fun t task ht c hc => ?_, h.safe⟩
    have hdue := h.due t task ht c hc
    change c.binding.expiresAt ≤ e.clock + elapsed
    omega
  | register j m checked req =>
    cases hb : r.begin checked e.clock req with
    | error res =>
      simp only [Edge.step, hb] at hs
      cases hs
      refine ⟨?_, h.due, h.safe_note (by simp)⟩
      have hnone : [EdgeNote.did j (.respond res)].filterMap EdgeNote.published = [] := rfl
      rw [custody_note, hnone, List.append_nil]
      exact h.sound
    | ok hd =>
      simp only [Edge.step, hb] at hs
      have hquiet : Quiet (some hd) := by
        unfold Registrar.begin at hb
        split at hb <;> cases hb <;> exact trivial
      obtain ⟨hh, hw, hf⟩ := quiet_profile hquiet
      exact h.started hs hh hw hf rfl
  | sweep j m now order =>
    obtain ⟨⟨hnow, hperm⟩, hs⟩ := Option.ite_none_right_eq_some.mp hs
    exact h.collected hnow (List.isPerm_iff.mp hperm) hord hs
  | rehydrate j m => exact h.started hs rfl rfl rfl rfl
  | listed j m order =>
    obtain ⟨⟨ht, -⟩, hs⟩ := Option.ite_none_right_eq_some.mp hs
    have ht : e.taskAt (j, m) = some .listing := ht
    cases hs
    exact h.setTask_same (by simp [custody, ht]) (by simp [custody, ht]) (by simp [custody, ht]) (by simp [Task.judged])
  | proceed j m o =>
    obtain ⟨task, ht, hp⟩ := Option.bind_eq_some_iff.mp hs
    exact h.proceeded hord ht hp
  | restart j =>
    cases hs
    exact h.restarted j
  | drop key =>
    cases hs
    refine ⟨?_, h.due, h.safe⟩
    refine h.sound.shrink _ e.custody.tracked (fun k x hx => ?_) (fun _ _ _ hx => hx)
    rw [Dict.get?_erase] at hx
    exact (Option.ite_none_left_eq_some.mp hx).2

omit [DecidableEq ι] in
theorem swept_init : (Edge.init ι).Swept where
  sound := by
    refine ⟨?_, ?_, ?_, ?_, ?_, ?_, ?_, ?_, ?_, ?_, ?_, ?_, List.nodup_nil⟩
    all_goals intros
    all_goals simp_all [Edge.init, custody, taskAt]
  due := nofun
  safe := nofun

/-- Where operations on one key do not overlap, no sweep removes a binding that has not lapsed and
no lapse is published twice, in any run of any number of instances. -/
theorem run_sweepSafe (r : Registrar) (events : List (EdgeEvent ι)) (e : Edge ι)
    (hrun : run (Edge.step · r) (Edge.init ι) events = some e)
    (hmeets : Meets (Edge.step · r) Orderly (Edge.init ι) events) : e.SweepSafe := by
  have h := run_keeps_of Swept (fun _ _ _ hC hI hs => hI.step hC hs) hmeets swept_init hrun
  exact ⟨h.safe, h.sound.once⟩

end Edge

section overlap

open Registrar

def firstCopy : Copy :=
  ⟨sample.bindingFor (sampleRequest capitalUri) (sampleAccount ['A', 'l']) (capitalUri.aor sampleRuntime)
    ['s', 'i', 'p', '_', 'a', 'l', '_', 'h'] ⟨['c'], false, []⟩ 300000000000 0 none, 1⟩

def registered : List (EdgeEvent Bool) :=
  [.register false 0 0 (sampleRequest capitalUri), .proceed false 0 .ok, .proceed false 0 .ok,
    .proceed false 0 .ok, .proceed false 0 .ok]

/-- The device refreshes its binding between a sweep's lock and its deletion. -/
def refreshedDuringSweep : List (EdgeEvent Bool) :=
  registered ++ [.tick 300000000000, .sweep false 1 300000000000 [firstCopy],
    .register false 2 0 (sampleRequest capitalUri), .proceed false 2 .ok, .proceed false 2 .ok,
    .proceed false 1 .ok]

/-- A second instance is started while the first goes on. -/
def adoptedTwice : List (EdgeEvent Bool) :=
  registered ++ [.rehydrate true 0, .listed true 0 [alKey], .proceed true 0 .ok, .proceed true 0 .ok,
    .proceed true 0 .ok, .tick 300000000000, .sweep false 1 300000000000 [firstCopy], .proceed false 1 .ok,
    .proceed false 1 .ok, .sweep true 1 300000000000 [firstCopy], .proceed true 1 .ok, .proceed true 1 .ok]

def sweptOnce : List (EdgeEvent Bool) :=
  registered ++ [.tick 300000000000, .sweep false 1 300000000000 [firstCopy], .proceed false 1 .ok,
    .proceed false 1 .ok]

def notesOf (events : List (EdgeEvent Bool)) : Option (List (EdgeNote Bool)) :=
  (run (Edge.step · sample) (Edge.init Bool) events).map Edge.notes

theorem refreshedDuringSweep_notes : (notesOf refreshedDuringSweep).map (·.any fun
    | .swept (some copy) clock => clock < copy.binding.expiresAt
    | _ => false) = some true := by
  decide

theorem adoptedTwice_published :
    (notesOf adoptedTwice).map (·.filterMap EdgeNote.published) = some [firstCopy, firstCopy] := by
  decide

/-- A sweep deletes a binding that was refreshed under its hands; and two instances publish one lapse. -/
theorem overlapping_not_sweepSafe :
    (∃ e, run (Edge.step · sample) (Edge.init Bool) refreshedDuringSweep = some e ∧ ¬e.SweepSafe) ∧
      ∃ e, run (Edge.step · sample) (Edge.init Bool) adoptedTwice = some e ∧ ¬e.SweepSafe := by
  constructor
  · obtain ⟨notes, hn, hany⟩ := Option.map_eq_some_iff.mp refreshedDuringSweep_notes
    obtain ⟨e, he, rfl⟩ := Option.map_eq_some_iff.mp hn
    refine ⟨e, he, fun hsafe => ?_⟩
    obtain ⟨note, hm, hnote⟩ := List.any_eq_true.mp hany
    cases note with
    | did _ _ | expired _ _ => simp at hnote
    | swept removed clock =>
      cases removed with
      | none => simp at hnote
      | some copy =>
        have hdue := hsafe.1 copy clock hm
        simp only [decide_eq_true_eq] at hnote
        omega
  · obtain ⟨notes, hn, hpub⟩ := Option.map_eq_some_iff.mp adoptedTwice_published
    obtain ⟨e, he, rfl⟩ := Option.map_eq_some_iff.mp hn
    refine ⟨e, he, fun hsafe => ?_⟩
    have hnodup := hsafe.2
    rw [hpub] at hnodup
    simp at hnodup

def atRest (e : Edge Bool) : Bool :=
  [false, true].all fun i => (e.instances i).tasks.entries.all (·.2.held.isEmpty)

def orderlyCheck (e : Edge Bool) : EdgeEvent Bool → Bool
  | .sweep _ _ _ _ => atRest e
  | .proceed i n o => match e.taskAt (i, n) with
    | some (.handling (.storing _ _ _)) =>
      o = .ok && atRest e && [false, true].all fun j => j = i || (e.instances j).tracked.entries.isEmpty
    | some (.sweeping _ (_ :: _)) => o.applied
    | some (.loading (_ :: _) _) => false
    | _ => true
  | _ => true

theorem idle_of_atRest {e : Edge Bool} (h : atRest e) (k : Option GoString) : e.Idle k := by
  rintro ⟨i, n⟩ c hc
  cases ht : e.taskAt (i, n) with
  | none => simp [Edge.custody, ht] at hc
  | some task =>
    have hi : (e.instances i).tasks.entries.all (·.2.held.isEmpty) :=
      List.all_eq_true.mp h i (by cases i <;> decide)
    have hempty := List.all_eq_true.mp hi (n, task) (Dict.mem_of_get? ht)
    have hnil : task.held = [] := List.isEmpty_iff.mp hempty
    simp [Edge.custody, ht, hnil] at hc

theorem orderly_of_check (e : Edge Bool) (ev : EdgeEvent Bool) (h : orderlyCheck e ev) : e.Orderly ev := by
  cases ev with
  | sweep i n now order => exact fun c _ => idle_of_atRest h c.key
  | proceed i n o =>
    simp only [orderlyCheck] at h
    simp only [Edge.Orderly]
    split
    · next b existed start ht =>
      simp only [ht, Bool.and_eq_true, decide_eq_true_eq] at h
      obtain ⟨⟨rfl, hrest⟩, hothers⟩ := h
      refine ⟨by decide, idle_of_atRest hrest _, fun j k c hc _ => ?_⟩
      have hj := List.all_eq_true.mp hothers j (by cases j <;> decide)
      obtain hj | hj := Bool.or_eq_true_iff.mp hj
      · exact of_decide_eq_true hj
      · have hm := Dict.mem_of_get? hc
        rw [List.isEmpty_iff.mp hj] at hm
        cases hm
    · next ht => simpa [ht] using h
    · next ht => simp [ht] at h
    · trivial
  | tick _ | register _ _ _ _ | rehydrate _ _ | listed _ _ _ | restart _ | drop _ => exact trivial

theorem sweptOnce_published :
    (notesOf sweptOnce).map (·.filterMap EdgeNote.published) = some [firstCopy] := by
  decide

/-- The sweep of one lapse by one instance. -/
theorem sweptOnce_sweepSafe :
    ∃ e, run (Edge.step · sample) (Edge.init Bool) sweptOnce = some e ∧ e.SweepSafe ∧
      e.notes.filterMap EdgeNote.published = [firstCopy] := by
  obtain ⟨notes, hn, hpub⟩ := Option.map_eq_some_iff.mp sweptOnce_published
  obtain ⟨e, he, rfl⟩ := Option.map_eq_some_iff.mp hn
  refine ⟨e, he, Edge.run_sweepSafe sample sweptOnce e he ?_, hpub⟩
  exact meets_of_checks orderly_of_check (by decide)

end overlap

end OptimiqVoice.Sipd

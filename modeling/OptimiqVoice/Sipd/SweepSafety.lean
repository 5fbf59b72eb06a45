import OptimiqVoice.Lib.Custody
import OptimiqVoice.Sipd.Fleet

namespace OptimiqVoice.Sipd

open Lib
open Function (update update_eq_self)

variable {k : GoString}

namespace Copy

def key (c : Copy) : Option GoString := c.binding.key.toOption

theorem key_eq_some {c : Copy} : c.key = some k ↔ c.binding.key = .ok k := by
  cases h : c.binding.key <;> simp [key, h, Except.toOption]

end Copy

namespace Task

/-- The copies a task has in hand: written and not yet tracked, found lapsed and not yet deleted,
or read and not yet adopted. -/
def held : Task → List Copy
  | .handling (.tracking copy _ _) => [copy]
  | .handling _ => []
  | .sweeping _ lapsed => lapsed
  | .expiring _ _ rest => rest
  | .listing => []
  | .loading _ found => found
  | .adopting found => found

def writing : Task → Bool
  | .handling (.tracking _ _ _) => true
  | _ => false

/-- The copy a sweep has deleted and not yet published. -/
def flight : Task → Option Copy
  | .expiring _ copy _ => some copy
  | _ => none

/-- The copies a sweep has found lapsed and not yet deleted. -/
def judged : Task → List Copy
  | .sweeping _ lapsed => lapsed
  | .expiring _ _ rest => rest
  | _ => []

end Task

def EdgeNote.published {ι : Type} : EdgeNote ι → Option Copy
  | .expired copy _ => some copy
  | _ => none

namespace Edge

variable {ι : Type}

def taskAt (e : Edge ι) (t : ι × Nat) : Option Task := (e.instances t.1).tasks.get? t.2

def custody (e : Edge ι) : Custody GoString Copy ι (ι × Nat) where
  stored k := e.store.bindings.get? k
  tracked i k := (e.instances i).tracked.get? k
  held t := (e.taskAt t).elim [] Task.held
  writing t := (e.taskAt t).elim false Task.writing
  flight t := (e.taskAt t).bind Task.flight
  published := e.notes.filterMap EdgeNote.published

/-- No sweep took a binding out of the bucket before its deadline, and no lapse was published twice. -/
def SweepSafe (e : Edge ι) : Prop :=
  (∀ copy clock, .swept (some copy) clock ∈ e.notes → copy.binding.expiresAt ≤ clock) ∧
    (e.notes.filterMap EdgeNote.published).Nodup

/-- Nothing under way has a copy of the key in hand. -/
def Idle (e : Edge ι) (k : Option GoString) : Prop := ∀ t, ∀ c ∈ e.custody.held t, c.key ≠ k

/-- Operations on one key do not overlap. A binding is written only while nothing under way has a
copy of its key and no other instance tracks it, a lapsed copy is collected only while nothing under
way has one of its key, and a rehydration reads a key only while nothing under way has a copy of it
and no instance tracks it. A write that fails is not applied, and a sweep's deletion is. -/
def Orderly (e : Edge ι) : EdgeEvent ι → Prop
  | .sweep _ _ _ order => ∀ c ∈ order, e.Idle c.key
  | .proceed i n o => match e.taskAt (i, n) with
    | some (.handling (.storing binding _ _)) => o ≠ .failed true ∧ e.Idle binding.key.toOption ∧
        ∀ j k c, e.custody.tracked j k = some c → binding.key = .ok k → j = i
    | some (.sweeping _ (_ :: _)) => o.applied
    | some (.loading (k :: _) _) => e.Idle (some k) ∧ ∀ j, e.custody.tracked j k = none
    | _ => True
  | _ => True

/-- What the sweeps under way have judged has lapsed. -/
def Due (e : Edge ι) : Prop :=
  ∀ t task, e.taskAt t = some task → ∀ c ∈ task.judged, c.binding.expiresAt ≤ e.clock

structure Swept (e : Edge ι) : Prop where
  sound : e.custody.Sound Copy.key Prod.fst (·.revision ≤ e.store.revision)
  due : e.Due
  safe : ∀ copy clock, .swept (some copy) clock ∈ e.notes → copy.binding.expiresAt ≤ clock

attribute [local simp] custody

section frame

variable [DecidableEq ι] {e : Edge ι} {i : ι} {n : Nat} {t : Option Task}

theorem taskAt_setTask (u : ι × Nat) :
    (e.setTask i n t).taskAt u = if u = (i, n) then t else e.taskAt u := by
  obtain ⟨j, m⟩ := u
  rw [taskAt, tasks_setTask]
  by_cases h : i = j ∧ n = m
  · obtain ⟨rfl, rfl⟩ := h
    simp
  · have hne : (j, m) ≠ (i, n) := fun he => h ⟨(Prod.mk.inj he).1.symm, (Prod.mk.inj he).2.symm⟩
    rw [if_neg h, if_neg hne]
    rfl

attribute [local simp] taskAt_setTask

theorem custody_setTask : (e.setTask i n t).custody = { e.custody with
    held := update e.custody.held (i, n) (t.elim [] Task.held)
    writing := update e.custody.writing (i, n) (t.elim false Task.writing)
    flight := update e.custody.flight (i, n) (t.bind Task.flight) } := by
  ext1
  · rfl
  · funext j k
    simp
  · funext u
    by_cases h : u = (i, n) <;> simp [h]
  · funext u
    by_cases h : u = (i, n) <;> simp [h]
  · funext u
    by_cases h : u = (i, n) <;> simp [h]
  · rfl

theorem custody_setTask_eq (hh : t.elim [] Task.held = e.custody.held (i, n))
    (hw : t.elim false Task.writing = e.custody.writing (i, n))
    (hf : t.bind Task.flight = e.custody.flight (i, n)) : (e.setTask i n t).custody = e.custody := by
  rw [custody_setTask, hh, hw, hf]
  simp

theorem custody_setTracked (tracked : Dict GoString Copy) : (e.setTracked i tracked).custody =
    { e.custody with tracked := update e.custody.tracked i tracked.get? } := by
  ext1
  · rfl
  · funext j k
    by_cases h : j = i
    · simp [tracked_setTracked, h]
    · simp [tracked_setTracked, h, Ne.symm h]
  · simp [taskAt]
  · simp [taskAt]
  · simp [taskAt]
  · rfl

end frame

section handling

variable [DecidableEq ι] {e e' : Edge ι} {r : Registrar} {i : ι} {n : Nat}

omit [DecidableEq ι] in
theorem sound_quiet (e' : Edge ι) (h : e.Swept) (hrev : e'.store.revision = e.store.revision)
    (hstored : ∀ k x, e'.custody.stored k = some x → e.custody.stored k = some x)
    (htracked : ∀ j k x, e'.custody.tracked j k = some x → e.custody.tracked j k = some x)
    (hheld : e'.custody.held = e.custody.held) (hwriting : e'.custody.writing = e.custody.writing)
    (hflight : e'.custody.flight = e.custody.flight) (hpub : e'.custody.published = e.custody.published) :
    e'.custody.Sound Copy.key Prod.fst (·.revision ≤ e'.store.revision) := by
  have hs := h.sound.shrink _ _ hstored htracked
  rw [← hheld, ← hwriting, ← hflight, ← hpub, ← hrev] at hs
  exact hs

/-- The edge after a turn of a handling. -/
def afterTurn (e : Edge ι) (i : ι) (n : Nat) (turn : Turn) : Edge ι :=
  (({ e with store := turn.store }.setTracked i turn.tracked).setTask i n
    (turn.next.map .handling)).note (turn.effects.map (.did i))

omit [DecidableEq ι] in
theorem published_did (effects : List Effect) :
    (effects.map (EdgeNote.did i)).filterMap EdgeNote.published = [] := by
  simp [List.filterMap_map, Function.comp_def, EdgeNote.published]

theorem custody_afterTurn (turn : Turn) : (e.afterTurn i n turn).custody = { e.custody with
      stored := turn.store.bindings.get?
      tracked := update e.custody.tracked i turn.tracked.get?
      held := update e.custody.held (i, n) ((turn.next.map .handling).elim [] Task.held)
      writing := update e.custody.writing (i, n) ((turn.next.map .handling).elim false Task.writing)
      flight := update e.custody.flight (i, n) ((turn.next.map .handling).bind Task.flight) } := by
  have hnote : (e.afterTurn i n turn).custody = (({ e with store := turn.store }.setTracked i
      turn.tracked).setTask i n (turn.next.map .handling)).custody := by
    ext1
    · rfl
    · rfl
    · rfl
    · rfl
    · rfl
    · change List.filterMap _ (_ ++ _) = _
      rw [List.filterMap_append, published_did, List.append_nil]
      rfl
  rw [hnote, custody_setTask, custody_setTracked]
  rfl

omit [DecidableEq ι] in
theorem Swept.safe_note (h : e.Swept) {notes : List (EdgeNote ι)}
    (hn : ∀ copy clock, .swept (some copy) clock ∉ notes) (copy : Copy) (clock : Int)
    (hm : .swept (some copy) clock ∈ e.notes ++ notes) : copy.binding.expiresAt ≤ clock :=
  h.safe copy clock ((List.mem_append.mp hm).resolve_right (hn copy clock))

theorem Swept.afterTurn (h : e.Swept) {turn : Turn}
    (hs : (e.afterTurn i n turn).custody.Sound Copy.key Prod.fst (·.revision ≤ turn.store.revision)) :
    (e.afterTurn i n turn).Swept where
  sound := hs
  due := by
    intro t task ht
    change Edge.taskAt (Edge.setTask _ i n _) t = some task at ht
    rw [taskAt_setTask] at ht
    by_cases hti : t = (i, n)
    · rw [if_pos hti] at ht
      obtain ⟨h', -, rfl⟩ := Option.map_eq_some_iff.mp ht
      exact nofun
    · rw [if_neg hti] at ht
      refine h.due t task ?_
      simpa [taskAt] using ht
  safe := h.safe_note (by simp)

/-- The handling has nothing in hand. -/
def Quiet : Option Handling → Prop
  | some (.tracking _ _ _) => False
  | _ => True

theorem quiet_profile {next : Option Handling} (h : Quiet next) :
    (next.map Task.handling).elim [] Task.held = [] ∧
      (next.map Task.handling).elim false Task.writing = false ∧
      (next.map Task.handling).bind Task.flight = none := by
  cases next with
  | none => exact ⟨rfl, rfl, rfl⟩
  | some hd =>
    cases hd with
    | tracking copy existed start => exact h.elim
    | _ => exact ⟨rfl, rfl, rfl⟩

omit [DecidableEq ι] in
theorem profile_of {task : Task} (ht : e.taskAt (i, n) = some task) : e.custody.held (i, n) = task.held ∧
    e.custody.writing (i, n) = task.writing ∧ e.custody.flight (i, n) = task.flight := by
  simp [ht]

variable {hd : Handling}

omit [DecidableEq ι] in
theorem profile_at (ht : e.taskAt (i, n) = some (.handling hd)) (hq : Quiet (some hd)) :
    e.custody.held (i, n) = [] ∧ e.custody.writing (i, n) = false ∧ e.custody.flight (i, n) = none := by
  obtain ⟨hh, hw, hf⟩ := profile_of ht
  obtain ⟨hh', hw', hf'⟩ := quiet_profile hq
  exact ⟨hh.trans hh', hw.trans hw', hf.trans hf'⟩

theorem Swept.quietTurn (h : e.Swept) (ht : e.taskAt (i, n) = some (.handling hd))
    {turn : Turn} (hq : Quiet (some hd)) (hq' : Quiet turn.next)
    (hrev : turn.store.revision = e.store.revision)
    (hstored : ∀ k x, turn.store.bindings.get? k = some x → e.store.bindings.get? k = some x)
    (htracked : ∀ k x, turn.tracked.get? k = some x → (e.instances i).tracked.get? k = some x) :
    (e.afterTurn i n turn).Swept := by
  obtain ⟨hh, hw, hf⟩ := profile_at ht hq
  obtain ⟨hh', hw', hf'⟩ := quiet_profile hq'
  refine h.afterTurn ?_
  refine sound_quiet (e.afterTurn i n turn) h hrev ?_ ?_ ?_ ?_ ?_ ?_
  all_goals rw [custody_afterTurn]
  · exact hstored
  · intro j k x hx
    by_cases hj : j = i
    · subst hj
      exact htracked k x (by simpa using hx)
    · simpa [hj] using hx
  · change update _ _ _ = _
    rw [hh', ← hh, update_eq_self]
  · change update _ _ _ = _
    rw [hw', ← hw, update_eq_self]
  · change update _ _ _ = _
    rw [hf', ← hf, update_eq_self]

variable {o : Outcome}

omit [DecidableEq ι] in
theorem get?_of_delete {org hash : GoString} {x : Copy}
    (h : (e.store.delete o org hash).bindings.get? k = some x) :
    e.store.bindings.get? k = some x ∧ (o.applied → registrationKVKey org hash ≠ .ok k) := by
  cases hr : registrationKVKey org hash with
  | error err =>
    simp only [Store.delete, hr] at h
    exact ⟨h, nofun⟩
  | ok key =>
    by_cases ha : o.applied
    · simp only [Store.delete, hr, ha, if_true, Dict.get?_erase] at h
      obtain ⟨hne, h⟩ := Option.ite_none_left_eq_some.mp h
      exact ⟨h, fun _ hk => hne (Except.ok.inj hk)⟩
    · simp only [Store.delete, hr, ha] at h
      exact ⟨h, fun hap => absurd hap ha⟩

theorem revision_delete {s : Store} {org hash : GoString} :
    (s.delete o org hash).revision = s.revision := by
  cases hr : registrationKVKey org hash with
  | error err => simp [Store.delete, hr]
  | ok key => by_cases ha : o.applied <;> simp [Store.delete, hr, ha]

attribute [local simp] Task.flight Store.put

theorem Swept.written (h : e.Swept) {b : Binding} {existed : Bool} {start : Int}
    (ht : e.taskAt (i, n) = some (.handling (.storing b existed start)))
    (hidle : e.Idle b.key.toOption)
    (hsite : ∀ j k c, e.custody.tracked j k = some c → b.key = .ok k → j = i)
    (ha : o.accepted b.orgId b.aorHash) :
    (e.afterTurn i n ⟨e.store.put o b, (e.instances i).tracked,
      some (.tracking (e.store.copy b) existed start), []⟩).Swept := by
  obtain ⟨hh, -, hf⟩ := profile_at ht trivial
  obtain ⟨ho, hok⟩ : o = .ok ∧ (registrationKVKey b.orgId b.aorHash).isOk := by
    simpa [Outcome.accepted] using ha
  obtain ⟨k, hk⟩ : ∃ k, b.key = .ok k := by
    cases hr : b.key with
    | error err =>
      change (Binding.key b).isOk at hok
      simp [hr, Except.isOk, Except.toBool] at hok
    | ok k => exact ⟨k, rfl⟩
  refine h.afterTurn ?_
  have hw := h.sound.write (·.revision ≤ (e.store.put o b).revision) (t := (i, n)) (k := k)
    (x := e.store.copy b) (Copy.key_eq_some.mpr hk) (by simp [Store.copy]) ?_ hh ?_ ?_
  · rw [custody_afterTurn]
    convert hw using 1
    ext1
    · funext j
      by_cases hj : k = j <;> simp [hk, ho, Outcome.applied, Dict.get?_set, hj, Function.update_apply, eq_comm]
    · exact update_eq_self i _
    · rfl
    · rfl
    · change update _ _ _ = _
      rw [← update_eq_self (i, n) e.custody.flight, hf]
      simp
    · rfl
  · simp only [Store.put, hk, ho, Outcome.applied, if_true]
    rintro y (hy | rfl)
    · exact Nat.le_succ_of_le hy
    · exact Nat.le_refl _
  · intro u y hy hyk
    exact hidle u y hy (by rw [hyk, hk]; rfl)
  · exact fun j y hy => hsite j k y hy hk

theorem Swept.tracked (h : e.Swept) {copy : Copy} {existed : Bool} {start : Int}
    (ht : e.taskAt (i, n) = some (.handling (.tracking copy existed start))) (hk : copy.binding.key = .ok k) :
    (e.afterTurn i n ⟨e.store, (e.instances i).tracked.set k copy,
      some (.announcing copy.binding existed start), []⟩).Swept := by
  obtain ⟨hheld, -, hflight⟩ := profile_of ht
  refine h.afterTurn ?_
  have hw := h.sound.track (w := false) hheld (Copy.key_eq_some.mpr hk) (.inl rfl)
  rw [custody_afterTurn]
  convert hw using 1
  ext1
  · rfl
  · funext j l
    by_cases hj : j = i
    · subst hj
      by_cases hl : k = l
      · simp [hl]
      · simp [Dict.get?_set, hl, Ne.symm hl]
    · simp [hj]
  · rfl
  · rfl
  · change update _ _ _ = _
    rw [← update_eq_self (i, n) e.custody.flight, hflight]
    simp
  · rfl

theorem Swept.handling (h : e.Swept) (hord : e.Orderly (.proceed i n o))
    (ht : e.taskAt (i, n) = some (.handling hd)) :
    (e.afterTurn i n (r.advance e.clock o e.store (e.instances i).tracked hd)).Swept := by
  have hkeep : ∀ turn : Turn, Quiet (some hd) → Quiet turn.next → turn.store = e.store →
      turn.tracked = (e.instances i).tracked → (e.afterTurn i n turn).Swept := by
    intro turn hq hq' hstore htracked
    exact h.quietTurn ht hq hq' (by rw [hstore]) (fun _ _ hx => hstore ▸ hx) (fun _ _ hx => htracked ▸ hx)
  cases hd with
  | reading req credential aor aorHash contact granted start =>
    simp only [Registrar.advance]
    cases e.store.get o credential.orgId aorHash <;> exact hkeep _ trivial trivial rfl rfl
  | storing b existed start =>
    obtain ⟨hno, hidle, hsite⟩ : o ≠ .failed true ∧ e.Idle b.key.toOption ∧
        ∀ j k c, e.custody.tracked j k = some c → b.key = .ok k → j = i := by
      simpa [Orderly, ht] using hord
    by_cases ha : o.accepted b.orgId b.aorHash
    · have hw := h.written ht hidle hsite ha
      simpa only [Registrar.advance, if_pos ha] using hw
    · have hsame : e.store.put o b = e.store := by
        cases hk : b.key with
        | error err => simp [hk]
        | ok k =>
          cases o with
          | ok => exact absurd (Outcome.accepted_ok hk) ha
          | failed applied => simp_all [Outcome.applied]
      simp only [Registrar.advance, if_neg ha, hsame]
      exact hkeep _ trivial trivial rfl rfl
  | tracking copy existed start =>
    obtain ⟨⟨k, hk⟩, -⟩ := h.sound.held_key (i, n) copy (by simp [ht, Task.held])
    have hk := Copy.key_eq_some.mp hk
    have hw := h.tracked ht hk
    simpa only [Registrar.advance, hk] using hw
  | announcing _ _ _ | withdrawing _ => exact hkeep _ trivial trivial rfl rfl
  | looking credential aorHash =>
    simp only [Registrar.advance]
    cases e.store.get o credential.orgId aorHash <;> exact hkeep _ trivial trivial rfl rfl
  | deleting credential aorHash previous =>
    simp only [Registrar.advance]
    split_ifs <;>
      exact h.quietTurn ht trivial trivial revision_delete (fun k x hx => (get?_of_delete hx).1) fun k x hx => hx
  | untracking credential aorHash previous =>
    simp only [Registrar.advance]
    cases registrationKVKey credential.orgId aorHash with
    | error err => exact hkeep _ trivial trivial rfl rfl
    | ok key =>
      refine h.quietTurn ht trivial trivial rfl (fun k x hx => hx) ?_
      intro k x hx
      rw [Dict.get?_erase] at hx
      exact (Option.ite_none_left_eq_some.mp hx).2
  | querying orgId aorHash =>
    simp only [Registrar.advance]
    split <;> exact hkeep _ trivial trivial rfl rfl

end handling

end Edge

end OptimiqVoice.Sipd

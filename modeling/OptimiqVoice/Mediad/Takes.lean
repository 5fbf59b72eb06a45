import OptimiqVoice.Mediad.Ports

namespace OptimiqVoice.Mediad

open Lib
open Sipd (GoString)

namespace Task

def starter : Task → Multiset Recording
  | .opening r => {r}
  | .indexing r => {r}
  | .watching r => {r}
  | _ => 0

/-- The recording a goroutine has to bring to its end. -/
def carrier : Task → Multiset Recording
  | .opening r => {r}
  | .recording r => {r}
  | .clearing r => {r}
  | .signalling r => {r}
  | _ => 0

def written : Task → Multiset Recording
  | .clearing r => {r}
  | .signalling r => {r}
  | _ => 0

def awaited : Task → Multiset Recording
  | .awaiting r => {r}
  | .ending _ _ (.closing (some r)) => {r}
  | .ending _ _ (.freeing (some r)) => {r}
  | .ending _ _ (.awaiting (some r)) => {r}
  | _ => 0

def watch : Task → Option Recording
  | .awaiting r => some r
  | _ => none

/-- The session whose recording slot a teardown has looked at, up to the
announcement of its end. -/
def looked : Task → Option Session
  | .ending victim _ (.closing _) => some victim.session
  | .ending victim _ (.freeing _) => some victim.session
  | .ending victim _ (.awaiting _) => some victim.session
  | .ending victim _ .announcing => some victim.session
  | _ => none

/-- What a goroutine has to do with recordings, watching one apart. -/
def about (t : Task) := (t.starter, t.carrier, t.written, t.awaited, t.looked)

/-- A goroutine that has to do with no recording yet. -/
structure Aside (t : Task) : Prop where
  starter : t.starter = 0
  carrier : t.carrier = 0
  written : t.written = 0
  awaited : t.awaited = 0
  watch : t.watch = none
  looked : t.looked = none

theorem aside_first (victim : Expiry) (rest : List Expiry) (reason : EndReason) :
    (Task.ending victim rest (Stage.first reason)).Aside := by
  cases reason <;> exact ⟨rfl, rfl, rfl, rfl, rfl, rfl⟩

end Task

def Happening.recording? : Happening → Option Recording
  | .claimed r => some r
  | .started r => some r
  | .fileClosed r => some r
  | .recordingFinished r => some r
  | _ => none

def Happening.isPlain : Happening → Bool
  | .sessionEnded _ _ => false
  | h => h.recording?.isNone

namespace Manager

/-- The ways in which a step of one goroutine concerns recordings. -/
inductive Deed (m : Manager) (t : Task) : Move → Prop
  | plain {m' : Manager} {t' : Task} (new : List Happening) (hdone : m'.isDone = m.isDone)
      (htold : m'.isTold = m.isTold) (hvoid : m'.isVoid = m.isVoid) (htakes : m'.takes = m.takes)
      (hslot : m'.slot = m.slot) (htasks : m'.tasks = m.tasks) (hlog : m'.log = m.log ++ new)
      (hplain : ∀ h ∈ new, h.isPlain) (hstarter : t'.starter = t.starter)
      (hcarrier : t'.carrier = t.carrier) (hwritten : t'.written = t.written)
      (hawaited : t'.awaited = t.awaited) (hlooked : t'.looked = t.looked)
      (hwatch : t.watch = none ∧ t'.watch = none) : Deed m t (m', t', [])
  | claimed {s : Session} {ref : GoString} (ht : t = .claiming s ref) (hslot : m.slot s.serial = none) :
      Deed m t ({ m with
        takes := m.takes + 1,
        slot := Function.update m.slot s.serial (some ⟨m.takes, ref, s⟩) }.tell
          (.claimed ⟨m.takes, ref, s⟩), .opening ⟨m.takes, ref, s⟩, [])
  | opened {r : Recording} (ht : t = .opening r) : Deed m t (m, .indexing r, [.recording r])
  | voided {r : Recording} (ht : t = .opening r) :
      Deed m t (({ m with isVoid := Function.update m.isVoid r.serial true }.clearSlot r).refuseStart
        r.ref .wavFailed)
  | started {r : Recording} (ht : t = .watching r) :
      Deed m t (m.tell (.started r), .finished, [.awaiting r])
  | wrote {r : Recording} (ht : t = .recording r) : Deed m t (m.tell (.fileClosed r), .clearing r, [])
  | cleared {r : Recording} (ht : t = .clearing r) : Deed m t (m.clearSlot r, .signalling r, [])
  | done {r : Recording} (ht : t = .signalling r) :
      Deed m t ({ m with isDone := Function.update m.isDone r.serial true }, .finished, [])
  | announced {r : Recording} {t' : Task} (hdone : m.isDone r.serial = true)
      (ht : t = .awaiting r ∧ t' = .finished ∨
        ∃ victim rest, t = .ending victim rest (.awaiting (some r)) ∧
          t' = .ending victim rest .announcing) : Deed m t (m.announceRecording r, t', [])
  | waived {r : Recording} {victim : Expiry} {rest : List Expiry} (hvoid : m.isVoid r.serial = true)
      (ht : t = .ending victim rest (.awaiting (some r))) :
      Deed m t (m, .ending victim rest .announcing, [])
  | read {victim : Expiry} {rest : List Expiry} (ht : t = .ending victim rest .reading) :
      Deed m t (m, .ending victim rest (.closing (m.slot victim.session.serial)), [])
  | ended {victim : Expiry} {rest : List Expiry} {t' : Task}
      (ht : t = .ending victim rest .announcing)
      (ht' : t' = .finished ∨ ∃ next rest', t' = .ending next rest' (Stage.first next.reason)) :
      Deed m t (m.tell (.sessionEnded victim.session victim.reason), t', [])

/-- All of an instance that a plain deed leaves. -/
def records (m : Manager) := (m.isDone, m.isTold, m.isVoid, m.takes, m.slot, m.tasks)

section plain

variable {m m' : Manager} {t t' : Task} {h : Happening} {new : List Happening}
variable (habout : t'.about = t.about) (hwatch : (t.watch, t'.watch) = (none, none))

include habout hwatch

theorem deed_plain (hrecords : m'.records = m.records) (hlog : m'.log = m.log ++ new)
    (hplain : ∀ h ∈ new, h.isPlain) : Deed m t (m', t', []) := by
  simp only [records, Task.about, Prod.mk.injEq] at hrecords habout hwatch
  obtain ⟨hdone, htold, hvoid, htakes, hslot, htasks⟩ := hrecords
  obtain ⟨hstarter, hcarrier, hwritten, hawaited, hlooked⟩ := habout
  exact .plain new hdone htold hvoid htakes hslot htasks hlog hplain hstarter hcarrier hwritten hawaited hlooked hwatch

theorem deed_tell (hplain : h.isPlain) : Deed m t (m.tell h, t', []) :=
  deed_plain habout hwatch rfl rfl (by simpa using hplain)

theorem deed_keep (hrecords : m'.records = m.records) (hlog : m'.log = m.log) : Deed m t (m', t', []) :=
  deed_plain habout hwatch hrecords (hlog.trans (List.append_nil _).symm) (by simp)

end plain

theorem insert_deed (m : Manager) (s : Session) : Deed m (.inserting s) (m.insert s) := by
  rw [insert]
  split_ifs
  · exact deed_tell rfl rfl rfl
  · split
    · exact deed_tell rfl rfl rfl
    · exact deed_plain rfl rfl rfl (List.append_assoc _ _ _) (by simp [Happening.isPlain, Happening.recording?])

variable {c : Choice} {mv : Move}

theorem finish_deed {m : Manager} {victim : Expiry} {rest : List Expiry}
    {stage : Stage} (h : m.finish c victim rest stage = some mv) :
    Deed m (.ending victim rest stage) mv := by
  cases stage with
  | telling =>
    cases h
    exact deed_tell rfl rfl rfl
  | flushing =>
    cases h
    cases c.digit with
    | none => exact deed_keep rfl rfl rfl rfl
    | some digit => exact deed_tell rfl rfl rfl
  | reading =>
    cases h
    exact .read rfl
  | closing recording =>
    rw [finish] at h
    split_ifs at h
    · cases h
      cases recording <;> exact deed_keep rfl rfl rfl rfl
    · cases h
      cases recording <;> exact deed_keep rfl rfl rfl rfl
  | freeing recording =>
    cases h
    cases recording <;> exact deed_keep rfl rfl rfl rfl
  | awaiting recording =>
    cases recording with
    | none =>
      cases h
      exact deed_keep rfl rfl rfl rfl
    | some r =>
      rw [finish] at h
      split_ifs at h with hdone hvoid
      · cases h
        exact .announced hdone (.inr ⟨victim, rest, rfl, rfl⟩)
      · cases h
        exact .waived hvoid rfl
  | announcing =>
    cases rest with
    | nil =>
      cases h
      exact .ended rfl (.inl rfl)
    | cons next rest =>
      cases h
      exact .ended rfl (.inr ⟨next, rest, rfl⟩)

variable {cfg : Config}

theorem advance_deed {m : Manager} {t : Task}
    (h : m.advance cfg c t = some mv) : Deed m t mv := by
  cases t with
  | checking opts =>
    cases h
    rw [check]
    split_ifs
    · exact deed_tell rfl rfl rfl
    · split
      · exact deed_tell rfl rfl rfl
      · exact deed_keep rfl rfl rfl rfl
  | binding opts =>
    cases h
    rw [bind]
    split
    · exact deed_plain rfl rfl rfl rfl (by simp [Happening.isPlain, Happening.recording?])
    · exact deed_keep rfl rfl rfl rfl
  | constructing opts port =>
    cases h
    rw [construct]
    split
    · exact deed_tell rfl rfl rfl
    · exact deed_keep rfl rfl rfl rfl
  | abandoning _ | returning _ | indexing _ =>
    cases h
    exact deed_keep rfl rfl rfl rfl
  | inserting s =>
    cases h
    exact insert_deed m s
  | discarding s =>
    rw [advance] at h
    split_ifs at h
    · cases h
      exact deed_keep rfl rfl rfl rfl
    · cases h
      exact deed_keep rfl rfl rfl rfl
  | ending victim rest stage => exact finish_deed h
  | looking id ref path =>
    cases h
    rw [lookUp]
    split_ifs
    · exact deed_tell rfl rfl rfl
    · exact deed_tell rfl rfl rfl
    · split
      · exact deed_tell rfl rfl rfl
      · exact deed_keep rfl rfl rfl rfl
  | asking session ref path =>
    cases h
    rw [ask]
    split_ifs
    · exact deed_tell rfl rfl rfl
    · exact deed_tell rfl rfl rfl
    · exact deed_tell rfl rfl rfl
    · exact deed_keep rfl rfl rfl rfl
  | claiming session ref =>
    cases h
    rw [claim]
    split
    · exact deed_tell rfl rfl rfl
    · exact .claimed rfl ‹_›
  | opening r =>
    rw [advance] at h
    split_ifs at h
    · cases h
      exact .opened rfl
    · cases h
      exact .voided rfl
  | watching r =>
    cases h
    exact .started rfl
  | recording r =>
    rw [advance] at h
    split_ifs at h
    cases h
    exact .wrote rfl
  | clearing r =>
    cases h
    exact .cleared rfl
  | signalling r =>
    cases h
    exact .done rfl
  | awaiting r =>
    rw [advance] at h
    split_ifs at h with hdone
    cases h
    exact .announced hdone (.inl ⟨rfl, rfl⟩)
  | finished => cases h

theorem advance_tasks {m : Manager} {t : Task}
    (h : m.advance cfg c t = some mv) : mv.1.tasks = m.tasks := by
  cases advance_deed h with
  | plain new hdone htold hvoid htakes hslot htasks => exact htasks
  | @voided r ht => exact (clearSlot_same { m with isVoid := _ } r).2.2.1
  | @cleared r ht => exact (clearSlot_same m r).2.2.1
  | @announced r t' hdone ht =>
    change (m.announceRecording r).tasks = m.tasks
    rw [announceRecording]
    split_ifs <;> rfl
  | _ => rfl

/-- Steps that are not of a goroutine: requests that come in, and packets. They
start goroutines and take sessions out of the table, and leave recordings alone. -/
structure Outside (m m' : Manager) : Prop where
  log : ∃ new, m'.log = m.log ++ new ∧ ∀ x ∈ new, x.isPlain
  tasks : ∃ more, m'.tasks = m.tasks ++ more ∧ ∀ u ∈ more, u.Aside
  sessions : ∀ id s, m'.sessions.get? id = some s → m.sessions.get? id = some s
  takes : m'.takes = m.takes
  slot : m'.slot = m.slot
  isDone : m'.isDone = m.isDone
  isTold : m'.isTold = m.isTold
  isVoid : m'.isVoid = m.isVoid

theorem Outside.refl (m : Manager) : Outside m m :=
  ⟨⟨[], by simp⟩, ⟨[], by simp⟩, fun _ _ => id, rfl, rfl, rfl, rfl, rfl⟩

theorem Outside.trans {m₁ m₂ m₃ : Manager} (h : Outside m₁ m₂) (h' : Outside m₂ m₃) :
    Outside m₁ m₃ := by
  obtain ⟨new, hlog, hnew⟩ := h.log
  obtain ⟨new', hlog', hnew'⟩ := h'.log
  obtain ⟨more, htasks, hmore⟩ := h.tasks
  obtain ⟨more', htasks', hmore'⟩ := h'.tasks
  refine ⟨⟨new ++ new', ?_, ?_⟩, ⟨more ++ more', ?_, ?_⟩,
    fun id s hs => h.sessions id s (h'.sessions id s hs), h'.takes.trans h.takes,
    h'.slot.trans h.slot, h'.isDone.trans h.isDone, h'.isTold.trans h.isTold,
    h'.isVoid.trans h.isVoid⟩
  · rw [hlog', hlog, List.append_assoc]
  · intro x hx
    exact (List.mem_append.mp hx).elim (hnew x) (hnew' x)
  · rw [htasks', htasks, List.append_assoc]
  · intro u hu
    exact (List.mem_append.mp hu).elim (hmore u) (hmore' u)

theorem outside_takeOut (m : Manager) (id : GoString) (s : Session) : Outside m (m.takeOut id s) := by
  obtain ⟨peer, bridges, h⟩ := takeOut_eq m id s
  rw [h]
  refine ⟨⟨[.left s], rfl, by simp [Happening.isPlain, Happening.recording?]⟩, ⟨[], by simp⟩, ?_, rfl,
    rfl, rfl, rfl, rfl⟩
  intro id' s' hs'
  rw [Dict.get?_erase] at hs'
  split_ifs at hs'
  exact hs'

theorem outside_spawn (m : Manager) {t : Task} (ht : t.Aside) : Outside m (m.spawn t) :=
  ⟨⟨[], by simp [spawn]⟩, ⟨[t], rfl, by simpa using ht⟩, fun _ _ => id, rfl, rfl, rfl, rfl, rfl⟩

theorem outside_endAll (m : Manager) (out : List Expiry) : Outside m (m.endAll out) := by
  cases out with
  | nil => exact Outside.refl m
  | cons victim rest => exact outside_spawn m (Task.aside_first victim rest victim.reason)

theorem outside_collect (cfg : Config) (now : Int) (entries : List (GoString × Session))
    (m : Manager) : Outside m (collect cfg now entries m).1 := by
  induction entries generalizing m with
  | nil => exact Outside.refl m
  | cons entry rest ih =>
    obtain ⟨id, s⟩ := entry
    rw [collect]
    cases m.verdict cfg now s with
    | none => exact ih m
    | some e => exact (outside_takeOut m id s).trans (ih _)

theorem outside_of_eq {m m' : Manager} (hlog : m'.log = m.log) (htasks : m'.tasks = m.tasks)
    (hsessions : m'.sessions = m.sessions) (htakes : m'.takes = m.takes) (hslot : m'.slot = m.slot)
    (hdone : m'.isDone = m.isDone) (htold : m'.isTold = m.isTold) (hvoid : m'.isVoid = m.isVoid) :
    Outside m m' :=
  ⟨⟨[], by simp [hlog]⟩, ⟨[], by simp [htasks]⟩, fun _ _ hs => hsessions ▸ hs, htakes, hslot, hdone,
    htold, hvoid⟩

theorem outside_drain (m : Manager) : Outside m m.drain := by
  rw [drain]
  split_ifs
  · exact Outside.refl m
  · apply Outside.trans _ (outside_endAll _ _)
    refine ⟨⟨_, rfl, ?_⟩, ⟨[], by simp⟩, ?_, rfl, rfl, rfl, rfl, rfl⟩
    · intro x hx
      obtain ⟨s, -, rfl⟩ := List.mem_map.mp hx
      rfl
    · rintro id s ⟨⟩

theorem step_outside {m m' : Manager} {e : Event} (he : ∀ n c, e ≠ .advance n c)
    (h : m.step cfg e = some m') : Outside m m' := by
  cases step_turn h with
  | still => exact Outside.refl m
  | refused =>
    exact ⟨⟨_, rfl, by simp [Happening.isPlain, Happening.recording?]⟩, ⟨[], by simp [tell]⟩,
      fun _ _ => id, rfl, rfl, rfl, rfl, rfl⟩
  | spawned ht =>
    apply outside_spawn
    obtain ⟨_, rfl⟩ | ⟨_, _, _, rfl⟩ := ht <;> exact ⟨rfl, rfl, rfl, rfl, rfl, rfl⟩
  | released hget => exact (outside_takeOut m _ _).trans (outside_endAll _ _)
  | bridged he hb =>
    obtain ⟨peer, bridges, rfl⟩ := bridge_eq hb
    exact outside_of_eq rfl rfl rfl rfl rfl rfl rfl rfl
  | @unbridged bridgeId pair hget =>
    obtain ⟨peer, bridges, heq⟩ := detachLocked_eq m bridgeId pair
    rw [heq]
    exact outside_of_eq rfl rfl rfl rfl rfl rfl rfl rfl
  | reaped now => exact (outside_collect cfg now _ m).trans (outside_endAll _ _)
  | drained => exact outside_drain m
  | heard session now digits =>
    refine ⟨⟨_, rfl, ?_⟩, ⟨[], by simp [hear]⟩, fun _ _ => id, rfl, rfl, rfl, rfl, rfl⟩
    intro x hx
    obtain ⟨digit, -, rfl⟩ := List.mem_map.mp hx
    rfl
  | stopped r => exact outside_of_eq rfl rfl rfl rfl rfl rfl rfl rfl
  | advanced he' => exact absurd he' (he _ _)

/-- What holds of the recordings of an instance in every state: who is known by
which serial number, that each is on its way until it is done or void, and that
the announced ones are those whose files were closed, each once. -/
structure Takes (m : Manager) : Prop where
  serials : ∀ r r', .claimed r ∈ m.log → .claimed r' ∈ m.log → r.serial = r'.serial → r = r'
  older : ∀ r, .claimed r ∈ m.log → r.serial < m.takes
  unborn : ∀ n, m.takes ≤ n → m.isDone n = false ∧ m.isTold n = false ∧ m.isVoid n = false
  slotted : ∀ n r, m.slot n = some r → .claimed r ∈ m.log
  mentioned : ∀ t ∈ m.tasks, ∀ r ∈ t.starter + t.carrier + t.awaited, .claimed r ∈ m.log
  moving : ∀ r, .claimed r ∈ m.log →
    m.isDone r.serial = true ∨ m.isVoid r.serial = true ∨ r ∈ pooled Task.carrier m.tasks
  written : ∀ r, .claimed r ∈ m.log → m.isDone r.serial = true → .fileClosed r ∈ m.log
  writing : ∀ t ∈ m.tasks, ∀ r ∈ t.written, .fileClosed r ∈ m.log
  told : ∀ r, .claimed r ∈ m.log → (m.isTold r.serial = true ↔ .recordingFinished r ∈ m.log)
  announced : Each (fun before h => ∀ r, h = .recordingFinished r →
    .claimed r ∈ before ∧ .recordingFinished r ∉ before ∧ .fileClosed r ∈ before) m.log
  starters : (pooled Task.starter m.tasks).Nodup
  willing : ∀ r ∈ pooled Task.starter m.tasks, m.isVoid r.serial = false
  begun : ∀ r, .started r ∈ m.log → .claimed r ∈ m.log ∧ r ∉ pooled Task.starter m.tasks ∧
    m.isVoid r.serial = false ∧ (m.isTold r.serial = true ∨ .awaiting r ∈ m.tasks)
  watched : ∀ t ∈ m.tasks, ∀ r, t.watch = some r → .started r ∈ m.log

section takes

variable {m m' : Manager} {n : Nat} {t t' : Task} {started : List Task} {new : List Happening}

theorem pooled_goOn {M : Type} [AddCommMonoid M] (f : Task → M) (hn : m.tasks[n]? = some t)
    (htasks : m'.tasks = m.tasks) (t' : Task) (started : List Task) :
    pooled f (m'.goOn n t' started).tasks + f t = pooled f m.tasks + f t' + pooled f started := by
  have hset := pooled_set (f := f) hn t'
  rw [goOn, htasks, pooled_append]
  calc _ = pooled f (m.tasks.set n t') + f t + pooled f started := by abel
    _ = _ := by rw [hset]

variable {α : Type}

section

variable (hn : m.tasks[n]? = some t)

include hn

theorem pooled_goOn_keep {f : Task → Multiset α}
    (htasks : m'.tasks = m.tasks) (h : f t' + pooled f started = f t) :
    pooled f (m'.goOn n t' started).tasks = pooled f m.tasks := by
  apply add_right_cancel (b := f t)
  rw [pooled_goOn f hn htasks, add_assoc, h]

theorem pooled_goOn_gain {f : Task → Multiset α} {a : α}
    (htasks : m'.tasks = m.tasks) (h : f t' + pooled f started = a ::ₘ f t) :
    pooled f (m'.goOn n t' started).tasks = a ::ₘ pooled f m.tasks := by
  apply add_right_cancel (b := f t)
  rw [pooled_goOn f hn htasks, add_assoc, h, Multiset.add_cons, Multiset.cons_add]

theorem pooled_goOn_lose {f : Task → Multiset α} {a : α}
    (htasks : m'.tasks = m.tasks) (h : f t = a ::ₘ (f t' + pooled f started)) :
    pooled f m.tasks = a ::ₘ pooled f (m'.goOn n t' started).tasks := by
  apply add_right_cancel (b := f t' + pooled f started)
  have heq := pooled_goOn f hn htasks t' started
  rw [h, Multiset.add_cons, add_assoc] at heq
  rw [← heq, Multiset.cons_add]

end

variable {r : Recording}

theorem Takes.finished_claimed (h : Takes m) (hr : .recordingFinished r ∈ m.log) :
    .claimed r ∈ m.log := by
  obtain ⟨before, after, heq⟩ := List.append_of_mem hr
  have hclaimed := (h.announced before _ after heq r rfl).1
  rw [heq]
  exact List.mem_append_left _ hclaimed

theorem Takes.not_finished (h : Takes m) (hr : m.takes ≤ r.serial) :
    .claimed r ∉ m.log ∧ .recordingFinished r ∉ m.log := by
  have hclaimed : .claimed r ∉ m.log := fun hmem => absurd (h.older r hmem) (Nat.not_lt.mpr hr)
  exact ⟨hclaimed, fun hmem => hclaimed (h.finished_claimed hmem)⟩

theorem Takes.claim (h : Takes m) {k : Manager} (hserial : r.serial = m.takes)
    (hlog : k.log = m.log ++ [.claimed r]) (htakes : k.takes = m.takes + 1)
    (hslot : ∀ i r', k.slot i = some r' → m.slot i = some r' ∨ r' = r)
    (hdone : k.isDone = m.isDone) (htold : k.isTold = m.isTold) (hvoid : k.isVoid = m.isVoid)
    (hstarters : pooled Task.starter k.tasks = r ::ₘ pooled Task.starter m.tasks)
    (hcarriers : pooled Task.carrier k.tasks = r ::ₘ pooled Task.carrier m.tasks)
    (htasks : ∀ u ∈ k.tasks, u ∈ m.tasks ∨ u = .opening r)
    (hawait : ∀ r', .awaiting r' ∈ m.tasks → .awaiting r' ∈ k.tasks) : Takes k := by
  obtain ⟨hclaimed, hfinished⟩ := h.not_finished hserial.ge
  obtain ⟨hundone, huntold, hunvoid⟩ := h.unborn r.serial hserial.ge
  have hmem : ∀ {x : Happening}, x ∈ k.log ↔ x ∈ m.log ∨ x = .claimed r := by
    intro x
    rw [hlog, List.mem_append, List.mem_singleton]
  have hold : ∀ {r'}, .claimed r' ∈ k.log → .claimed r' ∈ m.log ∨ r' = r := by
    intro r' hr'
    exact (hmem.mp hr').imp_right Happening.claimed.inj
  have hnot : r ∉ pooled Task.starter m.tasks := by
    intro hr
    obtain ⟨u, hu, hr⟩ := mem_pooled.mp hr
    refine hclaimed (h.mentioned u hu r ?_)
    exact Multiset.mem_add.mpr (.inl (Multiset.mem_add.mpr (.inl hr)))
  constructor
  · intro r₁ r₂ h₁ h₂ heq
    obtain h₁ | rfl := hold h₁
    · obtain h₂ | rfl := hold h₂
      · exact h.serials r₁ r₂ h₁ h₂ heq
      · exact absurd (h.older r₁ h₁) (by omega)
    · obtain h₂ | rfl := hold h₂
      · exact absurd (h.older r₂ h₂) (by omega)
      · rfl
  · intro r' hr'
    obtain hr' | rfl := hold hr'
    · exact htakes ▸ Nat.lt_succ_of_lt (h.older r' hr')
    · omega
  · intro i hi
    rw [hdone, htold, hvoid]
    exact h.unborn i (by omega)
  · intro i r' hr'
    obtain hr' | rfl := hslot i r' hr'
    · exact hmem.mpr (.inl (h.slotted i r' hr'))
    · exact hmem.mpr (.inr rfl)
  · intro u hu r' hr'
    obtain hu | rfl := htasks u hu
    · exact hmem.mpr (.inl (h.mentioned u hu r' hr'))
    · obtain rfl : r' = r := by simpa [Task.starter, Task.carrier, Task.awaited] using hr'
      exact hmem.mpr (.inr rfl)
  · intro r' hr'
    rw [hdone, hvoid, hcarriers, Multiset.mem_cons]
    obtain hr' | rfl := hold hr'
    · exact (h.moving r' hr').imp_right (Or.imp_right .inr)
    · exact .inr (.inr (.inl rfl))
  · intro r' hr' hd
    rw [hdone] at hd
    obtain hr' | rfl := hold hr'
    · exact hmem.mpr (.inl (h.written r' hr' hd))
    · rw [hundone] at hd
      cases hd
  · intro u hu r' hr'
    obtain hu | rfl := htasks u hu
    · exact hmem.mpr (.inl (h.writing u hu r' hr'))
    · simp [Task.written] at hr'
  · intro r' hr'
    have hiff : .recordingFinished r' ∈ k.log ↔ .recordingFinished r' ∈ m.log := by
      rw [hmem]
      simp
    rw [htold, hiff]
    obtain hr' | rfl := hold hr'
    · exact h.told r' hr'
    · simp [huntold, hfinished]
  · rw [hlog]
    apply h.announced.snoc
    rintro r' ⟨⟩
  · rw [hstarters, Multiset.nodup_cons]
    exact ⟨hnot, h.starters⟩
  · intro r' hr'
    rw [hstarters, Multiset.mem_cons] at hr'
    rw [hvoid]
    obtain rfl | hr' := hr'
    · exact hunvoid
    · exact h.willing r' hr'
  · intro r' hr'
    have hr'' : .started r' ∈ m.log := by
      rw [hmem] at hr'
      simpa using hr'
    obtain ⟨hcl, hns, hnv, hw⟩ := h.begun r' hr''
    rw [hstarters, Multiset.mem_cons, hvoid, htold]
    refine ⟨hmem.mpr (.inl hcl), ?_, hnv, hw.imp_right (hawait r')⟩
    rintro (rfl | hs)
    · exact hclaimed hcl
    · exact hns hs
  · intro u hu r' hr'
    obtain hu | rfl := htasks u hu
    · exact hmem.mpr (.inl (h.watched u hu r' hr'))
    · cases hr'

section turns

variable {k : Manager}

/-- A flag of recordings that a step may have raised, and when. -/
def Raised (m : Manager) (f f' : Nat → Bool) (Q : Recording → Prop) : Prop :=
  f' = f ∨ ∃ r, .claimed r ∈ m.log ∧ Q r ∧ f' = Function.update f r.serial true

section raised

variable {f f' : Nat → Bool} {Q : Recording → Prop}

theorem Raised.mono (hf : Raised m f f' Q) {i : Nat} (h : f i = true) : f' i = true := by
  obtain rfl | ⟨r, -, -, rfl⟩ := hf
  · exact h
  · rw [Function.update_apply, h, ite_self]

theorem Takes.raised (h : Takes m) (hf : Raised m f f' Q) (hr : .claimed r ∈ m.log)
    (hup : f' r.serial = true) : f r.serial = true ∨ Q r := by
  obtain rfl | ⟨r', hr', hq, rfl⟩ := hf
  · exact .inl hup
  · by_cases heq : r.serial = r'.serial
    · exact .inr (h.serials r r' hr hr' heq ▸ hq)
    · rw [Function.update_of_ne heq] at hup
      exact .inl hup

theorem Takes.raised_unborn (h : Takes m) (hf : Raised m f f' Q) {i : Nat} (hi : m.takes ≤ i) :
    f' i = f i := by
  obtain rfl | ⟨r, hr, -, rfl⟩ := hf
  · rfl
  · exact Function.update_of_ne (Nat.ne_of_gt (Nat.lt_of_lt_of_le (h.older r hr) hi)) ..

end raised

/-- What a goroutine may have to do with recordings after a step. -/
structure Fits (m k : Manager) (u : Task) : Prop where
  claimed : ∀ r ∈ u.starter + u.carrier + u.awaited, .claimed r ∈ m.log
  written : ∀ r ∈ u.written, .fileClosed r ∈ k.log
  watched : ∀ r, u.watch = some r → .started r ∈ k.log

theorem fits_of_aside {u : Task} (h : u.Aside) : Fits m k u := by
  constructor <;> simp [h.starter, h.carrier, h.awaited, h.written, h.watch]

/-- What a step may do that claims no recording. -/
structure Turns (m k : Manager) (new : List Happening) : Prop where
  log : k.log = m.log ++ new
  unclaimed : ∀ r, .claimed r ∉ new
  takes : k.takes = m.takes
  slot : ∀ i r, k.slot i = some r → m.slot i = some r
  done : Raised m m.isDone k.isDone fun r => .fileClosed r ∈ m.log
  void : Raised m m.isVoid k.isVoid fun r =>
    r ∈ pooled Task.starter m.tasks ∧ r ∉ pooled Task.starter k.tasks
  told : Raised m m.isTold k.isTold fun r => .recordingFinished r ∈ new
  finished : ∀ r, .recordingFinished r ∈ new → new = [.recordingFinished r] ∧ .claimed r ∈ m.log ∧
    m.isDone r.serial = true ∧ m.isTold r.serial = false ∧ k.isTold r.serial = true
  starters : pooled Task.starter k.tasks ≤ pooled Task.starter m.tasks
  carriers : ∀ r ∈ pooled Task.carrier m.tasks, r ∈ pooled Task.carrier k.tasks ∨
    k.isDone r.serial = true ∨ k.isVoid r.serial = true
  begun : ∀ r, .started r ∈ new → .claimed r ∈ m.log ∧ r ∈ pooled Task.starter m.tasks ∧
    r ∉ pooled Task.starter k.tasks ∧ k.isVoid = m.isVoid ∧ .awaiting r ∈ k.tasks
  tasks : ∀ u ∈ k.tasks, u ∈ m.tasks ∨ Fits m k u
  waits : ∀ r, .awaiting r ∈ m.tasks → k.isTold r.serial = true ∨ .awaiting r ∈ k.tasks

theorem turns_of_quiet (hlog : k.log = m.log ++ new)
    (hnew : ∀ x ∈ new, ∀ r, x ≠ .claimed r ∧ x ≠ .started r ∧ x ≠ .recordingFinished r)
    (htakes : k.takes = m.takes) (hslot : ∀ i r, k.slot i = some r → m.slot i = some r)
    (hdone : k.isDone = m.isDone) (htold : k.isTold = m.isTold) (hvoid : k.isVoid = m.isVoid)
    (hstarters : pooled Task.starter k.tasks = pooled Task.starter m.tasks)
    (hcarriers : pooled Task.carrier k.tasks = pooled Task.carrier m.tasks)
    (htasks : ∀ u ∈ k.tasks, u ∈ m.tasks ∨ Fits m k u)
    (hwaits : ∀ r, .awaiting r ∈ m.tasks → k.isTold r.serial = true ∨ .awaiting r ∈ k.tasks) :
    Turns m k new where
  log := hlog
  unclaimed r hr := (hnew _ hr r).1 rfl
  takes := htakes
  slot := hslot
  done := .inl hdone
  void := .inl hvoid
  told := .inl htold
  finished r hr := absurd rfl (hnew _ hr r).2.2
  starters := hstarters.le
  carriers r hr := .inl (hcarriers ▸ hr)
  begun r hr := absurd rfl (hnew _ hr r).2.1
  tasks := htasks
  waits := hwaits

theorem Takes.turn (h : Takes m) (new : List Happening) (hk : Turns m k new) : Takes k := by
  have hgrow : ∀ {x}, x ∈ m.log → x ∈ k.log := fun hx => hk.log ▸ List.mem_append_left _ hx
  have hmem : ∀ {r}, .claimed r ∈ k.log → .claimed r ∈ m.log := by
    intro r hr
    rw [hk.log] at hr
    exact (List.mem_append.mp hr).resolve_right (hk.unclaimed r)
  have hstarter : ∀ {r}, r ∈ pooled Task.starter k.tasks → r ∈ pooled Task.starter m.tasks :=
    (Multiset.mem_of_le hk.starters)
  constructor
  · exact fun r r' hr hr' => h.serials r r' (hmem hr) (hmem hr')
  · exact fun r hr => hk.takes ▸ h.older r (hmem hr)
  · intro i hi
    rw [hk.takes] at hi
    rw [h.raised_unborn hk.done hi, h.raised_unborn hk.told hi, h.raised_unborn hk.void hi]
    exact h.unborn i hi
  · exact fun i r hr => hgrow (h.slotted i r (hk.slot i r hr))
  · intro u hu r hr
    exact hgrow ((hk.tasks u hu).elim (fun hu => h.mentioned u hu r hr) fun hu => hu.claimed r hr)
  · intro r hr
    obtain hd | hv | hc := h.moving r (hmem hr)
    · exact .inl (hk.done.mono hd)
    · exact .inr (.inl (hk.void.mono hv))
    · exact (hk.carriers r hc).elim (fun hc => .inr (.inr hc)) (Or.imp_right .inl)
  · intro r hr hd
    exact hgrow ((h.raised hk.done (hmem hr) hd).elim (h.written r (hmem hr)) id)
  · intro u hu r hr
    exact (hk.tasks u hu).elim (fun hu => hgrow (h.writing u hu r hr)) fun hu => hu.written r hr
  · intro r hr
    rw [hk.log, List.mem_append, ← h.told r (hmem hr)]
    refine ⟨h.raised hk.told (hmem hr), ?_⟩
    rintro (ht | hnew)
    · exact hk.told.mono ht
    · exact (hk.finished r hnew).2.2.2.2
  · rw [hk.log]
    apply h.announced.append
    rintro before x after heq r rfl
    obtain ⟨hnew, hr, hd, ht, -⟩ := hk.finished r (by simp [heq])
    obtain rfl : before = [] := by
      cases before with
      | nil => rfl
      | cons y before => simp [hnew] at heq
    rw [List.append_nil]
    refine ⟨hr, fun hmem => ?_, h.written r hr hd⟩
    rw [(h.told r hr).mpr hmem] at ht
    cases ht
  · exact Multiset.nodup_of_le hk.starters h.starters
  · intro r hr
    have hw := h.willing r (hstarter hr)
    obtain ⟨u, hu, hru⟩ := mem_pooled.mp (hstarter hr)
    rw [Bool.eq_false_iff] at hw ⊢
    exact fun hv => (h.raised hk.void (h.mentioned u hu r (by simp [hru])) hv).elim hw fun hq => hq.2 hr
  · intro r hr
    rw [hk.log] at hr
    obtain hr | hr := List.mem_append.mp hr
    · obtain ⟨hcl, hns, hnv, hw⟩ := h.begun r hr
      refine ⟨hgrow hcl, fun hs => hns (hstarter hs), ?_, ?_⟩
      · rw [Bool.eq_false_iff] at hnv ⊢
        exact fun hv => (h.raised hk.void hcl hv).elim hnv fun hq => hns hq.1
      · exact hw.elim (fun ht => .inl (hk.told.mono ht)) (hk.waits r)
    · obtain ⟨hcl, hs, hns, hvoid, hw⟩ := hk.begun r hr
      exact ⟨hgrow hcl, hns, hvoid ▸ h.willing r hs, .inr hw⟩
  · intro u hu r hr
    exact (hk.tasks u hu).elim (fun hu => hgrow (h.watched u hu r hr)) fun hu => hu.watched r hr

end turns

end takes

end Manager

end OptimiqVoice.Mediad

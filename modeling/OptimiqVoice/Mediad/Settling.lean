import OptimiqVoice.Mediad.Recordings

namespace OptimiqVoice.Mediad

open Lib
open Sipd (GoString)

def Stage.rank : Stage → Nat
  | .telling => 7
  | .flushing => 6
  | .reading => 5
  | .closing _ => 4
  | .freeing _ => 3
  | .awaiting _ => 2
  | .announcing => 1

def Task.rank : Task → Nat
  | .checking _ => 6
  | .binding _ => 5
  | .constructing _ _ => 4
  | .abandoning _ => 1
  | .inserting _ => 3
  | .discarding _ => 2
  | .returning _ => 1
  | .ending _ rest stage => stage.rank + 7 * rest.length
  | .looking _ _ _ => 10
  | .asking _ _ _ => 9
  | .claiming _ _ => 8
  | .opening _ => 7
  | .indexing _ => 3
  | .watching _ => 2
  | .recording _ => 3
  | .clearing _ => 2
  | .signalling _ => 1
  | .awaiting _ => 1
  | .finished => 0

theorem Stage.rank_first (reason : EndReason) : (Stage.first reason).rank ≤ 7 := by
  cases reason <;> decide

namespace Manager

section progress

variable {cfg : Config} {c : Choice} {m k : Manager} {n : Nat} {t : Task} {mv : Move}

attribute [local simp] Task.rank Stage.rank

theorem finish_rank {victim : Expiry} {rest : List Expiry} {stage : Stage}
    (h : m.finish c victim rest stage = some mv) :
    mv.2.1.rank + pooled Task.rank mv.2.2 < (Task.ending victim rest stage).rank := by
  cases stage with
  | closing recording =>
    rw [finish] at h
    split_ifs at h <;> cases h <;> simp
  | awaiting recording =>
    cases recording with
    | none =>
      cases h
      simp
    | some r =>
      rw [finish] at h
      split_ifs at h <;> cases h <;> simp
  | announcing =>
    cases rest with
    | nil =>
      cases h
      simp
    | cons next rest =>
      cases h
      have hfirst := Stage.rank_first next.reason
      change (Stage.first next.reason).rank + 7 * rest.length + 0 < 1 + 7 * (rest.length + 1)
      omega
  | _ =>
    cases h
    simp

attribute [local simp] refuseStart settle

theorem advance_rank (h : m.advance cfg c t = some mv) :
    mv.2.1.rank + pooled Task.rank mv.2.2 < t.rank := by
  cases t with
  | checking opts =>
    cases h
    rw [check]
    split_ifs
    · simp
    · split <;> simp
  | binding opts =>
    cases h
    rw [bind]
    split <;> simp
  | constructing opts port =>
    cases h
    rw [construct]
    split <;> simp
  | inserting s =>
    cases h
    rw [insert]
    split_ifs
    · simp
    · split <;> simp
  | discarding _ | opening _ =>
    rw [advance] at h
    split_ifs at h <;> cases h <;> simp
  | ending victim rest stage => exact finish_rank h
  | looking id ref path =>
    cases h
    rw [lookUp]
    split_ifs
    · simp
    · simp
    · split <;> simp
  | asking session ref path =>
    cases h
    rw [ask]
    split_ifs <;> simp
  | claiming session ref =>
    cases h
    rw [claim]
    split <;> simp
  | recording _ | awaiting _ =>
    rw [advance] at h
    split_ifs at h
    cases h
    simp
  | finished => cases h
  | _ =>
    cases h
    simp

/-- A choice with which no recorder runs on. -/
def pressing : Choice := ⟨fun _ => true, some 1, 0, none, true, true⟩

theorem advance_pressing (cfg : Config) (m : Manager) (h : t ≠ .finished) :
    (∃ mv, m.advance cfg pressing t = some mv) ∨
      ∃ r ∈ t.awaited, m.isDone r.serial = false ∧ (m.isVoid r.serial = false ∨ t.watch = some r) := by
  cases t with
  | discarding _ | opening _ =>
    left
    rw [advance]
    split_ifs <;> exact ⟨_, rfl⟩
  | ending victim rest stage =>
    cases stage with
    | closing recording =>
      left
      rw [advance, finish]
      split_ifs <;> exact ⟨_, rfl⟩
    | awaiting recording =>
      cases recording with
      | none => exact .inl ⟨_, rfl⟩
      | some r =>
        rw [advance, finish]
        split_ifs with hdone hvoid
        · exact .inl ⟨_, rfl⟩
        · exact .inl ⟨_, rfl⟩
        · exact .inr ⟨r, Multiset.mem_singleton_self r, by simpa using hdone,
            .inl (by simpa using hvoid)⟩
    | announcing =>
      cases rest with
      | nil | cons _ _ => exact .inl ⟨_, rfl⟩
    | _ => exact .inl ⟨_, rfl⟩
  | recording r => exact .inl ⟨_, rfl⟩
  | awaiting r =>
    rw [advance]
    split_ifs with hdone
    · exact .inl ⟨_, rfl⟩
    · exact .inr ⟨r, Multiset.mem_singleton_self r, by simpa using hdone, .inr rfl⟩
  | finished => exact absurd rfl h
  | _ => exact .inl ⟨_, rfl⟩

theorem advance_carrier (cfg : Config) (m : Manager) {r : Recording} (h : r ∈ t.carrier) :
    ∃ mv, m.advance cfg pressing t = some mv := by
  cases t with
  | opening _ | recording _ | clearing _ | signalling _ => exact ⟨_, rfl⟩
  | _ => simp [Task.carrier] at h

theorem Takes.progress (h : Takes m) (cfg : Config) (ht : t ∈ m.tasks) (hne : t ≠ .finished) :
    ∃ u ∈ m.tasks, ∃ mv, m.advance cfg pressing u = some mv := by
  obtain hstep | ⟨r, hr, hdone, hwait⟩ := advance_pressing cfg m hne
  · exact ⟨t, ht, hstep⟩
  · have hclaimed : .claimed r ∈ m.log := h.mentioned t ht r (Multiset.mem_add.mpr (.inr hr))
    have hvoid : m.isVoid r.serial = false := by
      obtain hvoid | hwatch := hwait
      · exact hvoid
      · exact (h.begun r (h.watched t ht r hwatch)).2.2.1
    have hcarrier : r ∈ pooled Task.carrier m.tasks := by
      simpa [hdone, hvoid] using h.moving r hclaimed
    obtain ⟨u, hu, hru⟩ := mem_pooled.mp hcarrier
    exact ⟨u, hu, advance_carrier cfg m hru⟩

theorem Takes.settles (h : Takes m) (cfg : Config) :
    ∃ es k, (∀ e ∈ es, ∃ n, e = Event.advance n pressing) ∧ run (Manager.step cfg) m es = some k ∧
      ∀ t ∈ k.tasks, t = .finished := by
  -- by induction on the steps that are left
  induction hrank : pooled Task.rank m.tasks using Nat.strong_induction_on generalizing m with
  | h rank ih =>
    by_cases hall : ∀ t ∈ m.tasks, t = .finished
    · exact ⟨[], m, by simp, rfl, hall⟩
    · push Not at hall
      obtain ⟨t, ht, hne⟩ := hall
      obtain ⟨u, hu, mv, hmv⟩ := h.progress cfg ht hne
      obtain ⟨n, hn⟩ := List.mem_iff_getElem?.mp hu
      have hstep : m.step cfg (.advance n pressing) = some (mv.1.goOn n mv.2.1 mv.2.2) := by
        simp [Manager.step, hn, hmv]
      have hpool := pooled_goOn Task.rank hn (advance_tasks hmv) mv.2.1 mv.2.2
      have hless := advance_rank hmv
      obtain ⟨es, k, hes, hrun, hk⟩ := ih (pooled Task.rank (mv.1.goOn n mv.2.1 mv.2.2).tasks)
        (by omega) (h.step hstep) rfl
      refine ⟨.advance n pressing :: es, k, ?_, run_cons.mpr ⟨_, hstep, hrun⟩, hk⟩
      intro e he
      obtain rfl | he := List.mem_cons.mp he
      · exact ⟨n, rfl⟩
      · exact hes e he

end progress

/-- A recording is announced once, after its file is closed and before the end
of its session; what is under way can be run to its end, and then every recording
whose start was answered with success has been announced. -/
structure Announces (cfg : Config) (m : Manager) : Prop where
  once : ∀ r, m.log.count (.recordingFinished r) ≤ 1
  written : ∀ before r after, m.log = before ++ .recordingFinished r :: after → .fileClosed r ∈ before
  first : ∀ before s reason after, m.log = before ++ .sessionEnded s reason :: after →
    ∀ r, .started r ∈ m.log → r.session = s → .recordingFinished r ∈ before
  settles : ∃ es k, (∀ e ∈ es, ∃ n, e = .advance n pressing) ∧ run (step cfg) m es = some k ∧
    (∀ t ∈ k.tasks, t = .finished) ∧ ∀ r, .started r ∈ k.log → k.log.count (.recordingFinished r) = 1

section announces

variable {cfg : Config} {m : Manager}

theorem Takes.count_le_one (h : Takes m) (r : Recording) : m.log.count (.recordingFinished r) ≤ 1 := by
  apply Each.count_le_one
  refine h.announced.mono ?_
  rintro before x hx rfl
  exact (hx r rfl).2.1

theorem Takes.count_of_settled (h : Takes m) (hall : ∀ t ∈ m.tasks, t = .finished) {r : Recording}
    (hr : .started r ∈ m.log) : m.log.count (.recordingFinished r) = 1 := by
  obtain ⟨hclaimed, -, -, htold | hawait⟩ := h.begun r hr
  · have hmem := List.count_pos_iff.mpr ((h.told r hclaimed).mp htold)
    have hle := h.count_le_one r
    omega
  · cases hall _ hawait

theorem announces_of (h : Takes m) (horder : InOrder m) : Announces cfg m := by
  refine ⟨h.count_le_one, ?_, ?_, ?_⟩
  · intro before r after heq
    exact (h.announced before _ after heq r rfl).2.2
  · intro before s reason after heq r hr hsession
    obtain ⟨hclaimed, -, hvoid, -⟩ := h.begun r hr
    have hend := horder.ended before _ after heq s reason rfl r hclaimed hsession
    simpa [hvoid] using hend
  · obtain ⟨es, k, hes, hrun, hall⟩ := h.settles cfg
    have hk : Takes k := run_keeps Takes (fun _ _ _ ht hs => ht.step hs) h hrun
    exact ⟨es, k, hes, hrun, hall, fun r => hk.count_of_settled hall⟩

end announces

/-- In every run in which recordings are claimed and looked at in time, they are
announced once and before the ends of their sessions in every state. -/
theorem announces_of_run (cfg : Config) (allocator : Allocator) (hfree : allocator.inUse = ∅)
    (es : List Event) (m : Manager) (hin : Meets (step cfg) InTime (newManager allocator) es)
    (hrun : run (step cfg) (newManager allocator) es = some m) : Announces cfg m := by
  have hinit : InOrder (newManager allocator) := by
    constructor
    · rintro t ⟨⟩
    · exact each_nil
  have hinv : Books [] m ∧ Takes m ∧ InOrder m := by
    apply run_keeps_of (fun m => Books [] m ∧ Takes m ∧ InOrder m) _ hin
      ⟨books_newManager allocator hfree, takes_newManager allocator, hinit⟩ hrun
    intro m e m' hC h hstep
    exact ⟨h.1.step hstep, h.2.1.step hstep, h.2.2.step h.2.1 h.1.roster hC hstep⟩
  exact announces_of hinv.2.1 hinv.2.2

section samples

def sampleRecording : List Event :=
  sampleAllocate 0 ['a'] ++ .startRecording ['a'] ['x'] ['p'] ::
    List.replicate 6 (.advance 1 sampleChoice) ++ [.stopRecording ['x']]

/-- The recorder and the goroutine that waits for it come to their ends, then the
session is released. -/
def releaseAfterwards : List Event :=
  sampleRecording ++ List.replicate 3 (.advance 2 sampleChoice) ++ [.advance 3 sampleChoice] ++
    .release ['a'] :: List.replicate 6 (.advance 4 sampleChoice)

/-- The session is released when the recorder has cleared the slot and not yet
signalled that it is done. -/
def releaseBetween : List Event :=
  sampleRecording ++ List.replicate 2 (.advance 2 sampleChoice) ++
    .release ['a'] :: List.replicate 6 (.advance 4 sampleChoice) ++
    [.advance 2 sampleChoice, .advance 3 sampleChoice]

def inTime (m : Manager) : Event → Bool
  | .advance n _ =>
    match m.tasks[n]? with
    | some (.claiming s _) => m.sessions.get? s.id == some s
    | some (.ending victim _ .reading) => m.log.all fun h =>
      match h with
      | .claimed r => r.session != victim.session || m.slot victim.session.serial == some r ||
        m.isTold r.serial || m.isVoid r.serial
      | _ => true
    | _ => true
  | _ => true

theorem inTime_of_check {m : Manager} {e : Event} (h : m.inTime e) : m.InTime e := by
  rintro n c t rfl hn
  constructor
  · rintro s ref rfl
    simpa [inTime, hn] using h
  · rintro victim rest rfl r hr hsession
    simp only [inTime, hn, List.all_eq_true] at h
    simpa [hsession, or_assoc] using h _ hr

def sampleSession : Session :=
  ⟨0, ['a'], ['o'], ['c'], [], 7, .relay, 0, 101, 10000, 1000⟩

theorem announces_releaseAfterwards :
    ∃ m, run (step sampleConfig) (newManager sampleAllocator) releaseAfterwards = some m ∧
      .started ⟨0, ['x'], sampleSession⟩ ∈ m.log ∧ .sessionEnded sampleSession .released ∈ m.log ∧
      Announces sampleConfig m := by
  have hcheck : (run (step sampleConfig) (newManager sampleAllocator) releaseAfterwards).any
      (fun m => decide (.started ⟨0, ['x'], sampleSession⟩ ∈ m.log) &&
        decide (.sessionEnded sampleSession .released ∈ m.log)) = true := by decide
  have hin : checks (step sampleConfig) inTime (newManager sampleAllocator) releaseAfterwards := by
    decide
  obtain ⟨m, hrun, hm⟩ := (Option.any_eq_true _ _).mp hcheck
  obtain ⟨hstarted, hended⟩ := Bool.and_eq_true_iff.mp hm
  refine ⟨m, hrun, of_decide_eq_true hstarted, of_decide_eq_true hended, ?_⟩
  exact announces_of_run sampleConfig sampleAllocator rfl releaseAfterwards m
    (meets_of_checks (fun _ _ => inTime_of_check) hin) hrun

/-- The end of the session is announced before the recording. -/
theorem recording_announced_late :
    ∃ m, run (step sampleConfig) (newManager sampleAllocator) releaseBetween = some m ∧
      ¬Announces sampleConfig m := by
  have hlog : (run (step sampleConfig) (newManager sampleAllocator) releaseBetween).map Manager.log =
      some ([.entered sampleSession, .settled ['a'] (.ok (describe sampleSession)),
        .claimed ⟨0, ['x'], sampleSession⟩, .started ⟨0, ['x'], sampleSession⟩,
        .fileClosed ⟨0, ['x'], sampleSession⟩, .left sampleSession] ++
        .sessionEnded sampleSession .released :: [.recordingFinished ⟨0, ['x'], sampleSession⟩]) := by
    decide
  obtain ⟨m, hrun, hm⟩ := Option.map_eq_some_iff.mp hlog
  refine ⟨m, hrun, fun hann => ?_⟩
  have hfirst := hann.first _ _ _ _ hm ⟨0, ['x'], sampleSession⟩ (by rw [hm]; simp) rfl
  simp at hfirst

end samples

end Manager

end OptimiqVoice.Mediad

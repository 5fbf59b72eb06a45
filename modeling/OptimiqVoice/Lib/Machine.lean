namespace OptimiqVoice.Lib

/-- What a machine does on a list of events. An event that is not enabled where
it stands makes the list no run. -/
def run {σ ε : Type} (step : σ → ε → Option σ) : σ → List ε → Option σ
  | s, [] => some s
  | s, e :: es => (step s e).bind (run step · es)

/-- Every event of the run meets the condition in the state it comes to. -/
def Meets {σ ε : Type} (step : σ → ε → Option σ) (C : σ → ε → Prop) : σ → List ε → Prop
  | _, [] => True
  | s, e :: es => C s e ∧ ∀ s', step s e = some s' → Meets step C s' es

/-- The run of the events passes a check at every step. -/
def checks {σ ε : Type} (step : σ → ε → Option σ) (check : σ → ε → Bool) : σ → List ε → Bool
  | _, [] => true
  | s, e :: es => check s e && (step s e).all (checks step check · es)

section rules

variable {σ ε : Type} {step : σ → ε → Option σ} {C : σ → ε → Prop} {s t u : σ}
variable {es : List ε}

theorem run_cons {e : ε} : run step s (e :: es) = some t ↔ ∃ u, step s e = some u ∧ run step u es = some t := by
  simp [run, Option.bind_eq_some_iff]

theorem run_keeps (I : σ → Prop) (hstep : ∀ s e s', I s → step s e = some s' → I s')
    (hs : I s) (h : run step s es = some t) : I t := by
  induction es generalizing s with
  | nil =>
    cases h
    exact hs
  | cons e rest ih =>
    obtain ⟨s', hs', hrest⟩ := run_cons.mp h
    exact ih (hstep s e s' hs hs') hrest

/-- What every step that meets a condition keeps, a run of such steps keeps. -/
theorem run_keeps_of (I : σ → Prop) (hstep : ∀ s e s', C s e → I s → step s e = some s' → I s')
    (hC : Meets step C s es) (hs : I s) (h : run step s es = some t) : I t := by
  induction es generalizing s with
  | nil =>
    cases h
    exact hs
  | cons e rest ih =>
    obtain ⟨s', hs', hrest⟩ := run_cons.mp h
    exact ih (hC.2 s' hs') (hstep s e s' hC.1 hs hs') hrest

theorem Meets.imp {D : σ → ε → Prop} (h : Meets step C s es) (hCD : ∀ s e, C s e → D s e) :
    Meets step D s es := by
  induction es generalizing s with
  | nil => exact trivial
  | cons e rest ih => exact ⟨hCD s e h.1, fun s' hs => ih (h.2 s' hs)⟩

theorem meets_of_checks {check : σ → ε → Bool} (hC : ∀ s e, check s e → C s e)
    (h : checks step check s es) : Meets step C s es := by
  induction es generalizing s with
  | nil => exact trivial
  | cons e rest ih =>
    obtain ⟨he, hrest⟩ := Bool.and_eq_true_iff.mp h
    refine ⟨hC s e he, fun s' hs => ih ?_⟩
    simpa [hs] using hrest

/-- A run with a step that misses the condition, seen where it first does. -/
theorem not_meets_cases (h : ¬Meets step C s es) (hrun : run step s es = some t) :
    ∃ pre e post u v, es = pre ++ e :: post ∧ run step s pre = some u ∧ ¬C u e ∧
      step u e = some v ∧ run step v post = some t := by
  induction es generalizing s with
  | nil => exact absurd trivial h
  | cons e rest ih =>
    obtain ⟨s', hs', hrest⟩ := run_cons.mp hrun
    by_cases hC : C s e
    · have hnot : ¬Meets step C s' rest := by
        intro hm
        apply h
        refine ⟨hC, fun s'' hs'' => ?_⟩
        obtain rfl : s' = s'' := Option.some.inj (hs'.symm.trans hs'')
        exact hm
      obtain ⟨pre, e', post, u, v, rfl, hpre, hrest⟩ := ih hnot hrest
      exact ⟨e :: pre, e', post, u, v, rfl, run_cons.mpr ⟨s', hs', hpre⟩, hrest⟩
    · exact ⟨[], e, rest, s, s', rfl, rfl, hC, hs', hrest⟩

end rules

end OptimiqVoice.Lib

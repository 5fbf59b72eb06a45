import OptimiqVoice.Telephony.MidCallFeatures

namespace OptimiqVoice.Telephony

open Lib

/-- A machine with the history of the capture under way: the digits it has taken
since it left idle, and how often it has executed. -/
structure Watched where
  capture : Capture := {}
  held : JsString := []
  executions : Nat := 0

/-- One call, what it was answered, and the machine before and after. -/
structure Turn where
  before : Watched
  call : MidCallFeatureCall
  step : MidCallFeatureStep
  after : Watched

def MidCallFeatureCall.symbol : MidCallFeatureCall → Option CodeUnit
  | .push digit _ => dtmfSymbol digit
  | _ => none

namespace MidCallFeatureMachine

variable (m : MidCallFeatureMachine)

/-- The history starts anew where the machine is idle. A digit that is not passed
through is taken. -/
def turn (w : Watched) (call : MidCallFeatureCall) : Turn :=
  let (step, capture) := m.answer w.capture call
  let held := if w.capture.current = .idle then [] else w.held
  let executions := if w.capture.current = .idle then 0 else w.executions
  { before := w, call := call, step := step
    after :=
      { capture := capture
        held := if step.kind = .passThrough then held else held ++ call.symbol.toList
        executions := if step.kind = .execute then executions + 1 else executions } }

def turns (w : Watched) : List MidCallFeatureCall → List Turn
  | [] => []
  | call :: rest => m.turn w call :: turns (m.turn w call).after rest

end MidCallFeatureMachine

open MidCallFeatureMachine (turn turns answer resolveCode pushCollecting)
open MidCallFeatureCall (symbol)

/-- What a turn may do with the digits. -/
structure Turn.Conserves (m : MidCallFeatureMachine) (t : Turn) : Prop where
  /-- A symbol is passed through in idle, or taken by a capture. -/
  digit : t.call.symbol.isSome → t.step.kind = .passThrough →
    t.before.capture.current = .idle ∧ t.after.capture.current = .idle
  execute : ∀ x, t.step.execution = some x → x.code ++ x.argument = t.after.held ∨
      x.code ++ x.argument ++ [m.settings.terminator] = t.after.held ∧
        t.call.symbol = some m.settings.terminator
  once : t.after.executions ≤ 1
  abandoned : ∀ digits, t.step.swallowed = some digits → digits = t.after.held
  /-- A capture under way is woken up, and the wake-up ends it. -/
  wakes : t.after.capture.current = .armed ∨ t.after.capture.current = .collecting →
    ∃ at_, t.step.wakeAtMs = some at_ ∧ (m.expire t.after.capture at_).1.kind ≠ .captured ∧
      (m.expire t.after.capture at_).1.kind ≠ .passThrough

/-- The calls that lose digits: the terminator where an argument is still missing,
and a cancel while the action is executed. -/
def Turn.Loses (m : MidCallFeatureMachine) (t : Turn) : Prop :=
  (t.before.capture.current = .collecting ∧ t.before.capture.argument = [] ∧
      t.before.capture.matched.map argumentModeOf = some .required ∧
      t.call.symbol = some m.settings.terminator) ∨
    t.before.capture.current = .executing ∧ t.call = .cancel

attribute [local simp] Capture.abandon

section results

variable {m : MidCallFeatureMachine}

/-- What becomes of a capture by a call that goes on with it, from the digits it
has then taken and the one the call offers. -/
inductive Result (m : MidCallFeatureMachine) (symbol : Option CodeUnit) (pressed : JsString) :
    MidCallFeatureStep × Capture → Prop where
  | armed (d : Int) (h : pressed ≠ []) : Result m symbol pressed
      (⟨.captured, .armed, none, none, some d⟩, ⟨.armed, pressed, [], none, some d⟩)
  | collecting {e : MidCallFeatureCode} {argument : JsString} (d : Int) (he : e ∈ m.table)
      (hcode : e.code ≠ []) (hend : m.extendable e.code = false) (h : pressed = e.code ++ argument) :
      Result m symbol pressed (⟨.captured, .collecting, none, none, some d⟩,
        ⟨.collecting, e.code, argument, some e, some d⟩)
  | execute {e : MidCallFeatureCode} {argument : JsString} (he : e ∈ m.table) (hcode : e.code ≠ [])
      (hend : m.extendable e.code = false ∨
        argument = [] ∧ argumentModeOf e ≠ .required ∧ pressed = e.code)
      (h : pressed = e.code ++ argument ∨
        pressed = e.code ++ argument ++ [m.settings.terminator] ∧ symbol = some m.settings.terminator) :
      Result m symbol pressed (beginExecuting e argument)
  | abandon : Result m symbol pressed (⟨.abandoned, .idle, none, some pressed, none⟩, {})

variable {code : JsString}

theorem exact_eq_some {e : MidCallFeatureCode} (h : m.exact code = some e) :
    e ∈ m.table ∧ e.code = code :=
  ⟨List.mem_of_find?_eq_some h, by simpa using List.find?_some h⟩

variable {symbol : Option CodeUnit}

theorem resolveCode_result (hcode : code ≠ []) (nowMs : Int) :
    Result m symbol code (m.resolveCode code nowMs) := by
  unfold resolveCode
  cases hx : m.exact code with
  | none =>
    dsimp only
    split
    · exact .armed _ hcode
    · simpa using @Result.abandon m symbol code
  | some e =>
    obtain ⟨he, rfl⟩ := exact_eq_some hx
    dsimp only
    split
    · exact .armed _ hcode
    · rename_i hend
      have hend : m.extendable e.code = false := by simpa using hend
      split
      · exact .execute he hcode (.inl hend) (.inl (by simp))
      · exact .collecting _ he hcode hend (by simp)

variable {e : MidCallFeatureCode} {argument : JsString} {d : Int}

/-- The terminator is not among the digits given back where it finds no argument. -/
theorem pushCollecting_result (he : e ∈ m.table) (hcode : e.code ≠ [])
    (hend : m.extendable e.code = false) (symbol : CodeUnit) (nowMs : Int)
    (hkeep : ¬(symbol = m.settings.terminator ∧ argument = [] ∧ argumentModeOf e = .required)) :
    Result m (some symbol) (e.code ++ argument ++ [symbol])
      (m.pushCollecting ⟨.collecting, e.code, argument, some e, some d⟩ symbol nowMs) := by
  unfold pushCollecting
  dsimp only
  split
  · rename_i hterm
    rw [if_neg fun h => hkeep ⟨hterm, h⟩, hterm]
    exact .execute he hcode (.inl hend) (.inr ⟨rfl, rfl⟩)
  · split
    · exact .execute he hcode (.inl hend) (.inl (List.append_assoc ..))
    · exact .collecting _ he hcode hend (List.append_assoc ..)

variable {nowMs : Int}

theorem pushCollecting_lost {symbol : CodeUnit}
    (h : symbol = m.settings.terminator ∧ argument = [] ∧ argumentModeOf e = .required) :
    m.pushCollecting ⟨.collecting, e.code, argument, some e, some d⟩ symbol nowMs =
      (⟨.abandoned, .idle, none, some e.code, none⟩, {}) := by
  simp [pushCollecting, h.1, h.2]

theorem expire_armed_result (hcode : code ≠ []) (hd : ¬nowMs < d) :
    Result m symbol code (m.expire ⟨.armed, code, [], none, some d⟩ nowMs) := by
  unfold MidCallFeatureMachine.expire
  rw [if_neg (by simpa using hd)]
  dsimp only
  cases hx : m.exact code with
  | none => simpa using @Result.abandon m symbol code
  | some e =>
    obtain ⟨he, rfl⟩ := exact_eq_some hx
    dsimp only
    split
    · simpa using @Result.abandon m symbol e.code
    · rename_i hmode
      exact .execute he hcode (.inr ⟨rfl, hmode, rfl⟩) (.inl (by simp))

theorem expire_collecting_result (he : e ∈ m.table) (hcode : e.code ≠ [])
    (hend : m.extendable e.code = false) (hd : ¬nowMs < d) :
    Result m symbol (e.code ++ argument)
      (m.expire ⟨.collecting, e.code, argument, some e, some d⟩ nowMs) := by
  unfold MidCallFeatureMachine.expire
  rw [if_neg (by simpa using hd)]
  dsimp only
  split
  · exact @Result.abandon m symbol (e.code ++ argument)
  · exact .execute he hcode (.inl hend) (.inl rfl)

end results

/-- The row that is executed: the digits taken start with its code, and go on only
if no longer code starts with it. -/
def Turn.Executes (m : MidCallFeatureMachine) (t : Turn) : Prop :=
  ∀ x, t.step.execution = some x → ∃ e ∈ m.table, x.action = e.action ∧ x.code = e.code ∧
    e.code <+: t.after.held ∧ (m.extendable e.code = false ∨
      x.argument = [] ∧ argumentModeOf e ≠ .required ∧ t.after.held = e.code)

section turns

variable {m : MidCallFeatureMachine} {w : Watched} {call : MidCallFeatureCall}

/-- The history a capture agrees with, in each state of the machine. -/
inductive Tracks (m : MidCallFeatureMachine) : Watched → Prop where
  | idle (held : JsString) {n : Nat} (h : n ≤ 1) : Tracks m ⟨{}, held, n⟩
  | armed {code : JsString} (d : Int) (h : code ≠ []) :
      Tracks m ⟨⟨.armed, code, [], none, some d⟩, code, 0⟩
  | collecting {e : MidCallFeatureCode} (argument : JsString) (d : Int) (he : e ∈ m.table)
      (hcode : e.code ≠ []) (hend : m.extendable e.code = false) :
      Tracks m ⟨⟨.collecting, e.code, argument, some e, some d⟩, e.code ++ argument, 0⟩
  | executing {held : JsString} (h : held ≠ []) : Tracks m ⟨{ current := .executing }, held, 1⟩

theorem Tracks.executions_le (h : Tracks m w) : w.executions ≤ 1 := by
  cases h with
  | idle held h => exact h
  | armed | collecting => exact Nat.zero_le 1
  | executing => exact le_refl 1

attribute [local simp] beginExecuting

theorem Tracks.wakes (h : Tracks m w)
    (hw : w.capture.current = .armed ∨ w.capture.current = .collecting) :
    ∃ at_, w.capture.deadlineMs = some at_ ∧ (m.expire w.capture at_).1.kind ≠ .captured ∧
      (m.expire w.capture at_).1.kind ≠ .passThrough := by
  cases h with
  | idle | executing => simp at hw
  | armed d hcode =>
    refine ⟨d, rfl, ?_⟩
    rw [MidCallFeatureMachine.expire, if_neg (by simp)]
    dsimp only
    split
    · split <;> exact ⟨by simp, by simp⟩
    · exact ⟨by simp, by simp⟩
  | collecting argument d he hcode hend =>
    refine ⟨d, rfl, ?_⟩
    rw [MidCallFeatureMachine.expire, if_neg (by simp)]
    dsimp only
    split <;> exact ⟨by simp, by simp⟩

theorem Turn.conserves_of {t : Turn} (hafter : Tracks m t.after)
    (hwake : t.step.wakeAtMs = t.after.capture.deadlineMs) (hdigit : t.step.kind = .passThrough →
      t.call.symbol = none ∨ t.before.capture.current = .idle ∧ t.after.capture.current = .idle)
    (hexecute : ∀ x, t.step.execution = some x → x.code ++ x.argument = t.after.held ∨
      x.code ++ x.argument ++ [m.settings.terminator] = t.after.held ∧
        t.call.symbol = some m.settings.terminator)
    (habandoned : ∀ digits, t.step.swallowed = some digits → digits = t.after.held) :
    t.Conserves m where
  digit hsome hkind := (hdigit hkind).resolve_left fun hnone => by simp [hnone] at hsome
  execute := hexecute
  once := hafter.executions_le
  abandoned := habandoned
  wakes hcurrent := by
    rw [hwake]
    exact hafter.wakes hcurrent

attribute [local simp] turn

theorem turn_stay (h : Tracks m w) {kind : MidCallFeatureStepKind}
    (hanswer : m.answer w.capture call = w.capture.stay kind) (hkind : kind ≠ .execute)
    (hheld : kind = .passThrough ∨ call.symbol = none ∨ w.capture.current = .executing)
    (hpass : kind = .passThrough → call.symbol = none ∨ w.capture.current = .idle) :
    Tracks m (m.turn w call).after ∧ (m.turn w call).Conserves m ∧ (m.turn w call).Executes m := by
  have hturn : m.turn w call = ⟨w, call, ⟨kind, w.capture.current, none, none, w.capture.deadlineMs⟩,
      ⟨w.capture, if kind = .passThrough then if w.capture.current = .idle then [] else w.held
        else (if w.capture.current = .idle then [] else w.held) ++ call.symbol.toList,
        if w.capture.current = .idle then 0 else w.executions⟩⟩ := by
    simp [hanswer, Capture.stay, hkind]
  rw [hturn]
  have hafter : Tracks m (m.turn w call).after := by
    rw [hturn]
    cases h with
    | idle held h => exact .idle _ (Nat.zero_le 1)
    | armed d hcode =>
      obtain hk | hs | hc := hheld
      · simpa [hk] using Tracks.armed d hcode
      · simpa [hs] using Tracks.armed d hcode
      · cases hc
    | collecting argument d he hcode hend =>
      obtain hk | hs | hc := hheld
      · simpa [hk] using Tracks.collecting argument d he hcode hend
      · simpa [hs] using Tracks.collecting argument d he hcode hend
      · cases hc
    | executing h => exact .executing (by split <;> simp [h])
  rw [hturn] at hafter
  exact ⟨hafter, Turn.conserves_of hafter rfl (fun hp => (hpass hp).imp_right fun h => ⟨h, h⟩)
    nofun nofun, nofun⟩

theorem turn_result {pressed : JsString} {r : MidCallFeatureStep × Capture}
    (hanswer : m.answer w.capture call = r) (hr : Result m call.symbol pressed r)
    (hheld : (if w.capture.current = .idle then [] else w.held) ++ call.symbol.toList = pressed)
    (hexec : (if w.capture.current = .idle then 0 else w.executions) = 0) :
    Tracks m (m.turn w call).after ∧ (m.turn w call).Conserves m ∧ (m.turn w call).Executes m := by
  have hkind : r.1.kind ≠ .passThrough := by
    cases hr <;> simp
  have hturn : m.turn w call =
      ⟨w, call, r.1, ⟨r.2, pressed, if r.1.kind = .execute then 1 else 0⟩⟩ := by
    simp [hanswer, hkind, hheld, hexec]
  have hafter : Tracks m (m.turn w call).after := by
    rw [hturn]
    cases hr with
    | armed d h => exact .armed d h
    | collecting d he hcode hend h => exact h ▸ .collecting _ d he hcode hend
    | execute he hcode hend h =>
      refine .executing ?_
      obtain rfl | ⟨rfl, -⟩ := h
      · simp [hcode]
      · simp
    | abandon => exact .idle _ (Nat.zero_le 1)
  rw [hturn] at hafter ⊢
  refine ⟨hafter, Turn.conserves_of hafter ?_ (fun hp => absurd hp hkind) ?_ ?_, ?_⟩
  · cases hr <;> rfl
  · intro x hx
    cases hr with
    | armed | collecting | abandon => cases hx
    | execute he hcode hend h =>
      cases hx
      exact h.imp Eq.symm (And.imp_left Eq.symm)
  · intro digits hx
    cases hr with
    | armed | collecting | execute => cases hx
    | abandon => exact (Option.some.inj hx).symm
  · intro x hx
    cases hr with
    | armed | collecting | abandon => cases hx
    | @execute e argument he hcode hend h =>
      cases hx
      refine ⟨e, he, rfl, rfl, ?_, hend⟩
      obtain rfl | ⟨rfl, -⟩ := h
      · exact List.prefix_append ..
      · exact (List.prefix_append ..).trans (List.prefix_append ..)

/-- A turn keeps the machine in step with its history, and conserves the digits
unless it is one of the two that lose them. -/
structure Turn.Accounts (m : MidCallFeatureMachine) (t : Turn) : Prop where
  tracks : Tracks m t.after
  conserves_iff : t.Conserves m ↔ ¬t.Loses m
  executes : t.Executes m

theorem Turn.accounts_of {t : Turn} (h : Tracks m t.after ∧ t.Conserves m ∧ t.Executes m)
    (hl : ¬t.Loses m) : t.Accounts m :=
  ⟨h.1, iff_of_true h.2.1 hl, h.2.2⟩

variable (h : Tracks m w)

include h

theorem push_accounts (digit : JsString) (nowMs : Int) :
    (m.turn w (.push digit nowMs)).Accounts m := by
  cases hs : dtmfSymbol digit with
  | none =>
    have hanswer : m.answer w.capture (.push digit nowMs) = w.capture.stay .passThrough := by
      simp [answer, MidCallFeatureMachine.push, hs]
    apply Turn.accounts_of (turn_stay h hanswer (by simp) (.inl rfl) fun _ => .inl hs)
    rintro (⟨-, -, -, ht⟩ | ⟨-, ht⟩)
    · rw [show (m.turn w (.push digit nowMs)).call.symbol = none from hs] at ht
      cases ht
    · cases ht
  | some u =>
    have hanswer : m.answer w.capture (.push digit nowMs) = m.pushSymbol w.capture u nowMs := by
      simp [answer, MidCallFeatureMachine.push, hs]
    have hsymbol : (MidCallFeatureCall.push digit nowMs).symbol = some u := hs
    have hloses : w.capture.current ≠ .collecting → ¬(m.turn w (.push digit nowMs)).Loses m := by
      rintro hc (⟨hc', -⟩ | ⟨-, ht⟩)
      · exact hc hc'
      · cases ht
    cases h with
    | idle held h =>
      refine Turn.accounts_of ?_ (hloses (by simp))
      by_cases hlead : m.table.any (·.code.head? = some u) = true
      · exact turn_result (hanswer.trans (if_pos hlead)) (resolveCode_result (by simp) nowMs)
          (by simp [hsymbol]) rfl
      · exact turn_stay (.idle held h) (hanswer.trans (if_neg hlead)) (by simp) (.inl rfl)
          fun _ => .inr rfl
    | armed d hcode =>
      refine Turn.accounts_of ?_ (hloses (by simp))
      exact turn_result hanswer (resolveCode_result (by simp) nowMs) (by simp [hsymbol]) rfl
    | @collecting e argument d he hcode hend =>
      by_cases hbad : u = m.settings.terminator ∧ argument = [] ∧ argumentModeOf e = .required
      · have hlost := hanswer.trans (pushCollecting_lost hbad)
        refine ⟨?_, iff_of_false ?_ ?_, ?_⟩
        · simp only [turn, hlost]
          exact .idle _ (Nat.zero_le 1)
        · intro hc
          have heq := hc.abandoned e.code (by simp [hlost])
          simp [hlost, hsymbol] at heq
        · exact not_not_intro (.inl ⟨rfl, hbad.2.1, congrArg some hbad.2.2, hbad.1 ▸ hsymbol⟩)
        · intro x hx
          simp [hlost] at hx
      · apply Turn.accounts_of
        · have hr := pushCollecting_result (d := d) he hcode hend u nowMs hbad
          rw [← hsymbol] at hr
          exact turn_result hanswer hr (by simp [hsymbol]) rfl
        · rintro (⟨-, hnil, hmode, hterm⟩ | ⟨-, hc⟩)
          · exact hbad ⟨Option.some.inj (hsymbol.symm.trans hterm), hnil, Option.some.inj hmode⟩
          · cases hc
    | executing h =>
      refine Turn.accounts_of ?_ (hloses (by simp))
      exact turn_stay (.executing h) hanswer (by simp) (.inr (.inr rfl)) nofun

attribute [local simp] symbol

theorem expire_accounts (nowMs : Int) : (m.turn w (.expire nowMs)).Accounts m := by
  have hl : ¬(m.turn w (.expire nowMs)).Loses m := by
    rintro (⟨-, -, -, ht⟩ | ⟨-, ht⟩) <;> cases ht
  refine Turn.accounts_of ?_ hl
  cases h with
  | idle held h => exact turn_stay (.idle held h) rfl (by simp) (.inr (.inl rfl)) fun _ => .inl rfl
  | executing h => exact turn_stay (.executing h) rfl (by simp) (.inr (.inl rfl)) fun _ => .inl rfl
  | armed d hcode =>
    by_cases hd : nowMs < d
    · exact turn_stay (.armed d hcode) (if_pos (by simpa using hd)) (by simp) (.inr (.inl rfl))
        fun _ => .inl rfl
    · exact turn_result rfl (expire_armed_result hcode hd) (by simp) rfl
  | collecting argument d he hcode hend =>
    by_cases hd : nowMs < d
    · exact turn_stay (.collecting argument d he hcode hend) (if_pos (by simpa using hd)) (by simp)
        (.inr (.inl rfl)) fun _ => .inl rfl
    · exact turn_result rfl (expire_collecting_result he hcode hend hd) (by simp) rfl

theorem settle_accounts : (m.turn w .settle).Accounts m := by
  have hl : ¬(m.turn w .settle).Loses m := by
    rintro (⟨-, -, -, ht⟩ | ⟨-, ht⟩) <;> cases ht
  refine Turn.accounts_of ?_ hl
  cases h with
  | idle held h => exact turn_stay (.idle held h) rfl (by simp) (.inr (.inl rfl)) fun _ => .inl rfl
  | armed d hcode =>
    exact turn_stay (.armed d hcode) rfl (by simp) (.inr (.inl rfl)) fun _ => .inl rfl
  | collecting argument d he hcode hend =>
    exact turn_stay (.collecting argument d he hcode hend) rfl (by simp) (.inr (.inl rfl))
      fun _ => .inl rfl
  | @executing held h =>
    have hafter : Tracks m (m.turn ⟨{ current := .executing }, held, 1⟩ .settle).after := .idle _ le_rfl
    exact ⟨hafter, Turn.conserves_of hafter rfl nofun nofun
      nofun, nofun⟩

attribute [local simp] MidCallFeatureMachine.cancel

theorem cancel_accounts : (m.turn w .cancel).Accounts m := by
  have hl : w.capture.current ≠ .executing → ¬(m.turn w .cancel).Loses m := by
    rintro hc (⟨-, -, -, ht⟩ | ⟨ht, -⟩)
    · cases ht
    · exact hc ht
  cases h with
  | idle held h =>
    exact Turn.accounts_of (turn_stay (.idle held h) rfl (by simp) (.inr (.inl rfl))
      fun _ => .inl rfl) (hl (by simp))
  | armed _ _ | collecting _ _ _ _ _ =>
    refine Turn.accounts_of (turn_result rfl ?_ rfl rfl) (hl (by simp))
    simpa [answer] using Result.abandon
  | executing h =>
    refine ⟨.idle _ le_rfl, iff_of_false ?_ (not_not_intro (.inr ⟨rfl, rfl⟩)), nofun⟩
    intro hc
    exact h (by simpa [answer] using (hc.abandoned [] rfl).symm)

theorem turn_accounts (call : MidCallFeatureCall) : (m.turn w call).Accounts m := by
  cases call with
  | push digit nowMs => exact push_accounts h digit nowMs
  | expire nowMs => exact expire_accounts h nowMs
  | settle => exact settle_accounts h
  | cancel => exact cancel_accounts h

theorem turns_accounts (calls : List MidCallFeatureCall) :
    ∀ t ∈ m.turns w calls, t.Accounts m := by
  induction calls generalizing w with
  | nil => simp [turns]
  | cons call rest ih =>
    have hturn := turn_accounts h call
    exact List.forall_mem_cons.mpr ⟨hturn, ih hturn.tracks⟩

end turns

/-- The digits are conserved in a sequence of calls exactly if none of them loses some. -/
theorem turns_conserve_iff (localeCompare : JsString → JsString → Int)
    (table : List MidCallFeatureCode) (settings : MidCallFeatureSettings)
    (calls : List MidCallFeatureCall) :
    let m := newMidCallFeatureMachine localeCompare table settings
    (∀ t ∈ m.turns {} calls, t.Conserves m) ↔ ∀ t ∈ m.turns {} calls, ¬t.Loses m :=
  forall₂_congr fun t ht => (turns_accounts (.idle [] (Nat.zero_le 1)) calls t ht).conserves_iff

def transferOnly : MidCallFeatureMachine :=
  newMidCallFeatureMachine (fun _ _ => 0) [⟨lit "*1", .blindTransfer, none⟩] {}

/-- The code, and the terminator at once. -/
def hastyCalls : List MidCallFeatureCall :=
  [.push (lit "*") 0, .push (lit "1") 100, .push (lit "#") 200]

theorem terminator_lost : ¬∀ t ∈ transferOnly.turns {} hastyCalls, t.Conserves transferOnly := by
  intro h
  obtain ⟨t, ht⟩ : ∃ t, (transferOnly.turns {} hastyCalls)[2]? = some t := ⟨_, rfl⟩
  have hgiven : t.step.swallowed = some (lit "*1") := by
    cases ht
    decide
  have hheld : t.after.held = lit "*1#" := by
    cases ht
    decide
  have heq := (h t (List.mem_of_getElem? ht)).abandoned _ hgiven
  rw [hheld] at heq
  exact absurd heq (by decide)

end OptimiqVoice.Telephony

import Mathlib.Data.List.Induction
import OptimiqVoice.Telephony.MidCallCaptures

namespace OptimiqVoice.Telephony

open Lib

namespace MidCallFeatureMachine

variable (m : MidCallFeatureMachine)

/-- The arguments a row takes. -/
def Accepts (r : MidCallFeatureCode) (argument : JsString) : Prop :=
  argument.length ≤ m.settings.maxArgumentDigits ∧
    (∀ u ∈ argument, u ∈ dtmfDigits ∧ u ≠ m.settings.terminator) ∧
    (argumentModeOf r = .none → argument = []) ∧ (argumentModeOf r = .required → argument ≠ [])

/-- Digits and expiries, from idle, the last of which has this executed. -/
def Executing (calls : List MidCallFeatureCall) (x : MidCallFeatureExecution) : Prop :=
  (∀ call ∈ calls, call ≠ .settle ∧ call ≠ .cancel) ∧
    (m.turns {} calls).getLast?.bind (·.step.execution) = some x

structure Usable (r : MidCallFeatureCode) : Prop where
  once : ∃ calls argument, m.Executing calls ⟨r.action, r.code, argument⟩
  each : ∀ argument, m.Accepts r argument → ∃ calls, m.Executing calls ⟨r.action, r.code, argument⟩

def watched (w : Watched) (calls : List MidCallFeatureCall) : Watched :=
  calls.foldl (fun w call => (m.turn w call).after) w

end MidCallFeatureMachine

/-- No code of the table goes further into the captured digits than the executed one. -/
def Turn.Longest (table : List MidCallFeatureCode) (t : Turn) : Prop :=
  ∀ x, t.step.execution = some x → x.code <+: t.after.held ∧
    ∀ r ∈ table, r.code <+: t.after.held → r.code.length ≤ x.code.length

def pressed (digits : JsString) : List MidCallFeatureCall := digits.map fun u => .push [u] 0

open MidCallFeatureMachine (answer resolveCode pushSymbol pushCollecting)

section typing

variable {m : MidCallFeatureMachine}

theorem turns_concat (w : Watched) (calls : List MidCallFeatureCall) (call : MidCallFeatureCall) :
    m.turns w (calls ++ [call]) = m.turns w calls ++ [m.turn (m.watched w calls) call] := by
  induction calls generalizing w with
  | nil => rfl
  | cons first rest ih => exact congrArg (_ :: ·) (ih _)

theorem watched_concat (w : Watched) (calls : List MidCallFeatureCall) (call : MidCallFeatureCall) :
    (m.watched w (calls ++ [call])).capture = (m.answer (m.watched w calls).capture call).2 := by
  rw [MidCallFeatureMachine.watched, List.foldl_concat]
  rfl

theorem pressed_concat (digits : JsString) (u : CodeUnit) :
    pressed (digits ++ [u]) = pressed digits ++ [.push [u] 0] :=
  List.map_append

theorem pressed_plain (digits : JsString) :
    ∀ call ∈ pressed digits, call ≠ .settle ∧ call ≠ .cancel := by
  intro call hcall
  obtain ⟨u, -, rfl⟩ := List.mem_map.mp hcall
  simp

theorem dtmfDigits_lt : ∀ u ∈ dtmfDigits, u.val < 97 := by
  simp [dtmfDigits, lit, unit, Fin.ofNat]

theorem dtmfSymbol_self {u : CodeUnit} (hu : u ∈ dtmfDigits) : dtmfSymbol [u] = some u := by
  have hupper : ¬(97 ≤ u ∧ u ≤ 122) :=
    fun h => Nat.not_lt.mpr (Fin.le_def.mp h.1) (dtmfDigits_lt u hu)
  simp only [dtmfSymbol, if_neg hupper, if_pos hu]

theorem executing_concat {calls : List MidCallFeatureCall} {call : MidCallFeatureCall}
    {x : MidCallFeatureExecution} (hcalls : ∀ c ∈ calls, c ≠ .settle ∧ c ≠ .cancel)
    (hcall : call ≠ .settle ∧ call ≠ .cancel)
    (h : (m.answer (m.watched {} calls).capture call).1.execution = some x) :
    m.Executing (calls ++ [call]) x := by
  refine ⟨List.forall_mem_append.mpr ⟨hcalls, by simpa using hcall⟩, ?_⟩
  rw [turns_concat, List.getLast?_concat]
  exact h

theorem answer_press {c : Capture} {u : CodeUnit} (hu : u ∈ dtmfDigits) :
    m.answer c (.push [u] 0) = m.pushSymbol c u 0 := by
  simp [answer, MidCallFeatureMachine.push, dtmfSymbol_self hu]

theorem extendable_iff {code : JsString} :
    m.extendable code = true ↔ ∃ e ∈ m.table, code.length < e.code.length ∧ code <+: e.code := by
  simp [MidCallFeatureMachine.extendable, startsWith]

theorem resolveCode_extendable {code : JsString} (h : m.extendable code = true) (nowMs : Int) :
    m.resolveCode code nowMs =
      ({ current := .armed, code := code } : Capture).arm (nowMs + m.settings.codeTimeoutMs) := by
  unfold resolveCode
  cases m.exact code <;> simp [h]

def armedBy (m : MidCallFeatureMachine) (front : JsString) : Capture :=
  if front = [] then {} else ⟨.armed, front, [], none, some (0 + m.settings.codeTimeoutMs)⟩

/-- A table whose codes are distinct and can be pressed. -/
structure Regular (m : MidCallFeatureMachine) : Prop where
  digits : ∀ e ∈ m.table, ∀ u ∈ e.code, u ∈ dtmfDigits
  nonempty : ∀ e ∈ m.table, e.code ≠ []
  distinct : ∀ e ∈ m.table, ∀ e' ∈ m.table, e.code = e'.code → e = e'

variable {r : MidCallFeatureCode} {front argument : JsString} {u : CodeUnit}

theorem pushSymbol_armedBy (hr : r ∈ m.table) (h : front ++ [u] <+: r.code) :
    m.pushSymbol (armedBy m front) u 0 = m.resolveCode (front ++ [u]) 0 := by
  cases front with
  | cons v rest => rfl
  | nil =>
    obtain ⟨rest, hrest⟩ := h
    have hlead : m.table.any (·.code.head? = some u) = true := by
      rw [List.any_eq_true]
      exact ⟨r, hr, by simp [← hrest]⟩
    exact if_pos hlead

variable (h : Regular m)

include h

variable (hr : r ∈ m.table)

include hr

attribute [local simp] Capture.arm

theorem Regular.watched_front (hfront : front <+: r.code)
    (hlt : front.length < r.code.length) :
    (m.watched {} (pressed front)).capture = armedBy m front := by
  induction front using List.reverseRecOn with
  | nil => rfl
  | append_singleton front u ih =>
    have hu : u ∈ dtmfDigits := h.digits r hr u (hfront.subset (by simp))
    have hlt' : front.length < r.code.length := by
      simp only [List.length_append] at hlt
      omega
    rw [pressed_concat, watched_concat, ih ((List.prefix_append ..).trans hfront) hlt',
      answer_press hu, pushSymbol_armedBy hr hfront,
      resolveCode_extendable (extendable_iff.mpr ⟨r, hr, hlt, hfront⟩)]
    simp [armedBy]

theorem Regular.answer_last (hcode : r.code = front ++ [u]) :
    m.answer (m.watched {} (pressed front)).capture (.push [u] 0) = m.resolveCode r.code 0 := by
  have hfront : front ++ [u] <+: r.code := hcode ▸ List.prefix_rfl
  rw [h.watched_front hr ((List.prefix_append ..).trans hfront) (by simp [hcode]),
    answer_press (h.digits r hr u (by simp [hcode])), pushSymbol_armedBy hr hfront, hcode]

theorem Regular.exists_concat : ∃ front u, r.code = front ++ [u] := by
  obtain hnil | ⟨front, u, hcode⟩ := List.eq_nil_or_concat r.code
  · exact absurd hnil (h.nonempty r hr)
  · exact ⟨front, u, by simpa using hcode⟩

theorem Regular.exact_eq : m.exact r.code = some r := by
  cases hx : m.exact r.code with
  | none => exact absurd (List.find?_eq_none.mp hx r hr) (by simp)
  | some e =>
    obtain ⟨he, hcode⟩ := exact_eq_some hx
    rw [h.distinct e he r hr hcode]

theorem Regular.watched_code :
    (m.watched {} (pressed r.code)).capture = (m.resolveCode r.code 0).2 := by
  obtain ⟨front, u, hcode⟩ := h.exists_concat hr
  rw [← h.answer_last hr hcode, hcode, pressed_concat, watched_concat]

attribute [local simp] beginExecuting

theorem Regular.executing_extendable
    (hlong : m.extendable r.code = true) (hmode : argumentModeOf r ≠ .required) :
    ∃ calls, m.Executing calls ⟨r.action, r.code, []⟩ := by
  refine ⟨pressed r.code ++ [.expire (0 + m.settings.codeTimeoutMs)],
    executing_concat (pressed_plain r.code) (by simp) ?_⟩
  rw [h.watched_code hr, resolveCode_extendable hlong]
  simp [answer, MidCallFeatureMachine.expire, h.exact_eq hr, hmode]

theorem Regular.resolveCode_eq (hend : m.extendable r.code = false) :
    m.resolveCode r.code 0 = if argumentModeOf r = .none then beginExecuting r []
      else (⟨.collecting, r.code, [], some r, none⟩ : Capture).arm
        (0 + m.settings.interDigitTimeoutMs) := by
  unfold resolveCode
  simp [h.exact_eq hr, hend]

theorem Regular.executing_none
    (hend : m.extendable r.code = false) (hmode : argumentModeOf r = .none) :
    ∃ calls, m.Executing calls ⟨r.action, r.code, []⟩ := by
  obtain ⟨front, u, hcode⟩ := h.exists_concat hr
  refine ⟨pressed front ++ [.push [u] 0], executing_concat (pressed_plain front) (by simp) ?_⟩
  rw [h.answer_last hr hcode, h.resolveCode_eq hr hend, if_pos hmode]
  rfl

theorem Regular.watched_argument
    (hend : m.extendable r.code = false) (hmode : argumentModeOf r ≠ .none)
    (hdigits : ∀ u ∈ argument, u ∈ dtmfDigits ∧ u ≠ m.settings.terminator)
    (hlen : argument = [] ∨ argument.length < m.settings.maxArgumentDigits) :
    (m.watched {} (pressed (r.code ++ argument))).capture =
      ⟨.collecting, r.code, argument, some r, some (0 + m.settings.interDigitTimeoutMs)⟩ := by
  induction argument using List.reverseRecOn with
  | nil =>
    rw [List.append_nil, h.watched_code hr, h.resolveCode_eq hr hend, if_neg hmode]
    rfl
  | append_singleton front u ih =>
    obtain ⟨hu, hne⟩ := hdigits u (by simp)
    have hlt : front.length + 1 < m.settings.maxArgumentDigits := by simpa using hlen
    rw [← List.append_assoc, pressed_concat, watched_concat,
      ih (fun v hv => hdigits v (by simp [hv])) (.inr (by omega)), answer_press hu]
    simp [pushSymbol, pushCollecting, hne, Nat.not_le.mpr hlt]

theorem Regular.executing_argument
    (hend : m.extendable r.code = false) (hmode : argumentModeOf r ≠ .none)
    (hdigits : ∀ u ∈ argument, u ∈ dtmfDigits ∧ u ≠ m.settings.terminator)
    (hlen : argument.length ≤ m.settings.maxArgumentDigits ∨ argument.length = 1)
    (hrequired : argumentModeOf r = .required → argument ≠ []) :
    ∃ calls, m.Executing calls ⟨r.action, r.code, argument⟩ := by
  by_cases hshort : argument = [] ∨ argument.length < m.settings.maxArgumentDigits
  · refine ⟨pressed (r.code ++ argument) ++ [.expire (0 + m.settings.interDigitTimeoutMs)],
      executing_concat (pressed_plain _) (by simp) ?_⟩
    rw [h.watched_argument hr hend hmode hdigits hshort]
    have hgiven : ¬(argument = [] ∧ argumentModeOf r = .required) := fun hno => hrequired hno.2 hno.1
    simp [answer, MidCallFeatureMachine.expire, hgiven]
  · obtain hnil | ⟨front, u, hconcat⟩ := List.eq_nil_or_concat argument
    · exact absurd (.inl hnil) hshort
    · obtain rfl : argument = front ++ [u] := by simpa using hconcat
      obtain ⟨hu, hne⟩ := hdigits u (by simp)
      simp only [List.append_eq_nil_iff, List.cons_ne_self, and_false, false_or, List.length_append,
        List.length_singleton] at hshort hlen
      refine ⟨pressed (r.code ++ front) ++ [.push [u] 0],
        executing_concat (pressed_plain _) (by simp) ?_⟩
      rw [h.watched_argument hr hend hmode (fun v hv => hdigits v (by simp [hv])) ?_, answer_press hu]
      · have hfull : m.settings.maxArgumentDigits ≤ front.length + 1 := by omega
        simp [pushSymbol, pushCollecting, hne, hfull]
      · rw [← List.length_eq_zero_iff]
        omega

end typing

section table

variable {m : MidCallFeatureMachine} {r : MidCallFeatureCode}

/-- What is executed is a row, and has an argument only if no code goes on from it. -/
theorem MidCallFeatureMachine.Executing.row {calls : List MidCallFeatureCall}
    {x : MidCallFeatureExecution} (h : m.Executing calls x) : ∃ e ∈ m.table, x.code = e.code ∧
      (m.extendable e.code = false ∨ x.argument = [] ∧ argumentModeOf e ≠ .required) := by
  obtain ⟨t, ht, hx⟩ := Option.bind_eq_some_iff.mp h.2
  have hturn := turns_accounts (.idle [] (Nat.zero_le 1)) calls t (List.mem_of_getLast? ht)
  obtain ⟨e, he, -, hcode, -, hend⟩ := hturn.executes x hx
  exact ⟨e, he, hcode, hend.imp_right fun h => ⟨h.1, h.2.1⟩⟩

theorem exists_digit (terminator : CodeUnit) : ∃ u ∈ dtmfDigits, u ≠ terminator := by
  by_cases h : terminator = unit '0'
  · exact ⟨unit '1', by simp [dtmfDigits, lit], by rw [h]; decide⟩
  · exact ⟨unit '0', by simp [dtmfDigits, lit], Ne.symm h⟩

theorem Regular.usable (h : Regular m) (hr : r ∈ m.table)
    (hfree : argumentModeOf r = .none ∨ m.extendable r.code = false ∨
      argumentModeOf r = .optional ∧ m.settings.maxArgumentDigits = 0) : m.Usable r := by
  obtain ⟨u, hu, hne⟩ := exists_digit m.settings.terminator
  cases hlong : m.extendable r.code with
  | true =>
    have hmode : argumentModeOf r ≠ .required := by
      rcases hfree with hf | hf | hf
      · simp [hf]
      · simp [hlong] at hf
      · simp [hf.1]
    have hbare := h.executing_extendable hr hlong hmode
    refine ⟨hbare.imp fun calls hcalls => ⟨[], hcalls⟩, fun argument harg => ?_⟩
    obtain rfl : argument = [] := by
      rcases hfree with hf | hf | hf
      · exact harg.2.2.1 hf
      · simp [hlong] at hf
      · exact List.length_eq_zero_iff.mp (Nat.le_zero.mp (hf.2 ▸ harg.1))
    exact hbare
  | false =>
    by_cases hmode : argumentModeOf r = .none
    · have hbare := h.executing_none hr hlong hmode
      refine ⟨hbare.imp fun calls hcalls => ⟨[], hcalls⟩, fun argument harg => ?_⟩
      rw [harg.2.2.1 hmode]
      exact hbare
    · refine ⟨?_, fun argument harg =>
        h.executing_argument hr hlong hmode harg.2.1 (.inl harg.1) harg.2.2.2⟩
      have hdigit : ∀ v ∈ [u], v ∈ dtmfDigits ∧ v ≠ m.settings.terminator := by simp [hu, hne]
      obtain ⟨calls, hcalls⟩ := h.executing_argument hr hlong hmode hdigit (.inr rfl) (by simp)
      exact ⟨calls, [u], hcalls⟩

theorem Regular.free_of_usable (h : Regular m) (hr : r ∈ m.table) (husable : m.Usable r) :
    argumentModeOf r = .none ∨ m.extendable r.code = false ∨
      argumentModeOf r = .optional ∧ m.settings.maxArgumentDigits = 0 := by
  have hrow : ∀ {calls argument}, m.Executing calls ⟨r.action, r.code, argument⟩ →
      m.extendable r.code = false ∨ argument = [] ∧ argumentModeOf r ≠ .required := by
    intro calls argument hcalls
    obtain ⟨e, he, hcode, hend⟩ := hcalls.row
    rwa [h.distinct e he r hr hcode.symm] at hend
  obtain ⟨calls, argument, hcalls⟩ := husable.once
  obtain hend | ⟨-, hmode⟩ := hrow hcalls
  · exact .inr (.inl hend)
  · cases hm : argumentModeOf r with
    | none => exact .inl rfl
    | required => exact absurd hm hmode
    | optional =>
      right
      by_cases hmax : m.settings.maxArgumentDigits = 0
      · exact .inr ⟨rfl, hmax⟩
      · obtain ⟨u, hu, hne⟩ := exists_digit m.settings.terminator
        obtain ⟨calls, hcalls⟩ := husable.each [u]
          ⟨Nat.one_le_iff_ne_zero.mpr hmax, by simp [hu, hne], by simp [hm], by simp⟩
        exact .inl ((hrow hcalls).resolve_right (by simp))

end table

section ordered

variable {localeCompare : JsString → JsString → Int} {table : List MidCallFeatureCode}
  {settings : MidCallFeatureSettings} {r : MidCallFeatureCode}

theorem mem_newMidCallFeatureMachine :
    r ∈ (newMidCallFeatureMachine localeCompare table settings).table ↔
      r ∈ table ∧ r.code ≠ [] ∧ ∀ u ∈ r.code, u ∈ dtmfDigits := by
  simp [newMidCallFeatureMachine, orderMidCallFeatureCodes, List.length_pos_iff]

theorem regular_newMidCallFeatureMachine (hdistinct : (table.map (·.code)).Nodup) :
    Regular (newMidCallFeatureMachine localeCompare table settings) where
  digits e he := (mem_newMidCallFeatureMachine.mp he).2.2
  nonempty e he := (mem_newMidCallFeatureMachine.mp he).2.1
  distinct e he e' he' := List.inj_on_of_nodup_map hdistinct (mem_newMidCallFeatureMachine.mp he).1
    (mem_newMidCallFeatureMachine.mp he').1

variable (hcodes : ∀ r ∈ table, ∀ u ∈ r.code, u ∈ dtmfDigits)

include hcodes

theorem not_extendable_iff (code : JsString) :
    (newMidCallFeatureMachine localeCompare table settings).extendable code = false ↔
      ∀ e ∈ table, code <+: e.code → e.code = code := by
  rw [Bool.eq_false_iff, ne_eq, extendable_iff]
  constructor
  · intro h e he hlonger
    by_contra hne
    have hlt : code.length < e.code.length :=
      lt_of_le_of_ne hlonger.length_le fun heq => hne (hlonger.eq_of_length heq).symm
    refine h ⟨e, mem_newMidCallFeatureMachine.mpr ⟨he, ?_, hcodes e he⟩, hlt, hlonger⟩
    exact List.length_pos_iff.mp (Nat.zero_lt_of_lt hlt)
  · rintro h ⟨e, he, hlt, hlonger⟩
    rw [h e (mem_newMidCallFeatureMachine.mp he).1 hlonger] at hlt
    exact lt_irrefl _ hlt

theorem longest_turns (calls : List MidCallFeatureCall) :
    ∀ t ∈ (newMidCallFeatureMachine localeCompare table settings).turns {} calls,
      t.Longest table := by
  intro t ht x hx
  obtain ⟨e, -, -, hcode, hheld, hend⟩ :=
    (turns_accounts (.idle [] (Nat.zero_le 1)) calls t ht).executes x hx
  rw [hcode]
  refine ⟨hheld, fun r hr hrow => ?_⟩
  obtain hend | ⟨-, -, heq⟩ := hend
  · by_contra hlt
    have hlonger := List.prefix_of_prefix_length_le hheld hrow (Nat.le_of_not_le hlt)
    rw [(not_extendable_iff hcodes e.code).mp hend r hr hlonger] at hlt
    exact hlt le_rfl
  · rw [heq] at hrow
    exact hrow.length_le

end ordered

/-- Every row can be used, and the longest code wins, exactly if the rows that take
an argument are not the start of another row. -/
theorem codes_usable_iff (localeCompare : JsString → JsString → Int)
    (table : List MidCallFeatureCode) (settings : MidCallFeatureSettings)
    (hcodes : ∀ r ∈ table, ∀ u ∈ r.code, u ∈ dtmfDigits) (hdistinct : (table.map (·.code)).Nodup) :
    let m := newMidCallFeatureMachine localeCompare table settings
    (∀ r ∈ table, m.Usable r) ∧ (∀ calls, ∀ t ∈ m.turns {} calls, t.Longest table) ↔
      ∀ r ∈ table, r.code ≠ [] ∧ (argumentModeOf r = .none ∨
        (∀ e ∈ table, r.code <+: e.code → e.code = r.code) ∨
          argumentModeOf r = .optional ∧ settings.maxArgumentDigits = 0) := by
  intro m
  have hregular : Regular m := regular_newMidCallFeatureMachine hdistinct
  rw [and_iff_left (longest_turns hcodes)]
  refine forall₂_congr fun r hr => ?_
  have hend : m.extendable r.code = false ↔ _ := not_extendable_iff hcodes r.code
  rw [← hend]
  constructor
  · intro husable
    obtain ⟨calls, argument, hcalls⟩ := husable.once
    obtain ⟨e, he, hcode, -⟩ := hcalls.row
    have hrow : r.code ≠ [] := (show r.code = e.code from hcode) ▸ hregular.nonempty e he
    have hr' : r ∈ m.table := mem_newMidCallFeatureMachine.mpr ⟨hr, hrow, hcodes r hr⟩
    exact ⟨hrow, hregular.free_of_usable hr' husable⟩
  · rintro ⟨hrow, hfree⟩
    exact hregular.usable (mem_newMidCallFeatureMachine.mpr ⟨hr, hrow, hcodes r hr⟩) hfree

def plainCodes : List MidCallFeatureCode :=
  [⟨lit "*1", .blindTransfer, none⟩, ⟨lit "*2", .recordToggle, none⟩]

theorem plainCodes_usable :
    let m := newMidCallFeatureMachine (fun _ _ => 0) plainCodes {}
    (∀ r ∈ plainCodes, m.Usable r) ∧ ∀ calls, ∀ t ∈ m.turns {} calls, t.Longest plainCodes :=
  (codes_usable_iff (fun _ _ => 0) plainCodes {} (by simp [plainCodes, dtmfDigits, lit])
    (by decide)).mpr (by decide)

/-- The transfer code is the start of another one. -/
def sharedStart : List MidCallFeatureCode :=
  [⟨lit "*1", .blindTransfer, none⟩, ⟨lit "*12", .park, some .none⟩]

theorem sharedStart_unusable :
    (∀ r ∈ sharedStart, ∀ u ∈ r.code, u ∈ dtmfDigits) ∧ (sharedStart.map (·.code)).Nodup ∧
      ¬∀ r ∈ sharedStart, (newMidCallFeatureMachine (fun _ _ => 0) sharedStart {}).Usable r := by
  have hdistinct : (sharedStart.map (·.code)).Nodup := by decide
  refine ⟨by simp [sharedStart, dtmfDigits, lit], hdistinct, fun h => ?_⟩
  have hfree := (regular_newMidCallFeatureMachine hdistinct).free_of_usable (by decide)
    (h ⟨lit "*1", .blindTransfer, none⟩ (by simp [sharedStart]))
  exact absurd hfree (by decide)

end OptimiqVoice.Telephony

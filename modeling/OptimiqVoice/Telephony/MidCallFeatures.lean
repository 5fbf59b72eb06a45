import Mathlib.Data.List.Sort
import OptimiqVoice.Lib.Text

namespace OptimiqVoice.Telephony

open Lib

inductive MidCallFeatureAction where
  | blindTransfer | recordToggle | park | cancel
deriving DecidableEq

def MidCallFeatureAction.text : MidCallFeatureAction → JsString
  | .blindTransfer => lit "blind-transfer"
  | .recordToggle => lit "record-toggle"
  | .park => lit "park"
  | .cancel => lit "cancel"

inductive MidCallArgumentMode where
  | none | optional | required
deriving DecidableEq

def midCallArgumentMode : MidCallFeatureAction → MidCallArgumentMode
  | .blindTransfer => .required
  | .recordToggle => .none
  | .park => .optional
  | .cancel => .none

structure MidCallFeatureCode where
  code : JsString
  action : MidCallFeatureAction
  argumentMode : Option MidCallArgumentMode := none
deriving DecidableEq

def argumentModeOf (entry : MidCallFeatureCode) : MidCallArgumentMode :=
  entry.argumentMode.getD (midCallArgumentMode entry.action)

def dtmfDigits : JsString := lit "0123456789*#ABCD"

/-- The symbol of a digit, in upper case, if it is one of the keypad's. -/
def dtmfSymbol : JsString → Option CodeUnit
  | [u] =>
    let symbol := if 97 ≤ u ∧ u ≤ 122 then u - 32 else u
    if symbol ∈ dtmfDigits then some symbol else none
  | _ => none

/-- Longest code first. The rest of the comparison only matters between rows of one code. -/
def orderMidCallFeatureCodes (localeCompare : JsString → JsString → Int)
    (table : List MidCallFeatureCode) : List MidCallFeatureCode :=
  (table.filter fun e => 0 < e.code.length && e.code.all (· ∈ dtmfDigits)).insertionSort fun l r =>
      if l.code.length ≠ r.code.length then r.code.length < l.code.length
      else if localeCompare l.code r.code ≠ 0 then localeCompare l.code r.code < 0
      else localeCompare l.action.text r.action.text ≤ 0

structure MidCallFeatureSettings where
  codeTimeoutMs : Int := 1500
  interDigitTimeoutMs : Int := 4000
  terminator : CodeUnit := unit '#'
  maxArgumentDigits : Nat := 16

inductive MidCallFeatureState where
  | idle | armed | collecting | executing
deriving DecidableEq

inductive MidCallFeatureStepKind where
  | passThrough | captured | execute | abandoned
deriving DecidableEq

structure MidCallFeatureExecution where
  action : MidCallFeatureAction
  (code argument : JsString)

structure MidCallFeatureStep where
  kind : MidCallFeatureStepKind
  state : MidCallFeatureState
  execution : Option MidCallFeatureExecution := none
  swallowed : Option JsString := none
  wakeAtMs : Option Int := none

/-- What the machine keeps of the party's digits. -/
structure Capture where
  current : MidCallFeatureState := .idle
  code : JsString := []
  argument : JsString := []
  matched : Option MidCallFeatureCode := none
  deadlineMs : Option Int := none

structure MidCallFeatureMachine where
  table : List MidCallFeatureCode
  settings : MidCallFeatureSettings

def newMidCallFeatureMachine (localeCompare : JsString → JsString → Int)
    (table : List MidCallFeatureCode) (settings : MidCallFeatureSettings) : MidCallFeatureMachine :=
  ⟨orderMidCallFeatureCodes localeCompare table, settings⟩

inductive MidCallFeatureCall where
  | push (digit : JsString) (nowMs : Int)
  | expire (nowMs : Int)
  | settle
  | cancel

namespace Capture

def stay (c : Capture) (kind : MidCallFeatureStepKind) : MidCallFeatureStep × Capture :=
  (⟨kind, c.current, none, none, c.deadlineMs⟩, c)

def still (c : Capture) : MidCallFeatureStep × Capture :=
  c.stay (if c.current = .idle then .passThrough else .captured)

def arm (c : Capture) (deadlineMs : Int) : MidCallFeatureStep × Capture :=
  (⟨.captured, c.current, none, none, some deadlineMs⟩, { c with deadlineMs := some deadlineMs })

def abandon (c : Capture) : MidCallFeatureStep × Capture :=
  (⟨.abandoned, .idle, none, some (c.code ++ c.argument), none⟩, {})

end Capture

def beginExecuting (entry : MidCallFeatureCode) (argument : JsString) :
    MidCallFeatureStep × Capture :=
  (⟨.execute, .executing, some ⟨entry.action, entry.code, argument⟩, none, none⟩,
    { current := .executing })

namespace MidCallFeatureMachine

variable (m : MidCallFeatureMachine)

variable (code : JsString)

/-- A longer code of the table starts with this one. -/
def extendable : Bool :=
  m.table.any fun e => code.length < e.code.length && startsWith e.code code

def exact : Option MidCallFeatureCode := m.table.find? (·.code = code)

/-- The code as far as it has been pressed: it is complete, or goes on, or is none. -/
def resolveCode (nowMs : Int) : MidCallFeatureStep × Capture :=
  let c : Capture := { current := .armed, code := code }
  match m.exact code with
  | some e =>
    if m.extendable code then c.arm (nowMs + m.settings.codeTimeoutMs)
    else if argumentModeOf e = .none then beginExecuting e []
    else { c with current := .collecting, matched := some e }.arm
      (nowMs + m.settings.interDigitTimeoutMs)
  | none =>
    if m.extendable code then c.arm (nowMs + m.settings.codeTimeoutMs) else c.abandon

def pushCollecting (c : Capture) (symbol : CodeUnit) (nowMs : Int) : MidCallFeatureStep × Capture :=
  match c.matched with
  | none => c.abandon
  | some e =>
    if symbol = m.settings.terminator then
      if c.argument = [] ∧ argumentModeOf e = .required then c.abandon
      else beginExecuting e c.argument
    else
      let argument := c.argument ++ [symbol]
      if m.settings.maxArgumentDigits ≤ argument.length then beginExecuting e argument
      else { c with argument := argument }.arm (nowMs + m.settings.interDigitTimeoutMs)

def pushSymbol (c : Capture) (symbol : CodeUnit) (nowMs : Int) : MidCallFeatureStep × Capture :=
  match c.current with
  | .idle =>
    if m.table.any (·.code.head? = some symbol) then m.resolveCode [symbol] nowMs
    else c.stay .passThrough
  | .armed => m.resolveCode (c.code ++ [symbol]) nowMs
  | .collecting => m.pushCollecting c symbol nowMs
  | .executing => c.stay .captured

def push (c : Capture) (digit : JsString) (nowMs : Int) : MidCallFeatureStep × Capture :=
  match dtmfSymbol digit with
  | none => c.stay .passThrough
  | some symbol => m.pushSymbol c symbol nowMs

def expire (c : Capture) (nowMs : Int) : MidCallFeatureStep × Capture :=
  if c.deadlineMs.all (nowMs < ·) then c.still
  else match c.current with
    | .armed =>
      match m.exact c.code with
      | some e => if argumentModeOf e = .required then c.abandon else beginExecuting e []
      | none => c.abandon
    | .collecting =>
      match c.matched with
      | some e =>
        if c.argument = [] ∧ argumentModeOf e = .required then c.abandon
        else beginExecuting e c.argument
      | none => c.abandon
    | _ => c.still

def settle (c : Capture) : MidCallFeatureStep × Capture :=
  if c.current = .executing then (⟨.captured, .idle, none, none, none⟩, {}) else c.still

def cancel (c : Capture) : MidCallFeatureStep × Capture :=
  if c.current = .idle then c.stay .passThrough else c.abandon

def answer (c : Capture) : MidCallFeatureCall → MidCallFeatureStep × Capture
  | .push digit nowMs => m.push c digit nowMs
  | .expire nowMs => m.expire c nowMs
  | .settle => settle c
  | .cancel => cancel c

end MidCallFeatureMachine

end OptimiqVoice.Telephony

import OptimiqVoice.Routing.Platform
import OptimiqVoice.Routing.Vocabulary

namespace OptimiqVoice.Routing

open Lib

def maxPatternLength : Nat := 256

inductive CompiledPattern where
  | exact (value : JsString)
  | prefixed (value : JsString)
  | regex (source : JsString)
  | any
deriving DecidableEq

inductive PatternIssue where
  | emptyPattern
  | patternTooLong (length : Nat)
  | invalidRegex (detail : JsString)
  | unanchoredRegex
deriving DecidableEq

def PatternIssue.code : PatternIssue → JsString
  | .emptyPattern => lit "empty-pattern"
  | .patternTooLong _ => lit "pattern-too-long"
  | .invalidRegex _ => lit "invalid-regex"
  | .unanchoredRegex => lit "unanchored-regex"

def lengthIssues (raw : JsString) : List PatternIssue :=
  (if raw.length = 0 then [.emptyPattern] else []) ++
    (if maxPatternLength < raw.length then [.patternTooLong raw.length] else [])

variable (p : Platform)

def regexIssues (raw : JsString) : List PatternIssue :=
  match p.regexCompileError raw with
  | some detail => [.invalidRegex detail]
  | none =>
    if !startsWith raw (lit "^") && !endsWith raw (lit "$") then [.unanchoredRegex] else []

def compilePattern (kind : RouteMatchKind) (pattern : Option JsString) :
    CompiledPattern × List PatternIssue :=
  let raw := pattern.getD []
  match kind with
  | .any => (.any, [])
  | .regex => (.regex raw, lengthIssues raw ++ regexIssues p raw)
  | .exact => (.exact raw, lengthIssues raw)
  | .prefixed => (.prefixed raw, lengthIssues raw)

/-- The captures of a match. A source that does not compile is dropped with an
error before it reaches a table, so executing it is never asked for. -/
def matchPattern (pattern : CompiledPattern) (input : JsString) :
    Option (List JsString) :=
  match pattern with
  | .any => some []
  | .exact value => if value = input then some [] else none
  | .prefixed value => if startsWith input value then some [] else none
  | .regex source => (p.regexExec source input).map (fun groups => groups.map (·.getD []))

def patternSpecificity : CompiledPattern → Nat
  | .exact _ => 1000000
  | .prefixed value => 1000 + min value.length maxPatternLength
  | .regex _ => 10
  | .any => 0

def patternSubsumes (left right : CompiledPattern) : Bool :=
  match left, right with
  | .any, _ => true
  | _, .any => false
  | .prefixed l, .prefixed r => startsWith r l
  | .prefixed l, .exact r => startsWith r l
  | .prefixed _, .regex _ => false
  | .exact l, .exact r => r = l
  | .exact _, _ => false
  | .regex l, .regex r => r = l
  | .regex _, _ => false

structure DigitManipulation where
  stripDigits : Int
  prependDigits : Option JsString

inductive DigitManipulationIssue where
  | negativeStrip
  | stripTooLarge (strip : Int)
  | invalidPrepend (value : JsString)

def DigitManipulationIssue.code : DigitManipulationIssue → JsString
  | .negativeStrip => lit "negative-strip"
  | .stripTooLarge _ => lit "strip-too-large"
  | .invalidPrepend _ => lit "invalid-prepend"

def maxStripDigits : Int := 32

def isDialUnit (u : CodeUnit) : Bool := isDigit u || u = unit '*' || u = unit '#'

def isPrependText (s : JsString) : Bool :=
  s.all (fun u => isDialUnit u || u = unit '+') && s.length ≤ 32

def validateDigitManipulation (m : DigitManipulation) : List DigitManipulationIssue :=
  (if m.stripDigits < 0 then [.negativeStrip]
    else if maxStripDigits < m.stripDigits then [.stripTooLarge m.stripDigits] else []) ++
  (if isPrependText (m.prependDigits.getD []) then []
    else [.invalidPrepend (m.prependDigits.getD [])])

/-- `slice(start)`, where a negative start counts from the end. -/
def sliceFrom (start : Int) (s : JsString) : JsString :=
  if 0 ≤ start then s.drop start.toNat else s.drop (s.length - (-start).toNat)

def applyDigitManipulation (m : DigitManipulation) (dialed : JsString) : Option JsString :=
  if (dialed.length : Int) < m.stripDigits then none
  else
    let result := m.prependDigits.getD [] ++ sliceFrom m.stripDigits dialed
    if result.length = 0 then none else some result

end OptimiqVoice.Routing

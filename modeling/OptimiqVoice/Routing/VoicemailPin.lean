import OptimiqVoice.Lib.Text

namespace OptimiqVoice.Routing

open Lib

structure VoicemailPinScryptParams where
  (cost blockSize parallelism : Nat)

inductive VoicemailPinHashIssue where
  | empty | malformed | unknownScheme | invalidParams | paramsOutOfRange | invalidSalt | invalidHash

def VoicemailPinHashIssue.text : VoicemailPinHashIssue → JsString
  | .empty => lit "empty"
  | .malformed => lit "malformed"
  | .unknownScheme => lit "unknown-scheme"
  | .invalidParams => lit "invalid-params"
  | .paramsOutOfRange => lit "params-out-of-range"
  | .invalidSalt => lit "invalid-salt"
  | .invalidHash => lit "invalid-hash"

/-- One parameter `<name><digits>` with at most `width` digits. -/
def readParam (name : JsString) (width : Nat) (s : JsString) : Option Nat :=
  let digits := s.drop name.length
  if startsWith s name && digits.all isDigit && 1 ≤ digits.length && digits.length ≤ width then
    some (digitsValue digits)
  else none

variable (s : JsString)

def readParams : Option VoicemailPinScryptParams :=
  match split (unit ',') s with
  | [n, r, p] => do
    let cost ← readParam (lit "N=") 10 n
    let blockSize ← readParam (lit "r=") 4 r
    let parallelism ← readParam (lit "p=") 4 p
    pure ⟨cost, blockSize, parallelism⟩
  | _ => none

def isPowerOfTwo (n : Nat) : Bool := 0 < n && n &&& (n - 1) = 0

def paramsInRange (q : VoicemailPinScryptParams) : Bool :=
  isPowerOfTwo q.cost && 2 ≤ q.cost && q.cost ≤ 1048576 && 1 ≤ q.blockSize && q.blockSize ≤ 32 &&
    1 ≤ q.parallelism && q.parallelism ≤ 16 && 128 * q.cost * q.blockSize ≤ 67108864

def isBase64Unit (u : CodeUnit) : Bool :=
  isDigit u || (unit 'A' ≤ u && u ≤ unit 'Z') || (unit 'a' ≤ u && u ≤ unit 'z') ||
    u = unit '+' || u = unit '/'

def isBase64Text : Bool :=
  let body := s.takeWhile isBase64Unit
  let tail := s.dropWhile isBase64Unit
  1 ≤ body.length && tail.length ≤ 2 && tail.all (· = unit '=')

def base64ByteLength : Option Nat :=
  if s.length = 0 || s.length % 4 ≠ 0 || !isBase64Text s then none
  else
    let padding := if endsWith s (lit "==") then 2 else if endsWith s (lit "=") then 1 else 0
    some (s.length / 4 * 3 - padding)

/-- Why a text is not a digest; `none` when it is one. -/
def voicemailPinHashIssue (value : JsString) : Option VoicemailPinHashIssue :=
  let trimmed := trim value
  if trimmed = [] then some .empty
  else match split (unit '$') trimmed with
    | [scheme, rawParams, salt, hash] =>
      if scheme ≠ lit "scrypt" then some .unknownScheme
      else match readParams rawParams with
        | none => some .invalidParams
        | some q =>
          if !paramsInRange q then some .paramsOutOfRange
          else if !(base64ByteLength salt).any (16 ≤ ·) then some .invalidSalt
          else if base64ByteLength hash ≠ some 32 then some .invalidHash
          else none
    | _ => some .malformed

end OptimiqVoice.Routing

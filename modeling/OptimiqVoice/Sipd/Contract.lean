import Mathlib.Data.List.DropRight
import Mathlib.Tactic.Common

namespace OptimiqVoice.Sipd

/-- Text on the edge, which is valid UTF-8: the runes of a Go string. -/
abbrev GoString := List Char

/-- What the edge takes from the Go library and from its SIP and digest packages:
the case tables and the blanks of `unicode`, the digests of `crypto`, and the
reading of an Authorization header. Lowering a letter never makes one of the two
marks that divide an address, and keeps blanks blank. -/
structure Runtime where
  toLower : Char → Char
  toUpper : Char → Char
  isSpace : Char → Bool
  md5hex : GoString → GoString
  /-- The first half of the keyed digest, in hex. -/
  hmacHex : GoString → GoString → GoString
  /-- The SHA-256 sum, in hex. -/
  sha256hex : GoString → GoString
  lower_colon : ∀ c, toLower c = ':' ↔ c = ':'
  lower_at : ∀ c, toLower c = '@' ↔ c = '@'
  lower_space : ∀ c, isSpace (toLower c) = isSpace c
  space_colon : isSpace ':' = false
  space_at : isSpace '@' = false

namespace Runtime

variable (p : Runtime)

variable (s : GoString)

def lower : GoString := s.map p.toLower

def upper : GoString := s.map p.toUpper

def trimLeft : GoString := s.dropWhile p.isSpace

def trimRight : GoString := s.rdropWhile p.isSpace

def trimSpace : GoString := p.trimRight (p.trimLeft s)

end Runtime

def isTokenByte (c : Char) : Bool :=
  c == '-' || c == '_' || ('0' ≤ c && c ≤ '9') || ('A' ≤ c && c ≤ 'Z') || ('a' ≤ c && c ≤ 'z')

/-- Usable as exactly one token of a subject. -/
def isSubjectToken (value : GoString) : Bool := !value.isEmpty && value.all isTokenByte

structure SubjectTokenError where
  (role value : GoString)

def token (role value : GoString) : Except SubjectTokenError GoString :=
  if isSubjectToken value then .ok value else .error ⟨role, value⟩

/-- The normal form of an address of record, whose digest addresses it. -/
def normalized (p : Runtime) (aor : GoString) : GoString := p.lower (p.trimSpace aor)

def aorSubjectToken (p : Runtime) (aor : GoString) : Except SubjectTokenError GoString :=
  if (normalized p aor).isEmpty then .error ⟨"aor".toList, aor⟩
  else .ok ((p.sha256hex (normalized p aor)).take 32)

/-- The key of a binding in the `registrations` bucket. -/
def registrationKVKey (orgId aorHash : GoString) : Except SubjectTokenError GoString := do
  let org ← token "orgId".toList orgId
  let hash ← token "aorHash".toList aorHash
  return org ++ '.' :: hash

theorem registrationKVKey_ok {orgId aorHash key : GoString} :
    registrationKVKey orgId aorHash = .ok key ↔
      isSubjectToken orgId ∧ isSubjectToken aorHash ∧ key = orgId ++ '.' :: aorHash := by
  by_cases ho : isSubjectToken orgId <;> by_cases hh : isSubjectToken aorHash <;>
    simp [registrationKVKey, token, ho, hh, bind, Except.bind, pure, Except.pure, eq_comm]

section sample

/-- Digests in plain text, one letter with two cases and one blank. -/
def sampleRuntime : Runtime where
  toLower c := if c = 'A' then 'a' else c
  toUpper c := c
  isSpace c := c == ' '
  md5hex _ := []
  hmacHex _ _ := []
  sha256hex s := s.map fun c => if isTokenByte c then c else '_'
  lower_colon c := by by_cases h : c = 'A' <;> simp [h]
  lower_at c := by by_cases h : c = 'A' <;> simp [h]
  lower_space c := by by_cases h : c = 'A' <;> simp [h]
  space_colon := rfl
  space_at := rfl

end sample

end OptimiqVoice.Sipd

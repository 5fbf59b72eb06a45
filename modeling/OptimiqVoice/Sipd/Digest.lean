import Mathlib.Algebra.Group.Int.Defs
import Mathlib.Algebra.Group.Nat.Defs
import OptimiqVoice.Sipd.Contract

namespace OptimiqVoice.Sipd

def digitValue (c : Char) : Option Nat :=
  if '0' ≤ c && c ≤ '9' then some (c.toNat - '0'.toNat)
  else if 'a' ≤ c && c ≤ 'z' then some (c.toNat - 'a'.toNat + 10)
  else if 'A' ≤ c && c ≤ 'Z' then some (c.toNat - 'A'.toNat + 10)
  else none

def parseDigits (base : Nat) : Nat → GoString → Option Nat
  | n, [] => some n
  | n, c :: rest => do
    let d ← digitValue c
    if d < base then parseDigits base (n * base + d) rest else none

/-- `strconv.ParseInt` with 64 bits: a sign, then digits, in range. -/
def parseInt (base : Nat) (s : GoString) : Option Int := do
  let (negative, digits) := match s with
    | '-' :: rest => (true, rest)
    | '+' :: rest => (false, rest)
    | _ => (false, s)
  if digits.isEmpty then none else
  let n ← parseDigits base 0 digits
  let value : Int := if negative then -n else n
  if -2 ^ 63 ≤ value && value < 2 ^ 63 then some value else none

def atoi : GoString → Option Int := parseInt 10

structure Authorization where
  (username realm nonce uri response algorithm cnonce qop : GoString)
  nc : Nat

inductive AuthError where
  | noAuthorization
  | nonceStale
  | nonceInvalid
  | realmMismatch
  | unsupportedAlgorithm
  | badResponse
  | malformedAuthorization
deriving DecidableEq

structure Credential where
  (orgId username realm ha1 deviceId extensionId : GoString)
deriving DecidableEq

inductive LookupError where
  | notFound | disabled | lookupFailed

structure Authenticator where
  runtime : Runtime
  (realm secret : GoString)
  /-- The digest package's reading of a header value. -/
  parseCredentials : GoString → Option Authorization

namespace Authenticator

variable (a : Authenticator)

def macFor (body : GoString) : GoString := a.runtime.hmacHex a.secret body

def checkNonce (now : Int) (nonce : GoString) : Except AuthError Unit :=
  match nonce.splitOn '.' with
  | [expires, salt, mac] =>
    if a.macFor (expires ++ '.' :: salt) != mac then .error .nonceInvalid
    else match parseInt 16 expires with
      | none => .error .nonceInvalid
      | some expiry => if expiry ≤ now then .error .nonceStale else .ok ()
  | _ => .error .nonceInvalid

def parseAuthorization (value : GoString) : Except AuthError Authorization :=
  if (a.runtime.trimSpace value).isEmpty then .error .noAuthorization
  else match a.parseCredentials value with
    | none => .error .malformedAuthorization
    | some credential => .ok { credential with response := a.runtime.lower credential.response }

/-- The nonce count as the digest has it: hex, eight digits at least. -/
def countText (nc : Nat) : GoString :=
  let hex := Nat.toDigits 16 nc
  List.replicate (8 - hex.length) '0' ++ hex

def digestResponse (ha1 method uri nonce qop cnonce : GoString) (nc : Nat) : GoString :=
  let ha2 := a.runtime.md5hex (method ++ ':' :: uri)
  if qop = "auth".toList then
    a.runtime.md5hex ([':'].intercalate [ha1, nonce, countText nc, cnonce, qop, ha2])
  else a.runtime.md5hex (ha1 ++ ':' :: nonce ++ ':' :: ha2)

def verify (now : Int) (method : GoString) (auth : Authorization) (ha1 : GoString) :
    Except AuthError Unit :=
  if auth.realm ≠ a.realm then .error .realmMismatch
  else if !(["".toList, "MD5".toList].contains (a.runtime.upper auth.algorithm)) then
    .error .unsupportedAlgorithm
  else do
    a.checkNonce now auth.nonce
    if a.digestResponse ha1 method auth.uri auth.nonce auth.qop auth.cnonce auth.nc = auth.response then
      .ok ()
    else .error .badResponse

end Authenticator

end OptimiqVoice.Sipd

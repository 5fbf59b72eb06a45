import OptimiqVoice.Sipd.Digest

namespace OptimiqVoice.Sipd

/-- A SIP address as the SIP package parses it: the scheme ends at the first
colon and the user part at the first at-sign. -/
structure SipUri where
  (scheme user host : GoString)
  scheme_ends : ':' ∉ scheme
  user_ends : '@' ∉ user
deriving DecidableEq

structure ContactHeader where
  /-- The address as the device wrote it. -/
  address : GoString
  wildcard : Bool
  params : List (GoString × GoString)
deriving DecidableEq

/-- What the registrar reads of a REGISTER. A header that is missing has the empty
value; a contact that is not one is `none`. -/
structure Request where
  to_ : Option SipUri
  authorization : GoString
  contacts : List (Option ContactHeader)
  (expires transport userAgent source callId : GoString)
  cseq : Option Nat
deriving DecidableEq

inductive SipTransport where
  | udp | tcp | tls | ws | wss
deriving DecidableEq

inductive Header where
  | server (value : GoString)
  | wwwAuthenticate (realm : GoString) (stale : Bool)
  | minExpires (seconds : Int)
  | expires (seconds : Int)
  | contact (address : GoString) (expires : Int)
deriving DecidableEq

structure Response where
  status : Nat
  reason : GoString
  headers : List Header
deriving DecidableEq

/-- Nanoseconds, in 64 bits. -/
def duration (seconds : Int) : Int := Int.bmod (seconds * 1000000000) (2 ^ 64)

def inSeconds (d : Int) : Int := d.tdiv 1000000000

/-- An instant in nanoseconds, cut to the millisecond. -/
def eventTime (t : Int) : Int := t - t % 1000000

structure Binding where
  (orgId aor aorHash contact : GoString)
  transport : SipTransport
  (userAgent sourceAddress deviceId extensionId callId : GoString)
  cseq : Nat
  instance_ : GoString
  (registeredAt expiresAt expiresInSeconds : Int)
deriving DecidableEq

def Binding.key (b : Binding) : Except SubjectTokenError GoString := registrationKVKey b.orgId b.aorHash

def Binding.expired (b : Binding) (now : Int) : Bool := !(now < b.expiresAt)

def Binding.registeredFor (b : Binding) (now : Int) : Int :=
  if now < b.registeredAt then 0 else now - b.registeredAt

structure ExpiryPolicy where
  (min max default_ : Int)

/-- The interval to grant, or nothing where the one asked for is too brief. -/
def ExpiryPolicy.grant (p : ExpiryPolicy) (requested : Int) (stated : Bool) : Option Int :=
  if !stated then some p.default_
  else if requested = 0 then some 0
  else if requested < p.min then none
  else if requested > p.max then some p.max
  else some requested

/-- The user part ends at the first at-sign, so nothing of the host can pass for it. -/
def SipUri.aor (p : Runtime) (uri : SipUri) : GoString :=
  (if uri.scheme.isEmpty then "sip".toList else uri.scheme) ++ ':' :: uri.user ++ '@' :: p.lower uri.host

def addressOfRecord (p : Runtime) (req : Request) : Option (GoString × GoString) := do
  let uri ← req.to_
  if uri.user.isEmpty || uri.host.isEmpty then none else some (uri.aor p, uri.user)

def expiresHeader (p : Runtime) (req : Request) : Option Int :=
  let raw := p.trimSpace req.expires
  if raw.isEmpty then none
  else match atoi raw with
    | some seconds => if seconds < 0 then none else some (duration seconds)
    | none => none

def ContactHeader.param (contact : ContactHeader) (name : GoString) : Option GoString :=
  (contact.params.find? (·.1 == name)).map (·.2)

/-- A parameter of the contact wins over the header of the request. -/
def contactExpires (p : Runtime) (contact : ContactHeader) (header : Option Int) : Option Int :=
  match (contact.param "expires".toList).bind fun raw => atoi (p.trimSpace raw) with
  | some seconds => if 0 ≤ seconds then some (duration seconds) else header
  | none => header

def paramOr (contact : ContactHeader) (name : GoString) : GoString :=
  (((contact.param name).getD []).dropWhile (· == '"')).rdropWhile (· == '"')

def transportOf (p : Runtime) (req : Request) : SipTransport :=
  let name := p.lower req.transport
  if name = "tcp".toList then .tcp
  else if name = "tls".toList then .tls
  else if name = "ws".toList then .ws
  else if name = "wss".toList then .wss
  else .udp

/-- The registrar's configuration and its account store. The account store knows one
organization for a username. -/
structure Registrar where
  auth : Authenticator
  expiry : ExpiryPolicy
  server : GoString
  lookup : GoString → Except LookupError Credential
  /-- The SIP package reads the text as an address. -/
  parsesUri : GoString → Bool
  one_account : ∀ u v c d, lookup u = .ok c → lookup v = .ok d → c.username = d.username →
    c.orgId = d.orgId

/-- What `HandleRegister` comes to before it touches the bucket. -/
inductive Verdict where
  | reply (res : Response)
  | query (orgId aorHash : GoString)
  | unbind (credential : Credential) (aor aorHash : GoString)
  | bind (credential : Credential) (aor aorHash : GoString) (contact : ContactHeader) (granted : Int)

namespace Registrar

variable (r : Registrar)

def respond (status : Nat) (reason : GoString) : Response := ⟨status, reason, [.server r.server]⟩

def badRequest : Response := r.respond 400 "Bad Request".toList

def forbidden : Response := r.respond 403 "Forbidden".toList

def serverError : Response := r.respond 500 "Server Internal Error".toList

def challenge (stale : Bool) : Response :=
  ⟨401, "Unauthorized".toList, [.wwwAuthenticate r.auth.realm stale, .server r.server]⟩

def tooBrief : Response :=
  ⟨423, "Interval Too Brief".toList, [.minExpires (inSeconds r.expiry.min)]⟩

def okWithBinding (binding : Binding) : Response :=
  let contact := if r.parsesUri binding.contact then
    [.contact binding.contact binding.expiresInSeconds] else []
  ⟨200, "OK".toList, contact ++ [.expires binding.expiresInSeconds, .server r.server]⟩

def ok : Response := r.respond 200 "OK".toList

def authorize (now : Int) (req : Request) (aorUser : GoString) : Except Response Credential :=
  match r.auth.parseAuthorization req.authorization with
  | .error .noAuthorization => .error (r.challenge false)
  | .error _ => .error r.badRequest
  | .ok auth =>
    if auth.realm ≠ r.auth.realm then .error (r.challenge false)
    else match r.auth.checkNonce now auth.nonce with
      | .error e => .error (r.challenge (e == .nonceStale))
      | .ok () =>
        if auth.username ≠ aorUser then .error r.forbidden
        else match r.lookup auth.username with
          | .error _ => .error r.forbidden
          | .ok credential =>
            match r.auth.verify now "REGISTER".toList auth credential.ha1 with
            | .error .nonceStale => .error (r.challenge true)
            | .error _ => .error r.forbidden
            | .ok () => .ok credential

/-- The part of `HandleRegister` that depends on the Contact and Expires headers. -/
def placed (req : Request) (credential : Credential) (aor aorHash : GoString) : Verdict :=
  match req.contacts with
  | [] => .query credential.orgId aorHash
  | none :: _ => .reply r.badRequest
  | some contact :: _ =>
    let header := expiresHeader r.auth.runtime req
    if contact.wildcard then
      if header = some 0 then .unbind credential aor aorHash else .reply r.badRequest
    else
      let requested := contactExpires r.auth.runtime contact header
      match r.expiry.grant (requested.getD 0) requested.isSome with
      | none => .reply r.tooBrief
      | some granted =>
        if granted = 0 then .unbind credential aor aorHash
        else .bind credential aor aorHash contact granted

def handleRegister (now : Int) (req : Request) : Verdict :=
  match addressOfRecord r.auth.runtime req with
  | none => .reply r.badRequest
  | some (aor, user) =>
    match r.authorize now req user with
    | .error res => .reply res
    | .ok credential =>
      match aorSubjectToken r.auth.runtime aor with
      | .error _ => .reply r.serverError
      | .ok aorHash => r.placed req credential aor aorHash

end Registrar

end OptimiqVoice.Sipd

import OptimiqVoice.Lib.Dict
import OptimiqVoice.Sipd.Registrar

namespace OptimiqVoice.Sipd

open Lib

/-- A binding with the revision of the bucket that holds it. The registrar keeps
the binding only; the revision tells which write a copy of it was taken from. -/
structure Copy where
  binding : Binding
  revision : Nat
deriving DecidableEq

/-- The `registrations` bucket. Every write has the next revision. -/
structure Store where
  bindings : Dict GoString Copy
  revision : Nat

/-- How an operation of the store came back. One that failed may have been applied. -/
inductive Outcome where
  | ok
  | failed (applied : Bool)
deriving DecidableEq

def Outcome.applied : Outcome → Bool
  | ok => true
  | failed applied => applied

namespace Store

variable (s : Store)

def get (o : Outcome) (orgId aorHash : GoString) : Option (Option Copy) :=
  match registrationKVKey orgId aorHash, o with
  | .ok key, .ok => some (s.bindings.get? key)
  | _, _ => none

def copy (binding : Binding) : Copy := ⟨binding, s.revision + 1⟩

def put (o : Outcome) (binding : Binding) : Store :=
  match binding.key with
  | .ok key =>
    if o.applied then ⟨s.bindings.set key (s.copy binding), s.revision + 1⟩ else s
  | .error _ => s

def delete (o : Outcome) (orgId aorHash : GoString) : Store :=
  match registrationKVKey orgId aorHash with
  | .ok key => if o.applied then { s with bindings := s.bindings.erase key } else s
  | .error _ => s

end Store

/-- Whether a write or a deletion under the key answers without an error. -/
def Outcome.accepted (o : Outcome) (orgId aorHash : GoString) : Bool :=
  o = .ok && (registrationKVKey orgId aorHash).isOk

theorem Outcome.accepted_ok {orgId aorHash key : GoString} (h : registrationKVKey orgId aorHash = .ok key) :
    Outcome.ok.accepted orgId aorHash := by
  rw [accepted, h]
  rfl

inductive Effect where
  | respond (res : Response)
  | registered (binding : Binding) (refreshed : Bool) (time : Int)
  | unregistered (previous : Binding) (time : Int)

/-- Where the handling of a REGISTER stands: before the operation it makes next. -/
inductive Handling where
  | reading (req : Request) (credential : Credential) (aor aorHash : GoString)
      (contact : ContactHeader) (granted start : Int)
  | storing (binding : Binding) (existed : Bool) (start : Int)
  | tracking (copy : Copy) (existed : Bool) (start : Int)
  | announcing (binding : Binding) (existed : Bool) (start : Int)
  | looking (credential : Credential) (aorHash : GoString)
  | deleting (credential : Credential) (aorHash : GoString) (previous : Option Binding)
  | untracking (credential : Credential) (aorHash : GoString) (previous : Option Binding)
  | withdrawing (previous : Option Binding)
  | querying (orgId aorHash : GoString)
deriving DecidableEq

structure Turn where
  store : Store
  tracked : Dict GoString Copy
  next : Option Handling
  effects : List Effect

namespace Registrar

variable (r : Registrar)

/-- `HandleRegister` up to its first operation on the bucket, with the instant at
which `bind` reads the clock. -/
def begin (now start : Int) (req : Request) : Except Response Handling :=
  match r.handleRegister now req with
  | .reply res => .error res
  | .query orgId aorHash => .ok (.querying orgId aorHash)
  | .unbind credential _ aorHash => .ok (.looking credential aorHash)
  | .bind credential aor aorHash contact granted =>
    .ok (.reading req credential aor aorHash contact granted start)

def bindingFor (req : Request) (credential : Credential) (aor aorHash : GoString)
    (contact : ContactHeader) (granted start : Int) (previous : Option Binding) : Binding where
  orgId := credential.orgId
  aor := aor
  aorHash := aorHash
  contact := contact.address
  transport := transportOf r.auth.runtime req
  userAgent := req.userAgent
  sourceAddress := req.source
  deviceId := credential.deviceId
  extensionId := credential.extensionId
  callId := req.callId
  cseq := req.cseq.getD 0
  instance_ := paramOr contact "+sip.instance".toList
  -- a refresh keeps the instant of the first registration
  registeredAt := eventTime ((previous.map Binding.registeredAt).getD start)
  expiresAt := eventTime (start + granted)
  expiresInSeconds := inSeconds granted

/-- The next operation of a handling. `now` is the clock. -/
def advance (now : Int) (o : Outcome) (s : Store) (tracked : Dict GoString Copy) : Handling → Turn
  | .reading req credential aor aorHash contact granted start =>
    match s.get o credential.orgId aorHash with
    | none => ⟨s, tracked, none, [.respond r.serverError]⟩
    | some found =>
      let binding := r.bindingFor req credential aor aorHash contact granted start (found.map Copy.binding)
      ⟨s, tracked, some (.storing binding found.isSome start), []⟩
  | .storing binding existed start =>
    if o.accepted binding.orgId binding.aorHash then
      ⟨s.put o binding, tracked, some (.tracking (s.copy binding) existed start), []⟩
    else ⟨s.put o binding, tracked, none, [.respond r.serverError]⟩
  | .tracking copy existed start =>
    match copy.binding.key with
    | .ok key => ⟨s, tracked.set key copy, some (.announcing copy.binding existed start), []⟩
    | .error _ => ⟨s, tracked, some (.announcing copy.binding existed start), []⟩
  | .announcing binding existed start =>
    -- a registration that cannot be announced stands all the same
    let published := if o.applied then [.registered binding existed start] else []
    ⟨s, tracked, none, published ++ [.respond (r.okWithBinding binding)]⟩
  | .looking credential aorHash =>
    match s.get o credential.orgId aorHash with
    | none => ⟨s, tracked, none, [.respond r.serverError]⟩
    | some found => ⟨s, tracked, some (.deleting credential aorHash (found.map Copy.binding)), []⟩
  | .deleting credential aorHash previous =>
    if o.accepted credential.orgId aorHash then
      ⟨s.delete o credential.orgId aorHash, tracked, some (.untracking credential aorHash previous), []⟩
    else ⟨s.delete o credential.orgId aorHash, tracked, none, [.respond r.serverError]⟩
  | .untracking credential aorHash previous =>
    match registrationKVKey credential.orgId aorHash with
    | .ok key => ⟨s, tracked.erase key, some (.withdrawing previous), []⟩
    | .error _ => ⟨s, tracked, some (.withdrawing previous), []⟩
  | .withdrawing previous =>
    let published := match previous with
      | some binding => if o.applied then [.unregistered binding now] else []
      | none => []
    ⟨s, tracked, none, published ++ [.respond r.ok]⟩
  | .querying orgId aorHash =>
    match s.get o orgId aorHash with
    | none => ⟨s, tracked, none, [.respond r.serverError]⟩
    | some none => ⟨s, tracked, none, [.respond r.ok]⟩
    | some (some copy) => ⟨s, tracked, none, [.respond (r.okWithBinding copy.binding)]⟩

end Registrar

end OptimiqVoice.Sipd

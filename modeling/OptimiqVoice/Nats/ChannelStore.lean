import Mathlib.Logic.Function.Basic
import OptimiqVoice.Calls.ChannelAggregate
import OptimiqVoice.Lib.Broker
import OptimiqVoice.Lib.Machine

namespace OptimiqVoice.Nats

open Lib Calls

def channelOwnershipLeaseMs : Int := 90000

structure ChannelOwnership where
  instanceId : JsString
  expiresAt : Int

def channelOwnershipOf (snapshot : ChannelSnapshot) : Option ChannelOwnership :=
  match snapshot.vars.ownerInstanceId.map trim, snapshot.vars.ownerExpiresAt with
  | some instanceId, some expiresAt => if instanceId = [] then none else some ⟨instanceId, expiresAt⟩
  | _, _ => none

def withChannelOwnership (snapshot : ChannelSnapshot) (instanceId : JsString) (expiresAt : Int) :
    ChannelSnapshot :=
  { snapshot with
    vars := { snapshot.vars with ownerInstanceId := some instanceId, ownerExpiresAt := some expiresAt } }

/-- The operations of the service on one key, each with the time it was asked for.
Mirroring a snapshot is to persist it and drop the result. -/
inductive ChannelOp where
  | claimChannel (snapshot : ChannelSnapshot) (now : Int)
  | adoptChannel (now : Int)
  | renewChannel (snapshot : ChannelSnapshot) (now : Int)
  | persistChannel (snapshot : ChannelSnapshot) (now : Int)
  | deleteChannel
  | releaseChannelOwnership

inductive ChannelOutcome where
  | claimed
  | owned
  | renewed
  | lost
  | unavailable
  | persisted (acknowledged : Bool)
  | done

/-- Which operation a write of the key belongs to. -/
inductive WriteKind where
  | claim
  | adopt
  | renew
  | persist
  | delete
deriving DecidableEq

/-- The writes that make an instance the owner of an entry it did not own. -/
def WriteKind.isAcquisition : WriteKind → Bool
  | claim => true
  | adopt => true
  | _ => false

/-- What an operation that waits for the broker goes on with. -/
inductive Waiting where
  | creating (now : Int)
  | reading (now : Int) (allowSameOwner : Bool)
  | adopting (expiresAt : Int)
  | renewing (expiresAt : Int)
  | persisting (expiresAt : Int)
  | deleting
deriving DecidableEq

abbrev ChannelRequest := Request WriteKind ChannelSnapshot

inductive Turn where
  | ask (request : ChannelRequest) (waiting : Waiting)
  | finish (outcome : ChannelOutcome)

/-- One process's `JetStreamService`, as far as it concerns the key: its two maps,
and the operations it runs one after the other. -/
structure Instance (ι : Type) where
  channelRevision : Option Nat := none
  channelLeaseExpiry : Option Int := none
  queue : List (Nat × ChannelOp) := []
  running : Option (Nat × Call ι WriteKind ChannelSnapshot × Waiting) := none
  outcomes : List (Nat × ChannelOutcome) := []
  tickets : Nat := 0

namespace Instance

variable {ι : Type} (s : Instance ι) (self : JsString)

def rememberChannelOwnership (revision : Nat) (expiresAt : Int) : Instance ι :=
  { s with channelRevision := some revision, channelLeaseExpiry := some expiresAt }

def forgetChannelOwnership : Instance ι :=
  { s with channelRevision := none, channelLeaseExpiry := none }

/-- `serializeChannelOperation`: the operation waits for those before it. -/
def enqueue (op : ChannelOp) : Instance ι :=
  { s with queue := s.queue ++ [(s.tickets, op)], tickets := s.tickets + 1 }

def start : ChannelOp → Instance ι × Turn
  | .claimChannel snapshot now =>
    (s, .ask (.write .claim (.create (withChannelOwnership snapshot self (now + channelOwnershipLeaseMs))))
      (.creating now))
  | .adoptChannel now => (s, .ask .get (.reading now true))
  | .renewChannel snapshot now =>
    match s.channelRevision with
    | none => (s, .finish .lost)
    | some revision =>
      (s, .ask (.write .renew
        (.update (withChannelOwnership snapshot self (now + channelOwnershipLeaseMs)) revision))
        (.renewing (now + channelOwnershipLeaseMs)))
  | .persistChannel snapshot now =>
    match s.channelRevision with
    | none => (s, .finish (.persisted false))
    | some revision =>
      (s, .ask (.write .persist
        (.update (withChannelOwnership snapshot self (now + channelOwnershipLeaseMs)) revision))
        (.persisting (now + channelOwnershipLeaseMs)))
  | .deleteChannel =>
    match s.channelRevision with
    | none => (s, .finish .done)
    | some revision => (s, .ask (.write .delete (.delete revision)) .deleting)
  | .releaseChannelOwnership => (s.forgetChannelOwnership, .finish .done)

/-- The test of `adoptChannelAt` that leaves an entry with its owner. -/
def isHeld (current : ChannelSnapshot) (now : Int) (allowSameOwner : Bool) : Bool :=
  match channelOwnershipOf current with
  | none => false
  | some ownership =>
    decide (now < ownership.expiresAt) && (ownership.instanceId != self || !allowSameOwner)

/-- What an operation does with the broker's answer. No other answer is given to
the request it waits for. -/
def resume : Waiting → Answer ChannelSnapshot → Option (Instance ι × Turn)
  | .creating now, .written revision =>
    some (s.rememberChannelOwnership revision (now + channelOwnershipLeaseMs), .finish .claimed)
  | .creating now, .conflict => some (s, .ask .get (.reading now false))
  | .reading _ _, .entry none => some (s, .finish .owned)
  | .reading now allowSameOwner, .entry (some (current, revision)) =>
    if isHeld self current now allowSameOwner then some (s, .finish .owned)
    else some (s, .ask (.write .adopt
      (.update (withChannelOwnership current self (now + channelOwnershipLeaseMs)) revision))
      (.adopting (now + channelOwnershipLeaseMs)))
  | .adopting expiresAt, .written revision =>
    some (s.rememberChannelOwnership revision expiresAt, .finish .claimed)
  | .adopting _, .conflict => some (s, .finish .owned)
  | .renewing expiresAt, .written revision =>
    some (s.rememberChannelOwnership revision expiresAt, .finish .renewed)
  | .renewing _, .conflict => some (s.forgetChannelOwnership, .finish .lost)
  | .persisting expiresAt, .written revision =>
    some (s.rememberChannelOwnership revision expiresAt, .finish (.persisted true))
  | .persisting _, .conflict => some (s.forgetChannelOwnership, .finish (.persisted false))
  | .deleting, .deleted => some (s.forgetChannelOwnership, .finish .done)
  | .deleting, .conflict => some (s.forgetChannelOwnership, .finish .done)
  | _, _ => none

/-- An error that is no conflict: the request or its answer is lost, or the client
has waited too long. The service keeps what it remembers. -/
def failed : Waiting → ChannelOutcome
  | .creating _ => .unavailable
  | .reading _ _ => .unavailable
  | .adopting _ => .unavailable
  | .renewing _ => .unavailable
  | .persisting _ => .persisted false
  | .deleting => .done

section start

variable {s} {self} {snapshot : ChannelSnapshot} {now : Int} {r : Nat}

theorem start_renew_none (h : s.channelRevision = none) :
    s.start self (.renewChannel snapshot now) = (s, .finish .lost) := by
  simp [start, h]

theorem start_renew_some (h : s.channelRevision = some r) : s.start self (.renewChannel snapshot now) =
    (s, .ask (.write .renew (.update (withChannelOwnership snapshot self (now + channelOwnershipLeaseMs)) r))
      (.renewing (now + channelOwnershipLeaseMs))) := by
  simp [start, h]

theorem start_persist_none (h : s.channelRevision = none) :
    s.start self (.persistChannel snapshot now) = (s, .finish (.persisted false)) := by
  simp [start, h]

theorem start_persist_some (h : s.channelRevision = some r) : s.start self (.persistChannel snapshot now) =
    (s, .ask (.write .persist (.update (withChannelOwnership snapshot self (now + channelOwnershipLeaseMs)) r))
      (.persisting (now + channelOwnershipLeaseMs))) := by
  simp [start, h]

theorem start_delete_none (h : s.channelRevision = none) :
    s.start self .deleteChannel = (s, .finish .done) := by
  simp [start, h]

theorem start_delete_some (h : s.channelRevision = some r) :
    s.start self .deleteChannel = (s, .ask (.write .delete (.delete r)) .deleting) := by
  simp [start, h]

end start

end Instance

def ChannelOp.askedAt : ChannelOp → Option Int
  | claimChannel _ now => some now
  | adoptChannel now => some now
  | renewChannel _ now => some now
  | persistChannel _ now => some now
  | deleteChannel => none
  | releaseChannelOwnership => none

/-- The key of one leg in the `channels` bucket with all its clients. -/
structure Channels (ι : Type) where
  now : Int := 0
  broker : Broker ι WriteKind ChannelSnapshot := {}
  instances : ι → Instance ι := fun _ => {}

inductive StoreEvent (ι : Type) where
  | tick (now : Int)
  | call (i : ι) (op : ChannelOp)
  | start (i : ι)
  | execute (request : Nat)
  | answer (i : ι)
  | fail (i : ι)
  /-- The process ends; the one that takes its place remembers nothing. -/
  | crash (i : ι)

namespace Channels

variable {ι : Type} [DecidableEq ι] (ids : ι → JsString) (s : Channels ι)

def put (i : ι) (next : Instance ι) : Channels ι :=
  { s with instances := Function.update s.instances i next }

/-- The operation under the ticket goes on to its next request, or is over. -/
def turn (i : ι) (ticket : Nat) : Instance ι × Turn → Channels ι
  | (next, .ask request waiting) =>
    { s with broker := s.broker.send i request }.put i
      { next with running := some (ticket, s.broker.callOf i request, waiting) }
  | (next, .finish outcome) =>
    s.put i { next with running := none, outcomes := (ticket, outcome) :: next.outcomes }

def step : StoreEvent ι → Option (Channels ι)
  | .tick now => if s.now ≤ now then some { s with now := now } else none
  | .call i op =>
    if ∀ asked ∈ op.askedAt, asked ≤ s.now then some (s.put i ((s.instances i).enqueue op)) else none
  | .start i =>
    match (s.instances i).running, (s.instances i).queue with
    | none, (ticket, op) :: rest =>
      some (s.turn i ticket ({ s.instances i with queue := rest }.start (ids i) op))
    | _, _ => none
  | .execute request => (s.broker.execute request).map ({ s with broker := · })
  | .answer i =>
    match (s.instances i).running with
    | none => none
    | some (ticket, call, waiting) =>
      (s.broker.answerTo call).bind fun a =>
        ((s.instances i).resume (ids i) waiting a).map (s.turn i ticket)
  | .fail i =>
    match (s.instances i).running with
    | none => none
    | some (ticket, _, waiting) => some (s.turn i ticket (s.instances i, .finish (Instance.failed waiting)))
  | .crash i => some (s.put i {})

end Channels

end OptimiqVoice.Nats

import OptimiqVoice.Lib.Dict
import OptimiqVoice.Lib.Machine
import OptimiqVoice.Sipd.Contract
import OptimiqVoice.Mediad.Allocator

namespace OptimiqVoice.Mediad

open Lib
open Sipd (GoString)

inductive Mode
  | relay
  | echo
  | inactive
deriving DecidableEq

inductive EndReason
  | released
  | rtpTimeout
  | idleReaped
  | drained
deriving DecidableEq

structure AllocateOptions where
  (sessionId orgId callId legId : GoString)
  (audioPayloadType telephoneEventPayloadType : Nat)
  inactive : Bool

/-- What of a session is fixed when it is built. The serial number is its
address: no two sessions share it, also when they share their id. -/
structure Session where
  serial : Nat
  (id orgId callId legId : GoString)
  ssrc : Nat
  mode : Mode
  (audioPayloadType telephoneEventPayloadType port : Nat)
  createdAt : Int
deriving DecidableEq

structure Descriptor where
  sessionId : GoString
  (rtpPort rtcpPort ssrc : Nat)
  mode : Mode
  (audioPayloadType telephoneEventPayloadType : Nat)
deriving DecidableEq

def describe (session : Session) : Descriptor :=
  { sessionId := session.id, rtpPort := session.port, rtcpPort := session.port + 1,
    ssrc := session.ssrc, mode := session.mode, audioPayloadType := session.audioPayloadType,
    telephoneEventPayloadType := session.telephoneEventPayloadType }

/-- What of a recording is fixed when it is built. -/
structure Recording where
  serial : Nat
  ref : GoString
  session : Session
deriving DecidableEq

structure DtmfDigit where
  digit : Char
  durationMs : Nat
deriving DecidableEq

inductive Refusal
  | sessionIdRequired
  | closed
  | portsExhausted
  | noSsrc
  | bridgeIdRequired
  | bridgeNeedsTwo
  | bridgeToItself
  | unknownSession
  | codecMismatch (first second : Nat)
  | alreadyRecording
  | refRequired
  | pathRequired
  | wavFailed
deriving DecidableEq

structure Expiry where
  session : Session
  reason : EndReason
  silentFor : Int

/-- The history of an instance: the calls of its `Lifecycle`, the moments at
which its table and files changed, and those at which the answer of an
`Allocate` was settled (the spare session of one that lost is closed after that). -/
inductive Happening
  | entered (session : Session)
  | left (session : Session)
  | settled (id : GoString) (reply : Except Refusal Descriptor)
  | rtpTimedOut (session : Session) (silentFor : Int)
  | dtmfReceived (session : Session) (digit : DtmfDigit)
  | sessionEnded (session : Session) (reason : EndReason)
  | claimed (recording : Recording)
  | started (recording : Recording)
  | startRefused (ref : GoString) (refusal : Refusal)
  | fileClosed (recording : Recording)
  | recordingFinished (recording : Recording)
deriving DecidableEq

inductive Stage
  | telling
  | flushing
  | reading
  | closing (recording : Option Recording)
  | freeing (recording : Option Recording)
  | awaiting (recording : Option Recording)
  | announcing

def Stage.first : EndReason → Stage
  | .rtpTimeout => .telling
  | _ => .flushing

/-- The goroutines of an instance, each at the point it has come to. -/
inductive Task
  -- Allocate
  | checking (opts : AllocateOptions)
  | binding (opts : AllocateOptions)
  | constructing (opts : AllocateOptions) (port : Nat)
  | abandoning (port : Nat)
  | inserting (session : Session)
  | discarding (session : Session)
  | returning (session : Session)
  -- Release, ReapIdle and Drain, after they took their sessions out of the table
  | ending (victim : Expiry) (rest : List Expiry) (stage : Stage)
  -- StartRecording
  | looking (id ref path : GoString)
  | asking (session : Session) (ref path : GoString)
  | claiming (session : Session) (ref : GoString)
  | opening (recording : Recording)
  | indexing (recording : Recording)
  | watching (recording : Recording)
  -- the recorder's own goroutine
  | recording (recording : Recording)
  | clearing (recording : Recording)
  | signalling (recording : Recording)
  -- the goroutine that waits for a recorder
  | awaiting (recording : Recording)
  | finished

/-- What the world answers to a step: which sockets can be bound, what the
random source and the clock give, which digit was still open, whether the file
could be created, and whether a recorder is at one of its own limits. -/
structure Choice where
  binds : Nat → Bool
  ssrc : Option Nat
  now : Int
  digit : Option DtmfDigit
  (created atLimit : Bool)

structure Config where
  (idleAfter rtpTimeout : Int)
  echoDiagnostic : Bool

structure Manager where
  sessions : Dict GoString Session
  bridges : Dict GoString (GoString × GoString)
  recordings : Dict GoString GoString
  closed : Bool
  allocator : Allocator
  /-- the next serial number of a session, and of a recording -/
  (fresh takes : Nat)
  /-- by serial number: the peer, the last packet, the closed `done` channel, the
  recording slot -/
  peer : Nat → Option Session
  lastPacketUnixMs : Nat → Int
  isClosed : Nat → Bool
  slot : Nat → Option Recording
  /-- by serial number of the recording: a stop was asked for, the recorder is
  done, `announceOnce` has run, the file could not be created -/
  stopAsked : Nat → Bool
  isDone : Nat → Bool
  isTold : Nat → Bool
  isVoid : Nat → Bool
  tasks : List Task
  log : List Happening

variable (m : Manager) (cfg : Config)

namespace Manager

def newManager (allocator : Allocator) : Manager :=
  { sessions := .empty, bridges := .empty, recordings := .empty, closed := false,
    allocator := allocator, fresh := 0, takes := 0, peer := fun _ => none, lastPacketUnixMs := fun _ => 0,
    isClosed := fun _ => false, slot := fun _ => none, stopAsked := fun _ => false,
    isDone := fun _ => false, isTold := fun _ => false, isVoid := fun _ => false,
    tasks := [], log := [] }

def tell (happening : Happening) : Manager := { m with log := m.log ++ [happening] }

def spawn (task : Task) : Manager := { m with tasks := m.tasks ++ [task] }

def setPeer (session : Session) (peer : Option Session) : Manager :=
  { m with peer := Function.update m.peer session.serial peer }

variable (id : GoString)

def clearPeer : Manager :=
  match m.sessions.get? id with
  | some session => m.setPeer session none
  | none => m

variable (bridgeId : GoString)

def detachLocked (pair : GoString × GoString) : Manager :=
  let m := (m.clearPeer pair.1).clearPeer pair.2
  { m with bridges := m.bridges.erase bridgeId }

def names (pair : GoString × GoString) : Bool := pair.1 == id || pair.2 == id

def unbridgeSessionLocked : Manager :=
  match m.bridges.entries.find? (fun entry => names id entry.2) with
  | some (bridgeId, pair) => m.detachLocked bridgeId pair
  | none => m

def bridge (first second : GoString) : Except Refusal Manager :=
  if bridgeId = [] then .error .bridgeIdRequired
  else if first = [] ∨ second = [] then .error .bridgeNeedsTwo
  else if first = second then .error .bridgeToItself
  else if m.closed then .error .closed
  else
    match m.sessions.get? first, m.sessions.get? second with
    | none, _ => .error .unknownSession
    | _, none => .error .unknownSession
    | some a, some b =>
      if a.audioPayloadType ≠ b.audioPayloadType then
        .error (.codecMismatch a.audioPayloadType b.audioPayloadType)
      else
        let m := (m.unbridgeSessionLocked first).unbridgeSessionLocked second
        let m := (m.setPeer a (some b)).setPeer b (some a)
        .ok { m with bridges := m.bridges.set bridgeId (first, second) }

def unbridge : Manager × Option (GoString × GoString) :=
  match m.bridges.get? bridgeId with
  | none => (m, none)
  | some pair => (m.detachLocked bridgeId pair, some pair)

/-- Delete a session from the table, with whatever bridge it is in. -/
def takeOut (session : Session) : Manager :=
  ({ m with sessions := m.sessions.erase id }.unbridgeSessionLocked id).tell (.left session)

def endAll : List Expiry → Manager
  | [] => m
  | victim :: rest => m.spawn (.ending victim rest (Stage.first victim.reason))

def release : Manager × Bool :=
  match m.sessions.get? id with
  | none => (m, false)
  | some session => ((m.takeOut id session).endAll [⟨session, .released, 0⟩], true)

def idle (now : Int) (session : Session) : Int :=
  if m.lastPacketUnixMs session.serial = 0 then now - session.createdAt
  else now - m.lastPacketUnixMs session.serial

/-- Why the reaper takes a session, if it does. -/
def verdict (m : Manager) (now : Int) (session : Session) : Option Expiry :=
  let idle := m.idle now session
  let heardSomething := m.lastPacketUnixMs session.serial ≠ 0
  if heardSomething ∧ cfg.rtpTimeout > 0 ∧ idle > cfg.rtpTimeout then
    some ⟨session, .rtpTimeout, idle⟩
  else if ¬heardSomething ∧ cfg.idleAfter > 0 ∧ idle > cfg.idleAfter then
    some ⟨session, .idleReaped, idle⟩
  else none

/-- The sweep of `ReapIdle` over the entries it ranges over. -/
def collect (cfg : Config) (now : Int) :
    List (GoString × Session) → Manager → Manager × List Expiry
  | [], m => (m, [])
  | (id, session) :: rest, m =>
    match m.verdict cfg now session with
    | none => collect cfg now rest m
    | some expiry =>
      let (m, stale) := collect cfg now rest (m.takeOut id session)
      (m, expiry :: stale)

def reapIdle (m : Manager) (now : Int) : Manager :=
  if cfg.idleAfter ≤ 0 ∧ cfg.rtpTimeout ≤ 0 then m
  else
    let (m, stale) := collect cfg now m.sessions.entries m
    m.endAll stale

def drain : Manager :=
  if m.closed then m
  else
    let live := m.sessions.values
    { m with
      closed := true, sessions := .empty, bridges := .empty,
      log := m.log ++ live.map Happening.left }.endAll (live.map fun session => ⟨session, .drained, 0⟩)

/-- `announceRecording`: the reference leaves the index and the recording is
announced, both once. -/
def announceRecording (r : Recording) : Manager :=
  if m.isTold r.serial then m
  else
    let recordings := if m.recordings.get? r.ref = some r.session.id then m.recordings.erase r.ref
      else m.recordings
    { m with recordings := recordings, isTold := Function.update m.isTold r.serial true }.tell
      (.recordingFinished r)

/-- Everything a step of one goroutine brings about: the manager, where the
goroutine stands then, and the goroutines it started. -/
abbrev Move := Manager × Task × List Task

def newSession (serial : Nat) (opts : AllocateOptions) (port ssrc : Nat)
    (now : Int) : Session :=
  { serial := serial, id := opts.sessionId, orgId := opts.orgId, callId := opts.callId,
    legId := opts.legId, ssrc := ssrc,
    mode := if opts.inactive then .inactive else if cfg.echoDiagnostic then .echo else .relay,
    audioPayloadType := opts.audioPayloadType,
    telephoneEventPayloadType := opts.telephoneEventPayloadType, port := port, createdAt := now }

def settle (reply : Except Refusal Descriptor) (task : Task) : Move :=
  (m.tell (.settled id reply), task, [])

def check (opts : AllocateOptions) : Move :=
  if m.closed then m.settle opts.sessionId (.error .closed) .finished
  else
    match m.sessions.get? opts.sessionId with
    | some existing => m.settle opts.sessionId (.ok (describe existing)) .finished
    | none => (m, .binding opts, [])

variable (c : Choice)

def bind (m : Manager) (opts : AllocateOptions) : Move :=
  match m.allocator.allocate c.binds with
  | (none, allocator) =>
    { m with allocator := allocator }.settle opts.sessionId (.error .portsExhausted) .finished
  | (some port, allocator) => ({ m with allocator := allocator }, .constructing opts port, [])

def construct (m : Manager) (opts : AllocateOptions) (port : Nat) :
    Move :=
  match c.ssrc with
  | none => m.settle opts.sessionId (.error .noSsrc) (.abandoning port)
  | some ssrc =>
    ({ m with fresh := m.fresh + 1 },
      .inserting (newSession cfg m.fresh opts port ssrc c.now), [])

def insert (session : Session) : Move :=
  if m.closed then m.settle session.id (.error .closed) (.discarding session)
  else
    match m.sessions.get? session.id with
    | some existing => m.settle session.id (.ok (describe existing)) (.discarding session)
    | none =>
      let m := { m with sessions := m.sessions.set session.id session }.tell (.entered session)
      m.settle session.id (.ok (describe session)) .finished

/-- One step of a goroutine that closes and announces sessions. -/
def finish (m : Manager) (victim : Expiry) (rest : List Expiry) :
    Stage → Option Move
  | .telling =>
    some (m.tell (.rtpTimedOut victim.session victim.silentFor), .ending victim rest .flushing, [])
  | .flushing =>
    let m := match c.digit with
      | some digit => m.tell (.dtmfReceived victim.session digit)
      | none => m
    some (m, .ending victim rest .reading, [])
  | .reading => some (m, .ending victim rest (.closing (m.slot victim.session.serial)), [])
  | .closing recording =>
    if m.isClosed victim.session.serial then some (m, .ending victim rest (.awaiting recording), [])
    else
      some ({ m with isClosed := Function.update m.isClosed victim.session.serial true },
        .ending victim rest (.freeing recording), [])
  | .freeing recording =>
    some ({ m with allocator := m.allocator.release victim.session.port },
      .ending victim rest (.awaiting recording), [])
  | .awaiting none => some (m, .ending victim rest .announcing, [])
  | .awaiting (some r) =>
    -- a recorder that never came to run signals nothing, and the bounded wait passes
    if m.isDone r.serial then some (m.announceRecording r, .ending victim rest .announcing, [])
    else if m.isVoid r.serial then some (m, .ending victim rest .announcing, [])
    else none
  | .announcing =>
    let m := m.tell (.sessionEnded victim.session victim.reason)
    match rest with
    | [] => some (m, .finished, [])
    | next :: rest => some (m, .ending next rest (Stage.first next.reason), [])

def refuseStart (ref : GoString) (refusal : Refusal) : Move :=
  (m.tell (.startRefused ref refusal), .finished, [])

def lookUp (ref path : GoString) : Move :=
  if m.closed then m.refuseStart ref .closed
  else if m.recordings.has ref then m.refuseStart ref .alreadyRecording
  else
    match m.sessions.get? id with
    | none => m.refuseStart ref .unknownSession
    | some session => (m, .asking session ref path, [])

def ask (session : Session) (ref path : GoString) : Move :=
  if ref = [] then m.refuseStart ref .refRequired
  else if path = [] then m.refuseStart ref .pathRequired
  else if m.isClosed session.serial then m.refuseStart ref .unknownSession
  else (m, .claiming session ref, [])

def claim (session : Session) (ref : GoString) : Move :=
  match m.slot session.serial with
  | some _ => m.refuseStart ref .alreadyRecording
  | none =>
    let r : Recording := ⟨m.takes, ref, session⟩
    ({ m with takes := m.takes + 1, slot := Function.update m.slot session.serial (some r) }.tell
      (.claimed r), .opening r, [])

def clearSlot (r : Recording) : Manager :=
  if m.slot r.session.serial = some r then
    { m with slot := Function.update m.slot r.session.serial none }
  else m

/-- One step of a goroutine of the instance; `none` while it has to wait. -/
def advance (m : Manager) : Task → Option Move
  | .checking opts => some (m.check opts)
  | .binding opts => some (m.bind c opts)
  | .constructing opts port => some (m.construct cfg c opts port)
  | .abandoning port =>
    some ({ m with allocator := m.allocator.release port }, .finished, [])
  | .inserting session => some (m.insert session)
  | .discarding session =>
    if m.isClosed session.serial then some (m, .finished, [])
    else
      some ({ m with isClosed := Function.update m.isClosed session.serial true },
        .returning session, [])
  | .returning session =>
    some ({ m with allocator := m.allocator.release session.port }, .finished, [])
  | .ending victim rest stage => m.finish c victim rest stage
  | .looking id ref path => some (m.lookUp id ref path)
  | .asking session ref path => some (m.ask session ref path)
  | .claiming session ref => some (m.claim session ref)
  | .opening r =>
    if c.created then some (m, .indexing r, [.recording r])
    else
      let m := { m with isVoid := Function.update m.isVoid r.serial true }.clearSlot r
      some (m.refuseStart r.ref .wavFailed)
  | .indexing r =>
    some ({ m with recordings := m.recordings.set r.ref r.session.id }, .watching r, [])
  | .watching r => some (m.tell (.started r), .finished, [.awaiting r])
  | .recording r =>
    if c.atLimit || m.stopAsked r.serial || m.isClosed r.session.serial then
      some (m.tell (.fileClosed r), .clearing r, [])
    else none
  | .clearing r => some (m.clearSlot r, .signalling r, [])
  | .signalling r =>
    some ({ m with isDone := Function.update m.isDone r.serial true }, .finished, [])
  | .awaiting r => if m.isDone r.serial then some (m.announceRecording r, .finished, []) else none
  | .finished => none

end Manager

inductive Event
  | allocate (opts : AllocateOptions)
  | release (id : GoString)
  | bridge (bridgeId first second : GoString)
  | unbridge (bridgeId : GoString)
  | reapIdle (now : Int)
  | drain
  | packet (session : Session) (now : Int) (digits : List DtmfDigit)
  | startRecording (id ref path : GoString)
  | stopRecording (ref : GoString)
  | advance (n : Nat) (c : Choice)

namespace Manager

/-- `StopRecording`: the reference is looked up in the index, and only a
recording of that very reference is asked to stop. -/
def stopRecording (ref : GoString) : Manager :=
  match (m.recordings.get? ref).bind m.sessions.get? with
  | none => m
  | some session =>
    match m.slot session.serial with
    | some r => if r.ref = ref then { m with stopAsked := Function.update m.stopAsked r.serial true } else m
    | none => m

/-- A packet the session's read loop accepted, with the digits it completed. -/
def hear (session : Session) (now : Int) (digits : List DtmfDigit) : Manager :=
  { m with
    lastPacketUnixMs := Function.update m.lastPacketUnixMs session.serial now,
    log := m.log ++ digits.map (Happening.dtmfReceived session) }

/-- The goroutine goes on to its next point and has started others. -/
def goOn (n : Nat) (task : Task) (started : List Task) : Manager :=
  { m with tasks := m.tasks.set n task ++ started }

def step (m : Manager) : Event → Option Manager
  | .allocate opts =>
    if opts.sessionId = [] then some (m.tell (.settled [] (.error .sessionIdRequired)))
    else some (m.spawn (.checking opts))
  | .release id => some (m.release id).1
  | .bridge bridgeId first second =>
    match m.bridge bridgeId first second with
    | .ok m => some m
    | .error _ => some m
  | .unbridge bridgeId => some (m.unbridge bridgeId).1
  | .reapIdle now => some (m.reapIdle cfg now)
  | .drain => some m.drain
  | .packet session now digits =>
    -- the read loop runs from the moment the session is in the table until it is closed
    if Happening.entered session ∈ m.log ∧ ¬m.isClosed session.serial then some (m.hear session now digits)
    else none
  | .startRecording id ref path => some (m.spawn (.looking id ref path))
  | .stopRecording ref => some (m.stopRecording ref)
  | .advance n c => do
    let task ← m.tasks[n]?
    let (m, task, started) ← m.advance cfg c task
    some (m.goOn n task started)

section samples

def sampleChoice : Choice := ⟨fun _ => true, some 7, 1000, none, true, false⟩

def sampleConfig : Config := ⟨0, 0, false⟩

def sampleAllocator : Allocator := ⟨10000, 10009, ∅, 10000⟩

/-- An `Allocate` that is the n-th goroutine of the instance, run to its end. -/
def sampleAllocate (n : Nat) (id : GoString) : List Event :=
  .allocate ⟨id, ['o'], ['c'], [], 0, 101, false⟩ :: List.replicate 4 (.advance n sampleChoice)

end samples

end Manager

end OptimiqVoice.Mediad

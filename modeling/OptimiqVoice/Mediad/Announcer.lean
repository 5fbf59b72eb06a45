import OptimiqVoice.Lib.Handover
import OptimiqVoice.Mediad.Manager

namespace OptimiqVoice.Mediad

open Lib
open Sipd (GoString isSubjectToken token SubjectTokenError)

/-- A session's facts as a `Lifecycle` is given them. -/
structure SessionSummary where
  (sessionId orgId callId legId : GoString)
  (rtpPort packetsReceived packetsSent : Nat)
  /-- in nanoseconds -/
  duration : Int
  remoteAddr : GoString

inductive PlaybackEndReason
  | completed
  | stopped
  | error

structure PlaybackSummary where
  ref : GoString
  reason : PlaybackEndReason
  playedMs : Nat
  detail : GoString

inductive RecordingDirection
  | receive
  | both

inductive RecordingEndReason
  | stopped
  | maxDuration
  | maxSilence
  | sessionEnded
  | error

structure RecordingSummary where
  (ref objectKey : GoString)
  direction : RecordingDirection
  reason : RecordingEndReason
  (durationMs bytes : Nat)
  detail : GoString

/-- The calls of the packet path's `Lifecycle`. -/
inductive Call
  | sessionEnded (session : SessionSummary) (reason : EndReason)
  | rtpTimedOut (session : SessionSummary) (silentFor : Int)
  | playbackFinished (session : SessionSummary) (playback : PlaybackSummary)
  | recordingFinished (session : SessionSummary) (recording : RecordingSummary)
  | dtmfReceived (session : SessionSummary) (digit : DtmfDigit)

inductive EventType
  | sessionEnded
  | sessionRtpTimeout
  | playbackFinished
  | recordingFinished
  | dtmfReceived

def EventType.name : EventType → GoString
  | .sessionEnded => "session.ended".toList
  | .sessionRtpTimeout => "session.rtp-timeout".toList
  | .playbackFinished => "playback.finished".toList
  | .recordingFinished => "recording.finished".toList
  | .dtmfReceived => "dtmf.received".toList

/-- What each type of event tells, besides the session it is about. -/
inductive EventBody
  | sessionEnded (rtpPort packetsReceived packetsSent : Nat) (reason : EndReason) (durationMs : Int)
  | sessionRtpTimeout (rtpPort packetsReceived packetsSent : Nat) (silentForMs : Int)
      (remoteAddress : Option GoString)
  | playbackFinished (playbackRef : GoString) (reason : PlaybackEndReason) (playedMs : Nat)
      (detail : Option GoString)
  | recordingFinished (recordingRef : GoString) (reason : RecordingEndReason) (durationMs bytes : Nat)
      (objectKey : GoString) (direction : RecordingDirection) (detail : Option GoString)
  | dtmfReceived (digit : Char) (durationMs : Nat)

structure EventData where
  (sessionId instanceId : GoString)
  (callId legId : Option GoString)
  body : EventBody

structure Envelope where
  id : GoString
  time : Int
  (orgId subject : GoString)
  type : EventType
  source : GoString
  data : EventData

def isEventName (value : GoString) : Bool := !value.isEmpty && (value.splitOn '.').all isSubjectToken

def eventName (value : GoString) : Except SubjectTokenError GoString :=
  if isEventName value then .ok value else .error ⟨"event".toList, value⟩

def mediaSubject (orgId sessionId event : GoString) : Except SubjectTokenError GoString := do
  let org ← token "orgId".toList orgId
  let session ← token "sessionId".toList sessionId
  let name ← eventName event
  return "media.evt.v1".toList ++ '.' :: org ++ '.' :: session ++ '.' :: name

def stringPtr (value : GoString) : Option GoString := if value = [] then none else some value

def milliseconds (duration : Int) : Int := duration.tdiv 1000000

namespace Call

def session : Call → SessionSummary
  | .sessionEnded session _ => session
  | .rtpTimedOut session _ => session
  | .playbackFinished session _ => session
  | .recordingFinished session _ => session
  | .dtmfReceived session _ => session

def type : Call → EventType
  | .sessionEnded _ _ => .sessionEnded
  | .rtpTimedOut _ _ => .sessionRtpTimeout
  | .playbackFinished _ _ => .playbackFinished
  | .recordingFinished _ _ => .recordingFinished
  | .dtmfReceived _ _ => .dtmfReceived

def body : Call → EventBody
  | .sessionEnded s reason =>
    .sessionEnded s.rtpPort s.packetsReceived s.packetsSent reason (milliseconds s.duration)
  | .rtpTimedOut s silentFor =>
    .sessionRtpTimeout s.rtpPort s.packetsReceived s.packetsSent (milliseconds silentFor)
      (stringPtr s.remoteAddr)
  | .playbackFinished _ p => .playbackFinished p.ref p.reason p.playedMs (stringPtr p.detail)
  | .recordingFinished _ r =>
    .recordingFinished r.ref r.reason r.durationMs r.bytes r.objectKey r.direction (stringPtr r.detail)
  | .dtmfReceived _ d => .dtmfReceived d.digit d.durationMs

end Call

/-- What the random source and the clock give to an envelope. -/
structure Stamp where
  id : GoString
  now : Int

structure AnnouncerConfig where
  instanceId : GoString
  hasPublisher : Bool

def envelope (cfg : AnnouncerConfig) (call : Call × Stamp) : Option Envelope :=
  let session := call.1.session
  if cfg.hasPublisher = false ∨ session.orgId = [] then none
  else
    match mediaSubject session.orgId session.sessionId call.1.type.name with
    | .error _ => none
    | .ok subject => some
      { id := call.2.id, time := call.2.now, orgId := session.orgId, subject := subject,
        type := call.1.type, source := "mediad".toList, data :=
          { sessionId := session.sessionId, instanceId := cfg.instanceId,
            callId := stringPtr session.callId, legId := stringPtr session.legId,
            body := call.1.body } }

def Envelope.sessionId (e : Envelope) : GoString := e.data.sessionId

theorem sessionId_of_envelope {cfg : AnnouncerConfig} {call : Call × Stamp} {e : Envelope}
    (h : envelope cfg call = some e) : e.sessionId = call.1.session.sessionId := by
  simp only [envelope] at h
  split_ifs at h
  split at h
  · cases h
  · cases h
    rfl

/-- The announcer: the calls it was given, and the goroutines that publish. -/
structure LifecycleAnnouncer where
  calls : List (Call × Stamp)
  desk : Handover Envelope

namespace LifecycleAnnouncer

def new : LifecycleAnnouncer := ⟨[], ⟨[], []⟩⟩

inductive Event
  | call (call : Call) (stamp : Stamp)
  | publish (n : Nat)

def step (cfg : AnnouncerConfig) (a : LifecycleAnnouncer) : Event → Option LifecycleAnnouncer
  | .call call stamp =>
    some ⟨a.calls ++ [(call, stamp)],
      match envelope cfg (call, stamp) with
      | none => a.desk
      | some e => a.desk.post e⟩
  | .publish n => (a.desk.pass n).map fun desk => { a with desk := desk }

def published (a : LifecycleAnnouncer) : List Envelope := a.desk.through

def announced (cfg : AnnouncerConfig) (a : LifecycleAnnouncer) : List Envelope :=
  a.calls.filterMap (envelope cfg)

def ofSession (id : GoString) (events : List Envelope) : List Envelope :=
  Handover.ofKey Envelope.sessionId id events

def digits (id : GoString) (events : List Envelope) : List Char :=
  (ofSession id events).filterMap fun e =>
    match e.data.body with
    | .dtmfReceived digit _ => some digit
    | _ => none

/-- The events of a session reach the publisher in the order of the calls: before
each of them exactly those that were announced before it, and the keys as they were
pressed; all that wait can be handed over, and then none is missing. -/
structure Ordered (cfg : AnnouncerConfig) (a : LifecycleAnnouncer) : Prop where
  precedes : ∀ before e after, a.published = before ++ e :: after →
    ∃ earlier call later, a.calls = earlier ++ call :: later ∧ envelope cfg call = some e ∧
      ofSession e.sessionId before = ofSession e.sessionId (earlier.filterMap (envelope cfg))
  pressed : ∀ id, digits id a.published <+: digits id (a.announced cfg)
  settles : ∃ es b, (∀ e ∈ es, ∃ n, e = .publish n) ∧ run (step cfg) a es = some b ∧
    b.calls = a.calls ∧ ∀ id, ofSession id b.published = ofSession id (b.announced cfg)

/-- What is asked of a step: an event is announced when no event of its session
waits to be handed over. -/
def Alone (a : LifecycleAnnouncer) (e : Event) : Prop :=
  ∀ call stamp, e = .call call stamp → ∀ w ∈ a.desk.waiting, w.sessionId ≠ call.session.sessionId

section order

variable {cfg : AnnouncerConfig} {a b : LifecycleAnnouncer} {e : Event}

/-- The publishing goroutines keep step with the calls. -/
def InStep (cfg : AnnouncerConfig) (a : LifecycleAnnouncer) : Prop :=
  Handover.InStep Envelope.sessionId (a.announced cfg) a.desk

variable (h : InStep cfg a)

include h

theorem InStep.publish {n : Nat} (hstep : a.step cfg (.publish n) = some b) :
    InStep cfg b := by
  obtain ⟨desk, hpass, rfl⟩ := Option.map_eq_some_iff.mp hstep
  exact Handover.InStep.pass h hpass

theorem InStep.step (halone : a.Alone e) (hstep : a.step cfg e = some b) :
    InStep cfg b := by
  cases e with
  | publish n => exact h.publish hstep
  | call call stamp =>
    cases hstep
    rw [InStep, announced, List.filterMap_append]
    cases he : envelope cfg (call, stamp) with
    | none => simpa [he, InStep, announced] using h
    | some e =>
      have hpost := Handover.InStep.post h (a := e) fun w hw => by
        rw [sessionId_of_envelope he]
        exact halone call stamp rfl w hw
      simpa [he, announced] using hpost

theorem InStep.initial (id : GoString) :
    ofSession id a.published <+: ofSession id (a.announced cfg) :=
  ⟨_, h.order id⟩

theorem InStep.precedes {before after : List Envelope} {e : Envelope}
    (heq : a.published = before ++ e :: after) :
    ∃ earlier call later, a.calls = earlier ++ call :: later ∧ envelope cfg call = some e ∧
      ofSession e.sessionId before = ofSession e.sessionId (earlier.filterMap (envelope cfg)) := by
  obtain ⟨rest, hrest⟩ := h.initial e.sessionId
  have hsplit : ofSession e.sessionId (a.announced cfg) =
      ofSession e.sessionId before ++ e :: (ofSession e.sessionId after ++ rest) := by
    rw [← hrest, heq, ofSession, ofSession, ofSession, Handover.ofKey_append, Handover.ofKey_cons, if_pos rfl]
    simp
  obtain ⟨front, back, hannounced, hfront, hback⟩ := List.filter_eq_append_iff.mp hsplit
  obtain ⟨skipped, later, rfl, hskipped, -, -⟩ := List.filter_eq_cons_iff.mp hback
  rw [← List.append_assoc] at hannounced
  obtain ⟨earlier, more, hcalls, hearlier, hmore⟩ := List.filterMap_eq_append_iff.mp hannounced
  obtain ⟨unsent, call, rest', rfl, hunsent, hcall, -⟩ := List.filterMap_eq_cons_iff.mp hmore
  refine ⟨earlier ++ unsent, call, rest', by rw [hcalls, List.append_assoc], hcall, ?_⟩
  have hnone : unsent.filterMap (envelope cfg) = [] := List.filterMap_eq_nil_iff.mpr hunsent
  rw [List.filterMap_append, hearlier, hnone, List.append_nil, ofSession, ofSession,
    Handover.ofKey_append]
  have hskip : Handover.ofKey Envelope.sessionId e.sessionId skipped = [] :=
    List.filter_eq_nil_iff.mpr hskipped
  rw [hskip, List.append_nil]
  exact hfront.symm

theorem InStep.settles :
    ∃ es b, (∀ e ∈ es, ∃ n, e = .publish n) ∧ run (LifecycleAnnouncer.step cfg) a es = some b ∧
      b.calls = a.calls ∧ ∀ id, ofSession id b.published = ofSession id (b.announced cfg) := by
  obtain ⟨calls, waiting, through⟩ := a
  induction waiting generalizing through with
  | nil =>
    refine ⟨[], _, by simp, rfl, rfl, fun id => ?_⟩
    simpa [ofSession, published] using h.order id
  | cons e waiting ih =>
    have hstep : (⟨calls, ⟨e :: waiting, through⟩⟩ : LifecycleAnnouncer).step cfg (.publish 0) =
        some ⟨calls, ⟨waiting, through ++ [e]⟩⟩ := rfl
    obtain ⟨es, b, hes, hrun, hcalls, hall⟩ := ih (through ++ [e]) (h.publish hstep)
    refine ⟨.publish 0 :: es, b, ?_, run_cons.mpr ⟨_, hstep, hrun⟩, hcalls, hall⟩
    intro e' he'
    obtain rfl | he' := List.mem_cons.mp he'
    · exact ⟨0, rfl⟩
    · exact hes e' he'

end order

/-- In every run in which each event is announced alone, the events of every
session keep their order. -/
theorem ordered_of_run (cfg : AnnouncerConfig) (es : List Event) (a : LifecycleAnnouncer)
    (halone : Meets (step cfg) Alone new es) (hrun : run (step cfg) new es = some a) :
    Ordered cfg a := by
  have h : InStep cfg a := by
    refine run_keeps_of (InStep cfg) ?_ halone Handover.inStep_nil hrun
    intro a e b hC h hstep
    exact h.step hC hstep
  refine ⟨fun _ _ _ heq => h.precedes heq, ?_, h.settles⟩
  intro id
  exact (h.initial id).filterMap _

section samples

def sampleAnnouncer : AnnouncerConfig := ⟨['i'], true⟩

def sampleSummary : SessionSummary := ⟨['s'], ['o'], ['c'], [], 10000, 5, 5, 1000, []⟩

def sampleStamp : Stamp := ⟨['e'], 0⟩

def oneByOne : List Event :=
  [.call (.dtmfReceived sampleSummary ⟨'1', 100⟩) sampleStamp, .publish 0,
    .call (.dtmfReceived sampleSummary ⟨'2', 100⟩) sampleStamp, .publish 0]

/-- The goroutine of the second key comes first. -/
def overtaken : List Event :=
  [.call (.dtmfReceived sampleSummary ⟨'1', 100⟩) sampleStamp,
    .call (.dtmfReceived sampleSummary ⟨'2', 100⟩) sampleStamp, .publish 1, .publish 0]

def alone (a : LifecycleAnnouncer) : Event → Bool
  | .call call _ => a.desk.waiting.all fun w => w.sessionId != call.session.sessionId
  | .publish _ => true

theorem ordered_oneByOne :
    ∃ a, run (step sampleAnnouncer) new oneByOne = some a ∧ digits ['s'] a.published = ['1', '2'] ∧
      Ordered sampleAnnouncer a := by
  have hcheck : (run (step sampleAnnouncer) new oneByOne).any
      (fun a => digits ['s'] a.published == ['1', '2']) = true := by decide
  have halone : checks (step sampleAnnouncer) alone new oneByOne := by decide
  obtain ⟨a, hrun, ha⟩ := (Option.any_eq_true _ _).mp hcheck
  refine ⟨a, hrun, beq_iff_eq.mp ha, ordered_of_run sampleAnnouncer oneByOne a ?_ hrun⟩
  refine meets_of_checks ?_ halone
  rintro a _ h call stamp rfl
  simpa [alone] using h

/-- The keys arrive in the wrong order. -/
theorem digits_overtaken :
    ∃ a, run (step sampleAnnouncer) new overtaken = some a ∧ ¬Ordered sampleAnnouncer a := by
  have hcheck : (run (step sampleAnnouncer) new overtaken).any (fun a =>
      digits ['s'] a.published == ['2', '1'] &&
        digits ['s'] (a.announced sampleAnnouncer) == ['1', '2']) = true := by decide
  obtain ⟨a, hrun, ha⟩ := (Option.any_eq_true _ _).mp hcheck
  simp only [Bool.and_eq_true, beq_iff_eq] at ha
  refine ⟨a, hrun, fun hordered => ?_⟩
  have hpressed := hordered.pressed ['s']
  rw [ha.1, ha.2] at hpressed
  exact absurd hpressed (by decide)

end samples

end LifecycleAnnouncer

end OptimiqVoice.Mediad

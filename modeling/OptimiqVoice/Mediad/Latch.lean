import OptimiqVoice.Mediad.Manager

namespace OptimiqVoice.Mediad

open Sipd (GoString)

structure UDPAddr where
  ip : List UInt8
  port : Nat
  zone : GoString

def v4InV6 : List UInt8 := List.replicate 10 0 ++ [0xff, 0xff]

def ipEqual (ip x : List UInt8) : Bool :=
  if ip.length = x.length then ip == x
  else if ip.length = 4 ∧ x.length = 16 then x == v4InV6 ++ ip
  else ip.length == 16 && x.length == 4 && ip == v4InV6 ++ x

def UDPAddr.sameAs (current source : UDPAddr) : Bool :=
  ipEqual current.ip source.ip && current.port == source.port

structure RtpPacket where
  (payloadType timestamp : Nat)
  marker : Bool
  payload : List UInt8

structure OutPacket where
  (payloadType sequenceNumber timestamp ssrc : Nat)
  marker : Bool
  payload : List UInt8

/-- The counters, but for the packets that were refused. -/
structure Stats where
  (packetsReceived packetsSent bytesReceived unsupportedPT : Nat)
  (suppressedByPlayback suppressedByDtmf dtmfPacketsReceived dtmfDigitsReceived : Nat)
  lastPacketUnixMs : Int

/-- What a session rests on: the packet library, its socket and its digit detector. -/
structure Media (D : Type) where
  unmarshal : List UInt8 → Option RtpPacket
  marshals : OutPacket → Bool
  writes : UDPAddr → OutPacket → Bool
  expire : D → Int → D × List DtmfDigit
  observe : D → List UInt8 → Nat → Int → D × List DtmfDigit

/-- A session with what its packets change of it. -/
structure Leg (D : Type) where
  session : Session
  remote : Option UDPAddr
  (sequence lastTimestamp : Nat)
  (dtmfActive isPlaying isRecorded markNextForward : Bool)
  dtmfIn : D
  stats : Stats

inductive MediaEffect
  | written (leg : Session) (dst : UDPAddr) (packet : OutPacket)
  | recordedReceived (leg : Session) (payload : List UInt8)
  | recordedSent (leg : Session) (payload : List UInt8)
  | dtmf (leg : Session) (digit : DtmfDigit)

/-- A session, the one it is bridged to, and all that came of their packets. -/
structure Bridged (D : Type) where
  leg : Leg D
  peer : Option (Leg D)
  effects : List MediaEffect

inductive DropCounter
  | malformed
  | foreignSource

variable {D : Type} (net : Media D)

namespace Leg

variable (s : Leg D)

def count (mutate : Stats → Stats) : Leg D := { s with stats := mutate s.stats }

def accepts (pt : Nat) : Bool :=
  pt == s.session.audioPayloadType ||
    s.session.telephoneEventPayloadType != 0 && pt == s.session.telephoneEventPayloadType

/-- Bind to the first source that is heard, and refuse every other one. -/
def latch (source : UDPAddr) : Option (Leg D) :=
  match s.remote with
  | some current => if current.sameAs source then some s else none
  | none => some { s with remote := some source }

def forward (packet : RtpPacket) (sourceTelephoneEventPT : Nat) : Leg D × List MediaEffect :=
  if s.dtmfActive then (s.count fun st => { st with suppressedByDtmf := st.suppressedByDtmf + 1 }, [])
  else if s.isPlaying then
    (s.count fun st => { st with suppressedByPlayback := st.suppressedByPlayback + 1 }, [])
  else match s.remote with
    | none => (s, [])
    | some dst =>
      let isEvent := sourceTelephoneEventPT != 0 && packet.payloadType == sourceTelephoneEventPT
      if isEvent && s.session.telephoneEventPayloadType == 0 then
        (s.count fun st => { st with unsupportedPT := st.unsupportedPT + 1 }, [])
      else
        let payloadType := if isEvent then s.session.telephoneEventPayloadType else packet.payloadType
        let out : OutPacket := ⟨payloadType, (s.sequence + 1) % 2 ^ 16, packet.timestamp,
          s.session.ssrc, packet.marker || s.markNextForward, packet.payload⟩
        let s := { s with
          sequence := (s.sequence + 1) % 2 ^ 32
          -- the flag is not looked at when the packet has a marker of its own
          markNextForward := packet.marker && s.markNextForward }
        if !net.marshals out then (s, [])
        else
          let s := { s with lastTimestamp := packet.timestamp }
          if !net.writes dst out then (s, [])
          else
            (s.count fun st => { st with packetsSent := st.packetsSent + 1 },
              .written s.session dst out ::
                if s.isRecorded && payloadType == s.session.audioPayloadType then
                  [.recordedSent s.session packet.payload] else [])

def echo (packet : RtpPacket) (dst : UDPAddr) : Leg D × List MediaEffect :=
  let out : OutPacket := ⟨packet.payloadType, (s.sequence + 1) % 2 ^ 16, packet.timestamp,
    s.session.ssrc, packet.marker, packet.payload⟩
  let s := { s with sequence := (s.sequence + 1) % 2 ^ 32 }
  if net.marshals out && net.writes dst out then
    (s.count fun st => { st with packetsSent := st.packetsSent + 1 }, [.written s.session dst out])
  else (s, [])

def tapDtmf (packet : RtpPacket) (now : Int) : Leg D × List MediaEffect :=
  let isEvent := s.session.telephoneEventPayloadType != 0 &&
    packet.payloadType == s.session.telephoneEventPayloadType
  let r := if isEvent then net.observe s.dtmfIn packet.payload packet.timestamp now
    else net.expire s.dtmfIn now
  let s := { s with dtmfIn := r.1 }
  (s.count fun st =>
      { st with
        dtmfPacketsReceived := st.dtmfPacketsReceived + if isEvent then 1 else 0
        dtmfDigitsReceived := st.dtmfDigitsReceived + r.2.length },
    r.2.map (.dtmf s.session))

end Leg

namespace Bridged

variable (w : Bridged D)

/-- What is done with a packet that passed the latch. -/
def takePacket (leg : Leg D) (now : Int) (size : Nat) (packet : RtpPacket) (source : UDPAddr) : Bridged D :=
  let leg := leg.count fun st =>
    { st with
      packetsReceived := st.packetsReceived + 1
      bytesReceived := st.bytesReceived + size
      lastPacketUnixMs := now }
  if !leg.accepts packet.payloadType then
    { w with leg := leg.count fun st => { st with unsupportedPT := st.unsupportedPT + 1 } }
  else
    let recorded := if leg.isRecorded && packet.payloadType == leg.session.audioPayloadType then
      [MediaEffect.recordedReceived leg.session packet.payload] else []
    let tapped := leg.tapDtmf net packet now
    let w := { w with leg := tapped.1, effects := w.effects ++ recorded ++ tapped.2 }
    match w.leg.session.mode, w.peer with
    | .echo, _ =>
      let r := w.leg.echo net packet source
      { w with leg := r.1, effects := w.effects ++ r.2 }
    | .relay, some peer =>
      let r := peer.forward net packet w.leg.session.telephoneEventPayloadType
      { w with peer := some r.1, effects := w.effects ++ r.2 }
    | _, _ => w

def handlePacket (now : Int) (raw : List UInt8) (source : UDPAddr) : Bridged D × Option DropCounter :=
  match net.unmarshal raw with
  | none => (w, some .malformed)
  | some packet =>
    match w.leg.latch source with
    | none => (w, some .foreignSource)
    | some leg => (w.takePacket net leg now raw.length packet source, none)

end Bridged

/-- Whatever else happens to the two sessions: only their own packets set where they send to. -/
structure Meanwhile (D : Type) where
  change : Bridged D → Bridged D
  remote_eq : ∀ w, (change w).leg.remote = w.leg.remote

inductive MediaEvent (D : Type)
  | datagram (now : Int) (raw : List UInt8) (source : UDPAddr)
  | meanwhile (other : Meanwhile D)

namespace MediaEvent

def apply (w : Bridged D) : MediaEvent D → Bridged D
  | .datagram now raw source => (w.handlePacket net now raw source).1
  | .meanwhile other => other.change w

def source? : MediaEvent D → Option UDPAddr
  | .datagram _ _ source => some source
  | .meanwhile _ => none

/-- Where a well-formed packet comes from. -/
def speaker? : MediaEvent D → Option UDPAddr
  | .datagram _ raw source => (net.unmarshal raw).map fun _ => source
  | .meanwhile _ => none

end MediaEvent

/-- The address of the first well-formed packet. -/
def farEnd (remote : Option UDPAddr) (events : List (MediaEvent D)) : Option UDPAddr :=
  remote.or (events.findSome? (MediaEvent.speaker? net))

def MediaEvent.isStranger (far : Option UDPAddr) (e : MediaEvent D) : Bool :=
  far.any fun a => e.source?.any fun source => !a.sameAs source

section strangers

variable {net} {w : Bridged D} {a : UDPAddr} {e : MediaEvent D}

theorem UDPAddr.sameAs_self (a : UDPAddr) : a.sameAs a = true := by
  simp [sameAs, ipEqual]

theorem latch_remote {s leg : Leg D} {source : UDPAddr} (h : s.latch source = some leg) :
    leg.remote = s.remote.or (some source) := by
  unfold Leg.latch at h
  split at h
  · rename_i current hr
    split at h <;> cases h
    rw [hr]
    rfl
  · rename_i hr
    cases h
    rw [hr]
    rfl

theorem takePacket_remote (leg : Leg D) (now : Int) (size : Nat) (packet : RtpPacket) (source : UDPAddr) :
    (w.takePacket net leg now size packet source).leg.remote = leg.remote := by
  unfold Bridged.takePacket
  dsimp only
  split
  · rfl
  · split
    · unfold Leg.echo
      dsimp only
      split <;> rfl
    · rfl
    · rfl

/-- A step moves the far end only from nowhere to where a well-formed packet came from. -/
theorem apply_remote (w : Bridged D) (e : MediaEvent D) :
    (e.apply net w).leg.remote = w.leg.remote.or (e.speaker? net) := by
  cases e with
  | meanwhile other => exact (other.remote_eq w).trans (Option.or_none).symm
  | datagram now raw source =>
    simp only [MediaEvent.apply, Bridged.handlePacket, MediaEvent.speaker?]
    cases net.unmarshal raw with
    | none => simp
    | some packet =>
      cases hl : w.leg.latch source with
      | some leg => simpa [takePacket_remote] using latch_remote hl
      | none =>
        unfold Leg.latch at hl
        split at hl
        · rename_i current hr
          simp [hr]
        · cases hl

theorem apply_stranger (hfar : ∀ b, w.leg.remote.or (e.speaker? net) = some b → b = a)
    (hs : e.isStranger (some a) = true) : e.apply net w = w := by
  cases e with
  | meanwhile other => cases hs
  | datagram now raw source =>
    have hother : a.sameAs source = false := by
      simpa [MediaEvent.isStranger, MediaEvent.source?] using hs
    simp only [MediaEvent.apply, Bridged.handlePacket]
    cases hp : net.unmarshal raw with
    | none => rfl
    | some packet =>
      cases hr : w.leg.remote with
      | some current =>
        obtain rfl := hfar current (by simp [hr])
        simp [Leg.latch, hr, hother]
      | none =>
        obtain rfl := hfar source (by simp [hr, MediaEvent.speaker?, hp])
        rw [UDPAddr.sameAs_self] at hother
        cases hother

variable (net)

/-- What comes from elsewhere than the first well-formed packet changes nothing: not
what is relayed, echoed, recorded, detected, sent or counted as received. -/
theorem strangers_change_nothing (w : Bridged D) (events : List (MediaEvent D)) :
    events.foldl (MediaEvent.apply net) w =
      (events.filter (!·.isStranger (farEnd net w.leg.remote events))).foldl (MediaEvent.apply net) w := by
  induction events generalizing w with
  | nil => rfl
  | cons e rest ih =>
    have hfar : farEnd net w.leg.remote (e :: rest) = farEnd net (e.apply net w).leg.remote rest := by
      rw [apply_remote, farEnd, farEnd, List.findSome?_cons, Option.or_assoc]
      cases e.speaker? net <;> rfl
    rw [List.foldl_cons, ih, hfar, List.filter_cons]
    cases ha : farEnd net (e.apply net w).leg.remote rest with
    | none => rfl
    | some a =>
      cases hs : e.isStranger (some a) with
      | false => rfl
      | true =>
        rw [apply_stranger (fun b hb => ?_) hs]
        · rfl
        · rw [farEnd, apply_remote, hb] at ha
          exact Option.some.inj ha

end strangers

end OptimiqVoice.Mediad

import OptimiqVoice.Engine.PinGate

namespace OptimiqVoice.Engine

open Lib Telephony Routing
open Async (Adds Says adds_pure says_pure says_tell)

def roleDigest (plan : ConferencePlan) (moderator : Bool) : Option JsString :=
  if moderator then plan.moderatorPinHash else plan.pinHash

def EarnsRole (plan : ConferencePlan) (moderator : Bool) (log : WalkLog) : Prop :=
  (∃ hash, roleDigest plan moderator = some hash ∧ Verified hash log) ∨
    (moderator = false ∧ plan.requiresPin = false ∧ plan.pinHash = none)

/-- Conference admission as it shows in the log of the node. -/
structure AdmitsByPin (attempts : Nat) (plan : ConferencePlan) (log : WalkLog) : Prop where
  /-- Nobody joins in a role without what the role takes. -/
  earned : ∀ front conferenceId moderator bridgeId maxMembers back,
    log = front ++ .sent (.joinConference conferenceId moderator bridgeId maxMembers) :: back →
      EarnsRole plan moderator front
  /-- A room that requires a PIN and has no digest that ever verifies stays closed. -/
  closed : plan.requiresPin = true →
    (plan.pinHash = none ∨ ∀ digits hash, hash ∈ plan.pinHash ∨ hash ∈ plan.moderatorPinHash →
      ¬Verifies digits hash log) → ∀ conferenceId moderator bridgeId maxMembers,
      .sent (.joinConference conferenceId moderator bridgeId maxMembers) ∉ log
  attempts : gathers log ≤ attempts

namespace PlanWalker

variable {k : PlanWalker} {plan : ConferencePlan}

def EarnsWith (plan : ConferencePlan) (digits : JsString) (moderator : Bool) (log : WalkLog) : Prop :=
  (∃ hash, roleDigest plan moderator = some hash ∧ (Verifies digits hash log ∨ Verified hash log)) ∨
    (moderator = false ∧ plan.pinHash = none)

variable {moderator : Bool} {back : WalkLog}

theorem EarnsWith.append {digits : JsString}
    (h : EarnsWith plan digits moderator back) (front : WalkLog) :
    EarnsWith plan digits moderator (front ++ back) := by
  obtain ⟨hash, hd, hv⟩ | hopen := h
  · exact .inl ⟨hash, hd, hv.imp (·.append_left front) (·.append_left front)⟩
  · exact .inr hopen

theorem verifyAgainst_adds (digits : JsString) (hash : Option JsString) :
    Adds (verifyAgainst digits hash) fun e log => (∀ q, .sent q ∈ log → q.Idle) ∧
      (e = .done .ok → ∃ h, hash = some h ∧ Verifies digits h log) := by
  cases hash with
  | none => exact adds_pure ⟨nofun, nofun⟩
  | some h =>
    have hidle : (Request.verifyPin digits h).Idle := ⟨rfl, rfl⟩
    apply asked_adds (T := fun a e back => e = .done a.pin ∧ back = [])
    · exact fun a => adds_pure ⟨rfl, rfl⟩
    · exact ⟨Async.sent_tell hidle, nofun⟩
    · rintro a e back ⟨rfl, rfl⟩
      exact ⟨Async.sent_ask hidle nofun, fun hok => ⟨h, rfl, a, List.infix_rfl, by simpa using hok⟩⟩

theorem judge_adds (moderator : Bool) {n : Nat} {digits : JsString} {next : Walk Admission}
    (hnext : Adds next (Challenge n (EarnsWith plan digits))) : Adds (do
      let verdict ← verifyAgainst digits (roleDigest plan moderator)
      k.judgePin moderator verdict next) (Challenge n (EarnsWith plan digits)) := by
  apply Adds.bind (T := fun verdict e back => (verdict = .ok ∧ e = .done (.granted moderator) ∧ back = []) ∨
    Challenge n (EarnsWith plan digits) e back) (verifyAgainst_adds digits (roleDigest plan moderator))
  · intro verdict
    cases verdict with
    | ok => exact adds_pure (.inl ⟨rfl, rfl, rfl⟩)
    | malformedHash | kdfError => exact .mono (refuse_adds _) fun _ _ => .inr
    | mismatch => exact .mono hnext fun _ _ => .inr
  · rintro verdict e front back ⟨hidle, hok⟩ (⟨rfl, rfl, rfl⟩ | hback)
    · obtain ⟨h, hd, hv⟩ := hok rfl
      rw [List.append_nil]
      refine ⟨?_, fun q hq => (hidle q hq).opening, fun role he => ?_⟩
      · rw [gathers_eq_zero fun q hq => (hidle q hq).gather]
        exact Nat.zero_le n
      · cases he
        exact .inl ⟨h, hd, .inl hv⟩
    · exact hback.idle_append hidle fun _ h => h.append front
  · exact fun _ h => .of_idle h.1 nofun
  · exact fun _ h => .of_idle h.1 nofun

def EarnsRounds (plan : ConferencePlan) (moderator : Bool) (log : WalkLog) : Prop :=
  (∃ hash, roleDigest plan moderator = some hash ∧ Verified hash log) ∨ (moderator = false ∧ plan.pinHash = none)

variable {log : WalkLog}

theorem EarnsWith.gathered {g : GatherRequest} {a : Reply}
    (h : EarnsWith plan a.digits moderator log) :
    EarnsRounds plan moderator (.sent (.verb (.gather g)) :: .got a :: log) := by
  obtain ⟨hash, hd, hv | hv⟩ | hopen := h
  · exact .inl ⟨hash, hd, [], g, a, log, rfl, hv⟩
  · exact .inl ⟨hash, hd, hv.append_left [.sent (.verb (.gather g)), .got a]⟩
  · exact .inr hopen

theorem conferencePinRounds_adds (left : Nat) :
    Adds (k.conferencePinRounds plan left) (Challenge left (EarnsRounds plan)) := by
  induction left with
  | zero => exact challenge_pure_denied _
  | succ left ih =>
    apply caller_adds
    intro c
    apply Adds.ite
    · exact fun _ => challenge_pure_denied _
    intro _
    apply gather_adds (EarnsWith plan) _ fun a moderator log h => h.gathered
    intro a
    apply Adds.ite
    · exact fun _ => challenge_pure_denied _
    intro _
    apply Adds.ite
    · exact fun _ => challenge_pure_denied _
    intro _
    apply Adds.ite
    -- nothing was entered, and the room has no participant PIN
    · intro hempty
      refine adds_pure ⟨Nat.zero_le _, nofun, fun moderator he => ?_⟩
      cases he
      exact .inr ⟨rfl, by simpa using (Bool.and_eq_true_iff.mp hempty).2⟩
    intro _
    apply judge_adds true
    apply judge_adds false
    apply idle_bind (says_asked ⟨rfl, rfl⟩)
    · intro _
      exact Adds.challenge_mono ih le_rfl fun moderator log h => h.imp
        (fun ⟨hash, hd, hv⟩ => ⟨hash, hd, .inr hv⟩) id
    · exact fun moderator front back h => h.append front

def Admitted (plan : ConferencePlan) (moderator : Bool) (log : WalkLog) : Prop :=
  EarnsRole plan moderator log ∧ (plan.requiresPin = true → plan.pinHash ≠ none)

variable {front : WalkLog}

theorem Admitted.append (h : Admitted plan moderator front)
    (back : WalkLog) : Admitted plan moderator (front ++ back) := by
  refine ⟨h.1.imp_left fun ⟨hash, hd, hv⟩ => ⟨hash, hd, hv.append_right back⟩, h.2⟩

theorem Admitted.prepend (h : Admitted plan moderator back)
    (front : WalkLog) : Admitted plan moderator (front ++ back) := by
  refine ⟨h.1.imp_left fun ⟨hash, hd, hv⟩ => ⟨hash, hd, hv.append_left front⟩, h.2⟩

theorem challengeConferencePin_adds : Adds (k.challengeConferencePin plan)
    (Challenge k.settings.conferencePinAttempts (Admitted plan)) := by
  apply Adds.ite
  · exact fun _ => refuse_adds _
  intro hreq
  have hopen : plan.pinHash = none → plan.requiresPin = false := by
    intro hnone
    simpa [hnone] using hreq
  have hkept : plan.requiresPin = true → plan.pinHash ≠ none := by
    intro hrequires hnone
    rw [hopen hnone] at hrequires
    cases hrequires
  apply Adds.ite
  · intro hnone
    have hpin : plan.pinHash = none := by simpa using (Bool.and_eq_true_iff.mp hnone).1
    refine adds_pure ⟨Nat.zero_le _, nofun, fun moderator he => ?_⟩
    cases he
    exact ⟨.inr ⟨rfl, hopen hpin, hpin⟩, hkept⟩
  · intro _
    exact Adds.challenge_mono (conferencePinRounds_adds _) le_rfl fun moderator log h =>
      ⟨h.imp_right fun ⟨hm, hpin⟩ => ⟨hm, hopen hpin, hpin⟩, hkept⟩

variable {q : Request}

section entering

theorem holdForModerator_idle : Says Request.Idle (k.holdForModerator plan) := by
  apply Says.bind (says_call ⟨rfl, rfl⟩)
  intro _
  apply Says.bind (says_asked ⟨rfl, rfl⟩)
  intro a
  apply Says.bind (says_asked ⟨rfl, rfl⟩)
  intro _
  apply says_caller.bind
  intro c
  apply Says.ite says_pure
  apply Says.bind (says_asked ⟨rfl, rfl⟩)
  intro r
  apply Says.ite says_pure
  exact .bind (says_call ⟨rfl, rfl⟩) fun _ => says_pure

theorem awaitAdmission_idle (moderator : Bool) (room : ConferenceRoom) :
    Says Request.Idle (k.awaitAdmission plan moderator room) :=
  Says.ite holdForModerator_idle says_pure

theorem joinBridge_idle (bridgeId : BridgeId) (peer : Option LegId) :
    Says Request.Idle (joinBridge bridgeId peer) := by
  apply Says.bind (says_asked ⟨rfl, rfl⟩)
  intro a
  apply Says.ite says_pure
  exact .bind (says_asked ⟨rfl, rfl⟩) fun _ => says_pure

theorem enterConference_idle (moderator : Bool) (bridgeId : BridgeId) (room : ConferenceRoom) :
    Says Request.Idle (enterConference plan moderator bridgeId room) := by
  apply (joinBridge_idle bridgeId none).bind
  intro joined
  apply Says.ite
  · exact .bind (says_call ⟨rfl, rfl⟩) fun _ => says_pure
  apply Says.bind (says_tell ⟨rfl, rfl⟩)
  intro _
  apply Says.bind (says_tell ⟨rfl, rfl⟩)
  intro _
  apply Says.bind (says_asked ⟨rfl, rfl⟩)
  intro r
  apply Says.bind (Says.bind (says_call ⟨rfl, rfl⟩) fun _ => says_pure)
  intro _
  exact .bind (says_tell ⟨rfl, rfl⟩) fun _ => says_pure

/-- Once admitted, the node makes no further attempt and joins in the role it was
admitted in. -/
structure Joins (moderator : Bool) (q : Request) : Prop where
  gather : q.isGather = false
  opening : q.isOpening = true → ∃ conferenceId bridgeId maxMembers,
    q = .joinConference conferenceId moderator bridgeId maxMembers

theorem idle_joins (h : q.Idle) : Joins moderator q := by
  refine ⟨h.gather, fun ho => ?_⟩
  rw [h.opening] at ho
  cases ho

theorem joinConference_joins (moderator : Bool) : Says (Joins moderator) (k.joinConference plan moderator) := by
  apply says_newId.bind
  intro newBridgeId
  apply Says.bind (says_call ?_)
  · intro a
    cases ha : a.admission with
    | full => exact (announceAndHangup_idle _ _).mono fun _ => idle_joins
    | claimsUnavailable => exact (unavailable_idle _).mono fun _ => idle_joins
    | joined bridgeId room =>
      apply ((awaitAdmission_idle moderator room).mono fun _ => idle_joins).bind
      intro admitted
      apply Says.ite
      · exact .bind (says_call (idle_joins ⟨rfl, rfl⟩)) fun _ => says_pure
      · exact (enterConference_idle moderator bridgeId room).mono fun _ => idle_joins
  · exact ⟨rfl, fun _ => ⟨_, _, _, rfl⟩⟩

end entering

def EntitlesJoin (plan : ConferencePlan) (q : Request) (log : WalkLog) : Prop :=
  ∃ conferenceId moderator bridgeId maxMembers,
    q = .joinConference conferenceId moderator bridgeId maxMembers ∧ Admitted plan moderator log

theorem EntitlesJoin.prepend (h : EntitlesJoin plan q back) (front : WalkLog) :
    EntitlesJoin plan q (front ++ back) := by
  obtain ⟨conferenceId, moderator, bridgeId, maxMembers, rfl, ha⟩ := h
  exact ⟨conferenceId, moderator, bridgeId, maxMembers, rfl, ha.prepend front⟩

theorem EntitlesJoin.append (h : EntitlesJoin plan q front) (back : WalkLog) :
    EntitlesJoin plan q (front ++ back) := by
  obtain ⟨conferenceId, moderator, bridgeId, maxMembers, rfl, ha⟩ := h
  exact ⟨conferenceId, moderator, bridgeId, maxMembers, rfl, ha.append back⟩

/-- The log of the node: its attempts are bounded and its join is earned. -/
structure RoomLog (n : Nat) (plan : ConferencePlan) (log : WalkLog) : Prop where
  attempts : gathers log ≤ n
  entitled : Entitled (EntitlesJoin plan) log

variable {n : Nat}

theorem roomLog_of_idle (h : ∀ q, .sent q ∈ log → q.Idle) : RoomLog n plan log where
  attempts := by
    rw [gathers_eq_zero fun q hq => (h q hq).gather]
    exact Nat.zero_le n
  entitled := entitled_of_none fun q hq => (h q hq).opening

theorem admitted_adds (k : PlanWalker) (plan : ConferencePlan) : Adds (do
    match ← k.challengeConferencePin plan with
    | .denied result => pure result
    | .granted moderator => k.joinConference plan moderator)
    fun _ log => RoomLog k.settings.conferencePinAttempts plan log := by
  apply Adds.bind (T := fun admission _ back => ∀ q, .sent q ∈ back →
    ∃ moderator, admission = .granted moderator ∧ Joins moderator q) challengeConferencePin_adds
  · intro admission
    cases admission with
    | denied result => exact adds_pure nofun
    | granted moderator =>
      exact .mono (joinConference_joins moderator) fun _ _ h q hq => ⟨moderator, rfl, h q hq⟩
  · intro admission e front back hfront hback
    refine ⟨?_, Entitled.append (fun q l l' h => h.append l') (entitled_of_none hfront.opening) ?_⟩
    · have hnone : gathers back = 0 := by
        apply gathers_eq_zero
        intro q hq
        obtain ⟨moderator, -, hj⟩ := hback q hq
        exact hj.gather
      rw [gathers_append, hnone]
      exact hfront.attempts
    · intro q hq ho
      obtain ⟨moderator, rfl, hj⟩ := hback q hq
      obtain ⟨conferenceId, bridgeId, maxMembers, rfl⟩ := hj.opening ho
      exact ⟨conferenceId, moderator, bridgeId, maxMembers, rfl, hfront.earned moderator rfl⟩
  · exact fun more h => ⟨h.attempts, entitled_of_none h.opening⟩
  · exact fun more h => ⟨h.attempts, entitled_of_none h.opening⟩

theorem conferenceNode_adds (k : PlanWalker) (plan : ConferencePlan) :
    Adds (k.conferenceNode plan) fun _ log => RoomLog k.settings.conferencePinAttempts plan log := by
  apply Adds.ite
  · exact fun _ => .mono (unavailable_idle _) fun _ _ h => roomLog_of_idle h
  intro _
  apply Adds.bind (T := fun _ _ log => RoomLog k.settings.conferencePinAttempts plan log) ensureAnswered_idle
  · intro answered
    apply Adds.ite
    · exact fun _ => adds_pure (roomLog_of_idle nofun)
    · exact fun _ => admitted_adds k plan
  · intro answered e front back hfront hback
    refine ⟨?_, ?_⟩
    · rw [gathers_append, gathers_eq_zero fun q hq => (hfront q hq).gather, Nat.zero_add]
      exact hback.attempts
    · exact Entitled.prepend (fun q l l' h => h.prepend l) (fun q hq => (hfront q hq).opening) hback.entitled
  · exact fun _ h => roomLog_of_idle h
  · exact fun _ h => roomLog_of_idle h

theorem RoomLog.admitted (h : RoomLog n plan log) {conferenceId : JsString}
    {bridgeId : BridgeId} {maxMembers : Int}
    (hlog : log = front ++ .sent (.joinConference conferenceId moderator bridgeId maxMembers) :: back) :
    Admitted plan moderator front := by
  obtain ⟨_, _, _, _, heq, hadmitted⟩ := h.entitled front _ back hlog rfl
  cases heq
  exact hadmitted

theorem conferenceNode_admitsByPin (k : PlanWalker) (plan : ConferencePlan) (w : WalkWorld) :
    ∃ log, (k.conferenceNode plan w).2.log = w.log ++ log ∧
      AdmitsByPin k.settings.conferencePinAttempts plan log := by
  obtain ⟨log, hlog, hroom⟩ := conferenceNode_adds k plan w
  refine ⟨log, hlog, ?_, ?_, hroom.attempts⟩
  · intro front conferenceId moderator bridgeId maxMembers back hjoin
    exact (hroom.admitted hjoin).1
  · intro hrequires hdead conferenceId moderator bridgeId maxMembers hjoin
    obtain ⟨front, back, hsplit⟩ := List.append_of_mem hjoin
    obtain ⟨hearned, hkept⟩ := hroom.admitted hsplit
    obtain hnone | hdead := hdead
    · exact hkept hrequires hnone
    obtain ⟨hash, hd, hv⟩ | ⟨-, hopen, -⟩ := hearned
    · obtain ⟨digits, hdigits⟩ := hv.verifies
      refine hdead digits hash ?_ (hsplit ▸ hdigits.append_right _)
      cases moderator with
      | true => exact .inr hd
      | false => exact .inl hd
    · rw [hopen] at hrequires
      cases hrequires

end PlanWalker

end OptimiqVoice.Engine

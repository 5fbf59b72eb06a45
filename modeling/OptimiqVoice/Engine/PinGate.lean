import OptimiqVoice.Engine.Conference
import OptimiqVoice.Lib.History
import OptimiqVoice.Lib.Transcript

namespace OptimiqVoice.Engine

open Lib Telephony Routing
open Async (Adds Says says_pure)

namespace Request

def isGather : Request → Bool
  | .verb (.gather _) => true
  | _ => false

/-- What a walk obtains with a secret: a seat in a room, or a mailbox. -/
def isOpening : Request → Bool
  | .joinConference _ _ _ _ | .listMailbox _ _ => true
  | _ => false

/-- Neither an attempt at a secret nor what the secret is for. -/
structure Idle (q : Request) : Prop where
  gather : q.isGather = false
  opening : q.isOpening = false

end Request

def gathers (log : WalkLog) : Nat :=
  log.countP fun
    | .sent q => q.isGather
    | .got _ => false

def Verifies (digits hash : JsString) (log : WalkLog) : Prop :=
  ∃ b, [.sent (.verifyPin digits hash), .got b] <:+: log ∧ b.pin = .ok

def Verified (hash : JsString) (log : WalkLog) : Prop :=
  ∃ front g a back, log = front ++ .sent (.verb (.gather g)) :: .got a :: back ∧ Verifies a.digits hash back

section log

variable {digits hash : JsString} {log front back : WalkLog}

@[simp]
theorem gathers_append : gathers (front ++ back) = gathers front + gathers back := List.countP_append

theorem gathers_eq_zero (h : ∀ q, .sent q ∈ log → q.isGather = false) : gathers log = 0 := by
  apply List.countP_eq_zero.mpr
  intro m hm
  cases m with
  | sent q => simp [h q hm]
  | got a => simp

theorem Verifies.append_left (h : Verifies digits hash back) (front : WalkLog) :
    Verifies digits hash (front ++ back) := by
  obtain ⟨b, hin, hb⟩ := h
  exact ⟨b, hin.trans (List.suffix_append front back).isInfix, hb⟩

theorem Verifies.append_right (h : Verifies digits hash front) (back : WalkLog) :
    Verifies digits hash (front ++ back) := by
  obtain ⟨b, hin, hb⟩ := h
  exact ⟨b, hin.trans (List.prefix_append front back).isInfix, hb⟩

theorem Verified.append_left (h : Verified hash back) (front : WalkLog) : Verified hash (front ++ back) := by
  obtain ⟨pre, g, a, post, rfl, hv⟩ := h
  exact ⟨front ++ pre, g, a, post, by simp, hv⟩

theorem Verified.append_right (h : Verified hash front) (back : WalkLog) : Verified hash (front ++ back) := by
  obtain ⟨pre, g, a, post, rfl, hv⟩ := h
  exact ⟨pre, g, a, post ++ back, by simp, hv.append_right back⟩

theorem Verified.verifies (h : Verified hash log) : ∃ digits, Verifies digits hash log := by
  obtain ⟨front, g, a, back, rfl, hv⟩ := h
  exact ⟨a.digits, (hv.append_left [.sent (.verb (.gather g)), .got a]).append_left front⟩

theorem Verified.gathers_pos (h : Verified hash log) : 0 < gathers log := by
  obtain ⟨front, g, a, back, rfl, -⟩ := h
  exact List.countP_pos_iff.mpr ⟨.sent (.verb (.gather g)), by simp, rfl⟩

/-- Every opening of the log comes after what entitles to it. -/
def Entitled (E : Request → WalkLog → Prop) (log : WalkLog) : Prop :=
  ∀ front q back, log = front ++ .sent q :: back → q.isOpening = true → E q front

variable {E : Request → WalkLog → Prop}

theorem entitled_of_none (h : ∀ q, .sent q ∈ log → q.isOpening = false) : Entitled E log := by
  rintro front q back rfl hq
  simp [h q (by simp)] at hq

theorem entitled_iff_each : Entitled E log ↔
    Each (fun front m => ∀ q, m = .sent q → q.isOpening = true → E q front) log :=
  ⟨fun h front _ back hlog q hm => h front q back (hm ▸ hlog), fun h front q back hlog => h front _ back hlog q rfl⟩

theorem Entitled.append (hE : ∀ q l l', E q l → E q (l ++ l')) (hfront : Entitled E front)
    (hback : ∀ q, .sent q ∈ back → q.isOpening = true → E q front) : Entitled E (front ++ back) := by
  rw [entitled_iff_each]
  apply (entitled_iff_each.mp hfront).append
  rintro before _ after rfl q rfl hq
  exact hE q front before (hback q (by simp) hq)

theorem Entitled.prepend (hE : ∀ q l l', E q l' → E q (l ++ l'))
    (hfront : ∀ q, .sent q ∈ front → q.isOpening = false) (hback : Entitled E back) :
    Entitled E (front ++ back) := by
  rw [entitled_iff_each]
  refine (entitled_iff_each.mp (entitled_of_none hfront)).append ?_
  rintro before _ after rfl q rfl hq
  exact hE q front before (hback before q after rfl hq)

end log

namespace PlanWalker

variable {k : PlanWalker}

variable {α : Type}

section idle

variable {S : Request → Prop}

theorem says_caller : Says S Walk.caller := Async.says_get fun _ => says_pure

theorem caller_adds {f : Caller → Walk α} {R : Exit α → WalkLog → Prop} (h : ∀ c, Adds (f c) R) :
    Adds (Walk.caller >>= f) R :=
  fun w => h w.state.caller w

variable {q : Request}

theorem says_asked (hq : S q) : Says S (Walk.ask q) := Async.says_ask hq

theorem asked_adds {f : Reply → Walk α} {T : Reply → Exit α → WalkLog → Prop}
    {U : Exit α → WalkLog → Prop} (h : ∀ a, Adds (f a) (T a)) (hcut : U .cut [.sent q])
    (hdone : ∀ a e back, T a e back → U e (.sent q :: .got a :: back)) : Adds (Walk.ask q >>= f) U :=
  Async.adds_ask_bind h hcut hdone

theorem says_call (hq : S q) : Says S (Walk.call q) :=
  (says_asked hq).bind fun _ => Says.ite Async.says_throw says_pure

theorem says_newId : Says S Walk.newId :=
  Async.says_get fun _ => Async.says_modify.bind fun _ => says_pure

theorem ensureAnswered_idle : Says Request.Idle k.ensureAnswered := by
  apply says_caller.bind
  intro c
  apply Says.ite says_pure
  apply Says.ite says_pure
  apply Says.bind (says_asked ⟨rfl, rfl⟩)
  intro a
  apply Says.ite says_pure
  apply Says.bind (says_asked ⟨rfl, rfl⟩)
  intro b
  exact says_caller.bind fun _ => says_pure

theorem announceAndHangup_idle (media : JsString) (cause : HangupCause) :
    Says Request.Idle (k.announceAndHangup media cause) := by
  apply ensureAnswered_idle.bind
  intro up
  apply Says.ite
  · exact Says.bind (says_asked ⟨rfl, rfl⟩) fun _ => says_pure
  · exact says_pure

theorem unavailable_idle (cause : HangupCause) : Says Request.Idle (k.unavailable cause) :=
  announceAndHangup_idle _ cause

end idle

/-- What a challenge adds to the log: at most its number of attempts, no opening,
and what earned the admission it ends with. -/
structure Challenge (attempts : Nat) (earned : Bool → WalkLog → Prop) (e : Exit Admission)
    (log : WalkLog) : Prop where
  attempts : gathers log ≤ attempts
  opening : ∀ q, .sent q ∈ log → q.isOpening = false
  earned : ∀ moderator, e = .done (.granted moderator) → earned moderator log

variable {n : Nat} {earned : Bool → WalkLog → Prop}

variable {e : Exit Admission}

theorem challenge_nil (h : ∀ moderator, e ≠ .done (.granted moderator)) : Challenge n earned e [] :=
  ⟨Nat.zero_le _, nofun, fun moderator he => absurd he (h moderator)⟩

theorem challenge_pure_denied (result : StepResult) :
    Adds (pure (.denied result) : Walk Admission) (Challenge n earned) :=
  Async.adds_pure (challenge_nil nofun)

theorem Challenge.idle_append {front back : WalkLog} (hfront : ∀ q, .sent q ∈ front → q.Idle)
    (h : Challenge n earned e back) (hearned : ∀ moderator, earned moderator back → earned moderator (front ++ back)) :
    Challenge n earned e (front ++ back) where
  attempts := by
    rw [gathers_append, gathers_eq_zero fun q hq => (hfront q hq).gather, Nat.zero_add]
    exact h.attempts
  opening := Async.sent_append (fun q hq => (hfront q hq).opening) h.opening
  earned := fun moderator he => hearned moderator (h.earned moderator he)

theorem Challenge.of_idle {log : WalkLog} (h : ∀ q, .sent q ∈ log → q.Idle)
    (he : ∀ moderator, e ≠ .done (.granted moderator)) : Challenge n earned e log := by
  refine ⟨?_, fun q hq => (h q hq).opening, fun moderator hm => absurd hm (he moderator)⟩
  rw [gathers_eq_zero fun q hq => (h q hq).gather]
  exact Nat.zero_le n

theorem refuse_adds (cause : HangupCause) :
    Adds (do let result ← k.unavailable cause; pure (.denied result) : Walk Admission) (Challenge n earned) := by
  apply Adds.map (unavailable_idle cause)
  · exact fun _ _ h => .of_idle h nofun
  · exact fun _ h => .of_idle h nofun
  · exact fun _ h => .of_idle h nofun

theorem gather_adds (earnedBy : JsString → Bool → WalkLog → Prop) {m : Reply → Walk Admission}
    {g : GatherRequest} (hm : ∀ a, Adds (m a) (Challenge n (earnedBy a.digits)))
    (hearned : ∀ a moderator log, earnedBy a.digits moderator log →
      earned moderator (.sent (.verb (.gather g)) :: .got a :: log)) :
    Adds (Walk.execute (.gather g) >>= m) (Challenge (n + 1) earned) := by
  apply asked_adds hm
  · refine ⟨?_, Async.sent_tell rfl, nofun⟩
    change 1 ≤ n + 1
    omega
  · intro a e back hback
    refine ⟨?_, Async.sent_ask rfl hback.opening, ?_⟩
    · simpa [gathers, Request.isGather] using hback.attempts
    · exact fun moderator he => hearned a moderator back (hback.earned moderator he)

theorem idle_bind {m : Walk α} {f : α → Walk Admission} (hm : Says Request.Idle m)
    (hf : ∀ a, Adds (f a) (Challenge n earned))
    (hearned : ∀ moderator front back, earned moderator back → earned moderator (front ++ back)) :
    Adds (m >>= f) (Challenge n earned) := by
  apply Adds.bind hm hf
  · exact fun a e front back hfront hback => hback.idle_append hfront (hearned · front back)
  · exact fun _ h => .of_idle h nofun
  · exact fun _ h => .of_idle h nofun

theorem Adds.challenge_mono {m : Walk Admission} {n' : Nat} {earned' : Bool → WalkLog → Prop}
    (h : Adds m (Challenge n earned)) (hn : n ≤ n') (hearned : ∀ moderator log, earned moderator log → earned' moderator log) :
    Adds m (Challenge n' earned') :=
  Async.Adds.mono h fun _ _ hc => ⟨hc.attempts.trans hn, hc.opening, fun m he => hearned m _ (hc.earned m he)⟩

end PlanWalker

end OptimiqVoice.Engine

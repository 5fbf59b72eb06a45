import OptimiqVoice.Engine.PinGate
import OptimiqVoice.Routing.Compile.Run

namespace OptimiqVoice.Engine

open Lib Telephony Routing
open Async (Adds Says adds_pure says_pure)

structure Mailbox where
  (voicemailBoxId mailboxNumber : JsString)
  pinHash : Option JsString

def Mailbox.ofNode (plan : VoicemailPlan) : Mailbox :=
  ⟨plan.voicemailBoxId, plan.mailboxNumber, plan.pinHash⟩

/-- The mailboxes a check knows of: the one of its node, and those of the table,
each with the digest of its own check node. -/
inductive IsMailbox (plan : VoicemailPlan) (input : WalkInput) : Mailbox → Prop
  | node : IsMailbox plan input (.ofNode plan)
  | table {mailboxes : Record MailboxEntry} {key : JsString} {entry : MailboxEntry} {node : PlanNode}
      {check : VoicemailPlan} (htable : input.mailboxes = some mailboxes)
      (hentry : mailboxes.lookup key = .own entry)
      (hnode : input.plan.nodes.lookup entry.checkNodeId = .own node) (hcheck : node.body = .voicemail check) :
      IsMailbox plan input ⟨entry.voicemailBoxId, entry.mailboxNumber, check.pinHash⟩

def callingNumber (k : PlanWalker) (input : WalkInput) : Option JsString :=
  nonBlank (input.callerIdNumber.or k.callerIdNumber)

/-- The caller has proved to own the mailbox, or calls from its extension. -/
def Authenticated (caller : Option JsString) (m : Mailbox) (log : WalkLog) : Prop :=
  (∃ hash, m.pinHash = some hash ∧ Verified hash log) ∨ (m.pinHash = none ∧ caller = some m.mailboxNumber)

/-- However the node runs, the mailbox source is asked for one mailbox only, by its
own id and number, and only once the caller is authenticated for it. -/
def OpensAuthenticated (k : PlanWalker) (plan : VoicemailPlan) (input : WalkInput) : Prop :=
  ∀ w, ∃ log, (k.voicemailNode plan input w).2.log = w.log ++ log ∧ ∃ m, IsMailbox plan input m ∧
    ∀ front voicemailBoxId mailboxNumber back,
      log = front ++ .sent (.listMailbox voicemailBoxId mailboxNumber) :: back →
        voicemailBoxId = m.voicemailBoxId ∧ mailboxNumber = m.mailboxNumber ∧
          Authenticated (callingNumber k input) m front

/-- The table as the compiler builds it: by mailbox number, and with one number for
each box, the node's own box included. -/
structure Keyed (plan : VoicemailPlan) (input : WalkInput) : Prop where
  number : ∀ mailboxes key entry, input.mailboxes = some mailboxes → mailboxes.lookup key = .own entry →
    entry.mailboxNumber = key
  box : ∀ mailboxes key entry, input.mailboxes = some mailboxes → mailboxes.lookup key = .own entry →
    entry.voicemailBoxId = plan.voicemailBoxId → entry.mailboxNumber = plan.mailboxNumber

def InTable (input : WalkInput) (number : JsString) : Prop :=
  ∃ mailboxes entry, input.mailboxes = some mailboxes ∧ mailboxes.lookup number = .own entry

/-- The check can only lead to the node's own mailbox: a caller from elsewhere has
none in the table. Otherwise nothing is opened at all, for want of a source or of an
attempt at the PIN. -/
def OwnBoxOnly (k : PlanWalker) (plan : VoicemailPlan) (input : WalkInput) : Prop :=
  (∀ number, callingNumber k input = some number → number = plan.mailboxNumber ∨ ¬InTable input number) ∨
    k.wiring.mailbox = false ∨ (plan.pinHash ≠ none ∧ k.settings.voicemailPinAttempts = 0)

namespace PlanWalker

variable {k : PlanWalker} {plan : VoicemailPlan} {input : WalkInput}

variable {mailbox : JsString} {q : Request}

section opening

theorem playWhileUp_idle (media : List JsString) : Says Request.Idle (playWhileUp media) := by
  induction media with
  | nil => exact says_pure
  | cons m rest ih =>
    apply says_caller.bind
    intro c
    apply Says.ite says_pure
    exact .bind (says_asked ⟨rfl, rfl⟩) fun _ => ih

theorem playNext_speaks (p : Playing) : Says (·.isOpening = false) (k.playNext p) := by
  unfold playNext
  split
  · exact says_pure
  apply says_caller.bind
  intro c
  apply Says.ite says_pure
  split
  · exact says_pure
  apply Says.bind (S := (·.isOpening = false)) (says_asked rfl)
  intro a
  apply Says.ite says_pure
  apply Says.ite says_pure
  apply Says.ite says_pure
  exact .ite says_pure says_pure

theorem playTurns_speaks (n : Nat) (p : Playing) : Says (·.isOpening = false) (k.playTurns n p) := by
  induction n generalizing p with
  | zero => exact says_pure
  | succ n ih =>
    apply (playNext_speaks p).bind
    intro r
    cases r with
    | inl p' => exact ih p'
    | inr result => exact says_pure

/-- Nothing but the mailbox is opened, and that with a source to ask. -/
def OpensBox (k : PlanWalker) (plan : VoicemailPlan) (mailbox : JsString) (q : Request) : Prop :=
  q.isOpening = true → k.wiring.mailbox = true ∧ q = .listMailbox plan.voicemailBoxId mailbox

theorem opensBox_of_not (h : q.isOpening = false) : OpensBox k plan mailbox q := by
  intro ho
  rw [h] at ho
  cases ho

def menuOf (k : PlanWalker) (a : Reply) : Walk StepResult :=
  match if a.rejected then none else a.messages with
  | none => k.unavailable .normalClearing
  | some messages => do
    let up ← playWhileUp (k.spellNumber (natText messages.length))
    if !up then pure .aborted
    else if messages.isEmpty then pure (.hangup .normalClearing)
    else k.playVoicemailMessages messages

theorem menuOf_speaks (a : Reply) : Says (·.isOpening = false) (menuOf k a) := by
  unfold menuOf
  split
  · exact (unavailable_idle _).mono fun _ h => h.opening
  · apply ((playWhileUp_idle _).mono fun _ h => h.opening).bind
    intro up
    apply Says.ite says_pure
    apply Says.ite says_pure
    exact playTurns_speaks _ _

theorem voicemailMenu_wired (h : k.wiring.mailbox = true) (mailbox : JsString) :
    k.voicemailMenu plan mailbox = Walk.ask (.listMailbox plan.voicemailBoxId mailbox) >>= menuOf k :=
  if_pos h

theorem voicemailMenu_speaks (mailbox : JsString) : Says (OpensBox k plan mailbox) (k.voicemailMenu plan mailbox) := by
  by_cases hw : k.wiring.mailbox = true
  · rw [voicemailMenu_wired hw]
    exact .bind (says_asked fun _ => ⟨hw, rfl⟩) fun a => (menuOf_speaks a).mono fun _ => opensBox_of_not
  · have : k.voicemailMenu plan mailbox = k.unavailable .normalClearing := if_neg hw
    rw [this]
    exact (unavailable_idle _).mono fun _ h => opensBox_of_not h.opening

end opening

section challenge

variable {hash : JsString}

theorem verify_adds {n : Nat} {digits : JsString} {next : Walk Admission}
    (hnext : Adds next (Challenge n fun _ log => Verifies digits hash log ∨ Verified hash log)) :
    Adds (do
      let b ← Walk.ask (.verifyPin digits hash)
      match b.pin with
      | .ok => pure (.granted false)
      | .malformedHash | .kdfError => do
        let result ← k.unavailable .normalTemporaryFailure
        pure (.denied result)
      | .mismatch => next) (Challenge n fun _ log => Verifies digits hash log ∨ Verified hash log) := by
  have hidle : (Request.verifyPin digits hash).Idle := ⟨rfl, rfl⟩
  apply asked_adds (T := fun b e back => (b.pin = .ok ∧ back = []) ∨
    Challenge n (fun _ log => Verifies digits hash log ∨ Verified hash log) e back)
  · intro b
    cases hb : b.pin with
    | ok => exact adds_pure (.inl ⟨rfl, rfl⟩)
    | malformedHash | kdfError => exact .mono (refuse_adds _) fun _ _ => .inr
    | mismatch => exact .mono hnext fun _ _ => .inr
  · exact .of_idle (Async.sent_tell hidle) nofun
  · intro b e back hback
    have hasked : ∀ q : Request, .sent q ∈ [Moment.sent (.verifyPin digits hash), .got b] → q.Idle :=
      Async.sent_ask hidle nofun
    obtain ⟨hok, rfl⟩ | hback := hback
    · refine ⟨?_, fun q hq => (hasked q hq).opening, fun _ _ => .inl ⟨b, List.infix_rfl, hok⟩⟩
      rw [gathers_eq_zero fun q hq => (hasked q hq).gather]
      exact Nat.zero_le n
    · exact hback.idle_append hasked fun _ h => h.imp (·.append_left _) (·.append_left _)

theorem voicemailPinRounds_adds (left : Nat) :
    Adds (k.voicemailPinRounds hash left) (Challenge left fun _ => Verified hash) := by
  induction left with
  | zero => exact challenge_pure_denied _
  | succ left ih =>
    apply caller_adds
    intro c
    apply Adds.ite
    · exact fun _ => challenge_pure_denied _
    intro _
    apply gather_adds fun digits _ log => Verifies digits hash log ∨ Verified hash log
    · intro a
      apply Adds.ite
      · exact fun _ => challenge_pure_denied _
      intro _
      apply Adds.ite
      · exact fun _ => challenge_pure_denied _
      intro _
      apply verify_adds
      apply idle_bind (says_asked ⟨rfl, rfl⟩)
      · exact fun _ => Adds.challenge_mono ih le_rfl fun _ _ => .inr
      · exact fun _ front back h => h.imp (·.append_left front) (·.append_left front)
    · rintro a moderator log (hv | hv)
      · exact ⟨[], k.pinGather, a, log, rfl, hv⟩
      · exact hv.append_left [.sent (.verb (.gather k.pinGather)), .got a]

theorem challengeVoicemailPin_adds : Adds (k.challengeVoicemailPin plan)
    (Challenge k.settings.voicemailPinAttempts fun _ log => ∀ hash, plan.pinHash = some hash → Verified hash log) := by
  unfold challengeVoicemailPin
  split
  · rename_i hnone
    refine adds_pure ⟨Nat.zero_le _, nofun, fun _ _ hash hh => ?_⟩
    rw [hnone] at hh
    cases hh
  · rename_i hash hsome
    refine Adds.challenge_mono (voicemailPinRounds_adds _) le_rfl fun _ log hv hash' hh => ?_
    rw [hsome] at hh
    cases hh
    exact hv

end challenge

/-- What the check has established when it asks for the mailbox. -/
structure EntitlesBox (k : PlanWalker) (plan : VoicemailPlan) (mailbox : JsString) (q : Request)
    (log : WalkLog) : Prop where
  wired : k.wiring.mailbox = true
  request : q = .listMailbox plan.voicemailBoxId mailbox
  verified : ∀ hash, plan.pinHash = some hash → Verified hash log ∧ 0 < k.settings.voicemailPinAttempts

theorem EntitlesBox.append {front : WalkLog}
    (h : EntitlesBox k plan mailbox q front) (back : WalkLog) : EntitlesBox k plan mailbox q (front ++ back) :=
  ⟨h.wired, h.request, fun hash hh => ⟨(h.verified hash hh).1.append_right back, (h.verified hash hh).2⟩⟩

theorem EntitlesBox.prepend {back : WalkLog}
    (h : EntitlesBox k plan mailbox q back) (front : WalkLog) : EntitlesBox k plan mailbox q (front ++ back) :=
  ⟨h.wired, h.request, fun hash hh => ⟨(h.verified hash hh).1.append_left front, (h.verified hash hh).2⟩⟩

def openBox (k : PlanWalker) (plan : VoicemailPlan) (mailbox : JsString) : Walk StepResult := do
  let up ← playWhileUp (k.spellNumber mailbox)
  if !up then pure .aborted else k.voicemailMenu plan mailbox

theorem openBox_speaks (mailbox : JsString) : Says (OpensBox k plan mailbox) (openBox k plan mailbox) := by
  apply ((playWhileUp_idle _).mono fun _ h => opensBox_of_not h.opening).bind
  intro up
  exact .ite says_pure (voicemailMenu_speaks mailbox)

theorem challenged_adds (mailbox : JsString) : Adds (do
    match ← k.challengeVoicemailPin plan with
    | .denied result => pure result
    | .granted _ => openBox k plan mailbox) fun _ log => Entitled (EntitlesBox k plan mailbox) log := by
  apply Adds.bind (T := fun admission _ back => ∀ q, .sent q ∈ back →
    (∃ moderator, admission = .granted moderator) ∧ OpensBox k plan mailbox q) challengeVoicemailPin_adds
  · intro admission
    cases admission with
    | denied result => exact adds_pure nofun
    | granted moderator =>
      exact .mono (openBox_speaks mailbox) fun _ _ h q hq => ⟨⟨moderator, rfl⟩, h q hq⟩
  · intro admission e front back hfront hback
    refine Entitled.append (fun q l l' h => EntitlesBox.append h l') (entitled_of_none hfront.opening) ?_
    intro q hq ho
    obtain ⟨⟨moderator, rfl⟩, hopens⟩ := hback q hq
    obtain ⟨hwired, hreq⟩ := hopens ho
    refine ⟨hwired, hreq, fun hash hh => ?_⟩
    have hv := hfront.earned moderator rfl hash hh
    exact ⟨hv, lt_of_lt_of_le hv.gathers_pos hfront.attempts⟩
  · exact fun _ h => entitled_of_none h.opening
  · exact fun _ h => entitled_of_none h.opening

theorem voicemailNode_adds (hmode : plan.mode = .check) : Adds (k.voicemailNode plan input) fun _ log =>
    Entitled (fun q front => ∃ mailbox, mailboxFor plan (input.callerIdNumber.or k.callerIdNumber) input = some mailbox ∧
      EntitlesBox k plan mailbox q front) log := by
  apply Adds.bind (T := fun _ _ log => Entitled (fun q front => ∃ mailbox,
    mailboxFor plan (input.callerIdNumber.or k.callerIdNumber) input = some mailbox ∧
      EntitlesBox k plan mailbox q front) log) ensureAnswered_idle
  · intro answered
    apply Adds.ite
    · exact fun _ => adds_pure (entitled_of_none nofun)
    intro _
    rw [hmode]
    change Adds (k.voicemailCheck plan input) _
    unfold voicemailCheck
    split
    · exact .mono (unavailable_idle _) fun _ _ h => entitled_of_none fun q hq => (h q hq).opening
    · rename_i mailbox hmailbox
      exact .mono (challenged_adds mailbox) fun _ log h front q back hlog ho =>
        ⟨mailbox, hmailbox, h front q back hlog ho⟩
  · intro answered e front back hfront hback
    refine Entitled.prepend ?_ (fun q hq => (hfront q hq).opening) hback
    rintro q l l' ⟨mailbox, hm, hq⟩
    exact ⟨mailbox, hm, hq.prepend l⟩
  · exact fun _ h => entitled_of_none fun q hq => (h q hq).opening
  · exact fun _ h => entitled_of_none fun q hq => (h q hq).opening

section smooth

def fine : Reply := { isAnswered := true, pin := .ok }

/-- The caller is on the line, and the next replies grant everything. -/
structure Fine (n : Nat) (w : WalkWorld) : Prop where
  answered : w.state.caller.isAnswered = true
  up : w.state.caller.isTearingDown = false
  replies : w.replies = List.replicate n fine

/-- With that many good replies, the program ends with the value. -/
def Glides {α : Type} (m : Walk α) (a : α) (c : Nat) : Prop :=
  ∀ w n, Fine (c + n) w → ∃ w', m w = (.done a, w') ∧ Fine n w'

variable {α β : Type} {m : Walk α} {f : α → Walk β} {a : α} {b : β} {c d : Nat}

theorem glides_pure : Glides (pure a : Walk α) a 0 := by
  intro w n h
  rw [Nat.zero_add] at h
  exact ⟨w, rfl, h⟩

theorem Glides.bind (h : Glides m a c) (hf : Glides (f a) b d) : Glides (m >>= f) b (c + d) := by
  intro w n hw
  rw [Nat.add_assoc] at hw
  obtain ⟨u, hu, hfine⟩ := h w (d + n) hw
  obtain ⟨v, hv, hfine'⟩ := hf u n hfine
  exact ⟨v, by rw [Async.bind_of_done hu, hv], hfine'⟩

theorem glides_ask (q : Request) : Glides (Walk.ask q) fine 1 := by
  intro w n h
  rw [Nat.add_comm] at h
  have hr : w.replies = fine :: List.replicate n fine := h.replies
  refine ⟨⟨{ w.state with caller := fine.raise w.state.caller }, List.replicate n fine, w.log ++ [.sent q, .got fine]⟩,
    by simp [Walk.ask, Async.ask, hr], ?_, ?_, rfl⟩
  · simp [Reply.raise, fine]
  · simp [Reply.raise, fine, h.up]

theorem glides_caller {g : Caller → Walk β}
    (h : ∀ caller : Caller, caller.isAnswered = true → caller.isTearingDown = false → Glides (g caller) b d) :
    Glides (Walk.caller >>= g) b d :=
  fun w n hw => h w.state.caller hw.answered hw.up w n hw

theorem ensureAnswered_glides : Glides k.ensureAnswered true 0 := by
  apply glides_caller
  intro caller hup _
  rw [if_pos hup]
  exact glides_pure

theorem playWhileUp_glides (media : List JsString) : Glides (playWhileUp media) true media.length := by
  induction media with
  | nil => exact glides_pure
  | cons m rest ih =>
    apply glides_caller
    intro caller _ hdown
    rw [if_neg (by simp [hdown]), List.length_cons, Nat.add_comm]
    exact (glides_ask _).bind ih

theorem challengeVoicemailPin_glides (h : plan.pinHash = none ∨ k.settings.voicemailPinAttempts ≠ 0) :
    ∃ c, Glides (k.challengeVoicemailPin plan) (.granted false) c := by
  unfold challengeVoicemailPin
  split
  · exact ⟨0, glides_pure⟩
  · rename_i hash hsome
    obtain ⟨left, hleft⟩ := Nat.exists_eq_succ_of_ne_zero (h.resolve_left (by simp [hsome]))
    rw [hleft]
    refine ⟨1 + (1 + 0), glides_caller fun caller _ hdown => ?_⟩
    rw [if_neg (by simp [hdown])]
    exact (glides_ask _).bind ((glides_ask _).bind glides_pure)

/-- With that many good replies, the program comes to make the request. -/
def Reaches (m : Walk α) (q : Request) (c : Nat) : Prop := ∀ w n, Fine (c + n) w → .sent q ∈ (m w).2.log

theorem Glides.reaches (h : Glides m a c) (hf : Reaches (f a) q d) :
    Reaches (m >>= f) q (c + d) := by
  intro w n hw
  rw [Nat.add_assoc] at hw
  obtain ⟨u, hu, hfine⟩ := h w (d + n) hw
  rw [Async.bind_of_done hu]
  exact hf u n hfine

theorem voicemailMenu_reaches (hwired : k.wiring.mailbox = true) (mailbox : JsString) :
    Reaches (k.voicemailMenu plan mailbox) (.listMailbox plan.voicemailBoxId mailbox) 0 := by
  intro w _ _
  have hadds : Adds (k.voicemailMenu plan mailbox) fun _ log =>
      .sent (.listMailbox plan.voicemailBoxId mailbox) ∈ log := by
    rw [voicemailMenu_wired hwired]
    apply asked_adds menuOf_speaks
    · simp
    · simp
  obtain ⟨log, hlog, hmem⟩ := hadds w
  rw [hlog]
  exact List.mem_append_right _ hmem

theorem voicemailNode_reaches (hmode : plan.mode = .check) (hwired : k.wiring.mailbox = true)
    (hpin : plan.pinHash = none ∨ k.settings.voicemailPinAttempts ≠ 0)
    (hmailbox : mailboxFor plan (input.callerIdNumber.or k.callerIdNumber) input = some mailbox) :
    ∃ c, Reaches (k.voicemailNode plan input) (.listMailbox plan.voicemailBoxId mailbox) c := by
  obtain ⟨c, hchallenge⟩ := challengeVoicemailPin_glides hpin
  refine ⟨0 + (c + ((k.spellNumber mailbox).length + 0)), ensureAnswered_glides.reaches ?_⟩
  rw [if_neg (by simp), hmode]
  change Reaches (k.voicemailCheck plan input) _ _
  unfold voicemailCheck
  rw [hmailbox]
  apply hchallenge.reaches
  apply (playWhileUp_glides _).reaches
  rw [if_neg (by simp)]
  exact voicemailMenu_reaches hwired mailbox

end smooth

theorem mailboxFor_of_calling {number : JsString} (hcalling : callingNumber k input = some number) :
    mailboxFor plan (input.callerIdNumber.or k.callerIdNumber) input =
      if plan.mailboxNumber = number then some plan.mailboxNumber
      else match input.mailboxes with
        | none => none
        | some mailboxes => (mailboxes.lookup number).field fun entry => some entry.mailboxNumber := by
  unfold callingNumber at hcalling
  cases hmail : input.mailboxes with
  | none | some _ => simp [mailboxFor, hcalling, hmail]

theorem calling_of_mailboxFor
    (h : mailboxFor plan (input.callerIdNumber.or k.callerIdNumber) input = some mailbox) :
    ∃ number, callingNumber k input = some number ∧
      ((number = plan.mailboxNumber ∧ mailbox = plan.mailboxNumber) ∨ InTable input number) := by
  obtain hnone | ⟨number, hcalling⟩ := Option.eq_none_or_eq_some (callingNumber k input)
  · unfold callingNumber at hnone
    simp [mailboxFor, hnone] at h
  · refine ⟨number, hcalling, ?_⟩
    rw [mailboxFor_of_calling hcalling] at h
    split at h
    · rename_i heq
      exact .inl ⟨heq.symm, (Option.some.inj h).symm⟩
    · split at h
      · cases h
      · rename_i mailboxes hm
        cases hl : mailboxes.lookup number with
        | own entry => exact .inr ⟨mailboxes, entry, hm, hl⟩
        | undefined | inherited => simp [Lookup.field, hl] at h

theorem opensAuthenticated_of_ownBoxOnly (hmode : plan.mode = .check) (h : OwnBoxOnly k plan input) :
    OpensAuthenticated k plan input := by
  intro w
  have hadds : Adds (k.voicemailNode plan input) _ := voicemailNode_adds hmode
  obtain ⟨log, hlog, hentitled⟩ := hadds w
  refine ⟨log, hlog, .ofNode plan, .node, fun front voicemailBoxId mailboxNumber back hsplit => ?_⟩
  obtain ⟨mailbox, hmailbox, hq⟩ := hentitled front _ back hsplit rfl
  obtain ⟨rfl, rfl⟩ : voicemailBoxId = plan.voicemailBoxId ∧ mailboxNumber = mailbox := by
    simpa using hq.request
  obtain ⟨number, hcalling, hfound⟩ := calling_of_mailboxFor hmailbox
  -- the node's own box is all that is left where something is opened
  have hown : number = plan.mailboxNumber ∧ mailboxNumber = plan.mailboxNumber := by
    obtain hown | hunwired | ⟨hsome, hnone⟩ := h
    · obtain heq | htable := hfound
      · exact heq
      · obtain heq | hnot := hown number hcalling
        · refine ⟨heq, ?_⟩
          rw [mailboxFor_of_calling hcalling, if_pos heq.symm] at hmailbox
          exact (Option.some.inj hmailbox).symm
        · exact absurd htable hnot
    · have := hq.wired
      rw [hunwired] at this
      cases this
    · obtain ⟨hash, hh⟩ := Option.ne_none_iff_exists'.mp hsome
      have := (hq.verified hash hh).2
      omega
  refine ⟨rfl, hown.2, ?_⟩
  obtain hnone | ⟨hash, hh⟩ := Option.eq_none_or_eq_some plan.pinHash
  · exact .inr ⟨hnone, by rw [hcalling, hown.1]; rfl⟩
  · exact .inl ⟨hash, hh, (hq.verified hash hh).1⟩

theorem ownBoxOnly_of_opensAuthenticated (hmode : plan.mode = .check) (hkeyed : Keyed plan input)
    (h : OpensAuthenticated k plan input) : OwnBoxOnly k plan input := by
  by_contra hnot
  simp only [OwnBoxOnly, not_or, not_forall, not_and, not_not] at hnot
  obtain ⟨⟨number, hcalling, hne, mailboxes, entry, hmailboxes, hentry⟩, hwired, hattempts⟩ := hnot
  have hwired : k.wiring.mailbox = true := by simpa using hwired
  have hpin : plan.pinHash = none ∨ k.settings.voicemailPinAttempts ≠ 0 := by
    obtain hnone | ⟨hash, hh⟩ := Option.eq_none_or_eq_some plan.pinHash
    · exact .inl hnone
    · exact .inr (hattempts (by simp [hh]))
  have hnumber : entry.mailboxNumber = number := hkeyed.number mailboxes number entry hmailboxes hentry
  have hmailbox : mailboxFor plan (input.callerIdNumber.or k.callerIdNumber) input = some number := by
    rw [mailboxFor_of_calling hcalling, if_neg (Ne.symm hne), hmailboxes]
    simp [hentry, Lookup.field, hnumber]
  obtain ⟨c, hreach⟩ := voicemailNode_reaches hmode hwired hpin hmailbox
  let w : WalkWorld := ⟨⟨⟨true, false, false⟩, 0, none, {}⟩, List.replicate c fine, []⟩
  have hmem := hreach w 0 ⟨rfl, rfl, rfl⟩
  obtain ⟨log, hlog, m, hm, hall⟩ := h w
  rw [hlog] at hmem
  obtain ⟨front, back, hsplit⟩ := List.append_of_mem hmem
  obtain ⟨hid, hnum, -⟩ := hall front _ _ back hsplit
  -- the pair asked for is in no entry
  cases hm with
  | node => exact hne hnum
  | table htable hentry' _ _ =>
    have hplan := hkeyed.box _ _ _ htable hentry' hid.symm
    exact hne (hnum.trans hplan)

/-- A check opens only mailboxes whose owner is authenticated exactly where it can
lead to no box but the node's own. -/
theorem voicemailNode_opensAuthenticated_iff (k : PlanWalker) (plan : VoicemailPlan) (input : WalkInput)
    (hmode : plan.mode = .check) (hkeyed : Keyed plan input) :
    OpensAuthenticated k plan input ↔ OwnBoxOnly k plan input :=
  ⟨ownBoxOnly_of_opensAuthenticated hmode hkeyed, opensAuthenticated_of_ownBoxOnly hmode⟩

section twoMailboxes

def checkOf1001 : VoicemailPlan where
  label := lit "Alice"
  voicemailBoxId := lit "box-a"
  mailboxNumber := lit "1001"
  mode := .check
  maxMessageSeconds := 120
  mwiEnabled := true
  greetingMedia := none
  greetingKind := none
  pinHash := none

def entryOf (voicemailBoxId mailboxNumber : JsString) : MailboxEntry where
  voicemailBoxId := voicemailBoxId
  mailboxNumber := mailboxNumber
  leaveNodeId := lit "voicemail:leave:" ++ voicemailBoxId
  checkNodeId := lit "voicemail:check:" ++ voicemailBoxId

def twoMailboxes : Record MailboxEntry :=
  ⟨(Dict.empty.set (lit "1001") (entryOf (lit "box-a") (lit "1001"))).set (lit "1002")
    (entryOf (lit "box-b") (lit "1002")), none⟩

def mailboxWalker : PlanWalker where
  platform := Compile.samplePlatform
  callId := lit "call-1"

def checkFrom (extension : JsString) : WalkInput where
  plan := ⟨none, Record.empty⟩
  callerIdNumber := some extension
  mailboxes := some twoMailboxes

theorem lookup_twoMailboxes {key : JsString} {entry : MailboxEntry} (h : twoMailboxes.lookup key = .own entry) :
    (key = lit "1001" ∧ entry = entryOf (lit "box-a") (lit "1001")) ∨
      (key = lit "1002" ∧ entry = entryOf (lit "box-b") (lit "1002")) := by
  rw [Record.lookup_eq_own_iff] at h
  simp only [Record.stored, twoMailboxes, Dict.get?_set, Dict.get?_empty, Option.map_none, ite_self] at h
  by_cases hb : lit "1002" = key
  · simp only [hb, if_true, Option.some.injEq] at h
    exact .inr ⟨hb.symm, by rw [← h, hb]⟩
  · by_cases ha : lit "1001" = key
    · simp only [hb, ha, if_true, if_false, Option.some.injEq] at h
      exact .inl ⟨ha.symm, by rw [← h, ha]⟩
    · simp [hb, ha] at h

theorem keyed_checkFrom (extension : JsString) : Keyed checkOf1001 (checkFrom extension) where
  number := by
    rintro mailboxes key entry ⟨⟩ hl
    obtain ⟨rfl, rfl⟩ | ⟨rfl, rfl⟩ := lookup_twoMailboxes hl <;> rfl
  box := by
    rintro mailboxes key entry ⟨⟩ hl hbox
    obtain ⟨rfl, rfl⟩ | ⟨rfl, rfl⟩ := lookup_twoMailboxes hl
    · rfl
    · exact absurd hbox (by decide)

/-- The owner of the mailbox dials its check. -/
theorem opensAuthenticated_from1001 : OpensAuthenticated mailboxWalker checkOf1001 (checkFrom (lit "1001")) := by
  apply (voicemailNode_opensAuthenticated_iff mailboxWalker checkOf1001 (checkFrom (lit "1001")) rfl
    (keyed_checkFrom _)).mpr
  refine .inl fun number hnumber => .inl ?_
  have hcalling : callingNumber mailboxWalker (checkFrom (lit "1001")) = some (lit "1001") := by decide
  exact Option.some.inj (hnumber.symm.trans hcalling)

/-- Extension 1002 dials it: the source is asked for box-a under number 1002. -/
theorem foreignCheck_opens : ¬OpensAuthenticated mailboxWalker checkOf1001 (checkFrom (lit "1002")) := by
  intro h
  obtain hown | hunwired | ⟨hpin, -⟩ := ownBoxOnly_of_opensAuthenticated rfl (keyed_checkFrom _) h
  · have hcalling : callingNumber mailboxWalker (checkFrom (lit "1002")) = some (lit "1002") := by decide +kernel
    obtain hsame | hnot := hown _ hcalling
    · exact absurd hsame (by decide)
    · exact hnot ⟨twoMailboxes, entryOf (lit "box-b") (lit "1002"), rfl, by decide⟩
  · cases hunwired
  · exact hpin rfl

end twoMailboxes

end PlanWalker

end OptimiqVoice.Engine

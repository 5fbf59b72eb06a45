import OptimiqVoice.Engine.Conduct
import OptimiqVoice.Engine.Nodes

namespace OptimiqVoice.Engine

open Lib Telephony Routing

/-- A node that ends without a hangup has a reason: the caller is gone, or is
connected. -/
structure Accounted (r : StepResult) (w : WalkWorld) : Prop where
  aborted : r = .aborted → Excused w
  bridged : r = .bridged → Connected w

theorem accounted_hangup (cause : HangupCause) (w : WalkWorld) : Accounted (.hangup cause) w :=
  ⟨nofun, nofun⟩

theorem accounted_goto (id : PlanNodeId) (w : WalkWorld) : Accounted (.goto id) w :=
  ⟨nofun, nofun⟩

theorem accounted_branch (id : Option PlanNodeId) (cause : HangupCause) (w : WalkWorld) :
    Accounted (branch id cause) w := by
  cases id with
  | none => exact accounted_hangup cause w
  | some id => exact accounted_goto id w

variable {w : WalkWorld}

theorem accounted_aborted (h : Excused w) : Accounted .aborted w :=
  ⟨fun _ => h, nofun⟩

theorem accounted_bridged (h : Connected w) : Accounted .bridged w :=
  ⟨nofun, fun _ => h⟩

section ends

variable {I P : WalkWorld → Prop}

theorem keeps_hangup {cause : HangupCause} : Keeps I P (pure (.hangup cause)) Accounted :=
  keeps_pure fun w _ _ => accounted_hangup cause w

theorem keeps_goto {id : PlanNodeId} : Keeps I P (pure (.goto id)) Accounted :=
  keeps_pure fun w _ _ => accounted_goto id w

theorem keeps_branch {id : Option PlanNodeId} {cause : HangupCause} :
    Keeps I P (pure (branch id cause)) Accounted :=
  keeps_pure fun w _ _ => accounted_branch id cause w

theorem Keeps.whileUp {m : Walk Bool} {next : Walk StepResult}
    (h : Keeps I P m fun up w => up = false → Excused w)
    (hnext : Keeps I (fun _ => True) next Accounted) :
    Keeps I P (do let up ← m; if !up then pure .aborted else next) Accounted := by
  apply h.bind
  intro up
  apply Keeps.ite
  · exact fun hup => keeps_pure fun w _ h => accounted_aborted (h (by simpa using hup))
  · exact fun _ => hnext.weaken (fun _ _ _ => trivial) fun _ _ _ => id

end ends

theorem excused_of_tearingDown {c : Caller} (hc : c = w.state.caller)
    (h : c.isTearingDown = true) : Excused w := by
  subst hc
  exact fun _ => by simp [Gone, Caller.abandoned, h]

namespace PlanWalker

variable {k : PlanWalker} {I P : WalkWorld → Prop}

theorem answerHeard_eq_false {event : Option Event} {c : Caller} (h : answerHeard event c = false) :
    event = some .callerEnded ∨ (event ≠ some .callerAnswered ∧ c.isAnswered = false) := by
  unfold answerHeard at h
  split at h
  · cases h
  · exact .inl rfl
  · rename_i hne _
    exact .inr ⟨hne, h⟩

attribute [local simp] tells connects

section answering

variable (hI : Closed (·.isCalm) I)

include hI

theorem ensureAnswered_keeps : Keeps I P k.ensureAnswered fun up w => up = false → Excused w := by
  apply keeps_caller.bind
  intro c
  apply Keeps.ite
  · exact fun _ => keeps_pure nofun
  intro _
  apply Keeps.ite
  · exact fun hc => keeps_pure fun w _ hw _ => excused_of_tearingDown hw.1 hc
  intro _
  apply (keeps_ask hI rfl).bind
  intro a
  apply Keeps.ite
  · exact fun hg => keeps_pure fun w _ hw _ => hw.excused (by simp [hg])
  intro _
  apply (keeps_ask hI rfl).bind
  intro b
  apply keeps_caller.bind
  intro c'
  apply keeps_pure
  rintro w _ ⟨hc, hb⟩ hup
  by_cases hd : c'.isTearingDown = true
  · exact excused_of_tearingDown hc hd
  · apply hb.excused
    have hheard : answerHeard b.event c' = false := by simpa [hd] using hup
    obtain he | ⟨he, hf⟩ := answerHeard_eq_false hheard
    · simp [he]
    -- the flag that the timer reads is at least what the reply brought
    · have hflag : b.isAnswered = false := by
        by_contra hb'
        have := hb.answered (by simpa using hb')
        rw [← hc, hf] at this
        cases this
      simp [he, hflag]

theorem announceAndHangup_keeps (media : JsString) (cause : HangupCause) :
    Keeps I P (k.announceAndHangup media cause) Accounted := by
  apply (ensureAnswered_keeps hI).bind
  intro up
  apply Keeps.ite
  · intro _
    apply (calmly_ask hI rfl).then
    exact fun _ => keeps_hangup
  · exact fun _ => keeps_hangup

theorem unavailable_keeps (cause : HangupCause) : Keeps I P (k.unavailable cause) Accounted :=
  announceAndHangup_keeps hI _ cause

theorem hangupQuietly_calmly (leg : LegId) (cause : HangupCause) :
    Calmly I (hangupQuietly leg cause) :=
  (calmly_ask hI rfl).bind fun _ => calmly_pure

theorem playPrompt_calmly (promptId : Option JsString) : Calmly I (k.playPrompt promptId) := by
  unfold playPrompt
  split
  · exact calmly_pure
  · exact (calmly_ask hI rfl).bind fun _ => calmly_pure

theorem startRinging_calmly : Calmly I startRinging :=
  (calmly_ask hI rfl).bind fun _ => keeps_tell hI rfl

theorem preBridge_calmly (bridgeId : BridgeId) : Calmly I (k.preBridge bridgeId) :=
  Calmly.ite ((calmly_ask hI rfl).bind fun _ => calmly_pure) calmly_pure

theorem joinBridge_keeps (bridgeId : BridgeId) (peer : Option LegId) :
    Keeps I P (joinBridge bridgeId peer) fun joined w => joined = true → Connected w := by
  apply (keeps_ask hI rfl).bind
  intro a
  apply Keeps.ite
  · exact fun _ => keeps_pure nofun
  intro _
  apply (keeps_ask hI rfl).bind
  intro b
  exact keeps_pure fun w _ hb h => hb.connected (by simpa using h)

theorem bridgeWith_keeps (peer : LegId) : Keeps I P (k.bridgeWith peer) Accounted := by
  apply (ensureAnswered_keeps hI).bind
  intro up
  apply Keeps.ite
  · intro hup
    apply (((hangupQuietly_calmly hI peer _).keep stable_excused).given (by simpa using hup)).bind
    exact fun _ => keeps_pure fun w _ => accounted_aborted
  intro _
  apply (calmly_newId hI).then
  intro bridgeId
  apply (preBridge_calmly hI bridgeId).then
  intro _
  apply (joinBridge_keeps hI bridgeId (some peer)).bind
  intro joined
  apply Keeps.ite
  · intro _
    apply (hangupQuietly_calmly hI peer _).then
    exact fun _ => keeps_hangup
  intro hj
  apply (((keeps_tell hI rfl).keep stable_connected).given (by simpa using hj)).bind
  intro _
  apply ((keeps_tell hI rfl).keep stable_connected).bind
  intro _
  apply ((keeps_tell hI rfl).keep stable_connected).bind
  intro _
  apply ((calmly_publish hI rfl).keep stable_connected).bind
  intro _
  apply ((keeps_tell hI rfl).keep stable_connected).bind
  exact fun _ => keeps_pure fun w _ => accounted_bridged

end answering

section voicemail

variable (hI : Closed (·.isCalm) I)

include hI

theorem fileVoicemailMessage_calmly (plan : VoicemailPlan) (recordingId : Nat) (durationMs : Int) :
    Calmly I (k.fileVoicemailMessage plan recordingId durationMs) := by
  apply Calmly.ite
  · apply (calmly_newId hI).bind
    intro messageId
    exact (calmly_ask hI rfl).bind fun _ => calmly_pure
  · exact calmly_pure

theorem leaveVoicemail_keeps (plan : VoicemailPlan) :
    Keeps I P (k.leaveVoicemail plan) Accounted := by
  apply (calmly_ask hI rfl).then
  intro _
  apply (calmly_newId hI).then
  intro recordingId
  apply (calmly_ask hI rfl).then
  intro a
  apply Keeps.ite
  · exact fun _ => keeps_hangup
  intro _
  apply (calmly_publish hI rfl).then
  intro _
  apply (calmly_ask hI rfl).then
  intro b
  apply (calmly_publish hI rfl).then
  intro _
  apply Keeps.ite
  · exact fun _ => keeps_hangup
  intro _
  apply (fileVoicemailMessage_calmly hI plan recordingId b.durationMs).then
  exact fun _ => keeps_hangup

theorem playWhileUp_keeps (media : List JsString) :
    Keeps I P (playWhileUp media) fun up w => up = false → Excused w := by
  induction media generalizing P with
  | nil => exact keeps_pure nofun
  | cons first rest ih =>
    apply keeps_caller.bind
    intro c
    apply Keeps.ite
    · exact fun hc => keeps_pure fun w _ hw _ => excused_of_tearingDown hw.1 hc
    intro _
    apply (calmly_ask hI rfl).then
    exact fun _ => ih

/-- A challenge that is not passed ends the node as a node may end. -/
def Denies (r : Admission) (w : WalkWorld) : Prop := ∀ result, r = .denied result → Accounted result w

omit hI in
theorem denies_denied {result : StepResult} (h : Accounted result w) : Denies (.denied result) w :=
  fun _ hr => Admission.denied.inj hr ▸ h

omit hI in
theorem denies_granted (moderator : Bool) (w : WalkWorld) : Denies (.granted moderator) w :=
  nofun

section prompts

variable {β : Type} {R : β → WalkWorld → Prop} {e : StepResult → β}
variable (he : ∀ {result w}, Accounted result w → R (e result) w)

include he

omit hI in
theorem whileStanding_keeps {next : Walk β} (hnext : Keeps I (fun _ => True) next R) :
    Keeps I P (do let c ← Walk.caller; if c.isTearingDown then pure (e .aborted) else next) R := by
  apply keeps_caller.bind
  intro c
  apply Keeps.ite
  · exact fun hc => keeps_pure fun w _ hw => he (accounted_aborted (excused_of_tearingDown hw.1 hc))
  · exact fun _ => hnext.weaken (fun _ _ _ => trivial) fun _ _ _ => id

theorem gathers_keeps {gather : GatherRequest} {next : Reply → Walk β}
    (hnext : ∀ a, Keeps I (fun _ => True) (next a) R) : Keeps I P (do
      let a ← Walk.execute (.gather gather)
      if !a.granted then pure (e (.hangup .normalTemporaryFailure))
      else if a.hangup then pure (e .aborted)
      else next a) R := by
  apply (keeps_ask hI rfl).bind
  intro a
  apply Keeps.ite
  · exact fun _ => keeps_pure fun w _ _ => he (accounted_hangup _ w)
  intro _
  apply Keeps.ite
  · exact fun ha => keeps_pure fun w _ hw => he (accounted_aborted (hw.excused (by simp [ha])))
  · exact fun _ => (hnext a).weaken (fun _ _ _ => trivial) fun _ _ _ => id

end prompts

theorem refuse_keeps (cause : HangupCause) :
    Keeps I P (do let result ← k.unavailable cause; pure (.denied result)) Denies := by
  apply (unavailable_keeps hI cause).bind
  intro result
  exact keeps_pure fun w _ => denies_denied

theorem voicemailPinRounds_keeps (hash : JsString) (left : Nat) :
    Keeps I P (k.voicemailPinRounds hash left) Denies := by
  induction left generalizing P with
  | zero => exact keeps_pure fun w _ _ => denies_denied (accounted_hangup _ w)
  | succ left ih =>
    apply whileStanding_keeps denies_denied
    apply gathers_keeps hI denies_denied
    intro a
    apply (calmly_ask hI rfl).then
    intro b
    split
    · exact keeps_pure fun w _ _ => denies_granted _ w
    · exact refuse_keeps hI _
    · exact refuse_keeps hI _
    · apply (calmly_ask hI rfl).then
      exact fun _ => ih

theorem challengeVoicemailPin_keeps (plan : VoicemailPlan) :
    Keeps I P (k.challengeVoicemailPin plan) Denies := by
  unfold challengeVoicemailPin
  split
  · exact keeps_pure fun w _ _ => denies_granted _ w
  · exact voicemailPinRounds_keeps hI _ _

def Leaves {β : Type} (r : β ⊕ StepResult) (w : WalkWorld) : Prop :=
  ∀ result, r = .inr result → Accounted result w

omit hI in
theorem leaves_inl {β : Type} (b : β) (w : WalkWorld) : Leaves (.inl b) w := nofun

omit hI in
theorem leaves_inr {β : Type} {result : StepResult} (h : Accounted result w) :
    Leaves (.inr result : β ⊕ StepResult) w :=
  fun _ hr => Sum.inr.inj hr ▸ h

theorem playNext_keeps (p : Playing) : Keeps I P (k.playNext p) Leaves := by
  unfold playNext
  split
  · exact keeps_pure fun w _ _ => leaves_inr (accounted_hangup _ w)
  · apply whileStanding_keeps leaves_inr
    split
    · exact keeps_pure fun w _ _ => leaves_inl _ w
    · apply gathers_keeps hI leaves_inr
      intro a
      apply Keeps.ite
      · exact fun _ => keeps_pure fun w _ _ => leaves_inr (accounted_hangup _ w)
      intro _
      apply Keeps.ite
      · exact fun _ => keeps_pure fun w _ _ => leaves_inl _ w
      · exact fun _ => keeps_pure fun w _ _ => leaves_inl _ w

theorem playTurns_keeps (n : Nat) (p : Playing) : Keeps I P (k.playTurns n p) Accounted := by
  induction n generalizing p P with
  | zero => exact keeps_hangup
  | succ n ih =>
    apply (playNext_keeps hI p).bind
    intro r
    cases r with
    | inl p' => exact ih p'
    | inr result => exact keeps_pure fun w _ h => h result rfl

theorem voicemailMenu_keeps (plan : VoicemailPlan) (mailbox : JsString) :
    Keeps I P (k.voicemailMenu plan mailbox) Accounted := by
  apply Keeps.ite
  · intro _
    apply (calmly_ask hI rfl).then
    intro a
    split
    · exact unavailable_keeps hI _
    · apply (playWhileUp_keeps hI _).whileUp
      apply Keeps.ite
      · exact fun _ => keeps_hangup
      · exact fun _ => playTurns_keeps hI _ _
  · exact fun _ => unavailable_keeps hI _

theorem voicemailCheck_keeps (plan : VoicemailPlan) (input : WalkInput) :
    Keeps I P (k.voicemailCheck plan input) Accounted := by
  unfold voicemailCheck
  split
  · exact unavailable_keeps hI _
  · apply (challengeVoicemailPin_keeps hI plan).bind
    intro r
    cases r with
    | denied result => exact keeps_pure fun w _ h => h result rfl
    | granted _ =>
      apply (playWhileUp_keeps hI _).whileUp
      exact voicemailMenu_keeps hI _ _

theorem voicemailNode_keeps (plan : VoicemailPlan) (input : WalkInput) :
    Keeps I P (k.voicemailNode plan input) Accounted := by
  apply (ensureAnswered_keeps hI).whileUp
  split
  · exact voicemailCheck_keeps hI plan input
  · exact leaveVoicemail_keeps hI plan

end voicemail

section conference

variable (hI : Closed (·.isCalm) I)

include hI

theorem verifyAgainst_calmly (digits : JsString) (hash : Option JsString) :
    Calmly I (verifyAgainst digits hash) := by
  cases hash with
  | none => exact calmly_pure
  | some hash => exact (calmly_ask hI rfl).bind fun _ => calmly_pure

theorem judgePin_keeps (moderator : Bool) (verdict : PinVerdict) {next : Walk Admission}
    (h : Keeps I (fun _ => True) next Denies) :
    Keeps I (fun _ => True) (k.judgePin moderator verdict next) Denies := by
  cases verdict with
  | ok => exact keeps_pure fun w _ _ => denies_granted _ w
  | mismatch => exact h
  | malformedHash | kdfError => exact refuse_keeps hI _

theorem conferencePinRounds_keeps (plan : ConferencePlan) (left : Nat) :
    Keeps I P (k.conferencePinRounds plan left) Denies := by
  induction left generalizing P with
  | zero => exact keeps_pure fun w _ _ => denies_denied (accounted_hangup _ w)
  | succ left ih =>
    apply whileStanding_keeps denies_denied
    apply gathers_keeps hI denies_denied
    intro a
    apply Keeps.ite
    · exact fun _ => keeps_pure fun w _ _ => denies_granted _ w
    intro _
    apply (verifyAgainst_calmly hI _ _).then
    intro asModerator
    apply judgePin_keeps hI
    apply (verifyAgainst_calmly hI _ _).then
    intro asParticipant
    apply judgePin_keeps hI
    apply (calmly_ask hI rfl).then
    exact fun _ => ih

theorem challengeConferencePin_keeps (plan : ConferencePlan) :
    Keeps I P (k.challengeConferencePin plan) Denies := by
  apply Keeps.ite
  · exact fun _ => refuse_keeps hI _
  intro _
  apply Keeps.ite
  · exact fun _ => keeps_pure fun w _ _ => denies_granted _ w
  · exact fun _ => conferencePinRounds_keeps hI plan _

theorem holdForModerator_keeps (plan : ConferencePlan) :
    Keeps I P (k.holdForModerator plan) fun admitted w => admitted = false → Excused w := by
  apply (calmly_call hI rfl).then
  intro _
  apply (keeps_ask hI rfl).bind
  intro a
  have hstop : Keeps I (Heard (.awaitModerator plan.conferenceId k.settings.conferenceModeratorWaitMs) a)
      (Walk.ask .stopMusicOnHold) fun _ w => a.event = some .callerEnded → Excused w := by
    by_cases he : a.event = some .callerEnded
    · apply ((calmly_ask hI rfl).keep stable_excused).weaken
      · exact fun w _ h => h.excused (by simp [he])
      · exact fun _ w _ h _ => h
    · exact (calmly_ask hI rfl).keeps.weaken (fun _ _ => id) fun _ w _ _ h => absurd h he
  apply hstop.bind
  intro _
  apply keeps_caller.bind
  intro c
  apply Keeps.ite
  · intro hc
    apply keeps_pure
    rintro w _ ⟨hw, he⟩ _
    rw [Bool.or_eq_true] at hc
    obtain hc | hc := hc
    · exact he (by simpa using hc)
    · exact excused_of_tearingDown hw hc
  intro _
  apply (calmly_ask hI rfl).then
  intro r
  apply Keeps.ite
  · exact fun _ => keeps_pure nofun
  intro _
  apply (keeps_call hI rfl).bind
  intro b
  exact keeps_pure fun w _ hb h => hb.2.excused (by simp [h])

theorem awaitAdmission_keeps (plan : ConferencePlan) (moderator : Bool) (room : ConferenceRoom) :
    Keeps I P (k.awaitAdmission plan moderator room) fun admitted w => admitted = false → Excused w := by
  apply Keeps.ite
  · exact fun _ => holdForModerator_keeps hI plan
  · exact fun _ => keeps_pure nofun

end conference

section rooms

variable {plan : ConferencePlan} (hI : Closed (·.isCalm) I)
variable (hR : Closed (fun q => q.room = some plan.conferenceId) I)

include hI hR

theorem enterConference_keeps (moderator : Bool) (bridgeId : BridgeId)
    (room : ConferenceRoom) : Keeps I P (enterConference plan moderator bridgeId room) Accounted := by
  apply (joinBridge_keeps hI bridgeId none).bind
  intro joined
  apply Keeps.ite
  · intro _
    apply (calmly_call hR rfl).then
    exact fun _ => keeps_hangup
  intro hj
  apply (((keeps_tell hI rfl).keep stable_connected).given (by simpa using hj)).bind
  intro _
  apply ((keeps_tell hI rfl).keep stable_connected).bind
  intro _
  apply ((calmly_ask hI rfl).keep stable_connected).bind
  intro r
  apply ((calmly_publish hI rfl).keep stable_connected).bind
  intro _
  apply ((keeps_tell hR rfl).keep stable_connected).bind
  exact fun _ => keeps_pure fun w _ => accounted_bridged

theorem joinConference_keeps (moderator : Bool) :
    Keeps I P (k.joinConference plan moderator) Accounted := by
  apply (calmly_newId hI).then
  intro newBridgeId
  apply (calmly_call hR rfl).then
  intro a
  split
  · exact announceAndHangup_keeps hI _ _
  · exact unavailable_keeps hI _
  · rename_i bridgeId room _
    apply (awaitAdmission_keeps hI plan moderator room).bind
    intro admitted
    apply Keeps.ite
    · intro ha
      apply (((calmly_call hR rfl).keep stable_excused).given (by simpa using ha)).bind
      exact fun _ => keeps_pure fun w _ => accounted_aborted
    · exact fun _ => enterConference_keeps hI hR moderator bridgeId room

theorem conferenceNode_keeps : Keeps I P (k.conferenceNode plan) Accounted := by
  apply Keeps.ite
  · exact fun _ => unavailable_keeps hI _
  intro _
  apply (ensureAnswered_keeps hI).whileUp
  apply (challengeConferencePin_keeps hI plan).bind
  intro r
  cases r with
  | denied result => exact keeps_pure fun w _ h => h result rfl
  | granted moderator => exact joinConference_keeps hI hR moderator

end rooms

section menus

variable (hI : Closed (·.isCalm) I)

include hI

theorem nowMs_calmly : Calmly I nowMs := (calmly_ask hI rfl).bind fun _ => calmly_pure

theorem playbackNode_keeps (plan : PlaybackPlan) : Keeps I P (k.playbackNode plan) Accounted := by
  unfold playbackNode
  split
  · exact keeps_branch
  · apply (ensureAnswered_keeps hI).whileUp
    apply (calmly_ask hI rfl).then
    intro a
    apply Keeps.ite
    · exact fun _ => keeps_hangup
    · exact fun _ => keeps_branch

theorem timeConditionNode_keeps (plan : TimeConditionPlan) (input : WalkInput) :
    Keeps I P (k.timeConditionNode plan input) Accounted := by
  unfold timeConditionNode
  split
  · exact keeps_goto
  · exact keeps_throw
  · cases input.now with
    | some instant =>
      apply (calmly_pure (a := instant)).then
      exact fun _ => keeps_branch
    | none =>
      apply (nowMs_calmly hI).then
      exact fun _ => keeps_branch

omit hI in
theorem accounted_ivrExhausted (plan : IvrMenuPlan) (c : IvrCounts) (w : WalkWorld) :
    Accounted (ivrExhausted plan c) w := by
  unfold ivrExhausted
  split
  · exact accounted_branch _ _ w
  · exact accounted_branch _ _ w

theorem ivrMiss_keeps (plan : IvrMenuPlan) (c : IvrCounts) (spent : Bool) (promptId : Option JsString) :
    Keeps I P (k.ivrMiss plan c spent promptId) Leaves := by
  apply Keeps.ite
  · exact fun _ => keeps_pure fun w _ _ => leaves_inr (accounted_ivrExhausted plan c w)
  intro _
  apply (playPrompt_calmly hI promptId).then
  exact fun _ => keeps_pure fun w _ _ => leaves_inl _ w

theorem ivrDigits_keeps (plan : IvrMenuPlan) (c : IvrCounts) (digits : JsString) :
    Keeps I P (k.ivrDigits plan c digits) Leaves := by
  apply Keeps.ite
  · exact fun _ => ivrMiss_keeps hI plan _ _ _
  intro _
  split
  · exact keeps_pure fun w _ _ => leaves_inr (accounted_goto _ w)
  · exact ivrMiss_keeps hI plan _ _ _

theorem ivrTurn_keeps (plan : IvrMenuPlan) (c : IvrCounts) :
    Keeps I P (k.ivrTurn plan c) Leaves := by
  apply Keeps.ite
  · exact fun _ => keeps_pure fun w _ _ => leaves_inr (accounted_ivrExhausted plan c w)
  intro _
  apply whileStanding_keeps leaves_inr
  apply gathers_keeps hI leaves_inr
  exact fun a => ivrDigits_keeps hI plan _ a.digits

theorem ivrMenuNode_keeps (plan : IvrMenuPlan) : Keeps I P (k.ivrMenuNode plan) Accounted := by
  apply (ensureAnswered_keeps hI).whileUp
  have hloop : ∀ c, Keeps I (fun _ => True) (Async.loop (k.ivrTurn plan) c) Accounted := by
    apply Keeps.loop (J := fun _ _ => True)
    intro c
    apply (ivrTurn_keeps hI plan c).weaken (fun _ _ => id)
    intro r w _ hr
    cases r with
    | inl c' => exact trivial
    | inr result => exact hr result rfl
  exact (hloop {}).weaken (fun _ _ _ => trivial) fun _ _ _ => id

theorem connecting_keeps {q : Request} (hq : q.isCalm) {next : Reply → Walk StepResult}
    (hc : ∀ a, a.rejected = false → a.granted = true → connects q a = true)
    (hnext : ∀ a, Keeps I (fun _ => True) (next a) Accounted) : Keeps I P (do
      let a ← Walk.call q
      if a.granted then pure .bridged else next a) Accounted := by
  apply (keeps_call hI hq).bind
  intro a
  apply Keeps.ite
  · exact fun ha => keeps_pure fun w _ h => accounted_bridged (h.2.connected (hc a h.1 ha))
  · exact fun _ => (hnext a).weaken (fun _ _ _ => trivial) fun _ _ _ => id

theorem pickupCode_keeps (plan : FeatureCodePlan) (input : WalkInput) :
    Keeps I P (k.pickupCode plan input) Accounted := by
  apply Keeps.ite
  · exact fun _ => unavailable_keeps hI _
  intro _
  apply Keeps.ite
  · exact fun _ => unavailable_keeps hI _
  intro _
  apply connecting_keeps hI rfl fun a hr ha => by simp [ha, hr]
  exact fun _ => unavailable_keeps hI _

theorem featureCodeNode_keeps (plan : FeatureCodePlan) (input : WalkInput) :
    Keeps I P (k.featureCodeNode plan input) Accounted := by
  unfold featureCodeNode
  split
  · exact keeps_goto
  · split
    · exact pickupCode_keeps hI plan input
    · exact pickupCode_keeps hI plan input
    · exact unavailable_keeps hI _
    · exact unavailable_keeps hI _
    · exact unavailable_keeps hI _

theorem parkIntoLot_keeps (plan : ParkPlan) (input : WalkInput) :
    Keeps I P (k.parkIntoLot plan input) Accounted := by
  apply connecting_keeps hI rfl fun a hr ha => by simp [ha, hr]
  intro a
  split
  · exact keeps_goto
  · exact unavailable_keeps hI _

theorem retrieveFromLot_keeps (plan : ParkPlan) (orbit : JsString) :
    Keeps I P (k.retrieveFromLot plan orbit) Accounted := by
  apply connecting_keeps hI rfl fun a hr ha => by simp [ha, hr]
  exact fun _ => unavailable_keeps hI _

theorem parkNode_keeps (plan : ParkPlan) (input : WalkInput) :
    Keeps I P (k.parkNode plan input) Accounted := by
  apply Keeps.ite
  · exact fun _ => unavailable_keeps hI _
  intro _
  apply (ensureAnswered_keeps hI).whileUp
  split
  · exact parkIntoLot_keeps hI plan input
  · exact retrieveFromLot_keeps hI plan _

end menus

section trunks

variable (hI : Closed (·.isCalm) I)

include hI

theorem drawTrunks_calmly (n : Nat) (remaining : List TrunkAttempt) :
    Calmly I (drawTrunks n remaining) := by
  induction n generalizing remaining with
  | zero => exact calmly_pure
  | succ n ih =>
    apply (calmly_ask hI rfl).bind
    intro a
    dsimp only
    split
    · exact calmly_pure
    · exact (ih _).bind fun _ => calmly_pure

theorem weightedSample_calmly (group : List TrunkAttempt) : Calmly I (weightedSample group) := by
  apply Calmly.ite
  · exact calmly_pure
  · exact (drawTrunks_calmly hI _ _).bind fun _ => calmly_pure

theorem sampleGroups_calmly (groups : List (List TrunkAttempt)) : Calmly I (sampleGroups groups) := by
  induction groups with
  | nil => exact calmly_pure
  | cons group rest ih =>
    apply (weightedSample_calmly hI group).bind
    intro front
    exact ih.bind fun _ => calmly_pure

theorem orderTrunkAttempts_calmly (attempts : List TrunkAttempt) :
    Calmly I (orderTrunkAttempts attempts) :=
  Calmly.ite calmly_pure (sampleGroups_calmly hI _)

theorem trunkHop_calmly (trunkDial : TrunkDialPlan) (hop : FollowMeDestination) (input : WalkInput)
    (timeoutSeconds : Int) (confirm : Option ConfirmRequest) :
    Calmly I (k.trunkHop trunkDial hop input timeoutSeconds confirm) := by
  apply (orderTrunkAttempts_calmly hI _).bind
  intro attempts
  cases attempts with
  | nil | cons _ _ => exact calmly_pure

theorem followMeAttempt_calmly (plan : ExtensionPlan) (hop : FollowMeDestination)
    (input : WalkInput) : Calmly I (k.followMeAttempt plan hop input) := by
  unfold followMeAttempt
  dsimp only
  split
  · exact calmly_pure
  · exact calmly_pure
  · split
    · exact calmly_pure
    · exact trunkHop_calmly hI _ _ _ _ _
    · exact calmly_pure

theorem followMeAttempts_calmly (plan : ExtensionPlan) (input : WalkInput)
    (hops : List FollowMeDestination) : Calmly I (k.followMeAttempts plan input hops) := by
  induction hops with
  | nil => exact calmly_pure
  | cons hop rest ih =>
    apply (followMeAttempt_calmly hI plan hop input).bind
    intro attempt
    exact ih.bind fun _ => calmly_pure

theorem reserveTrunk_calmly (attempt : TrunkAttempt) : Calmly I (k.reserveTrunk attempt) := by
  unfold reserveTrunk
  split
  · exact calmly_pure
  · apply Calmly.ite
    · exact (calmly_ask hI rfl).bind fun _ => calmly_pure
    · exact calmly_pure

theorem notifyEmergency_calmly (plan : TrunkDialPlan) (input : WalkInput) (number : JsString)
    (trunkName : Option JsString) : Calmly I (notifyEmergency plan input number trunkName) := by
  apply Calmly.ite
  · exact (calmly_ask hI rfl).bind fun _ => calmly_pure
  · exact calmly_pure

end trunks

end PlanWalker

end OptimiqVoice.Engine

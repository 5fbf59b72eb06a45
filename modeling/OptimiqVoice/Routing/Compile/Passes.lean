import OptimiqVoice.Routing.Compile.Rules
import OptimiqVoice.Routing.Compile.Run

namespace OptimiqVoice.Routing.Compile

open Lib Lib.Prog Telephony

variable {p : Platform} {w : OrgRoutingSnapshot} {s t : CompilerState}
variable {Allowed : PlanNodeId → PlanBody → Prop}

theorem claims {id : PlanNodeId} {build : Compiler PlanBody} {Q : PlanNodeId → CompilerState → Prop}
    (h : Runs (Grows w) s (claimNode id build) Q) :
    Runs (Grows w) s (claimNode id build) (fun r t => r = id ∧ Q r t) :=
  h.result fun _ _ he => claimNode_result he

theorem readyAt_build (id : PlanNodeId) : ReadyAt w (build p (index w)) s id :=
  fun _ => build_ready

variable {α : Type}

variable {node : α → Compiler PlanNodeId} {rows : List α}

variable (ix : Index)

section settings

theorem indexVoicemailGreetings_runs :
    Runs (Grows w) s (indexVoicemailGreetings w ix) (fun _ _ => True) :=
  Runs.each _ fun _ _ _ _ =>
    Runs.ite (fun _ => addDiagnostic_runs rfl) fun _ => .pure trivial

theorem ensureWellKnownTerminals_runs : Runs (Grows w) s ensureWellKnownTerminals
      (fun _ t => ∀ cause ∈ wellKnownTerminalCauses, Target (hangupId cause) t) := by
  refine .each_all _ _ (fun _ _ _ h hc => h.target hc) fun cause _ u _ => ?_
  refine (claims (hangupNode_runs cause)).bind fun id t _ hid => .pure ?_
  obtain ⟨rfl, ht⟩ := hid
  exact ht

theorem compileSettings_runs : Runs (Grows w) s (compileSettings p w) (fun _ _ => True) :=
  (Runs.when fun _ => addDiagnostic_runs rfl).bind fun _ _ _ _ => .pure trivial

theorem trunkContinueOnCauses_runs :
    Runs (Grows w) s (trunkContinueOnCauses w) (fun _ _ => True) := by
  unfold trunkContinueOnCauses
  cases w.settings.bind (·.trunkContinueOnCauses) with
  | none => exact .pure trivial
  | some configured =>
    refine (Runs.collect (fun _ _ => True) configured (fun _ _ _ _ h => h)
      (fun text _ u _ => ?_)).bind fun _ _ _ _ => .pure trivial
    unfold acceptedCause
    cases HangupCause.ofText? text with
    | some cause => exact .pure fun _ _ => trivial
    | none =>
      exact (addDiagnostic_runs rfl).bind fun _ _ _ _ => .pure fun _ _ => trivial

theorem compileTimeRule_runs (condition : TimeConditionInput) (rule : TimeConditionRuleInput) :
    Runs (Grows w) s (compileTimeRule condition rule) (fun _ _ => True) := by
  refine .ite (fun _ => .pure trivial) fun _ => ?_
  refine (Runs.each _ fun _ _ _ _ => ?_).bind fun _ _ _ _ => ?_
  · exact .each _ fun _ _ _ _ => addDiagnostic_runs rfl
  · exact .ite (fun _ => .pure trivial) fun _ => .pure trivial

/-- The condition is in the table, unless the compile has failed. -/
def Timed (condition : TimeConditionInput) (s : CompilerState) : Prop :=
  HasError s ∨ condition.id ∈ s.timeConditionsById.keys

theorem Timed.mono {condition : TimeConditionInput} (h : Timed condition s)
    (hd : Reported w s.diagnostics t.diagnostics)
    (ht : s.timeConditionsById.keys ⊆ t.timeConditionsById.keys) : Timed condition t :=
  h.imp (fun he => he.mono hd) fun hk => ht hk

theorem compileTimeConditions_runs : Runs (Grows w) s (compileTimeConditions p w ix)
      (fun _ t => ∀ condition ∈ w.timeConditions, Timed condition t) := by
  refine (Runs.each_all Timed _ (fun _ _ _ h ht => ht.mono h.diagnostics h.times)
    (fun condition _ u _ => ?_)).weaken fun _ t _ ht condition hc => ht condition ((mem_sortOn _).mpr hc)
  refine .ite (fun _ => .weaken (reportError_runs rfl) fun _ _ _ he => .inl he) fun _ => ?_
  refine (Runs.collect (fun _ _ => True) _ (fun _ _ _ _ h => h) fun rule _ v _ =>
    (compileTimeRule_runs condition rule).weaken fun _ _ _ _ _ _ => trivial).bind
    (fun _ _ _ _ => ?_)
  refine (Runs.when fun _ => addDiagnostic_runs rfl).bind fun _ _ _ _ => ?_
  refine .modify (Extends.of_eq (Reported.refl _) rfl rfl rfl fun k hk => ?_) (.inr ?_)
  · exact (Dict.mem_keys_set _ _ _ _).mpr (.inr hk)
  · exact (Dict.mem_keys_set _ _ _ _).mpr (.inl rfl)

theorem materialise_runs {enabled : α → Bool}
    (h : ∀ row ∈ rows, ∀ t, Runs (Grows w) t (node row) Target) :
    Runs (Grows w) s (materialise enabled node rows) (fun _ _ => True) :=
  Runs.each _ fun row hrow t _ =>
    Runs.ite (fun _ => (h row hrow t).bind fun _ _ _ _ => .pure trivial) (fun _ => .pure trivial)

theorem materialise_claims {enabled : α → Bool}
    (nodeId : α → PlanNodeId) (h : ∀ row ∈ rows, ∀ t, Runs (Grows w) t (node row)
      (fun id u => id = nodeId row ∧ Target id u)) :
    Runs (Grows w) s (materialise enabled node rows)
      (fun _ t => ∀ row ∈ rows, enabled row = true → nodeId row ∈ t.claimed) := by
  refine .each_all (fun row (t : CompilerState) => enabled row = true → nodeId row ∈ t.claimed) rows
    (fun _ _ _ hu hc hen => hu.claimed (hc hen)) fun row hrow t _ => ?_
  refine .ite (fun _ => ?_) fun hdis => .pure fun hen => absurd hen hdis
  refine (h row hrow t).bind fun id u _ hid => .pure fun _ => ?_
  exact hid.1 ▸ hid.2.1

theorem mem_sortById {key : α → JsString} {row : α} :
    row ∈ sortById key rows ↔ row ∈ rows :=
  mem_sortOn _

theorem materialiseEntities_runs : Runs (Grows w) s (materialiseEntities p w (index w))
      (fun _ t => ∀ row ∈ musicRows w, row.enabled = true → row.nodeId ∈ t.claimed) := by
  refine (materialise_claims extensionId fun e he t => ?_).bind fun _ t₁ _ hextensions => ?_
  · exact claims (extensionNode_runs (mem_sortById.mp he) (readyAt_build _))
  refine (materialise_runs fun box _ t => ?_).bind fun _ t₂ h₂ _ => ?_
  · exact (voicemailNode_runs _ box .leave).bind fun _ _ _ _ => voicemailNode_runs _ box .check
  refine (materialise_claims (fun g => (groupMusic g).nodeId) fun g hg t => ?_).bind
    (fun _ t₃ h₃ hgroups => ?_)
  · exact claims (ringGroupNode_runs (mem_sortById.mp hg) (readyAt_build _))
  refine (materialise_runs fun _ _ _ => ivrNode_runs (readyAt_build _)).bind fun _ t₄ h₄ _ => ?_
  refine (materialise_claims (fun q => (queueMusic q).nodeId) fun q hq t => ?_).bind
    (fun _ t₅ h₅ hqueues => ?_)
  · exact claims (queueNode_runs (mem_sortById.mp hq) (readyAt_build _))
  refine (materialise_claims (fun c => (roomMusic c).nodeId) fun c hc t => ?_).bind
    (fun _ t₆ h₆ hrooms => ?_)
  · exact claims (conferenceNode_runs (mem_sortById.mp hc))
  refine (materialise_claims (fun l => (lotMusic l).nodeId) fun l hl t => ?_).bind
    (fun _ t₇ h₇ hlots => ?_)
  · exact claims (parkNode_runs (mem_sortById.mp hl) (readyAt_build _))
  refine (Runs.each _ fun condition _ _ _ =>
    Runs.ite (fun _ => ?_) fun _ => .pure trivial).weaken fun _ t₈ h₈ _ => ?_
  · exact (targetNode_runs fun _ hc => timeConditionNode_runs (mem_of_byId hc) (readyAt_build _)).bind
      (fun _ _ _ _ => .pure trivial)
  have h₆₈ := h₇.trans h₈
  have h₅₈ := h₆.trans h₆₈
  have h₃₈ := h₄.trans (h₅.trans h₅₈)
  intro row hrow hen
  obtain ⟨e, he, rfl⟩ | ⟨g, hg, rfl⟩ | ⟨q, hq, rfl⟩ | ⟨c, hc, rfl⟩ | ⟨l, hl, rfl⟩ :=
    mem_musicRows.mp hrow
  · exact (h₂.trans (h₃.trans h₃₈)).claimed (hextensions e (mem_sortById.mpr he) hen)
  · exact h₃₈.claimed (hgroups g (mem_sortById.mpr hg) hen)
  · exact h₅₈.claimed (hqueues q (mem_sortById.mpr hq) hen)
  · exact h₆₈.claimed (hrooms c (mem_sortById.mpr hc) hen)
  · exact h₈.claimed (hlots l (mem_sortById.mpr hl) hen)

end settings

/-- A gate whose closed branch, if it has one, points where a branch may. -/
def GatePoints (gate : Option RouteTimeGate) (s : CompilerState) : Prop :=
  ∀ g ∈ gate, Points g.closedNodeId s

theorem GatePoints.mono {gate : Option RouteTimeGate} (hg : GatePoints gate s)
    (h : s.claimed ⊆ t.claimed) : GatePoints gate t :=
  fun g hm => (hg g hm).mono h

section internal

theorem featureCodeTarget_runs (entry : FeatureCodeInput) :
    Runs (Grows w) s (featureCodeTarget (index w) (build p (index w)) entry) Points := by
  unfold featureCodeTarget
  cases lotIdParam entry with
  | none => exact .pure points_none
  | some lotId =>
    exact .ite (fun _ => targetNode_runs fun _ hl => parkNode_runs (mem_of_byId hl) (readyAt_build _))
      (fun _ => .pure points_none)

theorem compileFeatureCode_runs (entry : FeatureCodeInput) :
    Runs (Grows w) s (compileFeatureCode (index w) (build p (index w)) entry)
      (fun o t => ∀ code ∈ o, Target code.nodeId t) := by
  refine .ite (fun _ => .pure (by simp)) fun _ => ?_
  refine (featureCodeTarget_runs entry).bind fun target t ht htarget => ?_
  have hnode : Runs (Grows w) t (claimNode (lit "feature-code:" ++ entry.id) (pure (.featureCode
      { label := entry.label.toOption.getD entry.code
        featureCodeId := entry.id
        code := entry.code
        action := entry.action
        params := entry.params.toOption
        targetNodeId := target }))) Target := by
    refine claimNode_target (lit "feature-code") rfl (by decide) fun _ => .pure ?_
    refine ⟨trivial, rfl, ?_, rfl, .silent rfl⟩
    exact timeoutBranch_target fun id hid => ⟨.tail _ (htarget id hid).1,
      (htarget id hid).2⟩
  refine hnode.bind fun nodeId u _ hid => .pure ?_
  intro code hcode
  cases hcode
  exact hid

theorem compileFeatureCodes_runs : Runs (Grows w) s (compileFeatureCodes p w (index w))
      (fun codes t => ∀ code ∈ codes, Target code.nodeId t) := by
  refine (Runs.each _ fun _ _ _ _ => addDiagnostic_runs rfl).bind fun _ _ _ _ => ?_
  refine (Runs.collect (fun code t => Target code.nodeId t) _ (fun _ _ _ h hc => h.target hc)
    (fun entry _ t _ => compileFeatureCode_runs entry)).bind fun codes t _ hcodes => .pure ?_
  intro code hcode
  exact hcodes code ((mem_sortOn _).mp hcode)

theorem compileVoicemailPrefixes_runs (codes : List CompiledFeatureCode) :
    Runs (Grows w) s (compileVoicemailPrefixes w codes) (fun _ _ => True) := by
  refine (Runs.each _ fun entry _ t _ => ?_).bind fun _ _ _ _ => .pure trivial
  split
  · exact addDiagnostic_runs rfl
  · exact .pure trivial

variable {kind : InternalNumberKind}

theorem claimNumber_runs {number : JsString} {entityId name : JsString}
    {nodeId : PlanNodeId} (hid : Target nodeId s) :
    Runs (Grows w) s (claimNumber number kind entityId nodeId name) (fun _ t => HasError t ∨
        (number ∉ s.internalNumbers.keys ∧ number ∈ t.internalNumbers.keys)) := by
  refine .get_bind ?_
  cases hn : s.internalNumbers.get? number with
  | some existing => exact .weaken (reportError_runs rfl) fun _ _ _ he => .inl he
  | none =>
    have hfree : number ∉ s.internalNumbers.keys := by
      simp [Dict.mem_keys_iff, hn]
    refine .modify ?_ (.inr ⟨hfree, (Dict.mem_keys_set _ _ _ _).mpr (.inl rfl)⟩)
    refine ⟨Reported.refl _, .refl _, fun _ _ => rfl, fun _ _ _ h => .inl h,
      fun _ h => .inl h, fun k e he => ?_, fun e he => ?_, .refl _⟩
    · have hne : number ≠ k := by
        intro h
        rw [h, he] at hn
        cases hn
      rw [Dict.get?_set_of_ne _ _ hne]
      exact he
    · obtain rfl | he := Dict.mem_values_set he
      · exact .inr hid
      · exact .inl he

theorem Extends.numbers_subset (h : Extends w Allowed s t) :
    s.internalNumbers.keys ⊆ t.internalNumbers.keys := by
  intro k hk
  rw [Dict.mem_keys_iff] at hk ⊢
  obtain ⟨e, he⟩ := hk
  exact ⟨e, h.numbersKept k e he⟩

theorem claimRowNumber_runs {number : α → Option JsString}
    {entityId name : α → JsString} {row : α}
    (h : Runs (Grows w) s (node row) Target) :
    Runs (Grows w) s (claimRowNumber kind number entityId name node row)
      (fun _ t => HasError t ∨ ∀ value, number row = some value →
        value ∉ s.internalNumbers.keys ∧ value ∈ t.internalNumbers.keys) := by
  unfold claimRowNumber
  cases hv : number row with
  | none => exact .pure (.inr nofun)
  | some value =>
    refine h.bind fun nodeId t ht hid => (claimNumber_runs hid).weaken fun _ u _ hq => ?_
    refine hq.imp_right fun hq value' hv' => ?_
    rw [Option.some.injEq] at hv'
    subst hv'
    exact ⟨fun hm => hq.1 (ht.numbers_subset hm), hq.2⟩

theorem claimNumbers_runs {number : α → Option JsString}
    {entityId name : α → JsString}
    (h : ∀ row ∈ rows, ∀ t, Runs (Grows w) t (node row) Target) :
    Runs (Grows w) s (claimNumbers kind number entityId name node rows)
      (fun _ t => HasError t ∨ ((rows.filterMap number).Nodup ∧
        ∀ n ∈ rows.filterMap number, n ∉ s.internalNumbers.keys)) := by
  induction rows generalizing s with
  | nil => exact .pure (.inr (by simp))
  | cons row rest ih =>
    refine (claimRowNumber_runs (h row (by simp) s)).bind fun _ t ht hq => ?_
    refine (ih fun x hx => h x (.tail _ hx)).weaken fun _ u hu hr => ?_
    obtain herr | hrow := hq
    · exact .inl (herr.mono hu.diagnostics)
    obtain herr | ⟨hnodup, hnew⟩ := hr
    · exact .inl herr
    have hold : ∀ n ∈ rest.filterMap number, n ∉ s.internalNumbers.keys :=
      fun n hn hm => hnew n hn (ht.numbers_subset hm)
    cases hv : number row with
    | none =>
      rw [List.filterMap_cons_none hv]
      exact .inr ⟨hnodup, hold⟩
    | some value =>
      obtain ⟨hfree, htaken⟩ := hrow value hv
      rw [List.filterMap_cons_some hv]
      refine .inr ⟨List.nodup_cons.mpr ⟨fun hm => hnew value hm htaken, hnodup⟩, ?_⟩
      intro n hn
      obtain rfl | hn := List.mem_cons.mp hn
      · exact hfree
      · exact hold n hn

/-- No two enabled extensions have the same number. -/
def DistinctNumbers (w : OrgRoutingSnapshot) : Prop :=
  ((w.extensions.filter (·.enabled)).map (·.number)).Nodup

theorem claimInternalNumbers_runs : Runs (Grows w) s (claimInternalNumbers p w (index w))
      (fun _ t => HasError t ∨ DistinctNumbers w) := by
  refine (claimNumbers_runs fun e he _ => ?_).bind fun _ t₁ _ hextensions => ?_
  · exact extensionNode_runs ((mem_sortOn _).mp he) (readyAt_build _)
  refine (claimNumbers_runs fun _ hg _ =>
    ringGroupNode_runs (mem_sortById.mp hg) (readyAt_build _)).bind fun _ _ h₂ _ => ?_
  refine (claimNumbers_runs fun _ _ _ => ivrNode_runs (readyAt_build _)).bind fun _ _ h₃ _ => ?_
  refine (claimNumbers_runs fun _ hq _ =>
    queueNode_runs (mem_sortById.mp hq) (readyAt_build _)).bind fun _ _ h₄ _ => ?_
  refine (claimNumbers_runs fun _ hc _ => conferenceNode_runs (mem_sortById.mp hc)).weaken
    (fun _ t₅ h₅ _ => ?_)
  refine hextensions.imp (fun he => he.mono (h₂.trans (h₃.trans (h₄.trans h₅))).diagnostics)
    (fun hd => ?_)
  have hperm : ((sortById (·.id) w.extensions).filterMap
      (fun e => if e.enabled then some e.number else none)).Perm
      ((w.extensions.filter (·.enabled)).map (·.number)) := by
    refine ((sortOn_perm _ _).filterMap _).trans (List.Perm.of_eq ?_)
    rw [← List.filterMap_eq_map, List.filterMap_filter]
    rfl
  exact hperm.nodup_iff.mp hd.1

theorem reportEmergencyShadowing_runs (emergency : Record EmergencyRule) :
    Runs (Grows w) s (reportEmergencyShadowing emergency) (fun _ _ => True) := by
  refine .get_bind (Runs.each _ fun _ _ _ _ => ?_)
  split
  · exact addDiagnostic_runs rfl
  · exact .pure trivial

theorem compileParkSlot_runs {ranges : List ParkSlotRange}
    (hr : ∀ range ∈ ranges, Target range.nodeId s) {lot : ParkLotInput} (hlot : lot ∈ w.parkLots) :
    Runs (Grows w) s (compileParkSlot (index w) (build p (index w)) ranges lot)
      (fun ranges t => ∀ range ∈ ranges, Target range.nodeId t) := by
  have kept : ∀ {m : Compiler Unit}, Runs (Grows w) s m (fun _ _ => True) →
      Runs (Grows w) s (do m; pure ranges) (fun ranges t => ∀ range ∈ ranges,
        Target range.nodeId t) :=
    fun hm => hm.bind fun _ t ht _ => .pure fun range h => ht.target (hr range h)
  refine .ite (fun _ => .pure hr) fun _ => ?_
  refine .ite (fun _ => kept (addDiagnostic_runs rfl)) fun _ => ?_
  refine .ite (fun _ => kept (addDiagnostic_runs rfl)) fun _ => ?_
  have hclash : Runs (Grows w) s
      (reportSlotClashes lot ⟨lit "park-lot", lot.id, some lot.name⟩) (fun _ _ => True) := by
    refine .get_bind (Runs.each _ fun _ _ _ _ => ?_)
    split
    · exact .ite (fun _ => addDiagnostic_runs rfl) fun _ => .pure trivial
    · exact .pure trivial
  refine hclash.bind fun _ t₁ h₁ _ => ?_
  refine (parkNode_runs hlot (readyAt_build _)).bind fun nodeId t₂ h₂ hid => .pure ?_
  intro range hrange
  obtain hold | hnew := List.mem_append.mp hrange
  · exact (h₁.trans h₂).target (hr range hold)
  · rw [List.mem_singleton] at hnew
    subst hnew
    exact hid

theorem compileParkSlots_runs : Runs (Grows w) s (compileParkSlots p w (index w))
      (fun ranges t => ∀ range ∈ ranges, Target range.nodeId t) := by
  refine (Runs.fold (fun ranges t => ∀ range ∈ ranges, Target range.nodeId t) _ [] (by simp)
    (fun lot hl ranges t _ hr => compileParkSlot_runs hr (mem_sortById.mp hl))).bind
    (fun ranges t _ hr => .pure ?_)
  intro range hrange
  exact hr range ((mem_sortOn _).mp hrange)

def MailboxPoints (entry : MailboxEntry) (s : CompilerState) : Prop :=
  Target entry.leaveNodeId s ∧ Target entry.checkNodeId s

theorem compileMailbox_runs {mailboxes : Record MailboxEntry}
    (hm : mailboxes.All (fun _ entry => MailboxPoints entry s)) (box : VoicemailBoxInput) :
    Runs (Grows w) s (compileMailbox (index w) mailboxes box)
      (fun mailboxes t => mailboxes.All (fun _ entry => MailboxPoints entry t)) := by
  refine .ite (fun _ => .pure hm) fun _ => ?_
  refine .ite (fun _ => ?_) fun _ => ?_
  · refine (addDiagnostic_runs rfl).bind (fun _ t ht _ => .pure ?_)
    exact hm.imp fun _ _ h => ⟨ht.target h.1, ht.target h.2⟩
  refine (voicemailNode_runs _ box .leave).bind fun leave t₁ h₁ hleave => ?_
  refine (voicemailNode_runs _ box .check).bind fun check t₂ h₂ hcheck => .pure ?_
  refine .assign _ ?_ ⟨h₂.target hleave, hcheck⟩
  exact hm.imp fun _ _ h => ⟨(h₁.trans h₂).target h.1, (h₁.trans h₂).target h.2⟩

theorem compileMailboxes_runs : Runs (Grows w) s (compileMailboxes w (index w))
      (fun mailboxes t => mailboxes.All (fun _ entry => MailboxPoints entry t)) := by
  refine (Runs.fold (fun mailboxes t => mailboxes.All fun _ entry => MailboxPoints entry t) _ Record.empty
    Record.all_empty fun box _ mailboxes t _ hm => compileMailbox_runs hm box).bind
    (fun mailboxes t _ hm => .pure ?_)
  exact .sorted _ hm

end internal

section inbound

theorem routeTimeGate_runs {timeConditionId : Nullable JsString} {failover : NamedDestination}
    {node : Option PlanNodeId} {subject : DiagnosticSubject} (hf : Points node s)
    (hfound : HasError s ∨ node.isSome = failover.type.toOption.isSome) :
    Runs (Grows w) s (routeTimeGate (index w) (build p (index w)) timeConditionId node subject)
      (fun gate t => GatePoints gate t ∧
        (HasError t ∨ GateOf w timeConditionId failover gate)) := by
  refine .and ?_ (routeTimeGate_of hfound)
  have none_gate : ∀ u, GatePoints none u := nofun
  unfold routeTimeGate
  split
  · exact .pure (none_gate _)
  split
  · exact (addDiagnostic_runs rfl).bind fun _ _ _ _ => .pure (none_gate _)
  refine .ite (fun _ => ?_) fun _ => ?_
  · exact (addDiagnostic_runs rfl).bind fun _ _ _ _ => .pure (none_gate _)
  refine (namedDestinationNode_runs build_ready _ _ _).bind fun noMatch t ht hn => .pure ?_
  intro g hg
  cases hg
  exact hn.or (hf.mono ht.claimed)

structure InboundPoints (rule : InboundRule) (s : CompilerState) : Prop where
  destination : Target rule.destinationNodeId s
  failover : Points rule.failoverNodeId s
  gate : GatePoints rule.timeGate s

theorem InboundPoints.mono {rule : InboundRule} (hr : InboundPoints rule s)
    (h : s.claimed ⊆ t.claimed) : InboundPoints rule t :=
  ⟨hr.destination.mono h, hr.failover.mono h, hr.gate.mono h⟩

theorem compileInboundRule_runs (route : InboundRouteInput) :
    Runs (Grows w) s (compileInboundRule p (index w) (build p (index w)) route)
      (fun o t => (∀ rule ∈ o, InboundPoints rule t) ∧ (HasError t ∨
        (o.isSome = route.enabled ∧ ∀ rule ∈ o, AnswersFor p w route rule))) := by
  refine .ite (fun hdis => .pure ⟨by simp, .inr ⟨?_, by simp⟩⟩) fun hen => ?_
  · simpa using hdis
  refine (boundNumber_eq _ _).bind fun bound t₁ _ hbound => ?_
  cases bound with
  | none => exact .pure ⟨by simp, .inl (hbound.resolve_right (by simp))⟩
  | some e164 =>
    refine (routePattern_eq _ _ _ _).bind fun pattern t₂ h₂ hpattern => ?_
    cases pattern with
    | none => exact .pure ⟨by simp, .inl (hpattern.resolve_right (by simp))⟩
    | some pattern =>
      refine (callerPatternOf_eq _ _).bind fun callerPattern t₃ h₃ hcaller => ?_
      refine (namedDestination_found _ _ _).bind fun failover t₄ h₄ hfailover => ?_
      obtain ⟨hfailover, hf⟩ := hfailover
      refine (build_found _ _ _).bind fun destination t₅ h₅ hdestination => ?_
      obtain ⟨hfound, hd⟩ := hdestination
      cases destination with
      | none => exact .pure ⟨by simp, .inl (hfound.resolve_right (by simp))⟩
      | some id =>
        refine (routeTimeGate_runs (hf.mono h₅.claimed) (hfailover.imp_left fun he =>
          he.mono h₅.diagnostics)).bind fun gate t₆ h₆ hgate => .pure ⟨?_, ?_⟩
        · intro rule hrule
          cases hrule
          exact ⟨h₆.target (points_some.mp hd), hf.mono (h₅.trans h₆).claimed, hgate.1⟩
        · by_cases herror : HasError t₆
          · exact .inl herror
          have h₃₆ := h₄.trans (h₅.trans h₆)
          have h₂₆ := h₃.trans h₃₆
          have hbound := hbound.resolve_left fun he =>
            herror (he.mono (h₂.trans h₂₆).diagnostics)
          have hpattern := hpattern.resolve_left fun he => herror (he.mono h₂₆.diagnostics)
          have hcaller := hcaller.resolve_left fun he => herror (he.mono h₃₆.diagnostics)
          refine .inr ⟨?_, fun rule hrule => ?_⟩
          · simpa using hen
          cases hrule
          exact ⟨rfl, rfl, rfl, Option.some.inj hbound, Option.some.inj hpattern.1, hpattern.2,
            hcaller, hgate.2.resolve_left herror⟩

theorem reportInboundShadowing_runs (rules passed : List InboundRule) :
    Runs (Grows w) s (reportInboundShadowing passed rules) (fun _ _ => True) := by
  induction rules generalizing s passed with
  | nil => exact .pure trivial
  | cons rule rest ih =>
    have hfirst : Runs (Grows w) s (reportFirstShadow passed rule) (fun _ _ => True) := by
      unfold reportFirstShadow
      split
      · apply addDiagnostic_runs
        simp only
        split <;> rfl
      · exact .pure trivial
    exact hfirst.bind fun _ _ _ _ => ih _

/-- A DID's own destination is that of a number which takes calls. -/
def DefaultOf (w : OrgRoutingSnapshot) (did : JsString) (entry : InboundDidDefault) : Prop :=
  ∃ number ∈ w.phoneNumbers, number.enabled = true ∧ number.voiceEnabled = true ∧
    number.e164 = did ∧ entry.phoneNumberId = number.id ∧ entry.e164 = number.e164

/-- A number that takes calls has an entry. An assignment to the prototype's
name makes none. -/
def HasDefault (number : PhoneNumberInput) (defaults : Record InboundDidDefault)
    (s : CompilerState) : Prop :=
  HasError s ∨ (number.enabled = true → number.voiceEnabled = true → number.e164 ≠ protoName →
    number.e164 ∈ defaults.own.keys)

/-- What every turn of the loop over the numbers keeps. -/
structure DefaultsPoint (w : OrgRoutingSnapshot) (defaults : Record InboundDidDefault)
    (s : CompilerState) : Prop where
  all : defaults.All (fun did entry => Target entry.destinationNodeId s ∧ DefaultOf w did entry)
  proto : defaults.own.get? protoName = none

theorem compileDidDefault_runs {defaults : Record InboundDidDefault} {number : PhoneNumberInput}
    (hnumber : number ∈ w.phoneNumbers) (hd : DefaultsPoint w defaults s) :
    Runs (Grows w) s (compileDidDefault (build p (index w)) defaults number)
      (fun defaults' t => DefaultsPoint w defaults' t ∧ HasDefault number defaults' t ∧
        ∀ x, HasDefault x defaults s → HasDefault x defaults' t) := by
  refine .ite (fun hdis => .pure ⟨hd, .inr fun hen hvoice => ?_, fun _ h => h⟩) (fun hen => ?_)
  · simp [hen, hvoice] at hdis
  refine (build_found _ _ _).bind fun destination t ht hfound => ?_
  obtain ⟨hfound, hp⟩ := hfound
  have hd' := hd.all.imp fun _ _ h => And.intro (ht.target h.1) h.2
  have kept : ∀ x, HasDefault x defaults s → HasDefault x defaults t :=
    fun x hx => hx.imp_left fun he => he.mono ht.diagnostics
  cases destination with
  | none => exact .pure ⟨⟨hd', hd.proto⟩, .inl (hfound.resolve_right (by simp)), kept⟩
  | some id =>
    rw [Bool.not_eq_true, Bool.or_eq_false_iff, Bool.not_eq_false', Bool.not_eq_false'] at hen
    refine .pure ⟨⟨?_, Record.own_assign_proto _ _ _ _ hd.proto⟩,
      .inr fun _ _ hne => ?_, fun x hx => ?_⟩
    · refine .assign _ hd' ⟨points_some.mp hp, ?_⟩
      exact ⟨number, hnumber, hen.1, hen.2, rfl, rfl, rfl⟩
    · exact Record.mem_own_keys_assign_self _ hne
    · refine (kept x hx).imp_right (fun h hx hv hne => ?_)
      exact Record.own_keys_assign _ (h hx hv hne)

structure InboundTablePoints (table : InboundMatchTable) (s : CompilerState) : Prop where
  rules : ∀ rule ∈ table.rules, InboundPoints rule s
  defaults : table.didDefaults.All (fun _ did => Target did.destinationNodeId s)
  noMatch : Target table.noMatchNodeId s

theorem InboundTablePoints.mono {table : InboundMatchTable} (ht : InboundTablePoints table s)
    (h : s.claimed ⊆ t.claimed) : InboundTablePoints table t where
  rules := fun rule hr => (ht.rules rule hr).mono h
  defaults := ht.defaults.imp fun _ _ hd => hd.mono h
  noMatch := ht.noMatch.mono h

/-- What the inbound table says about the rows. -/
structure InboundMirror (p : Platform) (w : OrgRoutingSnapshot) (table : InboundMatchTable)
    (s : CompilerState) : Prop where
  rules : HasError s ∨
    Mirrored (AnswersFor p w) (fun route => route.enabled) w.inboundRoutes table.rules
  ordered : table.rules.Pairwise (fun a b => inboundOrder a ≤ inboundOrder b)
  defaults : table.didDefaults.All (DefaultOf w)
  numbers : ∀ number ∈ w.phoneNumbers, HasDefault number table.didDefaults s
  proto : table.didDefaults.proto = none
  noMatch : table.noMatchNodeId = hangupId .unallocatedNumber

theorem InboundMirror.mono {table : InboundMatchTable} (h : InboundMirror p w table s)
    (hd : Reported w s.diagnostics t.diagnostics) : InboundMirror p w table t where
  __ := h
  rules := h.rules.imp_left fun he => he.mono hd
  numbers := fun number hn => (h.numbers number hn).imp_left fun he => he.mono hd

theorem compileInbound_runs : Runs (Grows w) s (compileInbound p w (index w))
      (fun table t => InboundTablePoints table t ∧ InboundMirror p w table t) := by
  have hcollect := (Runs.collect InboundPoints (sortById (·.id) w.inboundRoutes)
    (fun _ _ _ h hr => hr.mono h.claimed) fun route _ t _ =>
      (compileInboundRule_runs (p := p) (s := t) route).weaken fun _ _ _ h => h.1).and
    (Runs.collect_mirrored (R := Grows w) (s := s) HasError (fun route => route.enabled)
      (AnswersFor p w) _ (fun _ _ h he => he.mono h.diagnostics) fun route _ t _ =>
        (compileInboundRule_runs route).weaken fun _ _ _ h => h.2)
  refine hcollect.bind fun rules t₁ _ hrules => ?_
  refine (reportInboundShadowing_runs _ _).bind fun _ t₂ h₂ _ => ?_
  refine (Runs.fold_all (DefaultsPoint w) HasDefault _ Record.empty ⟨Record.all_empty, rfl⟩
    (fun number hn defaults t _ hd => compileDidDefault_runs (mem_sortById.mp hn) hd)).bind
    (fun defaults t₃ h₃ hd => ?_)
  refine (claims (hangupNode_runs _)).bind fun noMatch t₄ h₄ hn =>
    Runs.pure ⟨⟨?_, ?_, hn.2⟩, ⟨?_, sortOn_pairwise _ _, ?_, ?_, ?_, hn.1⟩⟩
  · intro rule hrule
    exact (hrules.1 rule ((mem_sortOn _).mp hrule)).mono (h₂.trans (h₃.trans h₄)).claimed
  · exact .sorted _ (hd.1.all.imp fun _ _ h => h₄.target h.1)
  · refine hrules.2.imp (fun he => he.mono (h₂.trans (h₃.trans h₄)).diagnostics) (fun h => ?_)
    exact h.congr (fun _ => mem_sortById.symm) fun _ => mem_sortOn _
  · exact .sorted _ (hd.1.all.imp fun _ _ h => h.2)
  · intro number hm
    refine (hd.2 number (mem_sortById.mpr hm)).imp (fun he => he.mono h₄.diagnostics)
      (fun h hen hvoice hne => ?_)
    exact Record.mem_own_keys_sorted _ hne (h hen hvoice hne)
  · exact Record.proto_ofDict _ _ hd.1.proto

end inbound

structure InternalTablePoints (table : InternalMatchTable) (s : CompilerState) : Prop where
  featureCodes : ∀ code ∈ table.featureCodes, Target code.nodeId s
  mailboxes : table.mailboxes.All (fun _ entry => MailboxPoints entry s)
  numbers : table.numbers.All (fun _ entry => Target entry.nodeId s)
  parkSlots : ∀ range ∈ table.parkSlots, Target range.nodeId s
  noMatch : Target table.noMatchNodeId s

theorem InternalTablePoints.mono {table : InternalMatchTable} (ht : InternalTablePoints table s)
    (h : s.claimed ⊆ t.claimed) : InternalTablePoints table t where
  featureCodes := fun code hc => (ht.featureCodes code hc).mono h
  mailboxes := ht.mailboxes.imp fun _ _ hm => ⟨hm.1.mono h, hm.2.mono h⟩
  numbers := ht.numbers.imp fun _ _ hn => hn.mono h
  parkSlots := fun range hr => (ht.parkSlots range hr).mono h
  noMatch := ht.noMatch.mono h

theorem compileInternal_runs (emergency : Record EmergencyRule)
    (hs : ∀ e ∈ s.internalNumbers.values, Target e.nodeId s) :
    Runs (Grows w) s (compileInternal p w (index w) emergency)
      (fun table t => table.emergency = embedded emergency ∧ InternalTablePoints table t ∧
        (HasError t ∨ DistinctNumbers w)) := by
  refine compileFeatureCodes_runs.bind fun codes t₁ h₁ hcodes => ?_
  refine (compileVoicemailPrefixes_runs _).bind fun _ t₂ h₂ _ => ?_
  refine claimInternalNumbers_runs.bind fun _ t₃ h₃ hdistinct => ?_
  refine (reportEmergencyShadowing_runs _).bind fun _ t₄ h₄ _ => ?_
  refine compileParkSlots_runs.bind fun ranges t₅ h₅ hranges => ?_
  refine compileMailboxes_runs.bind fun mailboxes t₆ h₆ hmail => .get_bind ?_
  refine (hangupNode_runs _).bind fun noMatch t₇ h₇ hn =>
    Runs.pure ⟨rfl, ⟨?_, ?_, ?_, ?_, hn⟩, ?_⟩
  · intro code hcode
    exact (h₂.trans (h₃.trans (h₄.trans (h₅.trans (h₆.trans h₇))))).target (hcodes code hcode)
  · exact hmail.imp fun _ _ h => ⟨h₇.target h.1, h₇.target h.2⟩
  · refine Record.all_fromEntries (fun e he => ?_)
    have hall := h₁.trans (h₂.trans (h₃.trans (h₄.trans (h₅.trans h₆))))
    obtain hold | hnew := hall.numbersFresh e he
    · exact (hall.trans h₇).target (hs e hold)
    · exact h₇.target hnew
  · intro range hrange
    exact (h₆.trans h₇).target (hranges range hrange)
  · exact hdistinct.imp_left fun he =>
      he.mono (h₄.trans (h₅.trans (h₆.trans h₇))).diagnostics

/-- The bodies the compiler may store before the follow-me pass. A trunk dial is
the emergency node, or carries the toll class of the route it was made from. -/
def Planned (w : OrgRoutingSnapshot) (id : PlanNodeId) : PlanBody → Prop
  | .trunkDial q =>
    (id = emergencyNodeId ∧ ∃ location, q = emergencyPlan w (index w) location) ∨
    (id ≠ emergencyNodeId ∧
      ∃ route ∈ w.outboundRoutes, id = trunkDialId route.id ∧ q.tollClass = route.tollClass)
  | body => EntityBody w id body

abbrev Plans (w : OrgRoutingSnapshot) := Extends w (Planned w)

theorem Grows.plans (h : Grows w s t) : Plans w s t := by
  refine h.mono fun id body hb => ?_
  cases body with
  | trunkDial q => exact hb.elim
  | _ => exact hb

section emergency

def NoTrunks (s : CompilerState) : Prop := ∀ id ∈ s.claimed, tag id ≠ trunkDialTag

theorem reportEmergencyReachability_runs (n : Nat) :
    Runs (Grows w) s (reportEmergencyReachability w n) (fun _ _ => True) :=
  Runs.ite (fun _ => .pure trivial) fun _ => addDiagnostic_runs rfl

/-- With no addresses loaded but an empty collection, a number that names one is
reported. -/
def AddressNoted (w : OrgRoutingSnapshot) (did : PhoneNumberInput) (s : CompilerState) : Prop :=
  w.emergencyAddresses = some [] → (assignedAddress did).isSome = true →
    HasCode .danglingEmergencyAddress s

theorem offerLocation_runs (chosen : Option EmergencyLocation) (did : PhoneNumberInput) :
    Runs (Grows w) s (offerLocation w.emergencyAddresses.isSome (index w) chosen did)
      (fun _ t => AddressNoted w did t) := by
  unfold offerLocation
  simp only
  split
  · next hnone => exact .pure fun _ hs => by rw [hnone] at hs; cases hs
  refine .ite (fun hno => .pure fun he _ => ?_) fun hloaded => ?_
  · rw [he] at hno
    cases hno
  have hsome : ∀ {d : Diagnostic}, d.code = .danglingEmergencyAddress → Reportable w d := by
    refine fun hd => ⟨by simp [hd], fun _ => ?_, by simp [hd]⟩
    simpa [Option.isSome_iff_ne_none] using hloaded
  split
  · exact (addDiagnostic_notes (hsome rfl)).bind fun _ _ _ hc => .pure fun _ _ => hc
  · next hget =>
    refine .ite (fun _ => ?_) fun _ => .pure fun he _ => ?_
    · exact (addDiagnostic_notes (hsome rfl)).bind fun _ _ _ hc => .pure fun _ _ => hc
    · simp [index, he, sortById, Dict.indexBy] at hget

theorem emergencyLocation_runs : Runs (Grows w) s (emergencyLocation w (index w))
      (fun _ t => ∀ did ∈ voiceNumbers w, AddressNoted w did t) := by
  have kept : ∀ {did : PhoneNumberInput} {t u : CompilerState}, Grows w t u →
      AddressNoted w did t → AddressNoted w did u :=
    fun h hn he hs => (hn he hs).mono h.diagnostics
  refine (Runs.fold_all (fun _ _ => True) (fun did _ t => AddressNoted w did t) _ none trivial
    (fun did _ chosen t _ _ => ?_)).bind fun _ t _ hnoted => ?_
  · exact (offerLocation_runs _ _).weaken fun _ u h hn => ⟨trivial, hn, fun _ => kept h⟩
  refine (Runs.each _ fun did _ t _ => ?_).bind
    (fun _ u h _ => .pure fun did hd => kept h (hnoted.2 did hd))
  exact .ite (fun _ => .pure trivial) fun _ => addDiagnostic_runs rfl

def HasEmergencyNode (w : OrgRoutingSnapshot) (s : CompilerState) : Prop :=
  emergencyNodeId ∈ s.claimed ∧ ∃ location, s.nodes.get? emergencyNodeId =
    some ⟨emergencyNodeId, .trunkDial (emergencyPlan w (index w) location)⟩

theorem HasEmergencyNode.mono (hs : HasEmergencyNode w s)
    (h : Extends w Allowed s t) : HasEmergencyNode w t := by
  obtain ⟨hc, location, hn⟩ := hs
  exact ⟨h.claimed hc, location, (h.kept _ hc).trans hn⟩

theorem kind_ne_trunkDial {id : PlanNodeId} {body : PlanBody} (h : EntityBody w id body) :
    body.kind ≠ trunkDialTag := by
  cases body with
  | trunkDial q => exact h.elim
  | _ =>
    simp only [PlanBody.kind]
    decide

theorem Grows.noTrunks (h : Grows w s t) (hs : Tidy s) (hn : NoTrunks s) : NoTrunks t := by
  intro id hid
  by_cases hc : id ∈ s.claimed
  · exact hn id hc
  obtain ⟨node, hnode⟩ := (Dict.mem_keys_iff _ _).mp ((h.closed id hid).resolve_left hc)
  obtain hold | ⟨-, -, hb, hf⟩ := h.fresh id hc node hnode
  · exact absurd (hs id ((Dict.mem_keys_iff _ _).mpr ⟨node, hold⟩)) hc
  · rw [hf.tag_eq]
    exact kind_ne_trunkDial hb

theorem runs_noTrunks {m : Compiler α} {Q : α → CompilerState → Prop}
    (h : Runs (Grows w) s m Q) (hs : Tidy s) (hn : NoTrunks s) :
    Runs (Plans w) s m (fun a t => Q a t ∧ Tidy t ∧ NoTrunks t) :=
  (h.weaken fun _ _ ht hq => ⟨hq, ht.tidy hs, ht.noTrunks hs hn⟩).rel fun _ => Grows.plans

/-- Every configured entry that is no dial string is named in a warning. -/
def Dropped (w : OrgRoutingSnapshot) (s : CompilerState) : Prop :=
  ∀ raw ∈ invalidEmergencyNumbers (w.settings.bind (·.emergencyNumbers)),
    ∃ d ∈ s.diagnostics, Drops raw d

theorem Dropped.mono (hs : Dropped w s) (h : Reported w s.diagnostics t.diagnostics) :
    Dropped w t := by
  intro raw hraw
  obtain ⟨d, hmem, hdrops⟩ := hs raw hraw
  exact ⟨d, h.subset hmem, hdrops⟩

theorem compileEmergency_runs (hs : Tidy s) (hn : NoTrunks s) :
    Runs (Plans w) s (compileEmergency w (index w))
      (fun table t => table = emergencyTable w ∧ HasEmergencyNode w t ∧
        (∀ did ∈ voiceNumbers w, AddressNoted w did t) ∧ Dropped w t) := by
  have hinvalid : Runs (Grows w) s (reportInvalidEmergencyNumbers w) (fun _ t => Dropped w t) := by
    refine .each_all _ _ (fun raw t u h hd => ?_) fun raw hraw t _ => ?_
    · obtain ⟨d, hmem, hdrops⟩ := hd
      exact ⟨d, h.diagnostics.subset hmem, hdrops⟩
    · refine (addDiagnostic_mem ⟨by simp, by simp, fun _ => ⟨raw, hraw, ?_⟩⟩).weaken
        fun _ u _ hd => ⟨_, hd, ?_⟩
      all_goals exact ⟨rfl, rfl, _, (List.append_assoc ..).symm⟩
  refine (runs_noTrunks hinvalid hs hn).bind fun _ t₁ _ h₁ => ?_
  obtain ⟨hdropped, hs₁, hn₁⟩ := h₁
  refine (runs_noTrunks emergencyLocation_runs hs₁ hn₁).bind fun location t₂ hg₂ h₂ => ?_
  obtain ⟨hnoted, hs₂, hn₂⟩ := h₂
  refine (runs_noTrunks (reportEmergencyReachability_runs _) hs₂ hn₂).bind fun _ t₃ h₃ hq₃ => ?_
  obtain ⟨-, -, hn₃⟩ := hq₃
  have hfree : emergencyNodeId ∉ t₃.claimed := fun hc => hn₃ _ hc rfl
  refine (claimNode_runs (P := fun body => body = .trunkDial (emergencyPlan w (index w) location))
    (fun _ => .pure ⟨rfl, ?_, ?_⟩)).bind fun id t₄ h₄ hq₄ => .pure ⟨rfl, ?_, ?_, ?_⟩
  · exact .inl ⟨rfl, location, rfl⟩
  · exact ⟨rfl, by simp [branches, planNodeReferences, emergencyPlan], rfl, .silent rfl⟩
  · obtain ⟨rfl, hc, hnode⟩ := hq₄
    obtain ⟨body, rfl, hget⟩ := hnode hfree
    exact ⟨hc, location, hget⟩
  · intro did hd he hs
    exact (hnoted did hd he hs).mono (h₃.trans h₄).diagnostics
  · exact hdropped.mono (hg₂.trans (h₃.trans h₄)).diagnostics

end emergency

section outbound

theorem trunkAttempt_runs (route : OutboundRouteInput) (subject : DiagnosticSubject)
    (entry : TrunkPriorityInput) :
    Runs (Grows w) s (trunkAttempt ix route subject entry) (fun _ _ => True) := by
  unfold trunkAttempt
  split
  · exact (addDiagnostic_runs rfl).bind fun _ _ _ _ => .pure trivial
  · exact .ite (fun _ => (addDiagnostic_runs rfl).bind fun _ _ _ _ => .pure trivial)
      (fun _ => .pure trivial)

theorem compileTrunkPlan_runs (route : OutboundRouteInput)
    (subject : DiagnosticSubject) :
    Runs (Grows w) s (compileTrunkPlan ix route subject) (fun _ _ => True) := by
  refine (Runs.collect (fun _ _ => True) _ (fun _ _ _ _ h => h) fun entry _ t _ =>
    (trunkAttempt_runs ix route subject entry).weaken fun _ _ _ _ _ _ => trivial).bind
    (fun _ _ _ _ => ?_)
  exact (Runs.when fun _ => addDiagnostic_runs rfl).bind fun _ _ _ _ => .pure trivial

/-- An outbound rule leads to the trunk dial of its own route, and its gate's
closed branch to none. -/
structure OutboundPoints (w : OrgRoutingSnapshot) (rule : OutboundRule) (s : CompilerState) :
    Prop where
  route : ∃ route ∈ w.outboundRoutes, rule.destinationNodeId = trunkDialId route.id ∧
    rule.tollClass = route.tollClass
  claimed : rule.destinationNodeId ∈ s.claimed
  gate : GatePoints rule.timeGate s

theorem OutboundPoints.mono {rule : OutboundRule}
    (hr : OutboundPoints w rule s) (h : s.claimed ⊆ t.claimed) : OutboundPoints w rule t :=
  ⟨hr.route, h hr.claimed, hr.gate.mono h⟩

theorem compileOutboundRule_runs (causes : List HangupCause) {route : OutboundRouteInput}
    (hroute : route ∈ w.outboundRoutes) (hs : emergencyNodeId ∈ s.claimed) :
    Runs (Plans w) s (compileOutboundRule p (index w) (build p (index w)) causes route)
      (fun o t => (∀ rule ∈ o, OutboundPoints w rule t) ∧ (HasError t ∨
        (o.isSome = route.enabled ∧ ∀ rule ∈ o, DialsFor p w route rule))) := by
  have lift : ∀ {α : Type} {m : Compiler α} {Q : α → CompilerState → Prop} {u : CompilerState},
      Runs (Grows w) u m Q → Runs (Plans w) u m Q := fun h => h.rel fun _ => Grows.plans
  refine Runs.ite (fun hdis => Runs.pure ⟨by simp, .inr ⟨?_, by simp⟩⟩) fun hen => ?_
  · simpa using hdis
  refine (lift (routePatterns_eq _ _)).bind fun patterns t₁ h₁ hpatterns => ?_
  cases patterns with
  | none => exact .pure ⟨by simp, .inl (hpatterns.resolve_right (by simp))⟩
  | some patterns =>
    refine (lift (reportDigitManipulation_usable _ _)).bind fun usable t₂ h₂ husable => ?_
    refine .ite (fun hno => .pure ⟨by simp, .inl (husable.resolve_right ?_)⟩) (fun _ => ?_)
    · simpa using hno
    refine (lift (namedDestination_found _ _ _)).bind fun failover t₃ h₃ hfailover => ?_
    obtain ⟨hfailover, hf⟩ := hfailover
    refine (lift (compileTrunkPlan_runs _ _ _)).bind fun attempts t₄ h₄ _ => ?_
    have hf₄ : Points failover t₄ := fun id hid => h₄.target (hf id hid)
    have hs₄ := (h₁.trans (h₂.trans (h₃.trans h₄))).claimed hs
    refine (claimNode_runs (P := fun _ => True) fun hid => .pure ⟨trivial, ?_, ?_⟩).bind
      (fun nodeId t₅ h₅ hnode => ?_)
    · exact .inr ⟨fun he => hid (he ▸ hs₄), route, hroute, rfl, rfl⟩
    · refine ⟨rfl, ?_, rfl, .silent rfl⟩
      exact timeoutBranch_target fun id hid => ⟨.tail _ (hf₄ id hid).1,
        (hf₄ id hid).2⟩
    obtain ⟨rfl, hc, -⟩ := hnode
    have hf₅ : Points failover t₅ := fun id hid => h₅.target (hf₄ id hid)
    refine (lift (routeTimeGate_runs hf₅ (hfailover.imp_left fun he =>
      he.mono (h₄.trans h₅).diagnostics))).bind fun gate t₆ h₆ hgate => .pure ⟨?_, ?_⟩
    · intro rule hrule
      cases hrule
      exact ⟨⟨route, hroute, rfl, rfl⟩, h₆.claimed hc, hgate.1⟩
    · by_cases herror : HasError t₆
      · exact .inl herror
      have hpatterns := hpatterns.resolve_left fun he =>
        herror (he.mono (h₂.trans (h₃.trans (h₄.trans (h₅.trans h₆)))).diagnostics)
      refine .inr ⟨?_, fun rule hrule => ?_⟩
      · simpa using hen
      cases hrule
      exact ⟨rfl, rfl, rfl, Option.some.inj hpatterns, rfl, rfl, rfl,
        hgate.2.resolve_left herror, rfl⟩

structure OutboundTablePoints (w : OrgRoutingSnapshot) (table : OutboundMatchTable)
    (s : CompilerState) : Prop where
  rules : ∀ rule ∈ table.rules, OutboundPoints w rule s
  noMatch : Target table.noMatchNodeId s
  denied : Target table.deniedNodeId s

theorem OutboundTablePoints.mono {table : OutboundMatchTable} (ht : OutboundTablePoints w table s)
    (h : s.claimed ⊆ t.claimed) : OutboundTablePoints w table t where
  rules := fun rule hr => (ht.rules rule hr).mono h
  noMatch := ht.noMatch.mono h
  denied := ht.denied.mono h

/-- What the outbound table says about the rows. -/
structure OutboundMirror (p : Platform) (w : OrgRoutingSnapshot) (table : OutboundMatchTable)
    (s : CompilerState) : Prop where
  rules : HasError s ∨
    Mirrored (DialsFor p w) (fun route => route.enabled) w.outboundRoutes table.rules
  ordered : table.rules.Pairwise (fun a b => outboundOrder a ≤ outboundOrder b)

theorem OutboundMirror.mono {table : OutboundMatchTable} (h : OutboundMirror p w table s)
    (hd : Reported w s.diagnostics t.diagnostics) : OutboundMirror p w table t where
  rules := h.rules.imp_left fun he => he.mono hd
  ordered := h.ordered

theorem compileOutbound_runs (settings : CompiledRoutingSettings)
    (emergency : Record EmergencyRule) (hs : emergencyNodeId ∈ s.claimed) :
    Runs (Plans w) s (compileOutbound p w (index w) settings emergency)
      (fun table t => table.emergency = embedded emergency ∧
        table.enabled = settings.outboundEnabled ∧ OutboundTablePoints w table t ∧
        OutboundMirror p w table t) := by
  have lift : ∀ {α : Type} {m : Compiler α} {Q : α → CompilerState → Prop} {u : CompilerState},
      Runs (Grows w) u m Q → Runs (Plans w) u m Q := fun h => h.rel fun _ => Grows.plans
  refine (lift trunkContinueOnCauses_runs).bind fun causes t₁ h₁ _ => ?_
  have hrule : ∀ route ∈ sortById (·.id) w.outboundRoutes, ∀ t, Plans w t₁ t → Runs (Plans w) t
      (compileOutboundRule p (index w) (build p (index w)) causes route)
      (fun o t => (∀ rule ∈ o, OutboundPoints w rule t) ∧ (HasError t ∨
        (o.isSome = route.enabled ∧ ∀ rule ∈ o, DialsFor p w route rule))) :=
    fun route hroute t ht => compileOutboundRule_runs causes ((mem_sortOn _).mp hroute)
      (ht.claimed (h₁.claimed hs))
  have hcollect := (Runs.collect (OutboundPoints w) _ (fun _ _ _ h hr => hr.mono h.claimed)
      (fun route hm t ht => (hrule route hm t ht).weaken fun _ _ _ h => h.1)).and
    (Runs.collect_mirrored HasError (fun route => route.enabled) (DialsFor p w) _
      (fun _ _ h he => he.mono h.diagnostics)
      (fun route hm t ht => (hrule route hm t ht).weaken fun _ _ _ h => h.2))
  refine hcollect.bind fun rules t₂ h₂ hrules => ?_
  refine (lift (hangupNode_runs _)).bind fun noMatch t₃ h₃ hn => ?_
  refine (lift (hangupNode_runs _)).bind fun denied t₄ h₄ hd => .pure ?_
  refine ⟨rfl, rfl, ⟨fun rule hrule => ?_, h₄.target hn, hd⟩, ?_, sortOn_pairwise _ _⟩
  · exact (hrules.1 rule ((mem_sortOn _).mp hrule)).mono (h₃.trans h₄).claimed
  · refine hrules.2.imp (fun he => he.mono (h₃.trans h₄).diagnostics) (fun h => ?_)
    exact h.congr (fun _ => mem_sortById.symm) fun _ => mem_sortOn _

/-- A rule screens by what its row says, and nothing is wrong with the pattern. -/
structure ScreensFor (p : Platform) (row : CallBlockRuleInput) (rule : CompiledCallBlockRule) :
    Prop where
  rule_eq : rule = ⟨row.id, (compilePattern p (blockMatchKind row.matchKind) (some row.pattern)).1,
    row.direction, row.action, row.label.toOption⟩
  usable : UsablePattern p (blockMatchKind row.matchKind) (some row.pattern)

/-- What the table of screening rules says about the rows. -/
structure ScreeningMirror (p : Platform) (w : OrgRoutingSnapshot) (table : List CompiledCallBlockRule)
    (s : CompilerState) : Prop where
  rules : HasError s ∨ Mirrored (ScreensFor p) (fun row => row.enabled) w.callBlockRules table
  ordered : table.Pairwise (fun a b => callBlockOrder a ≤ callBlockOrder b)

theorem compileCallBlock_runs :
    Runs (Grows w) s (compileCallBlock p w) (ScreeningMirror p w) := by
  refine (Runs.collect_mirrored HasError (fun row => row.enabled) (ScreensFor p) _
    (fun _ _ h he => he.mono h.diagnostics) fun row _ t _ => ?_).bind
    (fun rules t _ h => .pure ⟨h.imp_right fun h => ?_, sortOn_pairwise _ _⟩)
  · refine .ite (fun hdis => .pure (.inr ⟨by simpa using hdis, by simp⟩)) fun hen => ?_
    refine (routePattern_eq _ _ _ _).bind fun pattern u _ h => .pure (h.imp_right ?_)
    rintro ⟨rfl, husable⟩
    refine ⟨by simpa using hen, fun rule hrule => ⟨?_, husable⟩⟩
    exact (Option.some.inj hrule).symm
  · exact h.congr (fun _ => mem_sortById.symm) fun _ => mem_sortOn _

/-- An entry of the extension index stands for an enabled row with its number. -/
structure IndexesRow (w : OrgRoutingSnapshot) (number : JsString) (entry : ExtensionIndexEntry)
    (s : CompilerState) : Prop where
  row : ∃ e ∈ w.extensions, e.enabled = true ∧ e.number = number ∧ entry.tollClass = e.tollClass
  node : Target entry.nodeId s

/-- An enabled row has its node and, unless its number is the name of the
prototype, an entry under its number. -/
structure IsIndexed (e : ExtensionInput) (entries : Record ExtensionIndexEntry)
    (s : CompilerState) : Prop where
  claimed : extensionId e ∈ s.claimed
  entry : e.number ≠ protoName → e.number ∈ entries.own.keys

theorem indexExtension_runs {e : ExtensionInput} (he : e ∈ w.extensions)
    {entries : Record ExtensionIndexEntry}
    (hall : entries.All (fun number entry => IndexesRow w number entry s)) :
    Runs (Grows w) s (indexExtension (index w) (build p (index w)) entries e)
      (fun entries' t => entries'.All (fun number entry => IndexesRow w number entry t) ∧
        (e.enabled = true → IsIndexed e entries' t) ∧
        ∀ x : ExtensionInput, (x.enabled = true → IsIndexed x entries s) →
          x.enabled = true → IsIndexed x entries' t) := by
  refine .ite (fun hdis => .pure ⟨hall, fun hen => ?_, fun _ h => h⟩) fun hen => ?_
  · simp [hen] at hdis
  refine (claims (extensionNode_runs he (readyAt_build _))).bind fun nodeId t ht hid => .pure ⟨?_, fun _ => ?_, fun x hx hxen => ?_⟩
  · refine .assign _ (hall.imp fun _ _ h => ⟨h.row, ht.target h.node⟩) ⟨?_, hid.2⟩
    exact ⟨e, he, by simpa using hen, rfl, rfl⟩
  · exact ⟨hid.1 ▸ hid.2.1, Record.mem_own_keys_assign_self _⟩
  · exact ⟨ht.claimed (hx hxen).claimed, fun hne =>
      Record.own_keys_assign _ ((hx hxen).entry hne)⟩

/-- What the index of the extensions says about the rows. -/
structure IndexesRows (w : OrgRoutingSnapshot) (entries : Record ExtensionIndexEntry)
    (s : CompilerState) : Prop where
  all : entries.All (fun number entry => IndexesRow w number entry s)
  claimed : ∀ e ∈ w.extensions, e.enabled = true → extensionId e ∈ s.claimed
  entry : ∀ e ∈ w.extensions, e.enabled = true → e.number ≠ protoName →
    ∃ entry, entries.lookup e.number = .own entry

theorem IndexesRows.mono {entries : Record ExtensionIndexEntry} (h : IndexesRows w entries s)
    (hc : s.claimed ⊆ t.claimed) : IndexesRows w entries t where
  all := h.all.imp fun _ _ he => ⟨he.row, he.node.mono hc⟩
  claimed := fun e he hen => hc (h.claimed e he hen)
  entry := h.entry

theorem compileExtensionIndex_runs :
    Runs (Grows w) s (compileExtensionIndex p w (index w)) (IndexesRows w) := by
  have hmem : ∀ e, e ∈ sortById (·.id) w.extensions ↔ e ∈ w.extensions := fun e => mem_sortOn _
  refine (Runs.fold_all
    (fun entries t => entries.All fun number entry => IndexesRow w number entry t)
    (fun e entries t => e.enabled = true → IsIndexed e entries t) _ Record.empty Record.all_empty
    (fun e he entries t _ hall => indexExtension_runs ((hmem e).mp he) hall)).bind
    (fun entries t _ hq => .pure ⟨Record.All.sorted _ hq.1, ?_, ?_⟩)
  · intro e he hen
    exact (hq.2 e ((hmem e).mpr he) hen).claimed
  · intro e he hen hne
    exact Record.exists_lookup_sorted _ ((hq.2 e ((hmem e).mpr he) hen).entry hne)

end outbound

/-- What the tables know about the nodes when all of them are built. -/
structure TablesPoint (w : OrgRoutingSnapshot) (tables : Tables) (s : CompilerState) : Prop where
  inbound : InboundTablePoints tables.inbound s
  internal : InternalTablePoints tables.internal s
  internalEmergency : tables.internal.emergency = embedded (emergencyTable w)
  outbound : OutboundTablePoints w tables.outbound s
  outboundEmergency : tables.outbound.emergency = embedded (emergencyTable w)
  extensions : IndexesRows w tables.extensionsByNumber s
  terminals : ∀ cause ∈ wellKnownTerminalCauses, Target (hangupId cause) s
  emergencyNode : HasEmergencyNode w s
  numbers : HasError s ∨ DistinctNumbers w
  music : ∀ row ∈ musicRows w, row.enabled = true → row.nodeId ∈ s.claimed
  times : ∀ condition ∈ w.timeConditions, Timed condition s
  addresses : ∀ did ∈ voiceNumbers w, AddressNoted w did s
  dropped : Dropped w s

theorem initial_tidy : Tidy CompilerState.initial := nofun

theorem initial_noTrunks : NoTrunks CompilerState.initial := nofun

theorem prepare_runs : Runs (Grows w) CompilerState.initial (prepare p w (index w))
      (fun _ t => (∀ cause ∈ wellKnownTerminalCauses, Target (hangupId cause) t) ∧
        (∀ e ∈ t.internalNumbers.values, Target e.nodeId t) ∧
        (∀ row ∈ musicRows w, row.enabled = true → row.nodeId ∈ t.claimed) ∧
        ∀ condition ∈ w.timeConditions, Timed condition t) := by
  refine (indexVoicemailGreetings_runs _).bind fun _ t₁ h₁ _ => ?_
  refine ensureWellKnownTerminals_runs.bind fun _ t₂ h₂ hterminals => ?_
  refine compileSettings_runs.bind fun settings t₃ h₃ _ => ?_
  refine (compileTimeConditions_runs _).bind fun _ t₄ h₄ htimes => ?_
  refine materialiseEntities_runs.bind fun _ t₅ h₅ hmusic => .pure ⟨?_, ?_, hmusic, ?_⟩
  · intro cause hc
    exact (h₃.trans (h₄.trans h₅)).target (hterminals cause hc)
  · intro e he
    have hall := h₁.trans (h₂.trans (h₃.trans (h₄.trans h₅)))
    exact (hall.numbersFresh e he).resolve_left nofun
  · intro condition hc
    exact (htimes condition hc).mono h₅.diagnostics h₅.times

theorem ScreeningMirror.mono {table : List CompiledCallBlockRule} (h : ScreeningMirror p w table s)
    (hd : Reported w s.diagnostics t.diagnostics) : ScreeningMirror p w table t :=
  ⟨h.rules.imp_left fun he => he.mono hd, h.ordered⟩

/-- What the tables of the walks and of the screening say about the rows. -/
structure TablesMirror (p : Platform) (w : OrgRoutingSnapshot) (tables : Tables)
    (s : CompilerState) : Prop where
  inbound : InboundMirror p w tables.inbound s
  outbound : OutboundMirror p w tables.outbound s
  callBlock : ScreeningMirror p w tables.callBlock s

theorem TablesMirror.mono {tables : Tables} (h : TablesMirror p w tables s)
    (hd : Reported w s.diagnostics t.diagnostics) : TablesMirror p w tables t :=
  ⟨h.inbound.mono hd, h.outbound.mono hd, h.callBlock.mono hd⟩

theorem compileTables_runs : Runs (Plans w) CompilerState.initial (compileTables p w (index w))
      (fun tables t => TablesPoint w tables t ∧ TablesMirror p w tables t) := by
  refine (runs_noTrunks prepare_runs initial_tidy initial_noTrunks).bind
    (fun settings t₁ _ h₁ => ?_)
  obtain ⟨⟨hterminals, hnumbers, hmusic, htimes⟩, htidy, hnone⟩ := h₁
  refine (compileEmergency_runs htidy hnone).bind fun emergency t₂ h₂ hemergency => ?_
  obtain ⟨rfl, hnode, hnoted, hdropped⟩ := hemergency
  have hnumbers₂ : ∀ e ∈ t₂.internalNumbers.values, Target e.nodeId t₂ := by
    intro e he
    obtain hold | hnew := h₂.numbersFresh e he
    · exact h₂.target (hnumbers e hold)
    · exact hnew
  refine ((compileInternal_runs _ hnumbers₂).rel fun _ => Grows.plans).bind
    (fun internal t₃ h₃ hinternal => ?_)
  refine (compileInbound_runs.rel fun _ => Grows.plans).bind fun inbound t₄ h₄ hinbound => ?_
  have hnode₄ := hnode.mono (h₃.trans h₄)
  refine (compileOutbound_runs settings _ hnode₄.1).bind fun outbound t₅ h₅ houtbound => ?_
  obtain ⟨hemb, -, hout, hmirror⟩ := houtbound
  refine (compileCallBlock_runs.rel fun _ => Grows.plans).bind fun callBlock t₆ h₆ hblock => ?_
  refine (compileExtensionIndex_runs.rel fun _ => Grows.plans).bind
    (fun entries t₇ h₇ hentries => Runs.pure ?_)
  have h₅₇ := h₆.trans h₇
  have h₄₇ := h₅.trans h₅₇
  have h₂₇ := h₃.trans (h₄.trans h₄₇)
  refine ⟨?_, hinbound.2.mono h₄₇.diagnostics, hmirror.mono h₅₇.diagnostics,
    hblock.mono h₇.diagnostics⟩
  exact {
    inbound := hinbound.1.mono h₄₇.claimed
    internal := hinternal.2.1.mono (h₄.trans h₄₇).claimed
    internalEmergency := hinternal.1
    outbound := hout.mono h₅₇.claimed
    outboundEmergency := hemb
    extensions := hentries
    terminals := fun cause hc => (h₂.trans h₂₇).target (hterminals cause hc)
    emergencyNode := hnode₄.mono h₄₇
    numbers := hinternal.2.2.imp_left fun he => he.mono (h₄.trans h₄₇).diagnostics
    music := fun row hr hen => (h₂.trans h₂₇).claimed (hmusic row hr hen)
    times := fun condition hc =>
      (htimes condition hc).mono (h₂.trans h₂₇).diagnostics (h₂.trans h₂₇).times
    addresses := fun did hd he hs => (hnoted did hd he hs).mono h₂₇.diagnostics
    dropped := hdropped.mono h₂₇.diagnostics }

end OptimiqVoice.Routing.Compile

import OptimiqVoice.Lib.Counting
import OptimiqVoice.Routing.Compile.Destinations
import OptimiqVoice.Routing.Compile.Growth

namespace OptimiqVoice.Routing.Compile

open Lib Lib.Prog Telephony

/-- The bodies the node constructors may store: never a trunk dial, and an
extension's plan only under the id of the row it was made from. A time
condition's node evaluates a condition of the snapshot. -/
def EntityBody (w : OrgRoutingSnapshot) (id : PlanNodeId) : PlanBody → Prop
  | .extension q => ∃ e ∈ w.extensions, id = extensionId e ∧ q.tollClass = e.tollClass
  | .trunkDial _ => False
  | .timeCondition q => ∃ c ∈ w.timeConditions, c.id = q.timeConditionId
  | _ => True

abbrev Grows (w : OrgRoutingSnapshot) := Extends w (EntityBody w)

/-- A branch that is absent, or points where a branch may. -/
def Points (o : Option PlanNodeId) (s : CompilerState) : Prop := ∀ id ∈ o, Target id s

/-- From `s` on, the constructors can be called back. -/
def Ready (w : OrgRoutingSnapshot) (r : Recur) (s : CompilerState) : Prop :=
  ∀ t, Grows w s t →
    (∀ d subject path, Runs (Grows w) t (r.destinationNode d subject path) Points) ∧
    ∀ e ∈ (index w).extensionsByNumber.values, Runs (Grows w) t (r.extensionNode e) Target

variable {p : Platform} {w : OrgRoutingSnapshot} {r : Recur} {s t : CompilerState}

theorem Ready.mono (hr : Ready w r s) (h : Grows w s t) : Ready w r t :=
  fun u hu => hr u (h.trans hu)

variable {o : Option PlanNodeId}

theorem Points.mono (ho : Points o s) (h : s.claimed ⊆ t.claimed) : Points o t :=
  fun id hid => (ho id hid).mono h

theorem points_none : Points none s := nofun

variable {id : PlanNodeId}

theorem points_some : Points (some id) s ↔ Target id s := by
  simp [Points]

theorem Points.or {o' : Option PlanNodeId} (h : Points o s) (h' : Points o' s) :
    Points (o.or o') s := by
  cases o with
  | none => exact h'
  | some id => exact h

theorem target_of_mem_filterMap {l : List (Option PlanNodeId)} (h : ∀ o ∈ l, Points o s) :
    ∀ id ∈ l.filterMap (fun o => o), Target id s := by
  intro id hid
  obtain ⟨o, ho, he⟩ := List.mem_filterMap.mp hid
  exact h o ho id (by simp [he])

theorem some_runs {m : Compiler PlanNodeId} (h : Runs (Grows w) s m Target) :
    Runs (Grows w) s (do let id ← m; pure (some id)) Points :=
  h.bind fun _ _ _ hid => .pure (points_some.mpr hid)

theorem report_runs {d : Diagnostic} {m : Compiler (Option PlanNodeId)}
    (hd : isGated d.code = false) (h : ∀ t, Grows w s t → Runs (Grows w) t m Points) :
    Runs (Grows w) s (do addDiagnostic d; m) Points :=
  (addDiagnostic_runs hd).bind fun _ t ht _ => h t ht

theorem claimNode_target {build : Compiler PlanBody} (kind : JsString)
    (ht : tag id = kind) (hk : kind ≠ trunkDialTag)
    (hb : id ∉ s.claimed → Runs (Grows w) (s.claiming id) build
      (fun body t => EntityBody w id body ∧ Fits w id body t)) :
    Runs (Grows w) s (claimNode id build) Target := by
  have h := claimNode_runs (P := fun _ => True) fun hid =>
    (hb hid).weaken fun _ _ _ hq => ⟨trivial, hq⟩
  refine h.weaken fun id' t _ hq => ?_
  obtain ⟨rfl, hc, -⟩ := hq
  exact ⟨hc, ht ▸ hk⟩

attribute [local simp] planNodeReferences branches

theorem hangupNode_runs (cause : HangupCause) : Runs (Grows w) s (hangupNode cause) Target :=
  claimNode_target (lit "hangup") rfl (by decide)
    (fun _ => .pure ⟨trivial, rfl, by simp, rfl, .silent rfl⟩)

theorem externalNode_runs (value : JsString) (viaOutboundRouting : Bool) :
    Runs (Grows w) s (externalNode value viaOutboundRouting) Target :=
  claimNode_target (lit "external") rfl (by decide)
    (fun _ => .pure ⟨trivial, rfl, by simp, rfl, .silent rfl⟩)

theorem applicationNode_runs (name : JsString) (args : Option Args) :
    Runs (Grows w) s (applicationNode name args) Target :=
  claimNode_target (lit "application") rfl (by decide)
    (fun _ => .pure ⟨trivial, rfl, by simp, rfl, .silent rfl⟩)

theorem nodeOrHangup_runs {node : Option PlanNodeId} (hn : Points node s) (cause : HangupCause) :
    Runs (Grows w) s (nodeOrHangup node cause) Target := by
  cases node with
  | none => exact hangupNode_runs cause
  | some id => exact .pure (points_some.mp hn)

theorem missingTarget_runs (kind ref : JsString) (subject : DiagnosticSubject) (path : JsString) :
    Runs (Grows w) s (missingTarget kind ref subject path) Points :=
  report_runs rfl fun _ _ => .pure points_none

theorem disabledTarget_runs (kind name : JsString) (subject : DiagnosticSubject)
    (path : JsString) : Runs (Grows w) s (disabledTarget kind name subject path) Points :=
  report_runs rfl fun _ _ => some_runs (hangupNode_runs _)

theorem targetNode_runs {α : Type} {rows : Dict JsString α} {kind : JsString}
    {name : α → JsString} {enabled : α → Bool} {build : α → Compiler PlanNodeId} {ref : JsString}
    {subject : DiagnosticSubject} {path : JsString}
    (hb : ∀ row ∈ rows.values, Runs (Grows w) s (build row) Target) :
    Runs (Grows w) s (targetNode rows kind name enabled build ref subject path) Points := by
  unfold targetNode
  cases hrow : rows.get? ref with
  | none => exact missingTarget_runs kind ref subject path
  | some row =>
    exact .ite (fun _ => some_runs (hb row (Dict.mem_values_of_get? hrow)))
      (fun _ => disabledTarget_runs kind (name row) subject path)

theorem mohClassName_runs (mohClassId : Nullable JsString) (subject : DiagnosticSubject)
    (path : JsString) : Runs (Grows w) s (mohClassName (index w) mohClassId subject path)
      (fun _ t => Noted w mohClassId t) := by
  unfold mohClassName
  cases hid : mohClassId.toOption with
  | none =>
    refine .pure fun _ hn => ?_
    obtain ⟨id, hm, -⟩ := hn
    rw [hid] at hm
    cases hm
  | some id =>
    refine .ite (fun hblank => .pure fun _ hn => ?_) fun _ => ?_
    · obtain ⟨id', hm, hne⟩ := hn
      rw [hid, Option.mem_some_iff] at hm
      exact absurd (hm ▸ hblank) hne
    refine .ite (fun hno => .pure fun he _ => ?_) fun hloaded => ?_
    · simp [index, he] at hno
    have hsome : ∀ {d : Diagnostic}, d.code = .danglingMohClass → Reportable w d := by
      refine fun hd => ⟨fun _ => ?_, by simp [hd], by simp [hd]⟩
      simpa [index, Option.isSome_iff_ne_none] using hloaded
    cases hget : (index w).mohClassesById.get? id with
    | none => exact (addDiagnostic_notes (hsome rfl)).bind fun _ _ _ hc => .pure fun _ _ => hc
    | some mohClass =>
      refine .ite (fun _ => .pure fun he _ => ?_) fun _ => ?_
      · simp [index, he, sortById, Dict.indexBy] at hget
      · exact (addDiagnostic_notes (hsome rfl)).bind fun _ _ _ hc => .pure fun _ _ => hc

theorem readPinHash_runs (raw : Nullable JsString) (message : VoicemailPinHashIssue → JsString)
    (subject : DiagnosticSubject) (path : JsString) :
    Runs (Grows w) s (readPinHash raw message subject path) (fun _ _ => True) := by
  unfold readPinHash
  cases raw.toOption with
  | none => exact .pure trivial
  | some value =>
    refine .ite (fun _ => .pure trivial) fun _ => ?_
    cases voicemailPinHashIssue value with
    | none => exact .pure trivial
    | some issue => exact (addDiagnostic_runs rfl).bind fun _ _ _ _ => .pure trivial

variable (ix : Index)

theorem voicemailNode_runs (box : VoicemailBoxInput) (mode : VoicemailMode) :
    Runs (Grows w) s (voicemailNode ix box mode) Target := by
  refine claimNode_target (lit "voicemail") rfl (by decide) fun _ => ?_
  refine (readPinHash_runs _ _ _ _).bind fun _ _ _ _ => ?_
  exact .pure ⟨trivial, rfl, by simp, rfl, .silent rfl⟩

theorem conferenceNode_runs {room : ConferenceInput} (hroom : room ∈ w.conferences) :
    Runs (Grows w) s (conferenceNode (index w) room) Target := by
  refine claimNode_target (lit "conference") rfl (by decide) fun _ => ?_
  refine (mohClassName_runs _ _ _).bind fun _ _ _ hnoted => ?_
  refine (readPinHash_runs _ _ _ _).bind fun _ _ h₂ _ => ?_
  refine (readPinHash_runs _ _ _ _).bind fun _ _ h₃ _ => ?_
  refine .pure ⟨trivial, rfl, by simp, rfl, ?_⟩
  have hrow : roomMusic room ∈ musicRows w :=
    mem_musicRows.mpr (.inr (.inr (.inr (.inl ⟨room, hroom, rfl⟩))))
  exact Plays.of_row hrow rfl (hnoted.mono (h₂.trans h₃).diagnostics)

theorem namedDestinationNode_runs (hr : Ready w r s) (named : NamedDestination) (name : JsString)
    (subject : DiagnosticSubject) :
    Runs (Grows w) s (namedDestinationNode r named name subject) Points := by
  unfold namedDestinationNode
  cases named.type.toOption with
  | none => exact .pure points_none
  | some type => exact (hr s (Extends.refl s)).1 _ _ _

theorem extensionVoicemailNode_runs (e : ExtensionInput) (subject : DiagnosticSubject) :
    Runs (Grows w) s (extensionVoicemailNode ix e subject) Points := by
  unfold extensionVoicemailNode
  refine .ite (fun _ => .pure points_none) fun _ => ?_
  cases ix.voicemailByExtension.get? e.id with
  | none => exact report_runs rfl fun _ _ => .pure points_none
  | some box => exact some_runs (voicemailNode_runs ix box .leave)

theorem forwardNode_runs (hr : Ready w r s) (destination : Nullable JsString)
    (subject : DiagnosticSubject) (path : JsString) :
    Runs (Grows w) s (forwardNode (index w) r destination subject path) Points := by
  unfold forwardNode
  refine .ite (fun _ => report_runs rfl fun _ _ => .pure points_none) fun _ => ?_
  cases he : (index w).extensionsByNumber.get? (trim (destination.toOption.getD [])) with
  | none => exact some_runs (externalNode_runs _ _)
  | some e => exact some_runs ((hr s (Extends.refl s)).2 e (Dict.mem_values_of_get? he))

theorem unansweredNode_runs (hr : Ready w r s) {enabled : Bool} {destination : Nullable JsString}
    {voicemailNodeId : Option PlanNodeId} (hv : Points voicemailNodeId s) {cause : HangupCause}
    {subject : DiagnosticSubject} {path : JsString} : Runs (Grows w) s
      (unansweredNode (index w) r enabled destination voicemailNodeId cause subject path)
      Points := by
  have hf : Runs (Grows w) s
      (if enabled then forwardNode (index w) r destination subject path else pure none) Points :=
    Runs.ite (fun _ => forwardNode_runs hr _ _ _) fun _ => .pure points_none
  refine hf.bind fun forward t ht hforward => some_runs (nodeOrHangup_runs ?_ cause)
  exact hforward.or (hv.mono ht.claimed)

/-- The constructors that call back do so from the state that claims their id. -/
abbrev ReadyAt (w : OrgRoutingSnapshot) (r : Recur) (s : CompilerState) (id : PlanNodeId) : Prop :=
  id ∉ s.claimed → Ready w r (s.claiming id)

theorem extensionNode_runs {e : ExtensionInput} (he : e ∈ w.extensions)
    (hr : ReadyAt w r s (extensionId e)) :
    Runs (Grows w) s (extensionNode (index w) r e) Target := by
  refine claimNode_target (lit "extension") rfl (by decide) fun hid => ?_
  have hr₀ := hr hid
  refine (extensionVoicemailNode_runs _ _ _).bind fun voicemail t₁ h₁ hv => ?_
  refine (mohClassName_runs _ _ _).bind fun _ t₂ h₂ hnoted => ?_
  have hr₂ := hr₀.mono (h₁.trans h₂)
  have hf : Runs (Grows w) t₂ (if e.forwardAllEnabled then
      forwardNode (index w) r e.forwardAllDestination ⟨lit "extension", e.id, some e.number⟩
        (lit "forwardAllDestination") else pure none) Points :=
    Runs.ite (fun _ => forwardNode_runs hr₂ _ _ _) fun _ => .pure points_none
  refine hf.bind fun forwardAll t₃ h₃ hall => ?_
  have hv₃ := hv.mono (h₂.trans h₃).claimed
  have hr₃ := hr₂.mono h₃
  refine (unansweredNode_runs hr₃ hv₃).bind fun busy t₄ h₄ hbusy => ?_
  refine (unansweredNode_runs (hr₃.mono h₄) (hv₃.mono h₄.claimed)).bind fun noAnswer t₅ h₅ hno => ?_
  refine (unansweredNode_runs (hr₃.mono (h₄.trans h₅)) (hv₃.mono (h₄.trans h₅).claimed)).bind
    (fun notRegistered t₆ h₆ hnot => ?_)
  have h₃₆ := h₃.trans (h₄.trans (h₅.trans h₆))
  refine .pure ⟨⟨e, he, rfl, rfl⟩, rfl, ?_, rfl, ?_⟩
  · apply target_of_mem_filterMap
    intro o ho
    simp only [List.mem_cons, List.not_mem_nil, or_false] at ho
    obtain rfl | rfl | rfl | rfl := ho
    · exact hall.mono (h₄.trans (h₅.trans h₆)).claimed
    · exact hbusy.mono (h₅.trans h₆).claimed
    · exact hno.mono h₆.claimed
    · exact hnot
  · have hrow : extensionMusic e ∈ musicRows w := mem_musicRows.mpr (.inl ⟨e, he, rfl⟩)
    exact Plays.of_row hrow rfl (hnoted.mono h₃₆.diagnostics)

theorem reportPatternIssues_runs (issues : List PatternIssue) (unanchored : JsString)
    (unusable : PatternIssue → JsString) (subject : DiagnosticSubject) (path : JsString) :
    Runs (Grows w) s (reportPatternIssues issues unanchored unusable subject path)
      (fun _ _ => True) := by
  refine (Runs.each issues fun issue _ t _ => ?_).bind fun _ _ _ _ => .pure trivial
  cases issue <;> exact addDiagnostic_runs rfl

theorem ivrOption_runs (hr : Ready w r s) (menu : IvrMenuInput) (option : IvrMenuOptionInput) :
    Runs (Grows w) s (ivrOption p r menu option) (fun o t => ∀ b ∈ o, Target b.targetNodeId t) := by
  refine .ite (fun _ => .pure (by simp)) fun _ => ?_
  refine (reportPatternIssues_runs _ _ _ _ _).bind fun usable t₁ h₁ _ => ?_
  refine .ite (fun _ => .pure (by simp)) fun _ => ?_
  refine ((hr t₁ h₁).1 _ _ _).bind fun target t₂ h₂ ht => ?_
  cases target with
  | none => exact .pure (by simp)
  | some id =>
    refine .ite (fun _ => ?_) fun _ => .pure ?_
    · exact (addDiagnostic_runs rfl).bind fun _ _ _ _ => .pure (by simp)
    · intro b hb
      cases hb
      exact points_some.mp ht

theorem dropSelfBranch_runs (menu : IvrMenuInput) (branch : JsString)
    (ho : Points o s) (subject : DiagnosticSubject) :
    Runs (Grows w) s (dropSelfBranch menu branch o subject) Points :=
  Runs.ite (fun _ => report_runs rfl fun _ _ => .pure points_none) fun _ => .pure ho

theorem ivrNode_runs {menu : IvrMenuInput} (hr : ReadyAt w r s (ivrMenuId menu)) :
    Runs (Grows w) s (ivrNode p (index w) r menu) Target := by
  refine claimNode_target (lit "ivr-menu") rfl (by decide) fun hid => ?_
  have hr₀ := hr hid
  refine (Runs.collect (fun b t => Target b.targetNodeId t) _ (fun _ _ _ h hb => h.target hb)
    (fun option _ t ht => ivrOption_runs (hr₀.mono ht) menu option)).bind
    (fun options t₁ h₁ hoptions => ?_)
  have hr₁ := hr₀.mono h₁
  refine (namedDestinationNode_runs hr₁ _ _ _).bind fun timeout t₂ h₂ htimeout => ?_
  refine (namedDestinationNode_runs (hr₁.mono h₂) _ _ _).bind fun invalid t₃ h₃ hinvalid => ?_
  refine (dropSelfBranch_runs _ _ (htimeout.mono h₃.claimed) _).bind fun timeoutId t₄ h₄ ht => ?_
  refine (dropSelfBranch_runs _ _ (hinvalid.mono h₄.claimed) _).bind fun invalidId t₅ h₅ hi => ?_
  refine .pure ⟨trivial, rfl, ?_, rfl, .silent rfl⟩
  apply target_of_mem_filterMap
  intro o ho
  simp only [List.mem_append, List.mem_map, List.mem_cons, List.not_mem_nil, or_false] at ho
  obtain ⟨b, hb, rfl⟩ | rfl | rfl := ho
  · exact points_some.mpr ((h₂.trans (h₃.trans (h₄.trans h₅))).target (hoptions b hb))
  · exact ht.mono h₅.claimed
  · exact hi

theorem ringGroupMember_runs (hr : Ready w r s) (group : RingGroupInput)
    (member : RingGroupDestinationInput) : Runs (Grows w) s (ringGroupMember r group member)
      (fun o t => ∀ b ∈ o, Target b.targetNodeId t) := by
  refine .ite (fun _ => .pure (by simp)) fun _ => ?_
  refine ((hr s (Extends.refl s)).1 _ _ _).bind fun target t _ ht => .pure ?_
  intro b hb
  obtain ⟨id, hid, rfl⟩ := Option.map_eq_some_iff.mp hb
  exact ht id hid

theorem ringGroupNode_runs {group : RingGroupInput} (hgroup : group ∈ w.ringGroups)
    (hr : ReadyAt w r s (lit "ring-group:" ++ group.id)) :
    Runs (Grows w) s (ringGroupNode (index w) r group) Target := by
  refine claimNode_target (lit "ring-group") rfl (by decide) fun hid => ?_
  have hr₀ := hr hid
  refine (Runs.collect (fun b t => Target b.targetNodeId t) _ (fun _ _ _ h hb => h.target hb)
    (fun member _ t ht => ringGroupMember_runs (hr₀.mono ht) group member)).bind
    (fun members t₁ h₁ hmembers => ?_)
  refine (Runs.when fun _ => addDiagnostic_runs rfl).bind fun _ t₂ h₂ _ => ?_
  refine (mohClassName_runs _ _ _).bind fun _ t₃ h₃ hnoted => ?_
  refine (namedDestinationNode_runs (hr₀.mono (h₁.trans (h₂.trans h₃))) _ _ _).bind
    (fun timeout t₄ h₄ htimeout => ?_)
  refine .pure ⟨trivial, rfl, ?_, rfl, ?_⟩
  · apply target_of_mem_filterMap
    intro o ho
    simp only [List.mem_append, List.mem_map, List.mem_cons, List.not_mem_nil, or_false] at ho
    obtain ⟨b, hb, rfl⟩ | rfl := ho
    · exact points_some.mpr ((h₂.trans (h₃.trans h₄)).target (hmembers b hb))
    · exact htimeout
  · have hrow : groupMusic group ∈ musicRows w :=
      mem_musicRows.mpr (.inr (.inl ⟨group, hgroup, rfl⟩))
    exact Plays.of_row hrow rfl (hnoted.mono h₄.diagnostics)

theorem timeoutBranch_target (ho : Points o s) :
    ∀ id ∈ [o].filterMap (fun o => o), Target id s := by
  apply target_of_mem_filterMap
  intro o' ho'
  rw [List.mem_singleton] at ho'
  exact ho' ▸ ho

theorem queueNode_runs {entry : QueueInput} (hentry : entry ∈ w.queues)
    (hr : ReadyAt w r s (lit "queue:" ++ entry.id)) :
    Runs (Grows w) s (queueNode (index w) r entry) Target := by
  refine claimNode_target (lit "queue") rfl (by decide) fun hid => ?_
  refine (mohClassName_runs _ _ _).bind fun _ t₁ h₁ hnoted => ?_
  refine (namedDestinationNode_runs ((hr hid).mono h₁) _ _ _).bind fun timeout t₂ h₂ ht => ?_
  have hrow : queueMusic entry ∈ musicRows w :=
    mem_musicRows.mpr (.inr (.inr (.inl ⟨entry, hentry, rfl⟩)))
  exact .pure ⟨trivial, rfl, timeoutBranch_target ht, rfl,
    Plays.of_row hrow rfl (hnoted.mono h₂.diagnostics)⟩

theorem parkNode_runs {lot : ParkLotInput} (hlot : lot ∈ w.parkLots)
    (hr : ReadyAt w r s (lit "park:" ++ lot.id)) :
    Runs (Grows w) s (parkNode (index w) r lot) Target := by
  refine claimNode_target (lit "park") rfl (by decide) fun hid => ?_
  refine (mohClassName_runs _ _ _).bind fun _ t₁ h₁ hnoted => ?_
  refine (namedDestinationNode_runs ((hr hid).mono h₁) _ _ _).bind fun timeout t₂ h₂ ht => ?_
  have hrow : lotMusic lot ∈ musicRows w :=
    mem_musicRows.mpr (.inr (.inr (.inr (.inr ⟨lot, hlot, rfl⟩))))
  exact .pure ⟨trivial, rfl, timeoutBranch_target ht, rfl,
    Plays.of_row hrow rfl (hnoted.mono h₂.diagnostics)⟩

theorem timeConditionNode_runs {condition : TimeConditionInput} (hc : condition ∈ w.timeConditions)
    (hr : ReadyAt w r s (lit "time-condition:" ++ condition.id)) :
    Runs (Grows w) s (timeConditionNode r condition) Target := by
  refine claimNode_target (lit "time-condition") rfl (by decide) fun hid => ?_
  have hr₀ := hr hid
  refine ((hr₀ _ (Extends.refl _)).1 _ _ _).bind fun onMatch t₁ h₁ hm => ?_
  refine (namedDestinationNode_runs (hr₀.mono h₁) _ _ _).bind fun noMatch t₂ h₂ hn => ?_
  refine (nodeOrHangup_runs (hm.mono h₂.claimed) _).bind fun target t₃ h₃ ht => ?_
  refine .pure ⟨⟨condition, hc, rfl⟩, rfl, ?_, rfl, .silent rfl⟩
  apply target_of_mem_filterMap
  intro o ho
  simp only [List.mem_cons, List.not_mem_nil, or_false] at ho
  obtain rfl | rfl := ho
  · exact points_some.mpr ht
  · exact hn.mono h₃.claimed

theorem hangupDestination_runs (d : DestinationInput) (subject : DiagnosticSubject)
    (path : JsString) : Runs (Grows w) s (hangupDestination d subject path) Points := by
  unfold hangupDestination
  cases d.destinationData.toOption.bind (·.cause) with
  | none => exact some_runs (hangupNode_runs _)
  | some text =>
    cases hc : HangupCause.ofText? text with
    | some cause =>
      simp only [hc]
      exact some_runs (hangupNode_runs _)
    | none =>
      simp only [hc]
      exact report_runs rfl fun _ _ => .pure points_none

theorem mem_of_byId {α : Type} {key : α → JsString} {rows : List α} {row : α}
    (h : row ∈ (Dict.indexBy key (sortById key rows)).values) : row ∈ rows :=
  (mem_sortOn _).mp (Dict.mem_of_mem_values_indexBy _ h)

theorem enabled_of_byNumber {e : ExtensionInput}
    (h : e ∈ (index w).extensionsByNumber.values) : e ∈ w.extensions ∧ e.enabled = true := by
  have hf := List.mem_filter.mp (Dict.mem_of_mem_values_indexBy ExtensionInput.number h)
  exact ⟨(mem_sortOn _).mp hf.1, hf.2⟩

theorem mem_recursiveIds (id : PlanNodeId) : id ∈ recursiveIds ix ↔
      (∃ e ∈ ix.extensionsById.values, extensionId e = id) ∨
      (∃ e ∈ ix.extensionsByNumber.values, extensionId e = id) ∨
      (∃ menu ∈ ix.ivrMenusById.values, ivrMenuId menu = id) ∨
      (∃ group ∈ ix.ringGroupsById.values, lit "ring-group:" ++ group.id = id) ∨
      (∃ entry ∈ ix.queuesById.values, lit "queue:" ++ entry.id = id) ∨
      (∃ lot ∈ ix.parkLotsById.values, lit "park:" ++ lot.id = id) ∨
      ∃ condition ∈ ix.timeConditionInputsById.values,
        lit "time-condition:" ++ condition.id = id := by
  simp only [recursiveIds, List.mem_append, List.mem_map, or_assoc]

theorem destinationNode_runs (hr : ∀ id ∈ recursiveIds (index w), ReadyAt w r s id)
    (d : DestinationInput) (subject : DiagnosticSubject) (path : JsString) :
    Runs (Grows w) s (destinationNode p (index w) r d subject path) Points := by
  have hid := mem_recursiveIds (index w)
  refine .ite (fun _ => report_runs rfl fun _ _ => .pure points_none) fun _ => ?_
  refine .ite (fun _ => report_runs rfl fun _ _ => .pure points_none) fun _ => ?_
  obtain ⟨type, ref, data⟩ := d
  cases type with
  | extension =>
    exact targetNode_runs fun e he => extensionNode_runs (mem_of_byId he)
      (hr _ ((hid _).mpr (.inl ⟨e, he, rfl⟩)))
  | ivr =>
    exact targetNode_runs fun menu hm => ivrNode_runs (hr _ ((hid _).mpr
      (.inr (.inr (.inl ⟨menu, hm, rfl⟩)))))
  | ringGroup =>
    exact targetNode_runs fun group hg => ringGroupNode_runs (mem_of_byId hg) (hr _ ((hid _).mpr
      (.inr (.inr (.inr (.inl ⟨group, hg, rfl⟩))))))
  | queue =>
    exact targetNode_runs fun entry he => queueNode_runs (mem_of_byId he) (hr _ ((hid _).mpr
      (.inr (.inr (.inr (.inr (.inl ⟨entry, he, rfl⟩)))))))
  | voicemail => exact targetNode_runs fun box _ => voicemailNode_runs _ box .leave
  | conference => exact targetNode_runs fun room hr => conferenceNode_runs (mem_of_byId hr)
  | park =>
    exact targetNode_runs fun lot hl => parkNode_runs (mem_of_byId hl) (hr _ ((hid _).mpr
      (.inr (.inr (.inr (.inr (.inr (.inl ⟨lot, hl, rfl⟩))))))))
  | timeCondition =>
    exact targetNode_runs fun condition hc => timeConditionNode_runs (mem_of_byId hc) (hr _ ((hid _).mpr
      (.inr (.inr (.inr (.inr (.inr (.inr ⟨condition, hc, rfl⟩))))))))
  | external => exact some_runs (externalNode_runs _ _)
  | application => exact some_runs (applicationNode_runs _ _)
  | hangup | unknown _ => exact hangupDestination_runs _ _ _

/-- How many of the ids whose construction recurses are still free. -/
def spare (s : CompilerState) : Nat := free (recursiveIds ix) (· ∈ s.claimed)

theorem spare_le_of_subset (h : s.claimed ⊆ t.claimed) : spare ix t ≤ spare ix s :=
  free_le fun _ hid => decide_eq_true (h (of_decide_eq_true hid))

theorem spare_claiming_lt {ix : Index} (hid : id ∈ recursiveIds ix)
    (hc : id ∉ s.claimed) : spare ix (s.claiming id) < spare ix s := by
  refine free_lt (fun x hx => ?_) hid (decide_eq_false hc) (decide_eq_true ?_)
  · exact decide_eq_true (List.mem_cons_of_mem _ (of_decide_eq_true hx))
  · exact .head _

/-- The recursion ends. Each level claims an id that was free, so a level is
ready as soon as it has more unfoldings left than there are free ids. -/
theorem recur_ready (n : Nat) (h : spare (index w) s < n) : Ready w (recur p (index w) n) s := by
  induction n generalizing s with
  | zero => omega
  | succ n ih =>
    intro t ht
    have hspare := spare_le_of_subset (index w) ht.claimed
    have hr : ∀ id ∈ recursiveIds (index w), ReadyAt w (recur p (index w) n) t id := by
      intro id hid hc
      have hlt := spare_claiming_lt hid hc
      exact ih (by omega)
    refine ⟨destinationNode_runs hr, fun e he => ?_⟩
    apply extensionNode_runs (enabled_of_byNumber he).1
    exact hr _ ((mem_recursiveIds _ _).mpr (.inr (.inl ⟨e, he, rfl⟩)))

theorem build_ready : Ready w (build p (index w)) s :=
  recur_ready _ (Nat.lt_succ_of_le free_le_length)

end OptimiqVoice.Routing.Compile

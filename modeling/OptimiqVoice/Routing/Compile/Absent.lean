import OptimiqVoice.Routing.Compile.Outcome

namespace OptimiqVoice.Routing.Compile

open Lib Lib.Prog

/-- No row that gets a node names a music class. -/
def Quiet (w : OrgRoutingSnapshot) : Prop :=
  ∀ row ∈ musicRows w, row.enabled = true → ¬NamesClass row.mohClassId

/-- No number that could be a callback number names an address. -/
def Unaddressed (w : OrgRoutingSnapshot) : Prop :=
  ∀ did ∈ voiceNumbers w, assignedAddress did = none

/-- The index of a snapshot that differs in whether music classes were loaded. -/
def Index.loaded (ix : Index) (b : Bool) : Index := { ix with mohClassesLoaded := b }

theorem mohClassName_quiet (ix : Index) {mohClassId : Nullable JsString}
    (h : ¬NamesClass mohClassId) (subject : DiagnosticSubject) (path : JsString) :
    mohClassName ix mohClassId subject path = pure none := by
  unfold mohClassName
  cases hid : mohClassId.toOption with
  | none => rfl
  | some id =>
    have hblank : trim id = [] := by
      by_contra hne
      exact h ⟨id, hid, hne⟩
    simp only [hblank, if_true]

variable {α : Type}

theorem targetNode_congr {rows : Dict JsString α} {kind : JsString}
    {name : α → JsString} {enabled : α → Bool} {build build' : α → Compiler PlanNodeId}
    (h : ∀ row ∈ rows.values, enabled row = true → build row = build' row) (ref : JsString)
    (subject : DiagnosticSubject) (path : JsString) :
    targetNode rows kind name enabled build ref subject path =
      targetNode rows kind name enabled build' ref subject path := by
  unfold targetNode
  cases hrow : rows.get? ref with
  | none => rfl
  | some row =>
    refine ite_congr rfl (fun hen => ?_) fun _ => rfl
    rw [h row (Dict.mem_values_of_get? hrow) hen]

/-- The constructors agree wherever the passes call them back. -/
structure Agree (w : OrgRoutingSnapshot) (r' r : Recur) : Prop where
  destinationNode : r'.destinationNode = r.destinationNode
  extensionNode : ∀ e ∈ (index w).extensionsByNumber.values, r'.extensionNode e = r.extensionNode e

section constructors

variable {p : Platform} {w : OrgRoutingSnapshot} {r r' : Recur} {b : Bool}

theorem Agree.eq_of {β : Sort*} (h : Agree w r' r) {f : Recur → β}
    (hf : ∀ d e e', f ⟨d, e⟩ = f ⟨d, e'⟩) : f r' = f r := by
  obtain ⟨d, e⟩ := r
  obtain ⟨d', e'⟩ := r'
  obtain rfl : d' = d := h.destinationNode
  exact hf d' e' e

theorem forwardNode_loaded (h : Agree w r' r) (destination : Nullable JsString)
    (subject : DiagnosticSubject) (path : JsString) :
    forwardNode ((index w).loaded b) r' destination subject path =
      forwardNode (index w) r destination subject path := by
  unfold forwardNode
  refine ite_congr rfl (fun _ => rfl) fun _ => ?_
  -- the table is the same one, loaded or not
  have hloaded : ((index w).loaded b).extensionsByNumber = (index w).extensionsByNumber := rfl
  rw [hloaded]
  cases he : (index w).extensionsByNumber.get? (trim (destination.toOption.getD [])) with
  | none => rfl
  | some e =>
    simp only
    rw [h.extensionNode e (Dict.mem_values_of_get? he)]

theorem extensionNode_loaded (hr : Agree w r' r) {e : ExtensionInput}
    (h : ¬NamesClass e.mohClassId) :
    extensionNode ((index w).loaded b) r' e = extensionNode (index w) r e := by
  simp only [extensionNode, mohClassName_quiet _ h, unansweredNode, forwardNode_loaded hr]
  rfl

theorem ringGroupNode_loaded (hr : Agree w r' r) {group : RingGroupInput}
    (h : ¬NamesClass group.mohClassId) :
    ringGroupNode ((index w).loaded b) r' group = ringGroupNode (index w) r group := by
  rw [hr.eq_of (f := fun r => ringGroupNode ((index w).loaded b) r group) fun _ _ _ => rfl]
  simp only [ringGroupNode, mohClassName_quiet _ h]
  rfl

theorem queueNode_loaded (hr : Agree w r' r) {entry : QueueInput}
    (h : ¬NamesClass entry.mohClassId) :
    queueNode ((index w).loaded b) r' entry = queueNode (index w) r entry := by
  rw [hr.eq_of (f := fun r => queueNode ((index w).loaded b) r entry) fun _ _ _ => rfl]
  simp only [queueNode, mohClassName_quiet _ h]

theorem conferenceNode_loaded {room : ConferenceInput} (h : ¬NamesClass room.mohClassId) :
    conferenceNode ((index w).loaded b) room = conferenceNode (index w) room := by
  simp only [conferenceNode, mohClassName_quiet _ h]

variable (hr : Agree w r' r)

include hr

theorem parkNode_loaded {lot : ParkLotInput} (h : ¬NamesClass lot.mohClassId) :
    parkNode ((index w).loaded b) r' lot = parkNode (index w) r lot := by
  rw [hr.eq_of (f := fun r => parkNode ((index w).loaded b) r lot) fun _ _ _ => rfl]
  simp only [parkNode, mohClassName_quiet _ h]

theorem ivrNode_loaded :
    ivrNode p ((index w).loaded b) r' = ivrNode p (index w) r :=
  hr.eq_of (f := ivrNode p (index w)) fun _ _ _ => rfl

theorem timeConditionNode_agree : timeConditionNode r' = timeConditionNode r :=
  hr.eq_of (f := timeConditionNode) fun _ _ _ => rfl

end constructors

theorem materialise_congr {enabled : α → Bool} {node node' : α → Compiler PlanNodeId}
    {rows : List α} (h : ∀ row ∈ rows, enabled row = true → node row = node' row) :
    materialise enabled node rows = materialise enabled node' rows := by
  refine each_congr fun row hrow => ite_congr rfl (fun hen => ?_) fun _ => rfl
  rw [h row hrow hen]

theorem claimNumbers_congr {kind : InternalNumberKind} {number : α → Option JsString}
    {entityId name : α → JsString} {node node' : α → Compiler PlanNodeId} {rows : List α}
    (h : ∀ row ∈ rows, (number row).isSome = true → node row = node' row) :
    claimNumbers kind number entityId name node rows =
      claimNumbers kind number entityId name node' rows := by
  refine each_congr fun row hrow => ?_
  unfold claimRowNumber
  cases hn : number row with
  | none => rfl
  | some value => rw [h row hrow (by rw [hn]; rfl)]

section quiet

variable {p : Platform} {w : OrgRoutingSnapshot} {r r' : Recur} {b : Bool} (hq : Quiet w)
include hq

theorem Quiet.extension {e : ExtensionInput} (he : e ∈ w.extensions) (hen : e.enabled = true) :
    ¬NamesClass e.mohClassId :=
  hq _ (mem_musicRows.mpr (.inl ⟨e, he, rfl⟩)) hen

theorem Quiet.group {group : RingGroupInput} (hg : group ∈ w.ringGroups)
    (hen : group.enabled = true) : ¬NamesClass group.mohClassId :=
  hq _ (mem_musicRows.mpr (.inr (.inl ⟨group, hg, rfl⟩))) hen

theorem Quiet.queue {entry : QueueInput} (he : entry ∈ w.queues) (hen : entry.enabled = true) :
    ¬NamesClass entry.mohClassId :=
  hq _ (mem_musicRows.mpr (.inr (.inr (.inl ⟨entry, he, rfl⟩)))) hen

theorem Quiet.room {room : ConferenceInput} (hr : room ∈ w.conferences)
    (hen : room.enabled = true) : ¬NamesClass room.mohClassId :=
  hq _ (mem_musicRows.mpr (.inr (.inr (.inr (.inl ⟨room, hr, rfl⟩))))) hen

theorem Quiet.lot {lot : ParkLotInput} (hl : lot ∈ w.parkLots) (hen : lot.enabled = true) :
    ¬NamesClass lot.mohClassId :=
  hq _ (mem_musicRows.mpr (.inr (.inr (.inr (.inr ⟨lot, hl, rfl⟩))))) hen

theorem destinationNode_loaded (hr : Agree w r' r) :
    destinationNode p ((index w).loaded b) r' = destinationNode p (index w) r := by
  funext d subject path
  refine ite_congr rfl (fun _ => rfl) fun _ => ite_congr rfl (fun _ => rfl) fun _ => ?_
  obtain ⟨type, ref, data⟩ := d
  cases type with
  | extension =>
    exact targetNode_congr (fun e he hen =>
      extensionNode_loaded hr (hq.extension (mem_of_byId he) hen)) _ _ _
  | ivr => exact targetNode_congr (fun menu _ _ => congrFun (ivrNode_loaded hr) menu) _ _ _
  | ringGroup =>
    exact targetNode_congr (fun g hg hen =>
      ringGroupNode_loaded hr (hq.group (mem_of_byId hg) hen)) _ _ _
  | queue =>
    exact targetNode_congr (fun q hm hen =>
      queueNode_loaded hr (hq.queue (mem_of_byId hm) hen)) _ _ _
  | conference =>
    exact targetNode_congr (fun c hc hen =>
      conferenceNode_loaded (hq.room (mem_of_byId hc) hen)) _ _ _
  | park =>
    exact targetNode_congr (fun l hl hen =>
      parkNode_loaded hr (hq.lot (mem_of_byId hl) hen)) _ _ _
  | timeCondition =>
    exact targetNode_congr (fun c _ _ => congrFun (timeConditionNode_agree hr) c) _ _ _
  | _ => rfl

theorem recur_agree (n : Nat) : Agree w (recur p ((index w).loaded b) n) (recur p (index w) n) := by
  induction n with
  | zero => exact ⟨rfl, fun _ _ => rfl⟩
  | succ n ih =>
    refine ⟨destinationNode_loaded hq ih, fun e he => ?_⟩
    obtain ⟨hm, hen⟩ := enabled_of_byNumber he
    exact extensionNode_loaded ih (hq.extension hm hen)

theorem build_agree : Agree w (build p ((index w).loaded b)) (build p (index w)) :=
  recur_agree hq _

theorem materialiseEntities_loaded :
    materialiseEntities p w ((index w).loaded b) = materialiseEntities p w (index w) := by
  have hr := build_agree (p := p) (b := b) hq
  refine seq_congr (materialise_congr fun e he hen => ?_) fun _ => seq_congr rfl fun _ =>
    seq_congr (materialise_congr fun g hg hen => ?_) fun _ => seq_congr ?_ fun _ =>
    seq_congr (materialise_congr fun q hm hen => ?_) fun _ =>
    seq_congr (materialise_congr fun c hc hen => ?_) fun _ =>
    seq_congr (materialise_congr fun l hl hen => ?_) fun _ => ?_
  · exact extensionNode_loaded hr (hq.extension (mem_sortById.mp he) hen)
  · exact ringGroupNode_loaded hr (hq.group (mem_sortById.mp hg) hen)
  · rw [ivrNode_loaded hr]
  · exact queueNode_loaded hr (hq.queue (mem_sortById.mp hm) hen)
  · exact conferenceNode_loaded (hq.room (mem_sortById.mp hc) hen)
  · exact parkNode_loaded hr (hq.lot (mem_sortById.mp hl) hen)
  · rw [timeConditionNode_agree hr]
    rfl

theorem compileFeatureCodes_loaded :
    compileFeatureCodes p w ((index w).loaded b) = compileFeatureCodes p w (index w) := by
  have hr := build_agree (p := p) (b := b) hq
  refine seq_congr rfl fun _ => seq_congr (collect_congr fun entry _ => ?_) fun _ => rfl
  refine ite_congr rfl (fun _ => rfl) fun _ => seq_congr ?_ fun _ => rfl
  unfold featureCodeTarget
  cases lotIdParam entry with
  | none => rfl
  | some lotId =>
    refine ite_congr rfl (fun _ => ?_) fun _ => rfl
    exact targetNode_congr (fun l hl hen =>
      parkNode_loaded hr (hq.lot (mem_of_byId hl) hen)) _ _ _

theorem claimInternalNumbers_loaded :
    claimInternalNumbers p w ((index w).loaded b) = claimInternalNumbers p w (index w) := by
  have hr := build_agree (p := p) (b := b) hq
  have some_of_ite : ∀ {c : Bool} {o : Option JsString}, (if c then o else none).isSome = true →
      c = true := by
    intro c o h
    cases c with
    | true => rfl
    | false => cases h
  refine seq_congr (claimNumbers_congr fun e he hen => ?_) fun _ =>
    seq_congr (claimNumbers_congr fun g hg hen => ?_) fun _ => seq_congr ?_ fun _ =>
    seq_congr (claimNumbers_congr fun q hm hen => ?_) fun _ =>
    claimNumbers_congr fun c hc hen => ?_
  · exact extensionNode_loaded hr (hq.extension (mem_sortById.mp he) (some_of_ite hen))
  · exact ringGroupNode_loaded hr (hq.group (mem_sortById.mp hg) (some_of_ite hen))
  · rw [ivrNode_loaded hr]
  · exact queueNode_loaded hr (hq.queue (mem_sortById.mp hm) (some_of_ite hen))
  · exact conferenceNode_loaded (hq.room (mem_sortById.mp hc) (some_of_ite hen))

theorem compileParkSlots_loaded :
    compileParkSlots p w ((index w).loaded b) = compileParkSlots p w (index w) := by
  have hr := build_agree (p := p) (b := b) hq
  refine seq_congr (fold_congr (fun l hl ranges => ?_) _) fun _ => rfl
  refine ite_congr rfl (fun _ => rfl) fun hen => ite_congr rfl (fun _ => rfl) fun _ =>
    ite_congr rfl (fun _ => rfl) fun _ => seq_congr rfl fun _ => seq_congr ?_ fun _ => rfl
  exact parkNode_loaded hr (hq.lot (mem_sortById.mp hl) (by simpa using hen))

theorem compileInternal_loaded (emergency : Record EmergencyRule) :
    compileInternal p w ((index w).loaded b) emergency =
      compileInternal p w (index w) emergency := by
  refine seq_congr (compileFeatureCodes_loaded hq) fun _ => seq_congr rfl fun _ =>
    seq_congr (claimInternalNumbers_loaded hq) fun _ => seq_congr rfl fun _ =>
    seq_congr (compileParkSlots_loaded hq) fun _ => rfl

theorem compileInbound_loaded :
    compileInbound p w ((index w).loaded b) = compileInbound p w (index w) := by
  have hr := build_agree (p := p) (b := b) hq
  have hrule : compileInboundRule p ((index w).loaded b) (build p ((index w).loaded b)) =
      compileInboundRule p (index w) (build p (index w)) :=
    hr.eq_of (f := compileInboundRule p (index w)) fun _ _ _ => rfl
  have hdid : compileDidDefault (build p ((index w).loaded b)) =
      compileDidDefault (build p (index w)) :=
    hr.eq_of (f := compileDidDefault) fun _ _ _ => rfl
  simp only [compileInbound, hrule, hdid]

theorem compileOutbound_loaded (settings : CompiledRoutingSettings)
    (emergency : Record EmergencyRule) :
    compileOutbound p w ((index w).loaded b) settings emergency =
      compileOutbound p w (index w) settings emergency := by
  have hr := build_agree (p := p) (b := b) hq
  have hrule : compileOutboundRule p ((index w).loaded b) (build p ((index w).loaded b)) =
      compileOutboundRule p (index w) (build p (index w)) :=
    hr.eq_of (f := compileOutboundRule p (index w)) fun _ _ _ => rfl
  simp only [compileOutbound, hrule]

theorem compileExtensionIndex_loaded :
    compileExtensionIndex p w ((index w).loaded b) = compileExtensionIndex p w (index w) := by
  have hr := build_agree (p := p) (b := b) hq
  refine seq_congr (fold_congr (fun e he entries => ?_) _) fun _ => rfl
  refine ite_congr rfl (fun _ => rfl) fun hen => seq_congr ?_ fun _ => rfl
  exact extensionNode_loaded hr (hq.extension (mem_sortById.mp he) (by simpa using hen))

theorem followMeDestination_loaded (e : ExtensionInput) (outbound : OutboundMatchTable)
    (callBlock : List CompiledCallBlockRule) (subject : DiagnosticSubject)
    (entry : FollowMeTargetInput × Nat) :
    followMeDestination p ((index w).loaded b) (build p ((index w).loaded b)) e outbound callBlock
        subject entry =
      followMeDestination p (index w) (build p (index w)) e outbound callBlock subject entry := by
  have hr := build_agree (p := p) (b := b) hq
  refine ite_congr rfl (fun _ => rfl) fun _ => ?_
  have hfield : ((index w).loaded b).extensionsByNumber = (index w).extensionsByNumber := rfl
  rw [hfield]
  cases hi : (index w).extensionsByNumber.get? (trim (entry.1.destination.toOption.getD [])) with
  | none => rfl
  | some internal =>
    obtain ⟨hm, hen⟩ := enabled_of_byNumber (Dict.mem_values_of_get? hi)
    exact seq_congr (extensionNode_loaded hr (hq.extension hm hen)) fun _ => rfl

theorem compileFollowMe_loaded (outbound : OutboundMatchTable)
    (callBlock : List CompiledCallBlockRule) :
    compileFollowMe p w ((index w).loaded b) outbound callBlock =
      compileFollowMe p w (index w) outbound callBlock := by
  refine each_congr fun e _ => ?_
  unfold compileExtensionFollowMe
  cases followMeOf e with
  | none => rfl
  | some config =>
    refine seq_congr rfl fun s => ?_
    cases extensionPlanAt s.nodes (extensionId e) with
    | none => rfl
    | some entry =>
      exact seq_congr (collect_congr fun hop _ =>
        followMeDestination_loaded hq e outbound callBlock _ hop) fun _ => rfl

end quiet

section music

variable {p : Platform} {w : OrgRoutingSnapshot}

theorem opening_tag (kind : MusicKind) (id : JsString) :
    tag (kind.opening ++ id) = tag kind.opening := by
  cases kind <;> rfl

theorem kind_of_tag {kind kind' : MusicKind} (h : tag kind.opening = tag kind'.opening) :
    kind = kind' := by
  cases kind <;> cases kind' <;> first | rfl | exact absurd h (by decide)

theorem musicRows_inj (hids : DistinctIds w) {row row' : MusicRow} (h : row ∈ musicRows w)
    (h' : row' ∈ musicRows w) (he : row.nodeId = row'.nodeId) : row = row' := by
  have hkind : row.kind = row'.kind := by
    apply kind_of_tag
    rw [← opening_tag row.kind row.id, ← opening_tag row'.kind row'.id]
    exact congrArg tag he
  have hid : row.id = row'.id := by
    rw [MusicRow.nodeId, MusicRow.nodeId, hkind] at he
    exact List.append_cancel_left he
  have same : ∀ {α : Type} {rows : List α} {key : α → JsString} {f : α → MusicRow} {a b : α},
      (rows.map key).Nodup → a ∈ rows → b ∈ rows → key a = key b → f a = f b :=
    fun hk ha hb hab => congrArg _ (List.inj_on_of_nodup_map hk ha hb hab)
  obtain ⟨a, ha, rfl⟩ | ⟨a, ha, rfl⟩ | ⟨a, ha, rfl⟩ | ⟨a, ha, rfl⟩ | ⟨a, ha, rfl⟩ :=
    mem_musicRows.mp h <;>
  obtain ⟨b, hb, rfl⟩ | ⟨b, hb, rfl⟩ | ⟨b, hb, rfl⟩ | ⟨b, hb, rfl⟩ | ⟨b, hb, rfl⟩ :=
    mem_musicRows.mp h' <;>
  first
  | exact same hids.extensions ha hb hid
  | exact same hids.ringGroups ha hb hid
  | exact same hids.queues ha hb hid
  | exact same hids.conferences ha hb hid
  | exact same hids.parkLots ha hb hid
  | cases hkind

theorem music_of_tag {body : PlanBody} (kind : MusicKind) (h : tag kind.opening = body.kind) :
    ∃ ref, music body = some ref := by
  cases body with
  | extension _ | ringGroup _ | queue _ | conference _ | park _ => exact ⟨_, rfl⟩
  | _ => cases kind <;> exact absurd h (by simp only [PlanBody.kind]; decide)

theorem Compiled.notes {tables : Tables} {s : CompilerState} (h : Compiled p w tables s)
    (hids : DistinctIds w) (he : w.mohClasses = some []) {row : MusicRow} (hrow : row ∈ musicRows w)
    (hen : row.enabled = true) (hn : NamesClass row.mohClassId) : HasCode .danglingMohClass s := by
  obtain ⟨node, hnode⟩ :=
    (Dict.mem_keys_iff _ _).mp (h.sound.closed _ (h.points.music row hrow hen))
  have hplaced := h.sound.placed _ _ hnode
  obtain ⟨ref, href⟩ : ∃ ref, music node.body = some ref := by
    apply music_of_tag row.kind
    rw [← hplaced.tag_eq]
    exact (opening_tag row.kind row.id).symm
  obtain ⟨row', hrow', hid, -, hnoted⟩ := hplaced.plays ref href
  obtain rfl := musicRows_inj hids hrow' hrow hid
  exact hnoted he hn

end music

def emptyWhen {α : Type} (c : Bool) (o : Option (List α)) : Option (List α) :=
  if c then some (o.getD []) else o

@[simp] theorem getD_emptyWhen (c : Bool) (o : Option (List α)) :
    (emptyWhen c o).getD [] = o.getD [] := by
  cases c <;> rfl

/-- The snapshot with some of its absent collections replaced by empty ones. -/
def fillAbsent (greetings music addresses : Bool) (w : OrgRoutingSnapshot) : OrgRoutingSnapshot :=
  { w with
    voicemailGreetings := emptyWhen greetings w.voicemailGreetings
    mohClasses := emptyWhen music w.mohClasses
    emergencyAddresses := emptyWhen addresses w.emergencyAddresses }

section filling

variable {p : Platform} {greetings music addresses : Bool} {w : OrgRoutingSnapshot}

theorem distinctIds_fillAbsent (h : DistinctIds w) :
    DistinctIds (fillAbsent greetings music addresses w) :=
  { h with
    voicemailGreetings := by simpa only [fillAbsent, getD_emptyWhen] using h.voicemailGreetings
    mohClasses := by simpa only [fillAbsent, getD_emptyWhen] using h.mohClasses
    emergencyAddresses := by simpa only [fillAbsent, getD_emptyWhen] using h.emergencyAddresses }

theorem canonicalizeSnapshot_fillAbsent :
    canonicalizeSnapshot (fillAbsent greetings music addresses w) = canonicalizeSnapshot w := by
  simp only [canonicalizeSnapshot, fillAbsent, getD_emptyWhen]

theorem snapshotHash_fillAbsent :
    snapshotHash (fillAbsent greetings music addresses w) = snapshotHash w := by
  rw [snapshotHash, snapshotHash, canonicalizeSnapshot_fillAbsent]

theorem artifactOf_fillAbsent (compiledAt : JsString) (tables : Tables) (s : CompilerState) :
    artifactOf (fillAbsent greetings music addresses w) compiledAt tables s =
      artifactOf w compiledAt tables s := by
  rw [artifactOf, snapshotHash_fillAbsent]
  rfl

theorem index_fillAbsent : index (fillAbsent greetings music addresses w) =
      (index w).loaded (emptyWhen music w.mohClasses).isSome := by
  simp only [index, fillAbsent, getD_emptyWhen, Index.loaded]

theorem isSome_emptyWhen {c : Bool} {o : Option (List α)} {P : Prop}
    (h : c = true → o = none → P) : (emptyWhen c o).isSome = o.isSome ∨ P := by
  cases c with
  | false => exact .inl rfl
  | true =>
    cases o with
    | none => exact .inr (h rfl rfl)
    | some rows => exact .inl rfl

theorem compileEmergency_fillAbsent {b : Bool}
    (ha : addresses = true → w.emergencyAddresses = none → Unaddressed w) :
    compileEmergency (fillAbsent greetings music addresses w) ((index w).loaded b) =
      compileEmergency w (index w) := by
  refine seq_congr rfl fun _ => seq_congr ?_ fun _ => rfl
  refine seq_congr (fold_congr (fun did hdid chosen => ?_) _) fun _ => rfl
  change offerLocation (emptyWhen addresses w.emergencyAddresses).isSome _ chosen did = _
  obtain heq | hnone := isSome_emptyWhen ha
  · rw [heq]
    rfl
  · have hdid' : assignedAddress did = none := hnone did hdid
    simp only [offerLocation, hdid']

theorem passes_fillAbsent (hm : music = true → w.mohClasses = none → Quiet w)
    (ha : addresses = true → w.emergencyAddresses = none → Unaddressed w) :
    passes p (fillAbsent greetings music addresses w) = passes p w := by
  have key : ∀ {β : Type} (F : Index → β),
      (Quiet w → F ((index w).loaded (emptyWhen music w.mohClasses).isSome) = F (index w)) →
      F ((index w).loaded (emptyWhen music w.mohClasses).isSome) = F (index w) := by
    intro β F hF
    obtain heq | hq := isSome_emptyWhen hm
    · rw [heq]
      rfl
    · exact hF hq
  have hgreetings : indexVoicemailGreetings (fillAbsent greetings music addresses w)
      ((index w).loaded (emptyWhen music w.mohClasses).isSome) =
      indexVoicemailGreetings w (index w) := by
    simp only [indexVoicemailGreetings, fillAbsent, getD_emptyWhen]
    rfl
  unfold passes
  simp only [index_fillAbsent]
  refine seq_congr (seq_congr ?_ fun settings => seq_congr ?_ fun emergency => seq_congr ?_
    (fun _ => seq_congr ?_ fun _ => seq_congr ?_ fun _ => seq_congr rfl fun _ =>
    seq_congr ?_ fun _ => rfl)) fun tables => seq_congr ?_ fun _ => rfl
  · refine seq_congr hgreetings (fun _ => seq_congr rfl fun _ => seq_congr rfl fun _ =>
      seq_congr rfl fun _ => seq_congr ?_ fun _ => rfl)
    exact key (materialiseEntities p w) materialiseEntities_loaded
  · exact compileEmergency_fillAbsent ha
  · exact key (fun ix => compileInternal p w ix emergency) fun hq => compileInternal_loaded hq _
  · exact key (compileInbound p w) compileInbound_loaded
  · exact key (fun ix => compileOutbound p w ix settings emergency)
      (fun hq => compileOutbound_loaded hq _ _)
  · exact key (compileExtensionIndex p w) compileExtensionIndex_loaded
  · exact key (fun ix => compileFollowMe p w ix tables.outbound tables.callBlock)
      (fun hq => compileFollowMe_loaded hq _ _)

theorem diagnostics_eq_of_run_eq {p' : Platform} {w' : OrgRoutingSnapshot} {compiledAt : JsString}
    {tables tables' : Tables} {s s' : CompilerState}
    (h : passes p w CompilerState.initial = some (tables, s))
    (h' : passes p' w' CompilerState.initial = some (tables', s'))
    (heq : run p' w' compiledAt = run p w compiledAt) : s'.diagnostics = s.diagnostics := by
  rw [run, run, h, h', Option.map_some, Option.map_some, Option.some.injEq] at heq
  rw [← finish_diagnostics w compiledAt tables s, ← finish_diagnostics w' compiledAt tables' s',
    heq]

theorem distinctIds_sampleOrg : DistinctIds sampleOrg := by
  constructor <;> decide

def unloadedOrg : OrgRoutingSnapshot :=
  { sampleOrg with
    phoneNumbers := [sampleNumber (lit "d1") (lit "+12025550100") (.val (lit "a1"))]
    emergencyAddresses := none }

def emergencyElin (artifact : RoutingArtifact) : Option JsString :=
  (artifact.nodes.lookup emergencyNodeId).field elinOf

end filling

end OptimiqVoice.Routing.Compile

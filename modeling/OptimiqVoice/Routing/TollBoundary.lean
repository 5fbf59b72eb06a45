import OptimiqVoice.Lib.Path
import OptimiqVoice.Routing.Entries

namespace OptimiqVoice.Routing

open Lib Compile

def RoutingArtifact.tables (artifact : RoutingArtifact) : Tables :=
  ⟨artifact.settings, artifact.inbound, artifact.internal, artifact.outbound, artifact.callBlock,
    artifact.extensionsByNumber⟩

/-- One step of the reachability walk over the node table. -/
def References (nodes : Record PlanNode) (a b : PlanNodeId) : Prop :=
  ∃ node, nodes.lookup a = .own node ∧ b ∈ planNodeReferences node

/-- An entry that is absent or no trunk dial. -/
def Plain (id : Option PlanNodeId) : Prop := ∀ x ∈ id, tag x ≠ trunkDialTag

theorem plain_none : Plain none := nofun

variable {id : PlanNodeId}

theorem plain_some (h : tag id ≠ trunkDialTag) : Plain (some id) := by
  intro x hx
  rw [Option.mem_some_iff] at hx
  exact hx ▸ h

section entries

variable {p : Platform} {w : OrgRoutingSnapshot} {compiledAt : JsString}
variable {artifact : RoutingArtifact} {tables : Tables} {s : CompilerState}

section

variable (h : Produces p w compiledAt artifact tables s)

include h

theorem Produces.tables_eq : artifact.tables = tables := by
  rw [h.artifact_eq]
  rfl

theorem Produces.points : TablesPoint w artifact.tables s := by
  rw [Produces.tables_eq h]
  exact h.compiled.points

theorem followGates_plain {now : Int}
    {id id' : Option PlanNodeId} {ds : List Diagnostic}
    (hf : followGates p artifact id now = some (id', ds)) (hid : Plain id) : Plain id' := by
  apply followGatesFrom_keeps _ _ hf hid
  · exact plain_some (by decide)
  · intro _ _ _ next hn _ hnext
    exact plain_some ((h.placed hn).branches next hnext).2

end

theorem plain_field {ν : Type} {r : Record ν} {f : ν → PlanNodeId} {P : JsString → ν → Prop}
    (hall : r.All P) (hp : ∀ k v, P k v → tag (f v) ≠ trunkDialTag) (k : JsString) :
    Plain ((r.lookup k).field (fun v => some (f v))) := by
  cases hl : r.lookup k with
  | own v => exact plain_some (hp k v (hall.of_lookup hl))
  | undefined | inherited => exact plain_none

theorem blockTerminal_plain {action : CallBlockAction}
    (h : blockTerminalNodeId action = some id) : tag id ≠ trunkDialTag := by
  cases action with
  | block | reject =>
    rw [blockTerminalNodeId, Option.some.injEq] at h
    exact h ▸ (by decide)
  | allow | voicemail => cases h

theorem emergency_entry {table : Option (Record EmergencyRule)} {dialed : JsString}
    (ht : table = embedded (emergencyTable w)) :
    (emergencyLookup table dialed).field (fun r => some r.destinationNodeId) =
        some emergencyNodeId ∨
      Plain ((emergencyLookup table dialed).field (fun r => some r.destinationNodeId)) := by
  cases hl : emergencyLookup table dialed with
  | undefined | inherited => exact .inr plain_none
  | own rule =>
    cases table with
    | none => cases hl
    | some table =>
      exact .inl (congrArg some (embedded_emergency (Option.mem_def.mpr ht.symm) hl))

/-- A plan starts at the emergency node, at no trunk dial, or at an outbound
rule that the caller may take. -/
theorem entersAt_cases (h : Produces p w compiledAt artifact tables s) {call : Call}
    {entry : Option PlanNodeId} (hr : EntersAt p artifact call entry) :
    entry = some emergencyNodeId ∨ Plain entry ∨
      ∃ input, call = .outbound input ∧ artifact.outbound.enabled = true ∧ ∃ tollClass,
        effectiveTollClass artifact input = some tollClass ∧ ∃ rule ∈ artifact.outbound.rules,
          entry = some rule.destinationNodeId ∧
          tollClassCovers tollClass rule.tollClass = true := by
  have hpoints := Produces.points h
  have plain : ∀ {id : PlanNodeId}, Target id s → Plain (some id) := fun ht => plain_some ht.2
  cases hr with
  | blocked hterminal => exact .inr (.inl (plain_some (blockTerminal_plain hterminal)))
  | emergency hread =>
    refine (emergency_entry (w := w) ?_).imp_right .inl
    cases hread with
    | outboundEmergency => exact hpoints.outboundEmergency
    | internalEmergency => exact hpoints.internalEmergency
  | inboundRule hrule hstart hwalk =>
    have hp := hpoints.inbound.rules _ hrule
    refine .inr (.inl (followGates_plain h hwalk (plain ?_)))
    obtain rfl | ⟨gate, hg, hclosed⟩ := hstart
    · exact hp.destination
    · exact hp.gate gate hg _ hclosed
  | did hread hwalk =>
    exact .inr (.inl (followGates_plain h hwalk
      (plain_field hpoints.inbound.defaults (fun _ _ hv => hv.2) _)))
  | inboundNoMatch => exact .inr (.inl (plain hpoints.inbound.noMatch))
  | featureCode hcode => exact .inr (.inl (plain (hpoints.internal.featureCodes _ hcode)))
  | @mailbox _ _ mode hread =>
    refine .inr (.inl (plain_field hpoints.internal.mailboxes (fun _ _ hm => ?_) _))
    cases mode with
    | check => exact hm.2.2
    | leave => exact hm.1.2
  | number hread hwalk =>
    exact .inr (.inl (followGates_plain h hwalk
      (plain_field hpoints.internal.numbers (fun _ _ hv => hv.2) _)))
  | parkSlot hrange => exact .inr (.inl (plain (hpoints.internal.parkSlots _ hrange)))
  | internalNoMatch => exact .inr (.inl (plain hpoints.internal.noMatch))
  | outboundRule henabled hclass hrule hcovers =>
    exact .inr (.inr ⟨_, rfl, henabled, _, hclass, _, hrule, rfl, hcovers⟩)
  | outboundClosed hrule hgate hstart hwalk =>
    exact .inr (.inl (followGates_plain h hwalk
      (plain ((hpoints.outbound.rules _ hrule).gate _ hgate _ hstart))))
  | outboundNoMatch => exact .inr (.inl (plain hpoints.outbound.noMatch))
  | denied => exact .inr (.inl (plain hpoints.outbound.denied))

end entries

def IsTrunkDial (nodes : Record PlanNode) (id : PlanNodeId) (plan : TrunkDialPlan) : Prop :=
  ∃ node, nodes.lookup id = .own node ∧ node.body = .trunkDial plan

/-- The caller dialled out and holds the class of the trunk dial it enters at. -/
def DialledOut (w : OrgRoutingSnapshot) (artifact : RoutingArtifact) (call : Call)
    (plan : TrunkDialPlan) : Prop :=
  ∃ input, call = .outbound input ∧ artifact.outbound.enabled = true ∧
    effectiveTollClass artifact input = callerClass w input ∧
    ∃ tollClass ∈ callerClass w input, tollClassCovers tollClass plan.tollClass = true

/-- The extension `id` has a follow-me hop to the trunk dial and holds its class. -/
def HopsOut (artifact : RoutingArtifact) (id target : PlanNodeId) (plan : TrunkDialPlan) : Prop :=
  ∃ node q, artifact.nodes.lookup id = .own node ∧ node.body = .extension q ∧
    (∃ hop ∈ hops node.body, hop.targetNodeId = some target) ∧
    tollClassCovers q.tollClass plan.tollClass = true ∧ artifact.outbound.enabled = true

/-- Every way from a call to a trunk other than the emergency one. -/
structure TollBoundary (p : Platform) (w : OrgRoutingSnapshot) (artifact : RoutingArtifact) :
    Prop where
  reached : ∀ call route, resolve p artifact call = some route →
    ∀ entry, route.plan.entryNodeId = some entry →
    ∀ passed id, Path (References artifact.nodes) entry passed id →
    ∀ plan, IsTrunkDial artifact.nodes id plan → id ≠ emergencyNodeId →
      (id = entry ∧ passed = [] ∧ DialledOut w artifact call plan) ∨
      ∃ e ∈ passed, HopsOut artifact e id plan
  branches : ∀ id node, artifact.nodes.lookup id = .own node →
    ∀ r ∈ branches node.body, ∀ plan, ¬IsTrunkDial artifact.nodes r plan
  closedGates : ∀ gate : RouteTimeGate,
    (∃ rule ∈ artifact.inbound.rules, rule.timeGate = some gate) ∨
    (∃ rule ∈ artifact.outbound.rules, rule.timeGate = some gate) →
    ∀ r ∈ gate.closedNodeId, ∀ plan, ¬IsTrunkDial artifact.nodes r plan
  inboundRules : ∀ rule ∈ artifact.inbound.rules, ∀ plan,
    ¬IsTrunkDial artifact.nodes rule.destinationNodeId plan ∧
    ∀ r ∈ rule.failoverNodeId, ¬IsTrunkDial artifact.nodes r plan
  featureCodes : ∀ code ∈ artifact.internal.featureCodes, ∀ plan,
    ¬IsTrunkDial artifact.nodes code.nodeId plan

section boundary

variable {p : Platform} {w : OrgRoutingSnapshot} {compiledAt : JsString}
variable {artifact : RoutingArtifact} {tables : Tables} {s : CompilerState}

variable {plan : TrunkDialPlan}

variable (h : Produces p w compiledAt artifact tables s)

include h

theorem IsTrunkDial.tag_eq (hid : IsTrunkDial artifact.nodes id plan) : tag id = trunkDialTag := by
  obtain ⟨node, hn, hb⟩ := hid
  rw [(h.placed hn).tag_eq, hb]
  rfl

theorem not_isTrunkDial
    (hid : Target id s) (plan : TrunkDialPlan) : ¬IsTrunkDial artifact.nodes id plan :=
  fun ht => hid.2 (ht.tag_eq h)

theorem IsTrunkDial.tollClass_eq (hroutes : (w.outboundRoutes.map (·.id)).Nodup)
    (hid : IsTrunkDial artifact.nodes id plan) (hne : id ≠ emergencyNodeId) {rule : OutboundRule}
    (hrule : rule ∈ artifact.outbound.rules) (heq : rule.destinationNodeId = id) :
    rule.tollClass = plan.tollClass := by
  obtain ⟨node, hn, hb⟩ := hid
  have hplanned := (h.placed hn).planned
  rw [hb] at hplanned
  obtain ⟨he, -⟩ | ⟨-, route, hroute, hrid, hclass⟩ := hplanned
  · exact absurd he hne
  rw [h.artifact_eq] at hrule
  obtain ⟨route', hroute', hrid', hclass'⟩ := (h.compiled.points.outbound.rules rule hrule).route
  have hids : route'.id = route.id := trunkDialId_inj (hrid'.symm.trans (heq.trans hrid))
  have hsame : route' = route := List.inj_on_of_nodup_map hroutes hroute' hroute hids
  rw [hclass', hclass, hsame]

theorem hopsOut_of_references
    (hext : (w.extensions.map (·.id)).Nodup) (hroutes : (w.outboundRoutes.map (·.id)).Nodup)
    {target : PlanNodeId} (hr : References artifact.nodes id target)
    (htarget : IsTrunkDial artifact.nodes target plan) (hne : target ≠ emergencyNodeId) :
    HopsOut artifact id target plan := by
  obtain ⟨node, hn, hmem⟩ := hr
  have hplaced := h.placed hn
  obtain hb | ⟨hop, hhop, haim⟩ := (mem_planNodeReferences node target).mp hmem
  · exact absurd htarget (not_isTrunkDial h (hplaced.branches target hb) plan)
  obtain ⟨hen, rule, hrule, hdest, e, he, hid, hcovers⟩ :=
    (hplaced.hops hop hhop target haim).2 (htarget.tag_eq h)
  have hout : artifact.outbound = tables.outbound := by rw [h.artifact_eq]; rfl
  have hclass := htarget.tollClass_eq h hroutes hne (hout ▸ hrule) hdest
  obtain ⟨q, hbody⟩ : ∃ q, node.body = .extension q := by
    apply eq_extension_of_kind
    rw [← hplaced.tag_eq, hid]
    rfl
  have hplanned := hplaced.planned
  rw [hbody] at hplanned
  obtain ⟨e', he', hid', hclass'⟩ := hplanned
  have hids : e.id = e'.id := extensionId_inj (hid.symm.trans hid')
  have hsame : e = e' := List.inj_on_of_nodup_map hext he he' hids
  refine ⟨node, q, hn, hbody, ⟨hop, hhop, haim⟩, ?_, hout ▸ hen⟩
  rw [hclass', ← hsame, ← hclass]
  exact hcovers

theorem closedGates_plain {gate : RouteTimeGate}
    (hgate : (∃ rule ∈ artifact.inbound.rules, rule.timeGate = some gate) ∨
      (∃ rule ∈ artifact.outbound.rules, rule.timeGate = some gate)) :
    ∀ r ∈ gate.closedNodeId, Target r s := by
  rw [h.artifact_eq] at hgate
  obtain ⟨rule, hrule, hg⟩ | ⟨rule, hrule, hg⟩ := hgate
  · exact (h.compiled.points.inbound.rules rule hrule).gate gate hg
  · exact (h.compiled.points.outbound.rules rule hrule).gate gate hg

end boundary

/-- The toll-fraud boundary of an artifact compiled without errors. Ids are the
primary keys of their tables; an extension number has digits only. -/
theorem tollBoundary_of_run (p : Platform) (w : OrgRoutingSnapshot) (compiledAt : JsString)
    (artifact : RoutingArtifact) (diagnostics : List Diagnostic)
    (hrun : run p w compiledAt = some (.ok artifact diagnostics))
    (hext : (w.extensions.map (·.id)).Nodup) (hroutes : (w.outboundRoutes.map (·.id)).Nodup)
    (hproto : ∀ e ∈ w.extensions, e.number ≠ protoName) : TollBoundary p w artifact := by
  obtain ⟨tables, s, h⟩ := run_ok hrun
  refine ⟨?_, ?_, ?_, ?_, ?_⟩
  · intro call route hroute entry hentry passed id hpath plan hplan hne
    obtain ⟨rfl, rfl⟩ | ⟨e, he, href⟩ := hpath.last
    · left
      refine ⟨rfl, rfl, ?_⟩
      obtain hem | hplain | ⟨input, hcall, hen, cls, hcls, rule, hrule, hdest, hcov⟩ :=
        entersAt_cases h (entersAt_of_resolve hroute)
      · rw [hentry, Option.some.injEq] at hem
        exact absurd hem hne
      · exact absurd (hplan.tag_eq h) (hplain id hentry)
      · rw [hentry, Option.some.injEq] at hdest
        have heff := h.effectiveTollClass_eq hproto input
        refine ⟨input, hcall, hen, heff, cls, by rw [← heff, hcls]; rfl, ?_⟩
        rwa [← hplan.tollClass_eq h hroutes hne hrule hdest.symm]
    · exact .inr ⟨e, he, hopsOut_of_references h hext hroutes href hplan hne⟩
  · intro id node hn r hr plan
    exact not_isTrunkDial h ((h.placed hn).branches r hr) plan
  · intro gate hgate r hr plan
    exact not_isTrunkDial h (closedGates_plain h hgate r hr) plan
  · intro rule hrule plan
    rw [h.artifact_eq] at hrule
    have hp := h.compiled.points.inbound.rules rule hrule
    exact ⟨not_isTrunkDial h hp.destination plan,
      fun r hr => not_isTrunkDial h (hp.failover r hr) plan⟩
  · intro code hcode plan
    rw [h.artifact_eq] at hcode
    exact not_isTrunkDial h (h.compiled.points.internal.featureCodes code hcode) plan

theorem tollBoundary_sampleOrg : ∃ artifact diagnostics,
      run samplePlatform sampleOrg (lit "now") = some (.ok artifact diagnostics) ∧
      (resolve samplePlatform artifact
        (.outbound ⟨lit "102", lit "2025550123", 0, none⟩)).bind (·.plan.entryNodeId) =
          some (lit "trunk-dial:r1") ∧ TollBoundary samplePlatform sampleOrg artifact := by
  obtain ⟨artifact, diagnostics, hrun, hentry⟩ := exists_of_okWith
    (fun artifact => (resolve samplePlatform artifact
      (.outbound ⟨lit "102", lit "2025550123", 0, none⟩)).bind (·.plan.entryNodeId) =
        some (lit "trunk-dial:r1")) (run samplePlatform sampleOrg (lit "now")) (by decide)
  exact ⟨artifact, diagnostics, hrun, of_decide_eq_true hentry,
    tollBoundary_of_run _ _ _ _ _ hrun (by decide) (by decide) (by decide)⟩

end OptimiqVoice.Routing

import OptimiqVoice.Routing.Compile.Ladder
import OptimiqVoice.Routing.Resolve

namespace OptimiqVoice.Routing.Compile

open Lib Lib.Prog

variable {id : PlanNodeId}

section cycles

variable {nodes : Dict PlanNodeId PlanNode} {s t : CycleSearch}

/-- Menu loops are all the search reports. -/
def OnlyCycles (s : CycleSearch) : Prop := ∀ d ∈ s.warnings, d.code = .ivrCycle

/-- The search only ever adds marks. -/
structure Searches (s t : CycleSearch) : Prop where
  marks : ∀ id, s.marks.has id → t.marks.has id
  cycles : OnlyCycles s → OnlyCycles t

instance : IsPreorder CycleSearch Searches where
  refl := fun _ => ⟨fun _ h => h, fun h => h⟩
  trans := fun _ _ _ h k => ⟨fun id hid => k.marks id (h.marks id hid), fun hs => k.cycles (h.cycles hs)⟩

def unmarked (nodes : Dict PlanNodeId PlanNode) (s : CycleSearch) : Nat :=
  free nodes.keys s.marks.has

theorem has_set {κ ν : Type} [DecidableEq κ] (d : Dict κ ν) (k : κ) (v : ν) (j : κ) :
    (d.set k v).has j = (decide (k = j) || d.has j) := by
  rw [Dict.has, Dict.get?_set]
  by_cases h : k = j <;> simp [h, Dict.has]

theorem mark_runs (id : PlanNodeId) (m : Mark) :
    Runs Searches s (mark id m) (fun _ t => t.marks = s.marks.set id m) :=
  Runs.modify ⟨fun x hx => by simp [has_set, hx], fun h => h⟩ rfl

theorem marks_reportCycle (id : PlanNodeId) (stack : List PlanNodeId) :
    (reportCycle nodes id stack s).marks = s.marks := by
  simp only [reportCycle, apply_ite CycleSearch.marks, ite_self]

theorem mem_keys_of_isMenuId (h : isMenuId nodes id = true) :
    id ∈ nodes.keys := by
  rw [Dict.mem_keys_iff]
  cases hn : nodes.get? id with
  | none => simp [isMenuId, hn] at h
  | some node => exact ⟨node, rfl⟩

theorem onlyCycles_reportCycle (id : PlanNodeId) (stack : List PlanNodeId) (h : OnlyCycles s) :
    OnlyCycles (reportCycle nodes id stack s) := by
  intro d hd
  simp only [reportCycle, apply_ite CycleSearch.warnings] at hd
  generalize (if id ∈ stack then stack.drop (stack.idxOf id) else stack) = cycle at hd
  split at hd
  · exact h d hd
  · obtain hd | hd := List.mem_append.mp hd
    · exact h d hd
    · rw [List.mem_singleton] at hd
      rw [hd]

theorem visit_runs (n : Nat) (stack : List PlanNodeId) (hid : id ∈ nodes.keys)
    (h : unmarked nodes s < n) : Runs Searches s (visit nodes n stack id) (fun _ _ => True) := by
  induction n generalizing s stack id with
  | zero => omega
  | succ n ih =>
    refine .get_bind ?_
    cases hm : s.marks.get? id with
    | some m =>
      cases m with
      | done => exact .pure trivial
      | visiting =>
        refine .modify ⟨fun x hx => ?_, onlyCycles_reportCycle id stack⟩ trivial
        rwa [marks_reportCycle]
    | none =>
      refine (mark_runs id .visiting).bind fun _ t ht hmarks => ?_
      have hlt : unmarked nodes t < unmarked nodes s := by
        apply free_lt ht.marks hid
        · simp [Dict.has, hm]
        · simp [hmarks, Dict.has]
      refine (Runs.each _ fun r hr u hu => ?_).bind fun _ u _ _ => ?_
      · have hkey : r ∈ nodes.keys := mem_keys_of_isMenuId (List.mem_filter.mp hr).2
        have hle : unmarked nodes u ≤ unmarked nodes t := free_le hu.marks
        exact ih (stack ++ [id]) hkey (by omega)
      · exact (mark_runs id .done).weaken fun _ _ _ _ => trivial

theorem mem_keys_of_mem_menuIds
    (hid : ∀ k node, nodes.get? k = some node → node.id = k) (h : id ∈ menuIds nodes) :
    id ∈ nodes.keys := by
  obtain ⟨node, hm, rfl⟩ := List.mem_map.mp ((mem_sortOn _).mp h)
  obtain ⟨k, hk⟩ := Dict.mem_values_iff.mp (List.mem_filter.mp hm).1
  rw [hid k node hk]
  exact (Dict.mem_keys_iff _ _).mpr ⟨node, hk⟩

end cycles

def Reports (w : OrgRoutingSnapshot) (s t : CompilerState) : Prop :=
  ∃ ds, t = { s with diagnostics := ds } ∧ Reported w s.diagnostics ds

variable {p : Platform} {w : OrgRoutingSnapshot} {s : CompilerState}

instance : IsPreorder CompilerState (Reports w) where
  refl := fun s => ⟨s.diagnostics, rfl, Reported.refl _⟩
  trans := by
    intro s t u h k
    obtain ⟨ds, rfl, hd⟩ := h
    obtain ⟨es, rfl, he⟩ := k
    exact ⟨es, rfl, hd.trans he⟩

theorem detectIvrCycles_runs (hid : ∀ k node, s.nodes.get? k = some node → node.id = k) :
    Runs (Reports w) s detectIvrCycles (fun _ _ => True) := by
  refine .get_bind ?_
  have hsearch : Runs Searches ⟨Dict.empty, [], []⟩
      (each (visit s.nodes (s.nodes.keys.length + 1) []) (menuIds s.nodes)) (fun _ _ => True) := by
    refine .each _ fun id hm t _ => ?_
    exact visit_runs _ _ (mem_keys_of_mem_menuIds hid hm) (Nat.lt_succ_of_le free_le_length)
  obtain ⟨_, found, hfound, hsearches, -⟩ := hsearch
  simp only [hfound]
  refine .each _ fun d hd t _ => .modify ⟨_, rfl, Reported.append_singleton _ ?_⟩ trivial
  exact .of (by rw [hsearches.cycles nofun d hd]; rfl)

theorem assertNodeClosure_runs (h : ∀ id node, s.nodes.get? id = some node →
    ∀ r ∈ planNodeReferences node, r ∈ s.nodes.keys) :
    Runs Eq s assertNodeClosure (fun _ _ => True) := by
  refine .get_bind (Runs.each _ fun id _ t _ => ?_)
  cases hn : s.nodes.get? id with
  | none => exact .pure trivial
  | some node =>
    refine .each _ fun r hr u _ => ?_
    rw [if_pos ((Dict.has_iff _ _).mpr (h id node hn r hr))]
    exact .pure trivial

/-- Every node id that a table can yield is a key of the node table. -/
structure TablesClosed (tables : Tables) (nodes : Dict PlanNodeId PlanNode) : Prop where
  inboundRules : ∀ rule ∈ tables.inbound.rules, rule.destinationNodeId ∈ nodes.keys ∧
    (∀ id ∈ rule.failoverNodeId, id ∈ nodes.keys) ∧
    ∀ gate ∈ rule.timeGate, ∀ id ∈ gate.closedNodeId, id ∈ nodes.keys
  didDefaults : ∀ did entry, tables.inbound.didDefaults.lookup did = .own entry →
    entry.destinationNodeId ∈ nodes.keys
  inboundNoMatch : tables.inbound.noMatchNodeId ∈ nodes.keys
  numbers : ∀ number entry, tables.internal.numbers.lookup number = .own entry →
    entry.nodeId ∈ nodes.keys
  mailboxes : ∀ number entry, tables.internal.mailboxes.lookup number = .own entry →
    entry.leaveNodeId ∈ nodes.keys ∧ entry.checkNodeId ∈ nodes.keys
  featureCodes : ∀ code ∈ tables.internal.featureCodes, code.nodeId ∈ nodes.keys
  parkSlots : ∀ range ∈ tables.internal.parkSlots, range.nodeId ∈ nodes.keys
  internalEmergency : ∀ table ∈ tables.internal.emergency, ∀ dialed rule,
    table.lookup dialed = .own rule → rule.destinationNodeId ∈ nodes.keys
  internalNoMatch : tables.internal.noMatchNodeId ∈ nodes.keys
  outboundRules : ∀ rule ∈ tables.outbound.rules, rule.destinationNodeId ∈ nodes.keys ∧
    ∀ gate ∈ rule.timeGate, ∀ id ∈ gate.closedNodeId, id ∈ nodes.keys
  outboundEmergency : ∀ table ∈ tables.outbound.emergency, ∀ dialed rule,
    table.lookup dialed = .own rule → rule.destinationNodeId ∈ nodes.keys
  outboundNoMatch : tables.outbound.noMatchNodeId ∈ nodes.keys
  outboundDenied : tables.outbound.deniedNodeId ∈ nodes.keys
  extensionsByNumber : ∀ number entry, tables.extensionsByNumber.lookup number = .own entry →
    entry.nodeId ∈ nodes.keys

structure Compiled (p : Platform) (w : OrgRoutingSnapshot) (tables : Tables)
    (s : CompilerState) : Prop where
  sound : Sound w tables.outbound s
  points : TablesPoint w tables s
  mirror : TablesMirror p w tables s
  ladders : (w.extensions.map (·.id)).Nodup → ∀ e ∈ w.extensions, e.enabled = true →
    ∃ plan, s.nodes.get? (extensionId e) = some ⟨extensionId e, .extension
      (withLadder plan (ladderOf p w tables.outbound tables.callBlock e))⟩
  reported : Reported w [] s.diagnostics

theorem Sound.references {outbound : OutboundMatchTable} (hs : Sound w outbound s)
    {node : PlanNode} (hn : s.nodes.get? id = some node) {r : PlanNodeId}
    (hr : r ∈ planNodeReferences node) : r ∈ s.nodes.keys := by
  have hplaced := hs.placed id node hn
  apply hs.closed
  obtain hb | ⟨hop, hm, ht⟩ := (mem_planNodeReferences node r).mp hr
  · exact (hplaced.branches r hb).1
  · exact (hplaced.hops hop hm r ht).1

variable {tables : Tables}

theorem TablesPoint.mono {t : CompilerState} (h : TablesPoint w tables s)
    (hc : s.claimed ⊆ t.claimed) (hd : Reported w s.diagnostics t.diagnostics)
    (hk : s.timeConditionsById.keys ⊆ t.timeConditionsById.keys)
    (hn : HasEmergencyNode w t) : TablesPoint w tables t where
  inbound := h.inbound.mono hc
  internal := h.internal.mono hc
  internalEmergency := h.internalEmergency
  outbound := h.outbound.mono hc
  outboundEmergency := h.outboundEmergency
  extensions := h.extensions.mono hc
  terminals := fun cause hm => (h.terminals cause hm).mono hc
  emergencyNode := hn
  numbers := h.numbers.imp_left fun he => he.mono hd
  music := fun row hr hen => hc (h.music row hr hen)
  times := fun condition hm => (h.times condition hm).mono hd hk
  addresses := fun did hm he hs => (h.addresses did hm he hs).mono hd
  dropped := h.dropped.mono hd

theorem emergencyNodeId_ne_extensionId (e : ExtensionInput) : emergencyNodeId ≠ extensionId e :=
  fun h => absurd (congrArg tag h) (by decide : lit "trunk-dial" ≠ lit "extension")

theorem Plans.ladder_eq_none {t : CompilerState} (h : Plans w CompilerState.initial t)
    {node : PlanNode} (hn : t.nodes.get? id = some node) :
    ladder node.body = none := by
  obtain hold | ⟨-, -, -, hf⟩ := h.fresh id (by simp [CompilerState.initial]) node hn
  · cases hold
  · exact hf.ladder

theorem eq_extension_of_kind {body : PlanBody} (h : body.kind = lit "extension") :
    ∃ plan, body = .extension plan := by
  cases body with
  | extension plan => exact ⟨plan, rfl⟩
  | _ =>
    simp only [PlanBody.kind] at h
    exact absurd h (by decide)

theorem Sound.exists_extension {outbound : OutboundMatchTable} (hs : Sound w outbound s)
    {e : ExtensionInput} (hc : extensionId e ∈ s.claimed) :
    ∃ plan, s.nodes.get? (extensionId e) = some ⟨extensionId e, .extension plan⟩ := by
  obtain ⟨⟨id, body⟩, hn⟩ := (Dict.mem_keys_iff _ _).mp (hs.closed _ hc)
  have hp := hs.placed _ _ hn
  obtain ⟨plan, rfl⟩ := eq_extension_of_kind (hp.tag_eq.symm.trans rfl)
  obtain rfl : id = extensionId e := hp.id_eq
  exact ⟨plan, hn⟩

theorem passes_compiled (p : Platform) (w : OrgRoutingSnapshot) :
    ∃ tables s, passes p w CompilerState.initial = some (tables, s) ∧ Compiled p w tables s := by
  obtain ⟨tables, t₁, e₁, h₁, hpoints, hmirror⟩ := compileTables_runs (p := p) (w := w)
  have hsound : Sound w tables.outbound t₁ := initial_sound.plans h₁
  have hrules : ∀ rule ∈ tables.outbound.rules, rule.destinationNodeId ∈ t₁.claimed :=
    fun rule hr => (hpoints.outbound.rules rule hr).claimed
  obtain ⟨_, t₂, e₂, h₂, hladders⟩ := compileFollowMe_runs p tables.callBlock hsound hrules
  have hrewrites := h₂ hsound
  have hid : ∀ k node, t₂.nodes.get? k = some node → node.id = k :=
    fun k node hn => (hrewrites.sound.placed k node hn).id_eq
  obtain ⟨_, t₃, e₃, ⟨ds, rfl, hds⟩, -⟩ := detectIvrCycles_runs (w := w) hid
  have hsound₃ : Sound w tables.outbound { t₂ with diagnostics := ds } :=
    ⟨hrewrites.sound.closed, hrewrites.sound.tidy, fun id node hn =>
      (hrewrites.sound.placed id node hn).mono (.refl _) hds⟩
  obtain ⟨_, t₄, e₄, rfl, -⟩ := assertNodeClosure_runs fun id node hn r hr =>
    hsound₃.references hn hr
  refine ⟨tables, _, ?_, hsound₃, hpoints.mono hrewrites.claimed
    (hrewrites.diagnostics.trans hds) hrewrites.times ?_,
    hmirror.mono (hrewrites.diagnostics.trans hds), fun hnodup e he hen => ?_,
    (h₁.diagnostics.trans (hrewrites.diagnostics.trans hds))⟩
  · rw [passes, bind_eq_of_eq e₁, bind_eq_of_eq e₂, bind_eq_of_eq e₃, bind_eq_of_eq e₄]
    rfl
  · obtain ⟨hc, location, hn⟩ := hpoints.emergencyNode
    refine ⟨hrewrites.claimed hc, location, ?_⟩
    rw [← hn]
    apply hrewrites.others _ hc
    intro hm
    obtain ⟨e, -, he⟩ := List.mem_map.mp hm
    exact emergencyNodeId_ne_extensionId e he.symm
  · have hc := hpoints.extensions.claimed e he hen
    obtain ⟨plan, hn⟩ := hsound.exists_extension hc
    exact ⟨plan, hladders hnodup e he hc plan hn (h₁.ladder_eq_none hn)⟩

theorem emergencyTable_all (w : OrgRoutingSnapshot) :
    (emergencyTable w).All (fun _ rule => rule.destinationNodeId = emergencyNodeId) :=
  Record.All.sorted _ (Record.all_foldl_assign _ _ _ _ _ Record.all_empty fun _ _ => rfl)

theorem embedded_emergency {table : Record EmergencyRule}
    (h : table ∈ embedded (emergencyTable w)) {dialed : JsString} {rule : EmergencyRule}
    (hr : table.lookup dialed = .own rule) : rule.destinationNodeId = emergencyNodeId := by
  have he : table = emergencyTable w := by
    unfold embedded at h
    split at h
    · cases h
    · simpa using h.symm
  exact (emergencyTable_all w).of_lookup (he ▸ hr)

theorem Compiled.tablesClosed (h : Compiled p w tables s) :
    TablesClosed tables s.nodes := by
  have key : ∀ {id}, Target id s → id ∈ s.nodes.keys := fun hid => h.sound.closed _ hid.1
  have emergency : emergencyNodeId ∈ s.nodes.keys :=
    h.sound.closed _ h.points.emergencyNode.1
  exact {
    inboundRules := fun rule hr =>
      have hp := h.points.inbound.rules rule hr
      ⟨key hp.destination, fun id hid => key (hp.failover id hid),
        fun gate hg id hid => key (hp.gate gate hg id hid)⟩
    didDefaults := fun _ _ hl => key (h.points.inbound.defaults.of_lookup hl)
    inboundNoMatch := key h.points.inbound.noMatch
    numbers := fun _ _ hl => key (h.points.internal.numbers.of_lookup hl)
    mailboxes := fun _ _ hl =>
      have hp := h.points.internal.mailboxes.of_lookup hl
      ⟨key hp.1, key hp.2⟩
    featureCodes := fun code hc => key (h.points.internal.featureCodes code hc)
    parkSlots := fun range hr => key (h.points.internal.parkSlots range hr)
    internalEmergency := fun table ht dialed rule hl =>
      embedded_emergency (h.points.internalEmergency ▸ ht) hl ▸ emergency
    internalNoMatch := key h.points.internal.noMatch
    outboundRules := fun rule hr =>
      have hp := h.points.outbound.rules rule hr
      ⟨h.sound.closed _ hp.claimed, fun gate hg id hid => key (hp.gate gate hg id hid)⟩
    outboundEmergency := fun table ht dialed rule hl =>
      embedded_emergency (h.points.outboundEmergency ▸ ht) hl ▸ emergency
    outboundNoMatch := key h.points.outbound.noMatch
    outboundDenied := key h.points.outbound.denied
    extensionsByNumber := fun _ _ hl => key (h.points.extensions.all.of_lookup hl).node }

theorem Compiled.hardCoded (h : Compiled p w tables s) :
    lit "hangup:NORMAL_CLEARING" ∈ s.nodes.keys ∧
      ∀ action, ∀ id ∈ blockTerminalNodeId action, id ∈ s.nodes.keys := by
  have terminal : ∀ cause ∈ wellKnownTerminalCauses, hangupId cause ∈ s.nodes.keys :=
    fun cause hc => h.sound.closed _ (h.points.terminals cause hc).1
  refine ⟨terminal .normalClearing (by decide), fun action id hid => ?_⟩
  cases action with
  | block =>
    rw [blockTerminalNodeId, Option.mem_some_iff] at hid
    exact hid ▸ terminal .callRejected (by decide)
  | reject =>
    rw [blockTerminalNodeId, Option.mem_some_iff] at hid
    exact hid ▸ terminal .userBusy (by decide)
  | allow | voicemail => cases hid

/-- The compiler ends on every snapshot with a closed node table: its check of
the references reports nothing, and no table or resolver names a missing node. -/
theorem nodeTable_closed (p : Platform) (w : OrgRoutingSnapshot) :
    ∃ tables s, passes p w CompilerState.initial = some (tables, s) ∧
      (∀ id ∈ s.claimed, id ∈ s.nodes.keys) ∧
      (∀ id node, s.nodes.get? id = some node →
        ∀ r ∈ planNodeReferences node, r ∈ s.nodes.keys) ∧
      assertNodeClosure s = some ((), s) ∧
      TablesClosed tables s.nodes ∧
      lit "hangup:NORMAL_CLEARING" ∈ s.nodes.keys ∧
      ∀ action, ∀ id ∈ blockTerminalNodeId action, id ∈ s.nodes.keys := by
  obtain ⟨tables, s, hrun, h⟩ := passes_compiled p w
  have hrefs : ∀ id node, s.nodes.get? id = some node →
      ∀ r ∈ planNodeReferences node, r ∈ s.nodes.keys :=
    fun id node hn r hr => h.sound.references hn hr
  obtain ⟨_, t, hassert, rfl, -⟩ := assertNodeClosure_runs hrefs
  exact ⟨tables, s, hrun, h.sound.closed, hrefs, hassert, h.tablesClosed, h.hardCoded⟩

end OptimiqVoice.Routing.Compile

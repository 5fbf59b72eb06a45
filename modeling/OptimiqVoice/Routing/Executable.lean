import OptimiqVoice.Routing.InboundSelection
import OptimiqVoice.Routing.TollBoundary

namespace OptimiqVoice.Routing

open Lib Compile

section readBack

def InboundMatchTable.readBack (table : InboundMatchTable) : InboundMatchTable :=
  { table with didDefaults := table.didDefaults.readBack }

def InternalMatchTable.readBack (table : InternalMatchTable) : InternalMatchTable :=
  { table with
    emergency := table.emergency.map Record.readBack
    mailboxes := table.mailboxes.readBack
    numbers := table.numbers.readBack }

def OutboundMatchTable.readBack (table : OutboundMatchTable) : OutboundMatchTable :=
  { table with emergency := table.emergency.map Record.readBack }

/-- The artifact as a reader gets it that parses the stored JSON. -/
def RoutingArtifact.readBack (artifact : RoutingArtifact) : RoutingArtifact :=
  { artifact with
    nodes := artifact.nodes.readBack
    timeConditions := artifact.timeConditions.readBack
    inbound := artifact.inbound.readBack
    internal := artifact.internal.readBack
    outbound := artifact.outbound.readBack
    extensionsByNumber := artifact.extensionsByNumber.readBack }

theorem exists_of_mem_readBack {table : Option (Record EmergencyRule)} {t : Record EmergencyRule}
    (h : t ∈ table.map Record.readBack) : ∃ r ∈ table, r.readBack = t := by
  simpa using h

theorem TablesClosed.readBack {artifact : RoutingArtifact} {nodes nodes' : Dict PlanNodeId PlanNode}
    (h : TablesClosed artifact.tables nodes) (hsub : nodes.keys ⊆ nodes'.keys) :
    TablesClosed artifact.readBack.tables nodes' where
  inboundRules := fun rule hr =>
    have hp := h.inboundRules rule hr
    ⟨hsub hp.1, fun id hid => hsub (hp.2.1 id hid),
      fun gate hg id hid => hsub (hp.2.2 gate hg id hid)⟩
  didDefaults := fun did entry hl => hsub (h.didDefaults did entry (Record.lookup_of_readBack hl))
  inboundNoMatch := hsub h.inboundNoMatch
  numbers := fun number entry hl => hsub (h.numbers number entry (Record.lookup_of_readBack hl))
  mailboxes := fun number entry hl =>
    have hp := h.mailboxes number entry (Record.lookup_of_readBack hl)
    ⟨hsub hp.1, hsub hp.2⟩
  featureCodes := fun code hc => hsub (h.featureCodes code hc)
  parkSlots := fun range hr => hsub (h.parkSlots range hr)
  internalEmergency := by
    intro table ht dialed rule hl
    obtain ⟨r, hr, rfl⟩ := exists_of_mem_readBack ht
    exact hsub (h.internalEmergency r hr dialed rule (Record.lookup_of_readBack hl))
  internalNoMatch := hsub h.internalNoMatch
  outboundRules := fun rule hr =>
    have hp := h.outboundRules rule hr
    ⟨hsub hp.1, fun gate hg id hid => hsub (hp.2 gate hg id hid)⟩
  outboundEmergency := by
    intro table ht dialed rule hl
    obtain ⟨r, hr, rfl⟩ := exists_of_mem_readBack ht
    exact hsub (h.outboundEmergency r hr dialed rule (Record.lookup_of_readBack hl))
  outboundNoMatch := hsub h.outboundNoMatch
  outboundDenied := hsub h.outboundDenied
  extensionsByNumber := fun number entry hl =>
    hsub (h.extensionsByNumber number entry (Record.lookup_of_readBack hl))

end readBack

/-- An artifact whose tables are plain objects and name only nodes of its own. -/
structure ClosedArtifact (artifact : RoutingArtifact) : Prop where
  references : ∀ id node, artifact.nodes.lookup id = .own node →
    ∀ r ∈ planNodeReferences node, r ∈ artifact.nodes.keys
  normalClearing : lit "hangup:NORMAL_CLEARING" ∈ artifact.nodes.keys
  blockTerminals : ∀ action, ∀ id ∈ blockTerminalNodeId action, id ∈ artifact.nodes.keys
  tables : TablesClosed artifact.tables artifact.nodes.own
  unnamed : artifact.nodes.lookup (lit "undefined") = .undefined
  didDefaults : artifact.inbound.didDefaults.proto = none
  numbers : artifact.internal.numbers.proto = none
  mailboxes : artifact.internal.mailboxes.proto = none
  internalEmergency : ∀ table ∈ artifact.internal.emergency, table.proto = none
  outboundEmergency : ∀ table ∈ artifact.outbound.emergency, table.proto = none

section closed

variable {p : Platform} {w : OrgRoutingSnapshot} {compiledAt : JsString}
variable {artifact : RoutingArtifact} {tables : Tables} {s : CompilerState}

variable (h : Produces p w compiledAt artifact tables s)

include h

theorem ne_of_mem_nodes {id : PlanNodeId}
    (hid : id ∈ s.nodes.keys) : id ≠ protoName ∧ id ≠ lit "undefined" := by
  obtain ⟨node, hn⟩ := (Dict.mem_keys_iff _ _).mp hid
  have htag := (h.compiled.sound.placed id node hn).tag_eq
  have hproto : tag protoName ≠ node.body.kind := by
    cases node.body <;> (simp only [PlanBody.kind]; decide)
  have hundefined : tag (lit "undefined") ≠ node.body.kind := by
    cases node.body <;> (simp only [PlanBody.kind]; decide)
  constructor
  · rintro rfl
    exact hproto htag
  · rintro rfl
    exact hundefined htag

theorem keys_readBack :
    s.nodes.keys ⊆ artifact.readBack.nodes.own.keys := by
  intro id hid
  rw [h.artifact_eq]
  exact Record.mem_own_keys_sorted (r := ⟨s.nodes, none⟩) _ (ne_of_mem_nodes h hid).1 hid

theorem closedArtifact_readBack :
    ClosedArtifact artifact.readBack := by
  have hkeys := keys_readBack h
  have hlookup : ∀ {id node}, artifact.readBack.nodes.lookup id = .own node →
      s.nodes.get? id = some node :=
    fun hl => (h.lookup_node _ _).mp (Record.lookup_of_readBack hl)
  refine {
    references := fun id node hl r hr => hkeys (h.compiled.sound.references (hlookup hl) hr)
    normalClearing := hkeys h.compiled.hardCoded.1
    blockTerminals := fun action id hid => hkeys (h.compiled.hardCoded.2 action id hid)
    tables := TablesClosed.readBack (Produces.tables_eq h ▸ h.compiled.tablesClosed) hkeys
    unnamed := ?_
    didDefaults := rfl
    numbers := rfl
    mailboxes := rfl
    internalEmergency := ?_
    outboundEmergency := ?_ }
  · rw [Record.lookup_eq_undefined_iff rfl]
    refine ⟨fun hk => ?_, by decide⟩
    obtain ⟨node, hl⟩ := Record.lookup_of_mem_keys hk
    have hid := (Dict.mem_keys_iff _ _).mpr ⟨node, hlookup hl⟩
    exact (ne_of_mem_nodes h hid).2 rfl
  · intro table ht
    obtain ⟨r, -, rfl⟩ := exists_of_mem_readBack ht
    rfl
  · intro table ht
    obtain ⟨r, -, rfl⟩ := exists_of_mem_readBack ht
    rfl

end closed

/-- The string is an own key of the table it is looked up in. -/
def Reading.IsOwn (artifact : RoutingArtifact) : Reading → Prop
  | .emergency table dialed => ∃ t ∈ table, dialed ∈ t.keys
  | .mailbox box => box ∈ artifact.internal.mailboxes.keys
  | .number dialed => dialed ∈ artifact.internal.numbers.keys
  | .did called => called ∈ artifact.inbound.didDefaults.keys

/-- Each string that is taken for an entry of a table is a key of that table. -/
def ReadsOwn (p : Platform) (artifact : RoutingArtifact) (call : Call) : Prop :=
  ∀ reading, ReadAs p artifact call reading → reading.IsOwn artifact

def Enters (artifact : RoutingArtifact) (entry : Option PlanNodeId) : Prop :=
  ∃ id ∈ entry, id ∈ artifact.nodes.keys

def EntersOwn (p : Platform) (artifact : RoutingArtifact) (call : Call) : Prop :=
  ∀ route, resolve p artifact call = some route → Enters artifact route.plan.entryNodeId

/-- The string is a key of the table, or names nothing that every object has. -/
def OwnOrFree {ν : Type} (table : Record ν) (k : JsString) : Prop :=
  k ∈ table.keys ∨ k ∉ Record.inheritedNames

/-- What the first voicemail prefix leaves of a dial string, among those that
leave the number of a mailbox or the name of something every object has. -/
def mailboxNamed (artifact : RoutingArtifact) (dialed : JsString) : Option JsString :=
  artifact.internal.voicemailPrefixes.findSome? (fun entry =>
    let number := dialed.drop entry.digits.length
    if startsWith dialed entry.digits && 0 < number.length &&
        (number ∈ artifact.internal.mailboxes.keys || number ∈ Record.inheritedNames) then
      some number
    else none)

/-- The strings of the call that reach a table are keys of it, or free. -/
def NamesOwn (p : Platform) (artifact : RoutingArtifact) : Call → Prop
  | .outbound input => ∀ table ∈ artifact.outbound.emergency, OwnOrFree table input.dialed
  | .internal input =>
    (∀ table ∈ artifact.internal.emergency, OwnOrFree table input.dialed) ∧
    ((∀ table ∈ artifact.internal.emergency, input.dialed ∉ table.keys) →
      unblocked p artifact (some input.dialed) .both = true →
      matchFeatureCode artifact.internal.featureCodes input.dialed = none →
      match mailboxNamed artifact input.dialed with
      | some number => number ∈ artifact.internal.mailboxes.keys
      | none => OwnOrFree artifact.internal.numbers input.dialed)
  | .inbound input => unblocked p artifact input.callerNumber .inbound = true →
    (∀ rule ∈ artifact.inbound.rules, PassesCall p artifact input rule) →
    OwnOrFree artifact.inbound.didDefaults input.did

variable {ν : Type}

section lookups

variable {artifact : RoutingArtifact}

theorem ownOrFree_iff {table : Record ν} (hp : table.proto = none) (k : JsString) :
    OwnOrFree table k ↔ table.lookup k ≠ .inherited := by
  rw [Ne, Record.lookup_eq_inherited_iff hp, not_and_or, not_not]
  rfl

theorem isOwn_of_isDefined {table : Record ν} {k : JsString} (hp : table.proto = none)
    (hd : (table.lookup k).isDefined = true) : k ∈ table.keys ↔ table.lookup k ≠ .inherited := by
  rw [← ownOrFree_iff hp]
  constructor
  · exact .inl
  · intro h
    by_contra hk
    rw [Record.lookup_of_not_mem_keys hp hk, if_neg (h.resolve_left hk)] at hd
    cases hd

variable {table : Option (Record EmergencyRule)} {dialed : JsString}

section

variable (hp : ∀ t ∈ table, t.proto = none)

include hp

theorem emergency_ownOrFree :
    (∀ t ∈ table, OwnOrFree t dialed) ↔ emergencyLookup table dialed ≠ .inherited := by
  cases table with
  | none => simp [emergencyLookup]
  | some t =>
    simp only [Option.mem_some_iff, forall_eq']
    exact ownOrFree_iff (hp t rfl) dialed

theorem emergency_isOwn
    (hd : (emergencyLookup table dialed).isDefined = true) :
    (∃ t ∈ table, dialed ∈ t.keys) ↔ emergencyLookup table dialed ≠ .inherited := by
  cases table with
  | none => cases hd
  | some t =>
    simp only [Option.mem_some_iff, exists_eq_left']
    exact isOwn_of_isDefined (hp t rfl) hd

theorem emergency_undefined
    (h : emergencyLookup table dialed ≠ .inherited) :
    emergencyLookup table dialed = .undefined ↔ ∀ t ∈ table, dialed ∉ t.keys := by
  cases table with
  | none => simp [emergencyLookup]
  | some t =>
    have hfree := (ownOrFree_iff (hp t rfl) dialed).mpr h
    have hiff := Record.lookup_eq_undefined_iff (k := dialed) (hp t rfl)
    simp only [Option.mem_some_iff, forall_eq']
    exact hiff.trans ⟨fun h => h.1, fun hk => ⟨hk, hfree.resolve_left hk⟩⟩

end

theorem mailboxNamed_eq (hp : artifact.internal.mailboxes.proto = none) (dialed : JsString) :
    mailboxNamed artifact dialed = (voicemailEntry artifact dialed).map
      (fun entry => dialed.drop entry.1.digits.length) := by
  rw [mailboxNamed, voicemailEntry, List.map_findSome?]
  congr 1
  funext entry
  simp only [Function.comp_apply]
  have hdefined : (artifact.internal.mailboxes.lookup
      (dialed.drop entry.digits.length)).isDefined =
      (decide (dialed.drop entry.digits.length ∈ artifact.internal.mailboxes.keys) ||
        decide (dialed.drop entry.digits.length ∈ Record.inheritedNames)) := by
    generalize dialed.drop entry.digits.length = number
    by_cases hk : number ∈ artifact.internal.mailboxes.keys
    · obtain ⟨v, hv⟩ := Record.lookup_of_mem_keys hk
      simp [hv, hk]
    · rw [Record.lookup_of_not_mem_keys hp hk]
      by_cases hin : number ∈ Record.inheritedNames <;> simp [hk, hin]
  rw [hdefined]
  split <;> rfl

end lookups

section misread

variable {p : Platform} {artifact : RoutingArtifact}

def Misrouted (p : Platform) (artifact : RoutingArtifact) (call : Call) : Prop :=
  ∃ route, resolve p artifact call = some route ∧ route.plan.entryNodeId = none

theorem misread_outbound {input : ResolveOutboundInput}
    (h : emergencyLookup artifact.outbound.emergency input.dialed = .inherited) :
    Misrouted p artifact (.outbound input) := by
  simp only [Misrouted, resolve, resolveOutbound, h, Lookup.isDefined_inherited, if_true]
  exact ⟨_, rfl, rfl⟩

variable {input : ResolveInternalInput}

theorem misread_emergency
    (h : emergencyLookup artifact.internal.emergency input.dialed = .inherited) :
    Misrouted p artifact (.internal input) := by
  simp only [Misrouted, resolve, resolveInternal, h, Lookup.isDefined_inherited, if_true]
  exact ⟨_, rfl, rfl⟩

theorem followGates_none (hc : ClosedArtifact artifact) (now : Int) :
    followGates p artifact none now = some (none, []) := by
  have hnode : nodeAt artifact none = .undefined := hc.unnamed
  rw [followGates, maxGateDepth, followGatesFrom, hnode]

section internal

variable (hemergency : emergencyLookup artifact.internal.emergency input.dialed = .undefined)
variable (hblock : unblocked p artifact (some input.dialed) .both = true)

include hemergency hblock

theorem resolveInternal_eq_walk :
    ∃ ds, resolveInternal p artifact input = internalWalk p artifact input ds := by
  simp only [resolveInternal, hemergency, Lookup.isDefined_undefined, Bool.false_eq_true, if_false]
  cases hscreen : screeningRule p artifact (some input.dialed) .both with
  | none => exact ⟨[], rfl⟩
  | some rule =>
    rw [unblocked, hscreen, Option.all_some, Option.isNone_iff_eq_none] at hblock
    simp only [hblock]
    exact ⟨_, rfl⟩

theorem misread_mailbox {entry : VoicemailPrefixEntry}
    (hfeature : matchFeatureCode artifact.internal.featureCodes input.dialed = none)
    (hentry : voicemailEntry artifact input.dialed = some (entry, .inherited)) :
    Misrouted p artifact (.internal input) := by
  obtain ⟨ds, hwalk⟩ := resolveInternal_eq_walk hemergency hblock
  simp only [Misrouted, resolve, hwalk, internalWalk, hfeature, hentry]
  exact ⟨_, rfl, rfl⟩

theorem misread_number (hc : ClosedArtifact artifact)
    (hfeature : matchFeatureCode artifact.internal.featureCodes input.dialed = none)
    (hentry : voicemailEntry artifact input.dialed = none)
    (hnumber : artifact.internal.numbers.lookup input.dialed = .inherited) :
    Misrouted p artifact (.internal input) := by
  obtain ⟨ds, hwalk⟩ := resolveInternal_eq_walk hemergency hblock
  simp only [Misrouted, resolve, hwalk, internalWalk, hfeature, hentry, numberRoute, hnumber,
    Lookup.isDefined_inherited, if_true, Lookup.field, followGates_none hc, Option.bind_eq_bind,
    Option.bind_some]
  exact ⟨_, rfl, rfl⟩

end internal

theorem misread_did (hc : ClosedArtifact artifact) {input : ResolveInboundInput}
    (hblock : unblocked p artifact input.callerNumber .inbound = true)
    (hpassed : ∀ rule ∈ artifact.inbound.rules, PassesCall p artifact input rule)
    (hdid : artifact.inbound.didDefaults.lookup input.did = .inherited) :
    Misrouted p artifact (.inbound input) := by
  obtain ⟨blocked, ds, hwalk⟩ := resolveInbound_eq_walk hblock
  obtain ⟨ds', hpass⟩ := inboundWalk_passed blocked hpassed [] ds
  rw [List.append_nil] at hpass
  simp only [Misrouted, resolve, hwalk, hpass, inboundWalk, inboundDefault, hdid,
    Lookup.isDefined_inherited, if_true, Lookup.field, followGates_none hc, Option.bind_eq_bind, Option.bind_some]
  exact ⟨_, rfl, rfl⟩

end misread

section enters

variable {p : Platform} {artifact : RoutingArtifact} {call : Call}

theorem followGates_enters (hc : ClosedArtifact artifact) {now : Int} {id : PlanNodeId}
    {entry : Option PlanNodeId} {walked : List Diagnostic} (hid : id ∈ artifact.nodes.keys)
    (hf : followGates p artifact (some id) now = some (entry, walked)) : Enters artifact entry := by
  apply followGatesFrom_keeps (P := Enters artifact) _ _ hf ⟨id, rfl, hid⟩
  · exact ⟨_, rfl, hc.normalClearing⟩
  · intro _ _ _ next hn _ hnext
    exact ⟨next, rfl, hc.references _ _ hn next hnext⟩

theorem enters_field {table : Record ν} {k : JsString} {f : ν → PlanNodeId}
    (hk : k ∈ table.keys)
    (h : ∀ v, table.lookup k = .own v → f v ∈ artifact.nodes.keys) :
    ∃ id ∈ artifact.nodes.keys, (table.lookup k).field (fun v => some (f v)) = some id := by
  obtain ⟨v, hv⟩ := Record.lookup_of_mem_keys hk
  exact ⟨f v, h v hv, by rw [hv]; rfl⟩

variable (hc : ClosedArtifact artifact)

include hc

theorem enters_of_readsOwn (hown : ReadsOwn p artifact call)
    {entry : Option PlanNodeId} (he : EntersAt p artifact call entry) : Enters artifact entry := by
  have ht := hc.tables
  cases he with
  | blocked hterminal => exact ⟨_, rfl, hc.blockTerminals _ _ hterminal⟩
  | @emergency _ table dialed hread =>
    have hrule : ∀ t ∈ table, ∀ rule, t.lookup dialed = .own rule →
        rule.destinationNodeId ∈ artifact.nodes.keys := by
      cases hread with
      | outboundEmergency => exact fun t hm => ht.outboundEmergency t hm _
      | internalEmergency => exact fun t hm => ht.internalEmergency t hm _
    obtain ⟨t, hm, hk⟩ := hown _ hread
    obtain ⟨id, hid, hfield⟩ := enters_field hk (hrule t hm)
    rw [Option.mem_def] at hm
    subst hm
    exact ⟨id, hfield, hid⟩
  | inboundRule hrule hstart hwalk =>
    have hp := ht.inboundRules _ hrule
    refine followGates_enters hc ?_ hwalk
    obtain rfl | ⟨gate, hg, hclosed⟩ := hstart
    · exact hp.1
    · exact hp.2.2 gate hg _ hclosed
  | did hread hwalk =>
    obtain ⟨id, hid, hfield⟩ := enters_field (hown _ hread) (ht.didDefaults _)
    rw [hfield] at hwalk
    exact followGates_enters hc hid hwalk
  | inboundNoMatch => exact ⟨_, rfl, ht.inboundNoMatch⟩
  | featureCode hcode => exact ⟨_, rfl, ht.featureCodes _ hcode⟩
  | @mailbox _ _ mode hread =>
    obtain ⟨id, hid, hfield⟩ := enters_field (hown _ hread) (f := mailboxNodeId mode)
      (fun entry hl => by
        have hm := ht.mailboxes _ entry hl
        cases mode with
        | check => exact hm.2
        | leave => exact hm.1)
    exact ⟨id, hfield, hid⟩
  | number hread hwalk =>
    obtain ⟨id, hid, hfield⟩ := enters_field (hown _ hread) (ht.numbers _)
    rw [hfield] at hwalk
    exact followGates_enters hc hid hwalk
  | parkSlot hrange => exact ⟨_, rfl, ht.parkSlots _ hrange⟩
  | internalNoMatch => exact ⟨_, rfl, ht.internalNoMatch⟩
  | outboundRule _ _ hrule _ => exact ⟨_, rfl, (ht.outboundRules _ hrule).1⟩
  | outboundClosed hrule hgate hstart hwalk =>
    exact followGates_enters hc ((ht.outboundRules _ hrule).2 _ hgate _ hstart) hwalk
  | outboundNoMatch => exact ⟨_, rfl, ht.outboundNoMatch⟩
  | denied => exact ⟨_, rfl, ht.outboundDenied⟩

theorem readsOwn_of_namesOwn (hn : NamesOwn p artifact call) :
    ReadsOwn p artifact call := by
  intro reading hread
  cases hread with
  | outboundEmergency h =>
    exact (emergency_isOwn hc.outboundEmergency h).mpr
      ((emergency_ownOrFree hc.outboundEmergency).mp hn)
  | internalEmergency h =>
    exact (emergency_isOwn hc.internalEmergency h).mpr
      ((emergency_ownOrFree hc.internalEmergency).mp hn.1)
  | mailbox hemergency hblock hfeature hentry =>
    have hfree := (emergency_ownOrFree hc.internalEmergency).mp hn.1
    have hbox := hn.2 ((emergency_undefined hc.internalEmergency hfree).mp hemergency) hblock
      hfeature
    rw [mailboxNamed_eq hc.mailboxes, hentry] at hbox
    exact hbox
  | number hemergency hblock hfeature hentry hnumber =>
    have hfree := (emergency_ownOrFree hc.internalEmergency).mp hn.1
    have hown := hn.2 ((emergency_undefined hc.internalEmergency hfree).mp hemergency) hblock
      hfeature
    rw [mailboxNamed_eq hc.mailboxes, hentry] at hown
    exact (isOwn_of_isDefined hc.numbers hnumber).mpr ((ownOrFree_iff hc.numbers _).mp hown)
  | did hblock hpassed hdid =>
    exact (isOwn_of_isDefined hc.didDefaults hdid).mpr
      ((ownOrFree_iff hc.didDefaults _).mp (hn hblock hpassed))

theorem namesOwn_of_entersOwn (he : EntersOwn p artifact call) :
    NamesOwn p artifact call := by
  have absurdEntry : ¬Misrouted p artifact call := by
    rintro ⟨route, hr, hnone⟩
    obtain ⟨id, hid, -⟩ := he route hr
    rw [hnone] at hid
    cases hid
  cases call with
  | outbound input =>
    exact (emergency_ownOrFree hc.outboundEmergency).mpr (fun h => absurdEntry (misread_outbound h))
  | internal input =>
    have hfree : emergencyLookup artifact.internal.emergency input.dialed ≠ .inherited :=
      fun h => absurdEntry (misread_emergency h)
    refine ⟨(emergency_ownOrFree hc.internalEmergency).mpr hfree, fun hkeys hblock hfeature => ?_⟩
    have hundefined := (emergency_undefined hc.internalEmergency hfree).mpr hkeys
    rw [mailboxNamed_eq hc.mailboxes]
    cases hentry : voicemailEntry artifact input.dialed with
    | none =>
      refine (ownOrFree_iff hc.numbers _).mpr (fun h => ?_)
      exact absurdEntry (misread_number hundefined hblock hc hfeature hentry h)
    | some found =>
      obtain ⟨entry, found⟩ := found
      obtain ⟨rfl, hdefined⟩ := voicemailEntry_eq_some hentry
      refine (isOwn_of_isDefined hc.mailboxes hdefined).mpr (fun h => ?_)
      rw [h] at hentry
      exact absurdEntry (misread_mailbox hundefined hblock hfeature hentry)
  | inbound input =>
    intro hblock hpassed
    exact (ownOrFree_iff hc.didDefaults _).mpr (fun h =>
      absurdEntry (misread_did hc hblock hpassed h))

end enters

/-- The conditions of the snapshot are still in the table once it was read back,
except for one that took the place of the prototype. -/
theorem gatesNamed_readBack {p : Platform} {w : OrgRoutingSnapshot} {compiledAt : JsString}
    {artifact : RoutingArtifact} {tables : Tables} {s : CompilerState}
    (h : Produces p w compiledAt artifact tables s)
    (hne : ∀ condition ∈ w.timeConditions, condition.id ≠ protoName) :
    GatesNamed artifact.readBack := by
  have hnamed := Produces.named h
    (P := fun id => ∃ compiled, artifact.timeConditions.readBack.lookup id = .own compiled)
    (fun condition hc => by
      obtain ⟨compiled, hl⟩ := lookup_timeCondition h hc
      exact ⟨compiled, Record.lookup_readBack (hne condition hc) hl⟩)
  exact ⟨fun id node q hn => hnamed.1 id node q (Record.lookup_of_readBack hn), hnamed.2.1,
    hnamed.2.2⟩

end OptimiqVoice.Routing

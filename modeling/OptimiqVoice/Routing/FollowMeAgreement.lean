import OptimiqVoice.Routing.EmergencyBypass
import OptimiqVoice.Routing.TollBoundary

namespace OptimiqVoice.Routing

open Lib Compile

/-- The trunk dial that a plan enters, with the number to dial there. -/
def dialsTrunk (route : ResolvedRoute) : Option (PlanNodeId × Option JsString) :=
  route.plan.entryNodeId.bind (fun id => match route.plan.nodes.lookup id with
    | .own ⟨_, .trunkDial _⟩ => some (id, route.dialedNumber)
    | _ => none)

/-- What one hop of an extension's ladder dials, as the artifact has it. -/
def compiledHop (artifact : RoutingArtifact) (e : ExtensionInput) (ordinal : Nat) :
    Option (PlanNodeId × Option JsString) := do
  let plan ← (artifact.nodes.lookup (extensionId e)).field (fun node => ladder node.body)
  let hop ← plan.destinations.find? (fun hop => hop.ordinal = ordinal)
  let id ← hop.targetNodeId
  pure (id, hop.dialedNumber)

section hops

variable (p : Platform) (w : OrgRoutingSnapshot) (outbound : OutboundMatchTable)
variable (callBlock : List CompiledCallBlockRule) (e : ExtensionInput)
variable {config : FollowMeInput} {entry : FollowMeTargetInput × Nat}

variable {p w outbound callBlock e} in
theorem ordinal_of_hopOf {hop : FollowMeDestination}
    (h : hopOf p w outbound callBlock e entry = some hop) : hop.ordinal = entry.2 := by
  unfold hopOf at h
  simp only at h
  split at h
  · cases h
  · rw [Option.some.injEq] at h
    rw [← h]

theorem find_hopsOf (hm : entry ∈ (config.targets.toOption.getD []).zipIdx) :
    (hopsOf p w outbound callBlock e config).find? (fun hop => hop.ordinal = entry.2) =
      hopOf p w outbound callBlock e entry := by
  have same : ∀ entry' ∈ (config.targets.toOption.getD []).zipIdx, entry'.2 = entry.2 →
      entry' = entry := by
    intro entry' hm' he
    have h := List.mem_zipIdx_iff_getElem?.mp hm
    have h' := List.mem_zipIdx_iff_getElem?.mp hm'
    rw [he, h, Option.some.injEq] at h'
    exact Prod.ext h'.symm he
  cases hhop : hopOf p w outbound callBlock e entry with
  | none =>
    rw [List.find?_eq_none]
    intro hop hmem hord
    obtain ⟨entry', hm', hentry'⟩ := List.mem_filterMap.mp hmem
    have hord' := ordinal_of_hopOf hentry'
    rw [same entry' hm' (hord'.symm.trans (of_decide_eq_true hord)), hhop] at hentry'
    cases hentry'
  | some hop =>
    have hmem : hop ∈ hopsOf p w outbound callBlock e config := List.mem_filterMap.mpr ⟨entry, hm, hhop⟩
    cases hfind : (hopsOf p w outbound callBlock e config).find? (fun hop => hop.ordinal = entry.2)
      with
    | none =>
      exact absurd (decide_eq_true (ordinal_of_hopOf hhop)) (List.find?_eq_none.mp hfind hop hmem)
    | some found =>
      obtain ⟨entry', hm', hentry'⟩ := List.mem_filterMap.mp (List.mem_of_find?_eq_some hfind)
      have hord : found.ordinal = entry.2 := by simpa using List.find?_some hfind
      rw [same entry' hm' ((ordinal_of_hopOf hentry').symm.trans hord), hhop] at hentry'
      exact hentry'.symm

end hops

section agreement

variable {p : Platform} {w : OrgRoutingSnapshot} {compiledAt : JsString}
variable {artifact : RoutingArtifact} {tables : Tables} {s : CompilerState}
variable {e : ExtensionInput} {d : JsString}

theorem hopAim_external {outbound : OutboundMatchTable} {callBlock : List CompiledCallBlockRule}
    {tollClass : TollClass} (hd : ∀ x ∈ w.extensions, x.enabled = true → x.number ≠ d) :
    hopAim p w outbound callBlock tollClass d =
      ((hopTarget p outbound callBlock tollClass d).map (·.1),
        (hopTarget p outbound callBlock tollClass d).map (·.2)) := by
  have hnone : (index w).extensionsByNumber.get? d = none := by
    cases hget : (index w).extensionsByNumber.get? d with
    | none => rfl
    | some x =>
      have hx := enabled_of_byNumber (Dict.mem_values_of_get? hget)
      exact absurd (Dict.key_of_get?_indexBy _ hget) (hd x hx.1 hx.2)
  rw [hopAim, hnone]

theorem compiledHop_eq (h : Produces p w compiledAt artifact tables s)
    (hext : (w.extensions.map (·.id)).Nodup) (he : e ∈ w.extensions) {config : FollowMeInput}
    (hconfig : followMeOf e = some config) {target : FollowMeTargetInput} {i : Nat}
    (hm : (target, i) ∈ (config.targets.toOption.getD []).zipIdx)
    (hd : trim (target.destination.toOption.getD []) = d) (hne : d ≠ [])
    (hexternal : ∀ x ∈ w.extensions, x.enabled = true → x.number ≠ d) : compiledHop artifact e i =
      (hopTarget p artifact.outbound artifact.callBlock e.tollClass d).map
        (fun aim => (aim.1, some aim.2)) := by
  have hen : e.enabled = true := by
    by_contra hdis
    rw [followMeOf, if_neg hdis] at hconfig
    cases hconfig
  have htables : artifact.outbound = tables.outbound ∧ artifact.callBlock = tables.callBlock := by
    rw [h.artifact_eq]
    exact ⟨rfl, rfl⟩
  rw [htables.1, htables.2]
  obtain ⟨plan, hn⟩ := h.compiled.ladders hext e he hen
  have hnode := (h.lookup_node _ _).mpr hn
  have hlen : (trim (target.destination.toOption.getD [])).length ≠ 0 := by
    rw [hd]
    exact fun hz => hne (List.length_eq_zero_iff.mp hz)
  have hhop := find_hopsOf p w tables.outbound tables.callBlock e hm
  rw [hopOf, if_neg hlen, hd, hopAim_external hexternal] at hhop
  simp only [compiledHop, hnode, Lookup.field, ladder, withLadder, ladderOf_eq hconfig]
  split
  · -- The ladder is there, and the hop is found under its ordinal.
    simp only [Option.bind_eq_bind, Option.bind_some, followMePlan, hhop]
    cases hopTarget p tables.outbound tables.callBlock e.tollClass d <;> rfl
  · -- Without a ladder no hop has a target, this one included.
    next hnone =>
    have hmem := List.mem_of_find?_eq_some hhop
    rw [Bool.not_eq_true, List.any_eq_false] at hnone
    have htarget := hnone _ hmem
    cases haim : hopTarget p tables.outbound tables.callBlock e.tollClass d with
    | none => rfl
    | some aim => simp [haim] at htarget

theorem dialsTrunk_of_plain (h : Produces p w compiledAt artifact tables s) {route : ResolvedRoute}
    (hnodes : route.plan.nodes = artifact.nodes) (hplain : Plain route.plan.entryNodeId) :
    dialsTrunk route = none := by
  unfold dialsTrunk
  cases hentry : route.plan.entryNodeId with
  | none => rfl
  | some id =>
    rw [Option.bind_some, hnodes]
    split
    · next nodeId plan hn =>
      exact absurd (h.placed hn).tag_eq (hplain id (by rw [hentry]; rfl))
    · rfl

theorem eq_trunkDial_of_kind {body : PlanBody} (h : body.kind = trunkDialTag) :
    ∃ plan, body = .trunkDial plan := by
  cases body with
  | trunkDial plan => exact ⟨plan, rfl⟩
  | _ =>
    simp only [PlanBody.kind] at h
    exact absurd h (by decide)

theorem dialsTrunk_takenOutbound (h : Produces p w compiledAt artifact tables s)
    {caller : Lookup ExtensionIndexEntry} {rule : OutboundRule}
    (hrule : rule ∈ artifact.outbound.rules) (captures : List JsString) (dialedNumber : JsString)
    (diagnostics : List Diagnostic) :
    dialsTrunk (takenOutbound artifact caller rule captures dialedNumber diagnostics) =
      some (rule.destinationNodeId, some dialedNumber) := by
  rw [h.artifact_eq] at hrule
  have hpoints := h.compiled.points.outbound.rules rule hrule
  obtain ⟨route, -, hid, -⟩ := hpoints.route
  obtain ⟨⟨nodeId, body⟩, hn⟩ := (Dict.mem_keys_iff _ _).mp
    (h.compiled.sound.closed _ hpoints.claimed)
  have htag := (h.compiled.sound.placed _ _ hn).tag_eq
  rw [hid] at htag
  obtain ⟨plan, rfl⟩ := eq_trunkDial_of_kind (htag.symm.trans rfl)
  have hlookup := (h.lookup_node _ _).mpr hn
  simp only [dialsTrunk, takenOutbound, planFrom, Option.bind_some, hlookup]

theorem isSome_matchOutboundRule (rule : OutboundRule) (d : JsString) :
    (matchOutboundRule p rule d).isSome =
      rule.patterns.any (fun pattern => (matchPattern p pattern d).isSome) := by
  rw [matchOutboundRule, Bool.eq_iff_iff, List.findSome?_isSome_iff, List.any_eq_true]

theorem outboundWalk_dials (h : Produces p w compiledAt artifact tables s)
    (input : ResolveOutboundInput) (caller : Lookup ExtensionIndexEntry) (tollClass : TollClass)
    (rules : List OutboundRule) (hrules : rules ⊆ artifact.outbound.rules)
    (hopen : ∀ rule ∈ rules, (matchOutboundRule p rule input.dialed).isSome →
      ∃ reported, gateOutcome p artifact rule.timeGate input.now = some (.isOpen, reported))
    (refused denied : Bool) (diagnostics : List Diagnostic) :
    ∃ route, outboundWalk p artifact input caller tollClass rules denied diagnostics = some route ∧
      dialsTrunk route = (followMeRule p tollClass input.dialed refused rules).2.map
        (fun aim => (aim.1, some aim.2)) := by
  induction rules generalizing refused denied diagnostics with
  | nil =>
    have hout := h.compiled.points.outbound
    refine ⟨_, rfl, dialsTrunk_of_plain h ?_ ?_⟩
    · unfold outboundEnd
      split <;> rfl
    · unfold outboundEnd
      rw [h.artifact_eq]
      split
      · exact plain_some hout.denied.2
      · exact plain_some hout.noMatch.2
  | cons rule rest ih =>
    have hrest := fun refused denied diagnostics =>
      ih (fun x hx => hrules (.tail _ hx))
        (fun x hx => hopen x (.tail _ hx)) refused denied diagnostics
    have hmatch := isSome_matchOutboundRule (p := p) rule input.dialed
    have hgate := hopen rule (.head _)
    rw [outboundWalk, followMeRule]
    cases hcaptures : matchOutboundRule p rule input.dialed with
    | none =>
      rw [hcaptures, Option.isSome_none] at hmatch
      rw [if_pos (by rw [← hmatch]; rfl)]
      exact hrest refused denied diagnostics
    | some captures =>
      rw [hcaptures, Option.isSome_some] at hmatch
      rw [if_neg (by rw [← hmatch]; decide)]
      by_cases hclass : (!tollClassCovers tollClass rule.tollClass) = true
      · rw [if_pos hclass]
        simp only [if_pos hclass]
        exact hrest true true _
      rw [if_neg hclass]
      simp only [if_neg hclass]
      obtain ⟨reported, hreported⟩ := hgate (by rw [hcaptures]; rfl)
      rw [hreported]
      simp only [Option.bind_eq_bind, Option.bind_some]
      cases hdigits : applyDigitManipulation ⟨rule.stripDigits, rule.prependDigits⟩ input.dialed with
      | none => exact hrest refused denied _
      | some dialedNumber =>
        exact ⟨_, rfl, dialsTrunk_takenOutbound h (hrules (.head _)) _ _ _⟩

theorem resolveOutbound_dials (h : Produces p w compiledAt artifact tables s)
    (hproto : ∀ x ∈ w.extensions, x.number ≠ protoName) (he : e ∈ w.extensions)
    (hen : e.enabled = true) (now : Int) (override : Option TollClass)
    (hemergency : emergencyLookup artifact.outbound.emergency d = .undefined)
    (hblock : ∀ rule, checkCallBlock p artifact.callBlock (some d) .outbound = some rule →
      rule.action ≠ .voicemail)
    (hopen : ∀ rule ∈ artifact.outbound.rules, (matchOutboundRule p rule d).isSome →
      ∃ reported, gateOutcome p artifact rule.timeGate now = some (.isOpen, reported)) :
    ∃ route, resolveOutbound p artifact ⟨e.number, d, now, override⟩ = some route ∧
      dialsTrunk route = (hopTarget p artifact.outbound artifact.callBlock e.tollClass d).map
        (fun aim => (aim.1, some aim.2)) := by
  have hclass : effectiveTollClass artifact ⟨e.number, d, now, override⟩ = some e.tollClass := by
    rw [h.effectiveTollClass_eq hproto, callerClass, find_eq_of_distinct h.distinctNumbers he hen]
    rfl
  have hout := h.compiled.points.outbound
  simp only [resolveOutbound, hemergency, Lookup.isDefined_undefined, Bool.false_eq_true, if_false,
    hopTarget]
  by_cases hon : (!artifact.outbound.enabled) = true
  · simp only [if_pos hon]
    refine ⟨_, rfl, dialsTrunk_of_plain h rfl ?_⟩
    rw [h.artifact_eq]
    exact plain_some hout.denied.2
  simp only [if_neg hon, hclass, screeningRule]
  cases hscreen : (checkCallBlock p artifact.callBlock (some d) .outbound).filter
      (fun rule => rule.action ≠ .allow) with
  | none =>
    rw [Option.isSome_none, if_neg Bool.false_ne_true]
    exact outboundWalk_dials h ⟨e.number, d, now, override⟩ _ e.tollClass _ (.refl _)
      hopen false false []
  | some rule =>
    obtain ⟨hrule, hallow⟩ := Option.filter_eq_some_iff.mp hscreen
    rw [Option.isSome_some, if_pos rfl]
    cases hterminal : blockTerminalNodeId rule.action with
    | none =>
      have hvoicemail := hblock rule hrule
      cases haction : rule.action <;> simp_all [blockTerminalNodeId]
    | some terminal =>
      simp only [hterminal, Option.map_none]
      exact ⟨_, rfl, dialsTrunk_of_plain h rfl (plain_some (blockTerminal_plain hterminal))⟩

end agreement

variable (destination : JsString)

def hopTo : FollowMeTargetInput := ⟨.val destination, none, none, none⟩

def roamingExtension : ExtensionInput :=
  sampleExtension (lit "e1") (lit "101") (.val ⟨true, none, .val [hopTo destination]⟩)

def roamingOrg (pattern : JsString) : OrgRoutingSnapshot :=
  { sampleOrg with
    extensions := [roamingExtension destination]
    outboundRoutes := [sampleRoute (lit "r1") pattern (lit "t1")] }

/-- Nothing but the rules of the outbound table decides about a number. -/
def undisturbed (artifact : RoutingArtifact) (d : JsString) : Bool :=
  (match emergencyLookup artifact.outbound.emergency d with
    | .own _ => false
    | _ => true) &&
  artifact.callBlock.isEmpty && artifact.outbound.rules.all (fun rule => rule.timeGate.isNone)

theorem undisturbed_spec {p : Platform} {artifact : RoutingArtifact} {d : JsString}
    (h : undisturbed artifact d = true) :
    (∀ rule, emergencyLookup artifact.outbound.emergency d ≠ .own rule) ∧
    (∀ rule, checkCallBlock p artifact.callBlock (some d) .outbound = some rule →
      rule.action ≠ .voicemail) ∧
    (∀ now, ∀ rule ∈ artifact.outbound.rules, (matchOutboundRule p rule d).isSome →
      ∃ reported, gateOutcome p artifact rule.timeGate now = some (.isOpen, reported)) := by
  simp only [undisturbed, Bool.and_eq_true, List.isEmpty_iff, List.all_eq_true,
    Option.isNone_iff_eq_none] at h
  obtain ⟨⟨hlookup, hblock⟩, hgates⟩ := h
  refine ⟨?_, ?_, ?_⟩
  · intro rule hrule
    rw [hrule] at hlookup
    cases hlookup
  · intro rule hrule
    rw [hblock, checkCallBlock] at hrule
    split at hrule <;> cases hrule
  · intro now rule hrule _
    rw [hgates rule hrule]
    exact ⟨[], rfl⟩

end OptimiqVoice.Routing

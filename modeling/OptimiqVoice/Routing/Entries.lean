import OptimiqVoice.Routing.Gates

namespace OptimiqVoice.Routing

open Lib Compile

/-- A call as it reaches the resolvers, in one of the three contexts. -/
inductive Call where
  | inbound (input : ResolveInboundInput)
  | internal (input : ResolveInternalInput)
  | outbound (input : ResolveOutboundInput)

def resolve (p : Platform) (artifact : RoutingArtifact) : Call → Option ResolvedRoute
  | .inbound input => resolveInbound p artifact input
  | .internal input => resolveInternal p artifact input
  | .outbound input => resolveOutbound p artifact input

/-- The reasons for which the walk passes over a rule. -/
inductive PassesCall (p : Platform) (artifact : RoutingArtifact) (input : ResolveInboundInput)
    (rule : InboundRule) : Prop where
  | unmatched (hm : matchInboundRule p rule input = none)
  | shut {captures : List JsString} {reported : List Diagnostic}
      (hm : matchInboundRule p rule input = some captures)
      (hg : gateOutcome p artifact rule.timeGate input.now = some (.isClosed none, reported))

inductive Reading where
  | emergency (table : Option (Record EmergencyRule)) (dialed : JsString)
  | mailbox (number : JsString)
  | number (dialed : JsString)
  | did (did : JsString)

/-- How the resolvers read the strings of a call: each under the tests that the
code makes before it. -/
inductive ReadAs (p : Platform) (artifact : RoutingArtifact) : Call → Reading → Prop where
  | outboundEmergency {input : ResolveOutboundInput}
      (h : (emergencyLookup artifact.outbound.emergency input.dialed).isDefined = true) :
      ReadAs p artifact (.outbound input) (.emergency artifact.outbound.emergency input.dialed)
  | internalEmergency {input : ResolveInternalInput}
      (h : (emergencyLookup artifact.internal.emergency input.dialed).isDefined = true) :
      ReadAs p artifact (.internal input) (.emergency artifact.internal.emergency input.dialed)
  | mailbox {input : ResolveInternalInput} {entry : VoicemailPrefixEntry}
      {found : Lookup MailboxEntry}
      (hemergency : emergencyLookup artifact.internal.emergency input.dialed = .undefined)
      (hblock : unblocked p artifact (some input.dialed) .both = true)
      (hfeature : matchFeatureCode artifact.internal.featureCodes input.dialed = none)
      (hentry : voicemailEntry artifact input.dialed = some (entry, found)) :
      ReadAs p artifact (.internal input) (.mailbox (input.dialed.drop entry.digits.length))
  | number {input : ResolveInternalInput}
      (hemergency : emergencyLookup artifact.internal.emergency input.dialed = .undefined)
      (hblock : unblocked p artifact (some input.dialed) .both = true)
      (hfeature : matchFeatureCode artifact.internal.featureCodes input.dialed = none)
      (hentry : voicemailEntry artifact input.dialed = none)
      (hnumber : (artifact.internal.numbers.lookup input.dialed).isDefined = true) :
      ReadAs p artifact (.internal input) (.number input.dialed)
  | did {input : ResolveInboundInput}
      (hblock : unblocked p artifact input.callerNumber .inbound = true)
      (hpassed : ∀ rule ∈ artifact.inbound.rules, PassesCall p artifact input rule)
      (hdid : (artifact.inbound.didDefaults.lookup input.did).isDefined = true) :
      ReadAs p artifact (.inbound input) (.did input.did)

/-- Every way in which a call comes to the node where its plan starts. -/
inductive EntersAt (p : Platform) (artifact : RoutingArtifact) : Call → Option PlanNodeId → Prop where
  | blocked {call : Call} {action : CallBlockAction} {id : PlanNodeId}
      (h : blockTerminalNodeId action = some id) : EntersAt p artifact call (some id)
  | emergency {call : Call} {table : Option (Record EmergencyRule)} {dialed : JsString}
      (hread : ReadAs p artifact call (.emergency table dialed)) : EntersAt p artifact call
        ((emergencyLookup table dialed).field (fun r => some r.destinationNodeId))
  | inboundRule {input : ResolveInboundInput} {rule : InboundRule} {start : PlanNodeId}
      {entry : Option PlanNodeId} {walked : List Diagnostic} (hrule : rule ∈ artifact.inbound.rules)
      (hstart : start = rule.destinationNodeId ∨
        ∃ gate ∈ rule.timeGate, gate.closedNodeId = some start)
      (hwalk : followGates p artifact (some start) input.now = some (entry, walked)) :
      EntersAt p artifact (.inbound input) entry
  | did {input : ResolveInboundInput} {entry : Option PlanNodeId} {walked : List Diagnostic}
      (hread : ReadAs p artifact (.inbound input) (.did input.did))
      (hwalk : followGates p artifact ((artifact.inbound.didDefaults.lookup input.did).field
        (fun d => some d.destinationNodeId)) input.now = some (entry, walked)) :
      EntersAt p artifact (.inbound input) entry
  | inboundNoMatch {input : ResolveInboundInput} :
      EntersAt p artifact (.inbound input) (some artifact.inbound.noMatchNodeId)
  | featureCode {input : ResolveInternalInput} {code : CompiledFeatureCode}
      (hcode : code ∈ artifact.internal.featureCodes) :
      EntersAt p artifact (.internal input) (some code.nodeId)
  | mailbox {input : ResolveInternalInput} {box : JsString} {mode : VoicemailMode}
      (hread : ReadAs p artifact (.internal input) (.mailbox box)) :
      EntersAt p artifact (.internal input) ((artifact.internal.mailboxes.lookup box).field
        (fun m => some (mailboxNodeId mode m)))
  | number {input : ResolveInternalInput} {entry : Option PlanNodeId} {walked : List Diagnostic}
      (hread : ReadAs p artifact (.internal input) (.number input.dialed))
      (hwalk : followGates p artifact ((artifact.internal.numbers.lookup input.dialed).field
        (fun e => some e.nodeId)) input.now = some (entry, walked)) :
      EntersAt p artifact (.internal input) entry
  | parkSlot {input : ResolveInternalInput} {range : ParkSlotRange}
      (hrange : range ∈ artifact.internal.parkSlots) :
      EntersAt p artifact (.internal input) (some range.nodeId)
  | internalNoMatch {input : ResolveInternalInput} :
      EntersAt p artifact (.internal input) (some artifact.internal.noMatchNodeId)
  | outboundRule {input : ResolveOutboundInput} {rule : OutboundRule} {tollClass : TollClass}
      (henabled : artifact.outbound.enabled = true)
      (hclass : effectiveTollClass artifact input = some tollClass)
      (hrule : rule ∈ artifact.outbound.rules)
      (hcovers : tollClassCovers tollClass rule.tollClass = true) :
      EntersAt p artifact (.outbound input) (some rule.destinationNodeId)
  | outboundClosed {input : ResolveOutboundInput} {rule : OutboundRule} {gate : RouteTimeGate}
      {start : PlanNodeId} {entry : Option PlanNodeId} {walked : List Diagnostic}
      (hrule : rule ∈ artifact.outbound.rules) (hgate : gate ∈ rule.timeGate)
      (hstart : gate.closedNodeId = some start)
      (hwalk : followGates p artifact (some start) input.now = some (entry, walked)) :
      EntersAt p artifact (.outbound input) entry
  | outboundNoMatch {input : ResolveOutboundInput} :
      EntersAt p artifact (.outbound input) (some artifact.outbound.noMatchNodeId)
  | denied {input : ResolveOutboundInput} :
      EntersAt p artifact (.outbound input) (some artifact.outbound.deniedNodeId)

section entries

variable {p : Platform} {artifact : RoutingArtifact} {route : ResolvedRoute}

theorem gateOutcome_closed {gate : Option RouteTimeGate} {now : Int} {id : Option PlanNodeId}
    {reported : List Diagnostic}
    (h : gateOutcome p artifact gate now = some (.isClosed id, reported)) :
    ∃ g ∈ gate, g.closedNodeId = id := by
  cases gate with
  | none =>
    simp [gateOutcome] at h
  | some g =>
    obtain ⟨⟨isOpen, diagnostic⟩, -, h⟩ := Option.bind_eq_some_iff.mp h
    refine ⟨g, rfl, ?_⟩
    cases isOpen with
    | true => simp at h
    | false =>
      simp only [Bool.false_eq_true, if_false, Option.pure_def, Option.some.injEq, Prod.mk.injEq,
        GateOutcome.isClosed.injEq] at h
      exact h.1

theorem unblocked_of_none {value : Option JsString} {direction : CallBlockDirection}
    (h : screeningRule p artifact value direction = none) :
    unblocked p artifact value direction = true := by
  rw [unblocked, h]
  rfl

theorem unblocked_of_some {value : Option JsString} {direction : CallBlockDirection}
    {rule : CompiledCallBlockRule} (h : screeningRule p artifact value direction = some rule)
    (hterminal : blockTerminalNodeId rule.action = none) :
    unblocked p artifact value direction = true := by
  rw [unblocked, h, Option.all_some, hterminal]
  rfl

section inbound

variable {input : ResolveInboundInput} {blocked : Option BlockOutcome} {ds : List Diagnostic}

theorem entersAt_finishInbound {rule : InboundRule} {start : PlanNodeId}
    {captures : List JsString} {reason : Option JsString} (hrule : rule ∈ artifact.inbound.rules)
    (hstart : start = rule.destinationNodeId ∨
      ∃ gate ∈ rule.timeGate, gate.closedNodeId = some start)
    (hr : finishInbound p artifact rule start captures input ds blocked reason = some route) :
    EntersAt p artifact (.inbound input) route.plan.entryNodeId := by
  obtain ⟨⟨nodeId, walked⟩, hwalk, hr⟩ := Option.bind_eq_some_iff.mp hr
  cases hr
  exact .inboundRule hrule hstart hwalk

theorem entersAt_inboundDefault (hblock : unblocked p artifact input.callerNumber .inbound = true)
    (hpassed : ∀ rule ∈ artifact.inbound.rules, PassesCall p artifact input rule)
    (hr : inboundDefault p artifact input blocked ds = some route) :
    EntersAt p artifact (.inbound input) route.plan.entryNodeId := by
  rw [inboundDefault] at hr
  simp only at hr
  split at hr
  · next hdid =>
    obtain ⟨⟨nodeId, walked⟩, hwalk, hr⟩ := Option.bind_eq_some_iff.mp hr
    cases hr
    exact .did (.did hblock hpassed hdid) hwalk
  · cases hr
    exact .inboundNoMatch

-- The rules before those that are left were all passed over, which is what
-- the default of the DID is read under.
theorem entersAt_inboundWalk (hblock : unblocked p artifact input.callerNumber .inbound = true)
    {passed rules : List InboundRule} (hsplit : artifact.inbound.rules = passed ++ rules)
    (hpassed : ∀ rule ∈ passed, PassesCall p artifact input rule)
    (hr : inboundWalk p artifact input blocked rules ds = some route) :
    EntersAt p artifact (.inbound input) route.plan.entryNodeId := by
  induction rules generalizing passed ds with
  | nil =>
    rw [List.append_nil] at hsplit
    exact entersAt_inboundDefault hblock (hsplit ▸ hpassed) hr
  | cons rule rest ih =>
    have hrule : rule ∈ artifact.inbound.rules := by simp [hsplit]
    have hsplit' : artifact.inbound.rules = (passed ++ [rule]) ++ rest := by simp [hsplit]
    have hpassed' : PassesCall p artifact input rule →
        ∀ x ∈ passed ++ [rule], PassesCall p artifact input x := by
      intro hp x hx
      obtain hx | hx := List.mem_append.mp hx
      · exact hpassed x hx
      · exact List.mem_singleton.mp hx ▸ hp
    rw [inboundWalk] at hr
    split at hr
    · next hm => exact ih hsplit' (hpassed' (.unmatched hm)) hr
    · next captures hm =>
      obtain ⟨⟨gate, reported⟩, hgate, hr⟩ := Option.bind_eq_some_iff.mp hr
      simp only at hr
      split at hr
      · exact entersAt_finishInbound hrule (.inl rfl) hr
      · exact ih hsplit' (hpassed' (.shut hm hgate)) hr
      · exact entersAt_finishInbound hrule (.inr (gateOutcome_closed hgate)) hr

theorem entersAt_inbound (hr : resolveInbound p artifact input = some route) :
    EntersAt p artifact (.inbound input) route.plan.entryNodeId := by
  rw [resolveInbound] at hr
  split at hr
  · next hscreen =>
    exact entersAt_inboundWalk (unblocked_of_none hscreen) (List.nil_append _).symm (by simp) hr
  · next rule hscreen =>
    simp only at hr
    split at hr
    · next terminal hterminal =>
      cases hr
      exact .blocked hterminal
    · next hterminal =>
      exact entersAt_inboundWalk (unblocked_of_some hscreen hterminal) (List.nil_append _).symm
        (by simp) hr

end inbound

section internal

variable {input : ResolveInternalInput} {ds : List Diagnostic}

theorem voicemailEntry_eq_some {dialed : JsString} {entry : VoicemailPrefixEntry}
    {found : Lookup MailboxEntry} (h : voicemailEntry artifact dialed = some (entry, found)) :
    found = artifact.internal.mailboxes.lookup (dialed.drop entry.digits.length) ∧
      found.isDefined = true := by
  obtain ⟨x, -, hx⟩ := List.exists_of_findSome?_eq_some h
  simp only at hx
  split at hx
  · next hcond =>
    simp only [Option.some.injEq, Prod.mk.injEq] at hx
    obtain ⟨rfl, rfl⟩ := hx
    simp only [Bool.and_eq_true] at hcond
    exact ⟨rfl, hcond.2⟩
  · cases hx

theorem entersAt_parkSlot (dialed : JsString) : EntersAt p artifact (.internal input)
      (parkSlotRoute artifact dialed ds).plan.entryNodeId := by
  simp only [parkSlotRoute]
  split
  · next range hrange =>
    obtain ⟨slot, -, hfind⟩ := Option.bind_eq_some_iff.mp hrange
    exact .parkSlot (List.mem_of_find?_eq_some hfind)
  · exact .internalNoMatch

theorem entersAt_internalWalk
    (hemergency : emergencyLookup artifact.internal.emergency input.dialed = .undefined)
    (hblock : unblocked p artifact (some input.dialed) .both = true)
    (hr : internalWalk p artifact input ds = some route) :
    EntersAt p artifact (.internal input) route.plan.entryNodeId := by
  rw [internalWalk] at hr
  split at hr
  · next feature hfeature =>
    cases hr
    exact .featureCode (matchFeatureCode_mem hfeature)
  · next hfeature =>
    split at hr
    · next entry mailbox hentry =>
      cases hr
      rw [(voicemailEntry_eq_some hentry).1]
      exact .mailbox (.mailbox hemergency hblock hfeature hentry)
    · next hentry =>
      rw [numberRoute] at hr
      simp only at hr
      split at hr
      · next hnumber =>
        obtain ⟨⟨nodeId, walked⟩, hwalk, hr⟩ := Option.bind_eq_some_iff.mp hr
        cases hr
        exact .number (.number hemergency hblock hfeature hentry hnumber) hwalk
      · cases hr
        exact entersAt_parkSlot _

theorem entersAt_internal (hr : resolveInternal p artifact input = some route) :
    EntersAt p artifact (.internal input) route.plan.entryNodeId := by
  rw [resolveInternal] at hr
  simp only at hr
  split at hr
  · next hdefined =>
    cases hr
    exact .emergency (.internalEmergency hdefined)
  · next hdefined =>
    have hemergency := Lookup.eq_undefined hdefined
    split at hr
    · next hscreen => exact entersAt_internalWalk hemergency (unblocked_of_none hscreen) hr
    · next rule hscreen =>
      split at hr
      · next terminal hterminal =>
        cases hr
        exact .blocked hterminal
      · next hterminal =>
        exact entersAt_internalWalk hemergency (unblocked_of_some hscreen hterminal) hr

end internal

section outbound

variable {input : ResolveOutboundInput} {caller : Lookup ExtensionIndexEntry}
variable {tollClass : TollClass}

theorem entersAt_outboundWalk (henabled : artifact.outbound.enabled = true)
    (hclass : effectiveTollClass artifact input = some tollClass) {rules : List OutboundRule}
    (hrules : rules ⊆ artifact.outbound.rules) {denied : Bool} {ds : List Diagnostic}
    (hr : outboundWalk p artifact input caller tollClass rules denied ds = some route) :
    EntersAt p artifact (.outbound input) route.plan.entryNodeId := by
  induction rules generalizing denied ds with
  | nil =>
    rw [outboundWalk, Option.some.injEq] at hr
    subst hr
    rw [outboundEnd]
    split
    · exact .denied
    · exact .outboundNoMatch
  | cons rule rest ih =>
    have hrest : rest ⊆ artifact.outbound.rules := fun x hx => hrules (.tail _ hx)
    have hrule : rule ∈ artifact.outbound.rules := hrules List.mem_cons_self
    rw [outboundWalk] at hr
    split at hr
    · exact ih hrest hr
    · split at hr
      · exact ih hrest hr
      · next hcovers =>
        obtain ⟨⟨gate, reported⟩, hgate, hr⟩ := Option.bind_eq_some_iff.mp hr
        simp only at hr
        split at hr
        · exact ih hrest hr
        · obtain ⟨g, hg, hclosed⟩ := gateOutcome_closed hgate
          obtain ⟨⟨nodeId, walked⟩, hwalk, hr⟩ := Option.bind_eq_some_iff.mp hr
          cases hr
          exact .outboundClosed hrule hg hclosed hwalk
        · split at hr
          · exact ih hrest hr
          · cases hr
            exact .outboundRule henabled hclass hrule (by simpa using hcovers)

theorem entersAt_outbound (hr : resolveOutbound p artifact input = some route) :
    EntersAt p artifact (.outbound input) route.plan.entryNodeId := by
  rw [resolveOutbound] at hr
  simp only at hr
  split at hr
  · next hdefined =>
    cases hr
    exact .emergency (.outboundEmergency hdefined)
  · split at hr
    · cases hr
      exact .denied
    · next henabled =>
      have henabled : artifact.outbound.enabled = true := by simpa using henabled
      split at hr
      · cases hr
        exact .denied
      · next tollClass hclass =>
        split at hr
        · exact entersAt_outboundWalk henabled hclass (.refl _) hr
        · split at hr
          · next terminal hterminal =>
            cases hr
            exact .blocked hterminal
          · exact entersAt_outboundWalk henabled hclass (.refl _) hr

end outbound

theorem entersAt_of_resolve {call : Call} (hr : resolve p artifact call = some route) :
    EntersAt p artifact call route.plan.entryNodeId := by
  cases call with
  | inbound input => exact entersAt_inbound hr
  | internal input => exact entersAt_internal hr
  | outbound input => exact entersAt_outbound hr

end entries

section answers

variable {p : Platform} {artifact : RoutingArtifact}

theorem exists_gateOutcome {gate : Option RouteTimeGate} (now : Int) (h : ∀ g ∈ gate,
      ∃ compiled, artifact.timeConditions.lookup g.timeConditionId = .own compiled) :
    ∃ outcome reported, gateOutcome p artifact gate now = some (outcome, reported) := by
  cases gate with
  | none => exact ⟨_, _, rfl⟩
  | some g =>
    obtain ⟨compiled, hl⟩ := h g rfl
    obtain ⟨reported, ho⟩ := conditionOpen_of_own (p := p) hl now
    rw [gateOutcome, ho]
    exact ⟨_, _, rfl⟩

variable (h : GatesNamed artifact)

include h

theorem exists_inboundWalk {input : ResolveInboundInput}
    {blocked : Option BlockOutcome} {rules : List InboundRule}
    (hrules : rules ⊆ artifact.inbound.rules) (ds : List Diagnostic) :
    ∃ route, inboundWalk p artifact input blocked rules ds = some route := by
  induction rules generalizing ds with
  | nil =>
    rw [inboundWalk, inboundDefault]
    simp only
    split
    · obtain ⟨nodeId, walked, hf⟩ := exists_followGates (p := p) h _ input.now
      rw [hf]
      exact ⟨_, rfl⟩
    · exact ⟨_, rfl⟩
  | cons rule rest ih =>
    have hrest := fun ds => ih (fun x hx => hrules (.tail _ hx)) ds
    have hfinish : ∀ start captures ds reason, ∃ route, finishInbound p artifact rule start
        captures input ds blocked reason = some route := by
      intro start captures ds reason
      obtain ⟨nodeId, walked, hf⟩ := exists_followGates (p := p) h (some start) input.now
      rw [finishInbound, hf]
      exact ⟨_, rfl⟩
    rw [inboundWalk]
    split
    · exact hrest _
    · obtain ⟨outcome, reported, hg⟩ := exists_gateOutcome (p := p) input.now
        (h.inbound rule (hrules List.mem_cons_self))
      simp only [hg, Option.bind_eq_bind, Option.bind_some]
      split
      · exact hfinish _ _ _ _
      · exact hrest _
      · exact hfinish _ _ _ _

theorem exists_internalWalk (input : ResolveInternalInput)
    (ds : List Diagnostic) : ∃ route, internalWalk p artifact input ds = some route := by
  rw [internalWalk]
  split
  · exact ⟨_, rfl⟩
  · split
    · exact ⟨_, rfl⟩
    · rw [numberRoute]
      simp only
      split
      · obtain ⟨nodeId, walked, hf⟩ := exists_followGates (p := p) h _ input.now
        rw [hf]
        exact ⟨_, rfl⟩
      · exact ⟨_, rfl⟩

theorem exists_outboundWalk {input : ResolveOutboundInput}
    {caller : Lookup ExtensionIndexEntry} {tollClass : TollClass} {rules : List OutboundRule}
    (hrules : rules ⊆ artifact.outbound.rules) (denied : Bool) (ds : List Diagnostic) :
    ∃ route, outboundWalk p artifact input caller tollClass rules denied ds = some route := by
  induction rules generalizing denied ds with
  | nil => exact ⟨_, rfl⟩
  | cons rule rest ih =>
    have hrest := fun denied ds => ih (fun x hx => hrules (.tail _ hx)) denied ds
    rw [outboundWalk]
    split
    · exact hrest _ _
    · split
      · exact hrest _ _
      · obtain ⟨outcome, reported, hg⟩ := exists_gateOutcome (p := p) input.now
          (h.outbound rule (hrules List.mem_cons_self))
        simp only [hg, Option.bind_eq_bind, Option.bind_some]
        split
        · exact hrest _ _
        · next closed =>
          obtain ⟨nodeId, walked, hf⟩ := exists_followGates (p := p) h (some closed) input.now
          rw [closedOutbound, hf]
          exact ⟨_, rfl⟩
        · split
          · exact hrest _ _
          · exact ⟨_, rfl⟩

theorem exists_resolve (call : Call) :
    ∃ route, resolve p artifact call = some route := by
  cases call with
  | inbound input =>
    rw [resolve, resolveInbound]
    split
    · exact exists_inboundWalk h (.refl _) _
    · simp only
      split
      · exact ⟨_, rfl⟩
      · exact exists_inboundWalk h (.refl _) _
  | internal input =>
    rw [resolve, resolveInternal]
    simp only
    split
    · exact ⟨_, rfl⟩
    · split
      · exact exists_internalWalk h _ _
      · split
        · exact ⟨_, rfl⟩
        · exact exists_internalWalk h _ _
  | outbound input =>
    rw [resolve, resolveOutbound]
    simp only
    split
    · exact ⟨_, rfl⟩
    · split
      · exact ⟨_, rfl⟩
      · split
        · exact ⟨_, rfl⟩
        · split
          · exact exists_outboundWalk h (.refl _) _ _
          · split
            · exact ⟨_, rfl⟩
            · exact exists_outboundWalk h (.refl _) _ _

end answers

end OptimiqVoice.Routing

import OptimiqVoice.Routing.EmergencyBypass
import OptimiqVoice.Routing.Gates

namespace OptimiqVoice.Routing

open Lib Compile

section rows

variable (p : Platform) (w : OrgRoutingSnapshot) (artifact : RoutingArtifact)

def DialMatches (route : OutboundRouteInput) (dialed : JsString) : Prop :=
  ∃ pattern ∈ dialPatternsOf p route, (matchPattern p pattern dialed).isSome = true

/-- A route is as specific as its most specific pattern. -/
def dialSpecificity (route : OutboundRouteInput) : Nat :=
  (dialPatternsOf p route).foldl (fun best pattern => max best (patternSpecificity pattern)) 0

/-- Routes in the order of their priority, the more specific first among equals,
and then in the order of their ids. -/
def dialRank (route : OutboundRouteInput) : Lex (Int × Lex (Int × JsString)) :=
  toLex (route.priority, toLex (-(dialSpecificity p route : Int), route.id))

def routeDigits (route : OutboundRouteInput) : DigitManipulation :=
  ⟨route.stripDigits, route.prependDigits.toOption⟩

/-- A route that can carry the call of a caller with the given toll class. -/
def CanDial (input : ResolveOutboundInput) (tollClass : TollClass) (route : OutboundRouteInput) :
    Prop :=
  route.enabled = true ∧ DialMatches p route input.dialed ∧
    tollClassCovers tollClass route.tollClass = true ∧
    match routeGate p w artifact route.timeConditionId route.failover input.now with
    | .opened => (applyDigitManipulation (routeDigits route) input.dialed).isSome = true
    | .closed branch => branch = true

/-- A route the call matches, but whose toll class the caller does not hold. -/
def RefusesDial (input : ResolveOutboundInput) (tollClass : TollClass)
    (route : OutboundRouteInput) : Prop :=
  route.enabled = true ∧ DialMatches p route input.dialed ∧
    tollClassCovers tollClass route.tollClass = false

/-- The call takes the route: its trunks with the number it makes of the digits,
or the closed branch of its time condition. -/
structure CarriedBy (input : ResolveOutboundInput) (route : OutboundRouteInput)
    (result : ResolvedRoute) : Prop where
  matched : result.matched = true
  ruleId : result.matchedRuleId = some route.id
  ruleName : result.matchedRuleName = some route.name
  entry : match routeGate p w artifact route.timeConditionId route.failover input.now with
    | .opened => result.plan.entryNodeId = some (trunkDialId route.id) ∧
        result.dialedNumber = applyDigitManipulation (routeDigits route) input.dialed
    | .closed _ => ∃ rule ∈ artifact.outbound.rules, rule.id = route.id ∧
        ∃ gate ∈ rule.timeGate, ∃ node walked, gate.closedNodeId = some node ∧
          followGates p artifact (some node) input.now = some (result.plan.entryNodeId, walked)

/-- What becomes of an outbound call, read off the rows. -/
inductive DialsLeast (input : ResolveOutboundInput) (tollClass : TollClass) :
    Option ResolvedRoute → Prop where
  | carried {route : OutboundRouteInput} {result : ResolvedRoute}
      (hmem : route ∈ w.outboundRoutes) (hdial : CanDial p w artifact input tollClass route)
      (hleast : ∀ other ∈ w.outboundRoutes, CanDial p w artifact input tollClass other →
        dialRank p route ≤ dialRank p other)
      (hcarried : CarriedBy p w artifact input route result) :
      DialsLeast input tollClass (some result)
  | denied {result : ResolvedRoute}
      (hnone : ∀ route ∈ w.outboundRoutes, ¬CanDial p w artifact input tollClass route)
      (hrefused : ∃ route ∈ w.outboundRoutes, RefusesDial p input tollClass route)
      (hmatched : result.matched = false)
      (hentry : result.plan.entryNodeId = some artifact.outbound.deniedNodeId) :
      DialsLeast input tollClass (some result)
  | unmatched {result : ResolvedRoute}
      (hnone : ∀ route ∈ w.outboundRoutes, ¬CanDial p w artifact input tollClass route)
      (hrefused : ∀ route ∈ w.outboundRoutes, ¬RefusesDial p input tollClass route)
      (hmatched : result.matched = false)
      (hentry : result.plan.entryNodeId = some artifact.outbound.noMatchNodeId) :
      DialsLeast input tollClass (some result)

end rows

section walk

variable {p : Platform} {artifact : RoutingArtifact} {input : ResolveOutboundInput}
variable {tollClass : TollClass} {rule : OutboundRule} (caller : Lookup ExtensionIndexEntry)

/-- The reasons for which the walk passes over a rule. -/
inductive PassesOver (p : Platform) (artifact : RoutingArtifact) (input : ResolveOutboundInput)
    (tollClass : TollClass) (rule : OutboundRule) : Prop where
  | unmatched (hm : matchOutboundRule p rule input.dialed = none)
  | refused {captures : List JsString} (hm : matchOutboundRule p rule input.dialed = some captures)
      (hc : tollClassCovers tollClass rule.tollClass = false)
  | shut {captures : List JsString} {reported : List Diagnostic}
      (hm : matchOutboundRule p rule input.dialed = some captures)
      (hc : tollClassCovers tollClass rule.tollClass = true)
      (hg : gateOutcome p artifact rule.timeGate input.now = some (.isClosed none, reported))
  | underflow {captures : List JsString} {reported : List Diagnostic}
      (hm : matchOutboundRule p rule input.dialed = some captures)
      (hc : tollClassCovers tollClass rule.tollClass = true)
      (hg : gateOutcome p artifact rule.timeGate input.now = some (.isOpen, reported))
      (hd : applyDigitManipulation ⟨rule.stripDigits, rule.prependDigits⟩ input.dialed = none)

def refusesRule (p : Platform) (dialed : JsString) (tollClass : TollClass) (rule : OutboundRule) :
    Bool :=
  (matchOutboundRule p rule dialed).isSome && !tollClassCovers tollClass rule.tollClass

theorem PassesOver.walk (h : PassesOver p artifact input tollClass rule)
    (rest : List OutboundRule) (denied : Bool) (ds : List Diagnostic) :
    ∃ ds', outboundWalk p artifact input caller tollClass (rule :: rest) denied ds =
      outboundWalk p artifact input caller tollClass rest
        (denied || refusesRule p input.dialed tollClass rule) ds' := by
  cases h with
  | unmatched hm =>
    refine ⟨ds, ?_⟩
    simp [outboundWalk, hm, refusesRule]
  | refused hm hc =>
    simp only [outboundWalk, hm, hc, refusesRule, Option.isSome_some, Bool.not_false, Bool.and_true,
      Bool.or_true, if_true]
    exact ⟨_, rfl⟩
  | shut hm hc hg =>
    simp only [outboundWalk, hm, hc, hg, refusesRule, Option.isSome_some, Bool.not_true,
      Bool.and_false, Bool.or_false, Bool.false_eq_true, if_false]
    exact ⟨_, rfl⟩
  | underflow hm hc hg hd =>
    simp only [outboundWalk, hm, hc, hg, hd, refusesRule, Option.isSome_some, Bool.not_true,
      Bool.and_false, Bool.or_false, Bool.false_eq_true, if_false]
    exact ⟨_, rfl⟩

theorem walk_passed {passed : List OutboundRule}
    (h : ∀ rule ∈ passed, PassesOver p artifact input tollClass rule) (rest : List OutboundRule)
    (denied : Bool) (ds : List Diagnostic) :
    ∃ ds', outboundWalk p artifact input caller tollClass (passed ++ rest) denied ds =
      outboundWalk p artifact input caller tollClass rest
        (denied || passed.any (refusesRule p input.dialed tollClass)) ds' := by
  induction passed generalizing denied ds with
  | nil => exact ⟨ds, by simp⟩
  | cons rule passed ih =>
    obtain ⟨ds₁, h₁⟩ := (h rule (by simp)).walk caller (passed ++ rest) denied ds
    obtain ⟨ds₂, h₂⟩ := ih (fun x hx => h x (by simp [hx]))
      (denied || refusesRule p input.dialed tollClass rule) ds₁
    refine ⟨ds₂, ?_⟩
    rw [List.cons_append, h₁, h₂, List.any_cons, Bool.or_assoc]

end walk

section selection

variable {p : Platform} {w : OrgRoutingSnapshot} {compiledAt : JsString}
variable {artifact : RoutingArtifact} {tables : Tables} {s : CompilerState}
variable {input : ResolveOutboundInput} {tollClass : TollClass}
variable {route : OutboundRouteInput} {rule : OutboundRule}

section

variable (hd : DialsFor p w route rule)

include hd

theorem matchOutboundRule_isSome (dialed : JsString) :
    (matchOutboundRule p rule dialed).isSome = true ↔ DialMatches p route dialed := by
  rw [matchOutboundRule, List.findSome?_isSome_iff, hd.patterns]
  rfl

theorem outboundOrder_eq : outboundOrder rule = dialRank p route := by
  rw [outboundOrder, dialRank, outboundSpecificity, dialSpecificity, hd.priority, hd.patterns, hd.id]

theorem digits_eq :
    (⟨rule.stripDigits, rule.prependDigits⟩ : DigitManipulation) = routeDigits route := by
  rw [routeDigits, hd.stripDigits, hd.prependDigits]

end

theorem passesOver_iff (h : Produces p w compiledAt artifact tables s)
    (hd : DialsFor p w route rule) (hen : route.enabled = true) :
    PassesOver p artifact input tollClass rule ↔ ¬CanDial p w artifact input tollClass route := by
  have hgate := gateOf_answers h hd.gate input.now
  have hmatches := matchOutboundRule_isSome hd input.dialed
  unfold CanDial
  constructor
  · intro hpass hcan
    obtain ⟨-, hmatch, hcovers, hstate⟩ := hcan
    rw [← hmatches] at hmatch
    rw [← hd.tollClass] at hcovers
    rw [← digits_eq hd] at hstate
    cases hpass with
    | unmatched hm =>
      rw [hm] at hmatch
      cases hmatch
    | refused hm hc =>
      rw [hc] at hcovers
      cases hcovers
    | shut hm hc hg =>
      cases hs : routeGate p w artifact route.timeConditionId route.failover input.now with
      | opened =>
        rw [hs, Answers, hg] at hgate
        obtain ⟨_, hgate⟩ := hgate
        cases hgate
      | closed branch =>
        simp only [hs] at hstate
        subst hstate
        rw [hs, Answers, hg] at hgate
        obtain ⟨_, -, _, _, -, hgate⟩ := hgate
        cases hgate
    | underflow hm hc hg hdigits =>
      cases hs : routeGate p w artifact route.timeConditionId route.failover input.now with
      | opened =>
        simp only [hs, hdigits] at hstate
        cases hstate
      | closed branch =>
        simp only [hs] at hstate
        subst hstate
        rw [hs, Answers, hg] at hgate
        obtain ⟨_, -, _, _, -, hgate⟩ := hgate
        cases hgate
  · intro hno
    cases hm : matchOutboundRule p rule input.dialed with
    | none => exact .unmatched hm
    | some captures =>
      cases hc : tollClassCovers tollClass rule.tollClass with
      | false => exact .refused hm hc
      | true =>
        have hmatch : DialMatches p route input.dialed := hmatches.mp (by rw [hm]; rfl)
        rw [hd.tollClass] at hc
        cases hs : routeGate p w artifact route.timeConditionId route.failover input.now with
        | opened =>
          rw [hs] at hgate hno
          obtain ⟨reported, hg⟩ := hgate
          cases hdigits : applyDigitManipulation (routeDigits route) input.dialed with
          | none =>
            rw [← digits_eq hd] at hdigits
            exact .underflow hm (hd.tollClass ▸ hc) hg hdigits
          | some number => exact absurd ⟨hen, hmatch, hc, by simp [hdigits]⟩ hno
        | closed branch =>
          cases branch with
          | true => exact absurd ⟨hen, hmatch, hc, by simp [hs]⟩ hno
          | false =>
            rw [hs] at hgate
            obtain ⟨reported, hg⟩ := hgate
            exact .shut hm (hd.tollClass ▸ hc) hg

theorem walk_carried (h : Produces p w compiledAt artifact tables s)
    (hd : DialsFor p w route rule) (hrule : rule ∈ artifact.outbound.rules)
    (hcan : CanDial p w artifact input tollClass route) (caller : Lookup ExtensionIndexEntry)
    (rest : List OutboundRule) (denied : Bool) (ds : List Diagnostic) :
    ∃ result, outboundWalk p artifact input caller tollClass (rule :: rest) denied ds =
        some result ∧ CarriedBy p w artifact input route result := by
  obtain ⟨-, hmatch, hcovers, hstate⟩ := hcan
  have hgate := gateOf_answers h hd.gate input.now
  rw [← matchOutboundRule_isSome hd, Option.isSome_iff_exists] at hmatch
  obtain ⟨captures, hm⟩ := hmatch
  rw [← hd.tollClass] at hcovers
  cases hs : routeGate p w artifact route.timeConditionId route.failover input.now with
  | opened =>
    simp only [hs, Option.isSome_iff_exists] at hstate
    obtain ⟨number, hnumber⟩ := hstate
    rw [hs] at hgate
    obtain ⟨reported, hg⟩ := hgate
    refine ⟨takenOutbound artifact caller rule captures number (ds ++ reported), ?_, rfl, ?_, ?_, ?_⟩
    · rw [← digits_eq hd] at hnumber
      simp [outboundWalk, hm, hcovers, hg, hnumber]
    · exact congrArg some hd.id
    · exact congrArg some hd.name
    · rw [hs]
      exact ⟨congrArg some hd.destination, hnumber.symm⟩
  | closed branch =>
    simp only [hs] at hstate
    subst hstate
    rw [hs] at hgate
    obtain ⟨gate, hmem, node, reported, hnode, hg⟩ := hgate
    obtain ⟨nodeId, walked, hwalk⟩ := exists_followGates (p := p) (Produces.gatesNamed h) (some node) input.now
    have hclosed : ∃ result, closedOutbound p artifact rule node input.now (ds ++ reported) =
        some result ∧ result.matched = true ∧ result.matchedRuleId = some rule.id ∧
          result.matchedRuleName = some rule.name ∧ result.plan.entryNodeId = nodeId := by
      rw [closedOutbound, hwalk]
      exact ⟨_, rfl, rfl, rfl, rfl, rfl⟩
    obtain ⟨result, hresult, hmatched, hid, hname, hentry⟩ := hclosed
    refine ⟨result, ?_, hmatched, hd.id ▸ hid, hd.name ▸ hname, ?_⟩
    · simp [outboundWalk, hm, hcovers, hg, hresult]
    · rw [hs]
      exact ⟨rule, hrule, hd.id, gate, hmem, node, walked, hnode, hentry ▸ hwalk⟩

theorem any_refusesRule (hmirror : Prog.Mirrored (DialsFor p w) (fun route => route.enabled)
      w.outboundRoutes artifact.outbound.rules) :
    artifact.outbound.rules.any (refusesRule p input.dialed tollClass) = true ↔
      ∃ route ∈ w.outboundRoutes, RefusesDial p input tollClass route := by
  simp only [List.any_eq_true, refusesRule, Bool.and_eq_true, Bool.not_eq_true']
  constructor
  · intro hany
    obtain ⟨rule, hrule, hmatch, hcovers⟩ := hany
    obtain ⟨route, hroute, hen, hd⟩ := hmirror.origin rule hrule
    exact ⟨route, hroute, hen, (matchOutboundRule_isSome hd _).mp hmatch, hd.tollClass ▸ hcovers⟩
  · intro hex
    obtain ⟨route, hroute, hen, hmatch, hcovers⟩ := hex
    obtain ⟨rule, hrule, hd⟩ := hmirror.image route hroute hen
    exact ⟨rule, hrule, (matchOutboundRule_isSome hd _).mpr hmatch, hd.tollClass ▸ hcovers⟩

theorem outboundEnd_dialsLeast (denied : Bool) (ds : List Diagnostic)
    (hnone : ∀ route ∈ w.outboundRoutes, ¬CanDial p w artifact input tollClass route)
    (hdenied : denied = true ↔ ∃ route ∈ w.outboundRoutes, RefusesDial p input tollClass route) :
    DialsLeast p w artifact input tollClass
      (some (outboundEnd artifact input tollClass denied ds)) := by
  cases denied with
  | true => exact .denied hnone (hdenied.mp rfl) rfl rfl
  | false =>
    refine .unmatched hnone (fun route hroute hrefuses => ?_) rfl rfl
    exact absurd (hdenied.mpr ⟨route, hroute, hrefuses⟩) Bool.false_ne_true

theorem outboundWalk_dialsLeast (h : Produces p w compiledAt artifact tables s)
    (caller : Lookup ExtensionIndexEntry) (ds : List Diagnostic) :
    DialsLeast p w artifact input tollClass
      (outboundWalk p artifact input caller tollClass artifact.outbound.rules false ds) := by
  have htable : artifact.outbound = tables.outbound := by
    rw [h.artifact_eq]
    rfl
  have hmirror := h.compiled.mirror.outbound.rules.resolve_left h.errorFree
  have hordered := h.compiled.mirror.outbound.ordered
  rw [← htable] at hmirror hordered
  obtain hall | ⟨passed, rule, rest, hsplit, hpassed, hrule, hleast⟩ :=
    first_of_pairwise (PassesOver p artifact input tollClass) hordered
  · obtain ⟨ds', hwalk⟩ := walk_passed caller hall [] false ds
    rw [List.append_nil] at hwalk
    rw [hwalk]
    refine outboundEnd_dialsLeast _ ds' (fun route hroute hcan => ?_) ?_
    · obtain ⟨rule, hrule, hd⟩ := hmirror.image route hroute hcan.1
      exact (passesOver_iff h hd hcan.1).mp (hall rule hrule) hcan
    · rw [Bool.false_or]
      exact any_refusesRule hmirror
  · have hmem : rule ∈ artifact.outbound.rules := by
      rw [hsplit]
      simp
    obtain ⟨route, hroute, hen, hd⟩ := hmirror.origin rule hmem
    have hcan : CanDial p w artifact input tollClass route :=
      Classical.not_not.mp (fun hno => hrule ((passesOver_iff h hd hen).mpr hno))
    obtain ⟨ds', hwalk⟩ := walk_passed caller hpassed (rule :: rest) false ds
    obtain ⟨result, hresult, hcarried⟩ := walk_carried h hd hmem hcan caller rest
      (false || passed.any (refusesRule p input.dialed tollClass)) ds'
    rw [hsplit, hwalk, hresult]
    refine .carried hroute hcan (fun other hother hother' => ?_) hcarried
    obtain ⟨rule', hrule', hd'⟩ := hmirror.image other hother hother'.1
    rw [← outboundOrder_eq hd, ← outboundOrder_eq hd']
    exact hleast rule' hrule' (fun hpass => (passesOver_iff h hd' hother'.1).mp hpass hother')

theorem resolveOutbound_eq_walk
    (hemergency : emergencyLookup artifact.outbound.emergency input.dialed = .undefined)
    (henabled : artifact.outbound.enabled = true)
    (hclass : effectiveTollClass artifact input = some tollClass)
    (hblock : unblocked p artifact (some input.dialed) .outbound = true) :
    ∃ ds, resolveOutbound p artifact input = outboundWalk p artifact input
      (artifact.extensionsByNumber.lookup input.from') tollClass artifact.outbound.rules false ds := by
  simp only [resolveOutbound, hemergency, Lookup.isDefined_undefined, Bool.false_eq_true, if_false,
    henabled, Bool.not_true, hclass]
  cases hscreen : screeningRule p artifact (some input.dialed) .outbound with
  | none => exact ⟨[], rfl⟩
  | some rule =>
    rw [unblocked, hscreen, Option.all_some, Option.isNone_iff_eq_none] at hblock
    simp only [hblock]
    exact ⟨_, rfl⟩

theorem not_dialsLeast_of_inherited
    (hemergency : emergencyLookup artifact.outbound.emergency input.dialed = .inherited) :
    ¬DialsLeast p w artifact input tollClass (resolveOutbound p artifact input) := by
  simp only [resolveOutbound, hemergency, Lookup.isDefined_inherited, if_true]
  intro hleast
  cases hleast with
  | carried hmem hdial hleast hcarried => cases hcarried.ruleName
  | denied hnone hrefused hmatched hentry => cases hmatched
  | unmatched hnone hrefused hmatched hentry => cases hmatched

end selection

/-- In every artifact compiled without errors, a call that is no emergency call,
that the caller may place and that is not blocked takes the least of the routes
that can carry it, unless what was dialled is the name of a member of every
object. -/
theorem dialsLeast_iff (p : Platform) (w : OrgRoutingSnapshot) (compiledAt : JsString)
    (artifact : RoutingArtifact) (diagnostics : List Diagnostic)
    (hrun : run p w compiledAt = some (.ok artifact diagnostics)) (input : ResolveOutboundInput)
    (tollClass : TollClass)
    (hemergency : ∀ rule, emergencyLookup artifact.outbound.emergency input.dialed ≠ .own rule)
    (henabled : artifact.outbound.enabled = true)
    (hclass : effectiveTollClass artifact input = some tollClass)
    (hblock : unblocked p artifact (some input.dialed) .outbound = true) :
    DialsLeast p w artifact input tollClass (resolveOutbound p artifact input) ↔
      input.dialed ∉ Record.inheritedNames := by
  obtain ⟨tables, s, h⟩ := run_ok hrun
  have hlookup := emergencyLookup_of_no_entry h.outboundEmergency hemergency
  by_cases hin : input.dialed ∈ Record.inheritedNames
  · rw [if_pos hin] at hlookup
    exact iff_of_false (not_dialsLeast_of_inherited hlookup) (fun hno => hno hin)
  · rw [if_neg hin] at hlookup
    obtain ⟨ds, hwalk⟩ := resolveOutbound_eq_walk hlookup henabled hclass hblock
    rw [hwalk]
    exact iff_of_true (outboundWalk_dialsLeast h _ ds) hin

/-- What a call has to bring along to be sent to the walk. -/
def reachesWalk (p : Platform) (input : ResolveOutboundInput) (tollClass : TollClass)
    (found : Lookup EmergencyRule) (artifact : RoutingArtifact) : Bool :=
  emergencyLookup artifact.outbound.emergency input.dialed = found && artifact.outbound.enabled &&
    effectiveTollClass artifact input = some tollClass &&
    unblocked p artifact (some input.dialed) .outbound

theorem dialsLeast_sampleOrg : ∃ artifact diagnostics,
      run samplePlatform sampleOrg (lit "now") = some (.ok artifact diagnostics) ∧
      DialsLeast samplePlatform sampleOrg artifact ⟨lit "102", lit "2025550123", 0, none⟩ .national
        (resolveOutbound samplePlatform artifact ⟨lit "102", lit "2025550123", 0, none⟩) := by
  obtain ⟨artifact, diagnostics, hrun, hcheck⟩ := exists_of_okWith
    (reachesWalk samplePlatform ⟨lit "102", lit "2025550123", 0, none⟩ .national .undefined)
    (run samplePlatform sampleOrg (lit "now")) (by decide)
  simp only [reachesWalk, Bool.and_eq_true, decide_eq_true_eq] at hcheck
  obtain ⟨⟨⟨hlookup, henabled⟩, hclass⟩, hblock⟩ := hcheck
  refine ⟨artifact, diagnostics, hrun, (dialsLeast_iff _ _ _ _ _ hrun _ _ ?_ henabled hclass
    hblock).mpr (by decide)⟩
  intro rule hrule
  rw [hlookup] at hrule
  cases hrule

/-- Dialling the name of a member of every object is taken for an emergency call
to nowhere. -/
theorem constructor_not_dialsLeast : ∃ artifact diagnostics,
      run samplePlatform sampleOrg (lit "now") = some (.ok artifact diagnostics) ∧
      (∀ rule, emergencyLookup artifact.outbound.emergency (lit "constructor") ≠ .own rule) ∧
      artifact.outbound.enabled = true ∧
      effectiveTollClass artifact ⟨lit "102", lit "constructor", 0, none⟩ = some .national ∧
      unblocked samplePlatform artifact (some (lit "constructor")) .outbound = true ∧
      ¬DialsLeast samplePlatform sampleOrg artifact ⟨lit "102", lit "constructor", 0, none⟩ .national
        (resolveOutbound samplePlatform artifact ⟨lit "102", lit "constructor", 0, none⟩) := by
  obtain ⟨artifact, diagnostics, hrun, hcheck⟩ := exists_of_okWith
    (reachesWalk samplePlatform ⟨lit "102", lit "constructor", 0, none⟩ .national .inherited)
    (run samplePlatform sampleOrg (lit "now")) (by decide +kernel)
  simp only [reachesWalk, Bool.and_eq_true, decide_eq_true_eq] at hcheck
  obtain ⟨⟨⟨hlookup, henabled⟩, hclass⟩, hblock⟩ := hcheck
  refine ⟨artifact, diagnostics, hrun, fun rule hrule => ?_, henabled, hclass, hblock,
    not_dialsLeast_of_inherited hlookup⟩
  rw [hlookup] at hrule
  cases hrule

end OptimiqVoice.Routing
